import CommandConsole.Proofs.Action.Avoidance

/-!
# What an action tells the log

The log is only ever added to, and nobody who acts through the sink interface can look at it.  An
action tells allowed events only if that is all it adds, on any sink and in any world
(`Action.TellsOnly`).  One action after the other tells what both tell.

A command may call other commands, so what it tells by itself is told apart from what they tell: all
that it tells is allowed, as long as that is so of the commands it sees (`Command.TellsOnly`).  Calls
end at some depth, and by induction on the number of calls left a registry of such commands tells
allowed events only, whatever calls what (`Registry.tellsOnly_action`).
-/
namespace CommandConsole

@[simp] theorem World.log_write (world : World) (path text : String) :
    (world.write path text).2.log = world.log := by
  rw [write]
  split <;> rfl

@[simp] theorem World.log_now (world : World) : world.now.2.log = world.log := rfl

namespace Action

variable {α β : Type} {allowed : Event → Prop}

/-- All that the action adds to the log is allowed, on any sink and in any world. -/
def TellsOnly (allowed : Event → Prop) (a : Action α) : Prop :=
  ∀ (σ : Type) [Sink σ] (sink : σ) (world : World),
    ∃ told, (a.run sink world).2.2.log = world.log ++ told ∧ ∀ event ∈ told, allowed event

/-- The log changes by logging only. -/
theorem log_run_of_avoids {σ : Type} [Sink σ] {a : Action α} (h : a.Avoids .log) (sink : σ)
    (world : World) : (a.run sink world).2.2.log = world.log := by
  induction h generalizing sink world with
  | done result => rfl
  | print _ _ ih | printStyled _ _ ih | clear _ _ ih => exact ih _ _
  | content _ _ ih => exact ih _ _ _
  | write _ _ ih => exact (ih _ _ _).trans (World.log_write ..)
  | now _ _ ih => exact (ih _ _ _).trans (World.log_now _)
  | log hrequest => exact absurd rfl hrequest

namespace TellsOnly

theorem of_avoids {a : Action α} (h : a.Avoids .log) : a.TellsOnly allowed := by
  intro σ _ sink world
  refine ⟨[], ?_, fun event hevent => absurd hevent List.not_mem_nil⟩
  rw [log_run_of_avoids h, List.append_nil]

theorem log {event : Event} {next : Action α} (hevent : allowed event)
    (h : next.TellsOnly allowed) : (Action.log event next).TellsOnly allowed := by
  intro σ _ sink world
  obtain ⟨told, hlog, htold⟩ := h σ sink (world.record event)
  refine ⟨event :: told, ?_, List.forall_mem_cons.mpr ⟨hevent, htold⟩⟩
  rw [run, hlog, World.log_record, List.append_assoc, List.singleton_append]

theorem content {next : String → Action α} (h : ∀ shown, (next shown).TellsOnly allowed) :
    (Action.content next).TellsOnly allowed :=
  fun σ _ sink world => h (Sink.content sink) σ sink world

theorem write {path text : String} {next : Except FileError Unit → Action α}
    (h : ∀ answer, (next answer).TellsOnly allowed) :
    (Action.write path text next).TellsOnly allowed := by
  intro σ _ sink world
  obtain ⟨told, hlog, htold⟩ := h (world.write path text).1 σ sink (world.write path text).2
  exact ⟨told, hlog.trans (by rw [World.log_write]), htold⟩

theorem bind {a : Action α} {f : α → Action β} (ha : a.TellsOnly allowed)
    (hf : ∀ result, (f result).TellsOnly allowed) : (a.bind f).TellsOnly allowed := by
  intro σ _ sink world
  obtain ⟨first, hfirst, hfirstAllowed⟩ := ha σ sink world
  obtain ⟨second, hsecond, hsecondAllowed⟩ :=
    hf (a.run sink world).1 σ (a.run sink world).2.1 (a.run sink world).2.2
  refine ⟨first ++ second, ?_, List.forall_mem_append.mpr ⟨hfirstAllowed, hsecondAllowed⟩⟩
  rw [run_bind, hsecond, hfirst, List.append_assoc]

end TellsOnly
end Action

/-- All that the command tells by itself is allowed: it tells allowed events only, as long as the
commands that it may call do. -/
def Command.TellsOnly (allowed : Event → Prop) (command : Command) : Prop :=
  ∀ entries : List Entry,
    (∀ entry ∈ entries, ∀ parameters, (entry.execute parameters).TellsOnly allowed) →
    ∀ parameters, (command.action entries parameters).TellsOnly allowed

namespace Registry

variable {allowed : Event → Prop}

/-- Commands that tell allowed events by themselves tell no others by calling each other. -/
theorem tellsOnly_entriesWithin {commands : List Command}
    (h : ∀ command ∈ commands, command.TellsOnly allowed) (left : Nat) :
    ∀ entry ∈ entriesWithin commands left, ∀ parameters,
      (entry.execute parameters).TellsOnly allowed := by
  induction left with
  | zero =>
    intro entry hentry parameters
    obtain ⟨command, -, rfl⟩ := List.mem_map.mp hentry
    exact .of_avoids (.done _)
  | succ left ih =>
    intro entry hentry parameters
    obtain ⟨command, hcommand, rfl⟩ := List.mem_map.mp hentry
    exact h command hcommand _ ih parameters

theorem tellsOnly_action {r : Registry} (h : ∀ command ∈ r.commands, command.TellsOnly allowed)
    {command : Command} (hcommand : command ∈ r.commands) (parameters : List String) :
    (command.action r.entries parameters).TellsOnly allowed :=
  h command hcommand r.entries (tellsOnly_entriesWithin h r.deepestCall) parameters

end Registry
end CommandConsole
