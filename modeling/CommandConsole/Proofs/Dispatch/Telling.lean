import CommandConsole.Proofs.Action.Telling
import CommandConsole.Proofs.Builtin.Dump
import CommandConsole.Proofs.Program.Batch
import Mathlib.Data.List.Forall2

/-!
# What the log tells of lines

A line that is not carried out leaves three traces: what the console says has become of it, the report
that it prints, and an event in the log.  Each is made in a place of its own, and the three agree:
`Handling.ToldBy` says what the event has to be, given the line, what has become of it and what was
printed.  Lines that are carried out, and blank ones, leave no such event.

Commands may log what they like while they run, as long as they leave it to the console to tell of
lines (`Registry.Discreet`; for commands that call others it is enough to know what each tells by
itself).  Then the events that tell of lines are in order one for each line that was not carried out
(`Console.tells_handleAll`).
-/
namespace CommandConsole

/-- The event tells that a line named no command, or that its command failed. -/
def Event.TellsDispatch (event : Event) : Prop :=
  event.message = "unknown console command" ∨ event.message = "console command failed"

instance (event : Event) : Decidable event.TellsDispatch := inferInstanceAs (Decidable (_ ∨ _))

/-- No command tells, while it runs, that a line named no command or that a command failed. -/
def Registry.Discreet (r : Registry) : Prop :=
  ∀ command ∈ r.commands, ∀ parameters,
    (command.action r.entries parameters).TellsOnly fun event => ¬ event.TellsDispatch

/-- It is enough that no command tells so by itself. -/
theorem Registry.discreet_of_tellsOnly {r : Registry}
    (h : ∀ command ∈ r.commands, command.TellsOnly fun event => ¬ event.TellsDispatch) :
    r.Discreet :=
  fun _ hcommand parameters => tellsOnly_action h hcommand parameters

/-- The built-in commands tell of files only. -/
theorem Builtin.discreet_of_mem_all {directory : String} {command : Command}
    (h : command ∈ all directory) : command.TellsOnly fun event => ¬ event.TellsDispatch := by
  intro entries _ parameters
  simp only [all, List.mem_cons, List.not_mem_nil, or_false] at h
  rcases h with rfl | rfl | rfl | rfl
  · exact .of_avoids (avoids_echo _ _ (by decide))
  · exact .of_avoids (avoids_help _ _ (by decide))
  · exact .of_avoids (avoids_clear _ _ (by decide))
  · have hfile : (dumpFile parameters).Avoids .log := avoids_dumpFile parameters (by decide)
    rw [action_dump]
    refine (Action.TellsOnly.of_avoids hfile).bind fun file => .content fun text =>
      .write fun answer => ?_
    cases answer with
    | ok written =>
      exact .log (by simp [Event.TellsDispatch, Event.message])
        (.of_avoids (.print (by decide) (.done _)))
    | error cause =>
      exact .log (by simp [Event.TellsDispatch, Event.message])
        (.of_avoids (.printStyled (by decide) (.done _)))

/-! ## Lines that were handled -/

/-- A line that was handled. -/
structure Handling where
  raw : String
  /-- What became of it. -/
  dispatch : Dispatch
  /-- The calls that the sink got on the way. -/
  calls : List SinkCall

namespace Handling

/-- The line was not carried out. -/
def isFailure (handling : Handling) : Bool := handling.dispatch.isFailure

/-- The first token of the line, as it was typed. -/
def token (handling : Handling) : String := (Line.parse handling.raw).command

/-- The event says of the line what has become of it, and gives the reason that was printed. -/
inductive ToldBy (handling : Handling) (event : Event) : Prop
  | notFound : handling.dispatch = .notFound →
      handling.calls =
        [.printStyled ("Command \"" ++ handling.token ++ "\" does not exist.") .error] →
      event.message = "unknown console command" →
      event.fields = [("command", handling.token)] → ToldBy handling event
  | failed (reason : String) : handling.dispatch = .failed →
      handling.calls.getLast? =
        some (.printStyled ("Command \"" ++ handling.token ++ "\" failed: " ++ reason) .error) →
      event.message = "console command failed" →
      event.fields = [("command", handling.token), ("reason", reason)] → ToldBy handling event

end Handling

/-- What was told between two times agrees with the lines that were handled: in order, the events
that tell of a line and the lines that were not carried out belong together, each to each. -/
structure World.Tells (before after : World) (handlings : List Handling) (told : List Event) :
    Prop where
  log_eq : after.log = before.log ++ told
  eachToEach : List.Forall₂ Handling.ToldBy (handlings.filter (·.isFailure))
    (told.filter (·.TellsDispatch))

namespace World.Tells

variable {first second third : World} {handlings later : List Handling} {told more : List Event}

theorem append (h : Tells first second handlings told) (hlater : Tells second third later more) :
    Tells first third (handlings ++ later) (told ++ more) where
  log_eq := by rw [hlater.log_eq, h.log_eq, List.append_assoc]
  eachToEach := by
    rw [List.filter_append, List.filter_append]
    exact List.rel_append h.eachToEach hlater.eachToEach

theorem filter_eq_nil_of_quiet (h : ∀ event ∈ told, ¬ event.TellsDispatch) :
    told.filter (·.TellsDispatch) = [] :=
  List.filter_eq_nil_iff.mpr fun event hevent => by simpa using h event hevent

/-- Nothing needs to be told of lines that were carried out. -/
theorem of_quiet (hlog : second.log = first.log ++ told)
    (htold : ∀ event ∈ told, ¬ event.TellsDispatch)
    (hlines : ∀ handling ∈ handlings, handling.isFailure = false) :
    Tells first second handlings told where
  log_eq := hlog
  eachToEach := by
    have hnone : handlings.filter (·.isFailure) = [] :=
      List.filter_eq_nil_iff.mpr fun handling hhandling => by simp [hlines handling hhandling]
    rw [filter_eq_nil_of_quiet htold, hnone]
    exact .nil

/-- A line that was not carried out is told by one event, whatever else was told before that. -/
theorem of_failure {handling : Handling} {event : Event} (told : List Event)
    (hlog : second.log = first.log ++ (told ++ [event]))
    (htold : ∀ event ∈ told, ¬ event.TellsDispatch) (hevent : event.TellsDispatch)
    (hfailure : handling.isFailure = true) (h : handling.ToldBy event) :
    Tells first second [handling] (told ++ [event]) where
  log_eq := hlog
  eachToEach := by
    have hone : [event].filter (·.TellsDispatch) = [event] :=
      List.filter_eq_self.mpr (List.forall_mem_singleton.mpr (decide_eq_true hevent))
    rw [List.filter_append, filter_eq_nil_of_quiet htold, List.nil_append, hone,
      List.filter_cons_of_pos hfailure]
    exact .cons h .nil

/-- There are as many such events as lines that were not carried out. -/
theorem length_eq (h : Tells first second handlings told) :
    (told.filter (·.TellsDispatch)).length = handlings.countP (·.isFailure) := by
  rw [← h.eachToEach.length_eq, List.countP_eq_length_filter]

end World.Tells

/-! ## Handling lines -/

namespace Console

variable {σ η : Type} [Sink σ] {c : Console σ η}

/-- What handling a line comes to. -/
def handling (c : Console σ η) (raw : String) : Handling where
  raw := raw
  dispatch := (c.handleInput raw).1
  calls := c.inputCalls raw

theorem dispatch_handling (c : Console σ η) (raw : String) :
    (c.handling raw).dispatch = (c.handleInput raw).1 := by simp only [handling]

theorem calls_handling (c : Console σ η) (raw : String) :
    (c.handling raw).calls = c.inputCalls raw := by simp only [handling]

theorem token_handling (c : Console σ η) (raw : String) :
    (c.handling raw).token = (Line.parse raw).command := by simp only [handling, Handling.token]

/-- What handling lines one after the other comes to for each of them. -/
def handlings (c : Console σ η) : List String → List Handling
  | [] => []
  | raw :: lines => c.handling raw :: (c.handleInput raw).2.handlings lines

theorem map_dispatch_handlings (c : Console σ η) (lines : List String) :
    (c.handlings lines).map (·.dispatch) = (c.handleAll lines).1 := by
  induction lines generalizing c with
  | nil => rfl
  | cons raw lines ih => rw [handlings, List.map_cons, ih, handleAll, handling]

@[simp] theorem registry_handleAll (c : Console σ η) (lines : List String) :
    (c.handleAll lines).2.registry = c.registry := by
  induction lines generalizing c with
  | nil => rfl
  | cons raw lines ih => rw [handleAll, ih, registry_handleInput]

/-- What a command tells while it runs is told right after its line was echoed. -/
theorem exists_own_told (hc : c.registry.Discreet) {command : Command}
    (hcommand : command ∈ c.registry.commands) (raw : String) :
    ∃ own, ((c.actionOf command raw).run (Sink.printStyled c.sink raw .echo) c.world).2.2.log =
        c.world.log ++ own ∧ ∀ event ∈ own, ¬ event.TellsDispatch :=
  hc command hcommand (Line.parse raw).parameters σ _ c.world

/-- **What the log tells of a line agrees with what became of it.** -/
theorem tells_handleInput (hc : c.registry.Discreet) (raw : String) :
    ∃ told, World.Tells c.world (c.handleInput raw).2.world [c.handling raw] told := by
  obtain ⟨dispatch, calls, handled⟩ := c.exists_handled raw
  have hdispatch : (c.handling raw).dispatch = dispatch := by
    rw [dispatch_handling, handled.sound.1]
  have hcalls : (c.handling raw).calls = calls := by rw [calls_handling, handled.sound.2]
  have htoken := c.token_handling raw
  have hworld := c.world_handleInput raw
  generalize c.handling raw = handling at hdispatch hcalls htoken ⊢
  generalize (c.handleInput raw).2.world = after at hworld ⊢
  have hfailure : handling.isFailure = dispatch.isFailure := congrArg Dispatch.isFailure hdispatch
  cases handled with
  | blank hblank =>
    rw [Registry.dispatch_of_blank hblank, Action.run, Action.run] at hworld
    have hlog : after.log = c.world.log ++ [] := by rw [hworld, List.append_nil]
    exact ⟨[], .of_quiet hlog (by simp) (List.forall_mem_singleton.mpr hfailure)⟩
  | notFound hblank hnone =>
    rw [Registry.dispatch_of_resolve_eq_none hblank (Registry.resolve_eq_none_iff.mpr hnone),
      Action.run, Action.run, Action.run] at hworld
    have hlog : after.log = c.world.log ++ ([] ++ [.unknownCommand handling.token]) := by
      rw [hworld, World.log_record, List.nil_append, htoken]
    rw [← htoken] at hcalls
    exact ⟨_, .of_failure [] hlog (by simp) (.inl rfl) hfailure
      (.notFound hdispatch hcalls rfl rfl)⟩
  | executed i command hblank hfirst houtcome =>
    obtain ⟨own, hown, hquiet⟩ :=
      exists_own_told hc (List.mem_of_getElem? hfirst.atPosition) raw
    unfold outcomeOf at houtcome
    rw [dispatch_of_firstClaimant hblank hfirst, Action.run, Action.run_bind, houtcome,
      Registry.report_completed, Action.run] at hworld
    have hlog : after.log = c.world.log ++ own := by rw [hworld, hown]
    exact ⟨own, .of_quiet hlog hquiet (List.forall_mem_singleton.mpr hfailure)⟩
  | failed i command reason hblank hfirst houtcome =>
    obtain ⟨own, hown, hquiet⟩ :=
      exists_own_told hc (List.mem_of_getElem? hfirst.atPosition) raw
    have hreport := Registry.report_of_reportedAs (Line.parse raw).command houtcome
    unfold outcomeOf at hreport
    rw [dispatch_of_firstClaimant hblank hfirst, Action.run, Action.run_bind, hreport, Action.run,
      Action.run, Action.run] at hworld
    have hlog : after.log = c.world.log ++ (own ++ [.commandFailed handling.token reason]) := by
      rw [hworld, World.log_record, hown, List.append_assoc, htoken]
    have hlast : handling.calls.getLast? = some (.printStyled
        ("Command \"" ++ handling.token ++ "\" failed: " ++ reason) .error) := by
      rw [hcalls, htoken]
      exact List.getLast?_concat
    exact ⟨_, .of_failure own hlog hquiet (.inr rfl) hfailure
      (.failed reason hdispatch hlast rfl rfl)⟩

/-- What the log tells of lines agrees with what became of them. -/
theorem tells_handleAll (hc : c.registry.Discreet) (lines : List String) :
    ∃ told, World.Tells c.world (c.handleAll lines).2.world (c.handlings lines) told := by
  induction lines generalizing c with
  | nil => exact ⟨[], .of_quiet (List.append_nil _).symm (by simp) (by simp [handlings])⟩
  | cons raw lines ih =>
    obtain ⟨told, hfirst⟩ := tells_handleInput hc raw
    have hnext : (c.handleInput raw).2.registry.Discreet := by
      rw [registry_handleInput]
      exact hc
    obtain ⟨more, hothers⟩ := ih hnext
    exact ⟨told ++ more, hfirst.append hothers⟩

end Console
end CommandConsole
