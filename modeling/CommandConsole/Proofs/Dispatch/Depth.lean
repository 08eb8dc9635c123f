import CommandConsole.Proofs.Dispatch.Boundary
import CommandConsole.Proofs.Program.Batch

/-!
# How deep commands call each other

Commands may call each other and themselves, so their calls need not come to an end by themselves;
the registry cuts them off at a bound.  What becomes of a line that stays within the bound does not
depend on it.  To say so without a trace of the calls, what a call beyond the bound does is left
open (`Registry.entriesBefore`): a line stays within the bound if it comes to the same whatever such
a call does (`Console.StaysWithin`).  The commands under a larger bound are one way to fill the gap
(`Registry.exists_entriesWithin_add`), so a larger bound changes nothing for the line
(`Console.handleInput_deeper`), nor for lines that all stay within it in their turn
(`Console.handleAll_deeper`).

A command that looks at no more than the cards of the others calls none of them.  For commands of
this kind the bound makes no difference at all (`Console.handleAll_withDepth`), and those of the
program are (`Program.callsNone_registry`).
-/
namespace CommandConsole

namespace Registry

/-- The commands as they see each other, with a number of calls left.  What a call beyond these does
is given. -/
def entriesBefore (beyond : Command → List String → Action Outcome) (commands : List Command) :
    Nat → List Entry
  | 0 => commands.map fun command => ⟨command.toCard, beyond command⟩
  | left + 1 => commands.map fun command =>
    ⟨command.toCard, fun parameters =>
      command.action (entriesBefore beyond commands left) parameters⟩

variable {beyond : Command → List String → Action Outcome} {commands : List Command}

/-- A registry cuts a call beyond the last one off as a crash. -/
theorem entriesWithin_eq (commands : List Command) (left : Nat) :
    entriesWithin commands left = entriesBefore (fun _ _ => .done (.crashed none)) commands left := by
  induction left with
  | zero => rfl
  | succ left ih => rw [entriesWithin, entriesBefore, ih]

/-- To have more calls left is to have calls beyond the last one do something. -/
theorem exists_entriesWithin_add (commands : List Command) (more left : Nat) :
    ∃ beyond, entriesWithin commands (more + left) = entriesBefore beyond commands left := by
  cases more with
  | zero => exact ⟨_, (congrArg _ (Nat.zero_add left)).trans (entriesWithin_eq commands left)⟩
  | succ more =>
    refine ⟨fun command parameters => command.action (entriesWithin commands more) parameters, ?_⟩
    induction left with
    | zero => rfl
    | succ left ih => rw [← Nat.add_assoc, entriesWithin, entriesBefore, ih]

theorem map_toCard_entriesBefore (left : Nat) :
    (entriesBefore beyond commands left).map Entry.toCard = commands.map Command.toCard := by
  cases left with
  | zero => exact List.map_map
  | succ left => exact List.map_map

/-- A running command sees the cards of all commands. -/
theorem map_toCard_entries (r : Registry) :
    r.entries.map Entry.toCard = r.commands.map Command.toCard := by
  rw [entries, entriesWithin_eq, map_toCard_entriesBefore]

end Registry

namespace Console

variable {σ η : Type} [Sink σ] {c : Console σ η} {raw : String} {lines : List String}

/-- The line comes to the same whatever a call beyond the bound does. -/
def StaysWithin (c : Console σ η) (raw : String) : Prop :=
  ∀ command, Text.trim raw ≠ "" →
    c.registry.resolve (Line.parse raw).command = some command → ∀ beyond,
      (command.action
          (Registry.entriesBefore beyond c.registry.commands c.registry.deepestCall)
          (Line.parse raw).parameters).run (Sink.printStyled c.sink raw .echo) c.world =
        (c.actionOf command raw).run (Sink.printStyled c.sink raw .echo) c.world

/-- Each line does, on the console that the lines before it have left. -/
def AllStayWithin (c : Console σ η) : List String → Prop
  | [] => True
  | raw :: lines => c.StaysWithin raw ∧ (c.handleInput raw).2.AllStayWithin lines

/-- The console with another bound on calls. -/
def withDepth (c : Console σ η) (depth : Nat) : Console σ η :=
  { c with registry.deepestCall := depth }

/-- A larger bound makes no difference to the action that a line takes. -/
theorem run_dispatch_withDepth (h : c.StaysWithin raw) {depth : Nat}
    (hdepth : c.registry.deepestCall ≤ depth) :
    ((c.withDepth depth).registry.dispatch raw).run c.sink c.world =
      (c.registry.dispatch raw).run c.sink c.world := by
  by_cases hblank : Text.trim raw = ""
  · rw [Registry.dispatch_of_blank hblank, Registry.dispatch_of_blank hblank]
  have hdeeper : (c.withDepth depth).registry.resolve (Line.parse raw).command =
      c.registry.resolve (Line.parse raw).command := rfl
  cases hresolve : c.registry.resolve (Line.parse raw).command with
  | none =>
    rw [hresolve] at hdeeper
    rw [Registry.dispatch_of_resolve_eq_none hblank hdeeper,
      Registry.dispatch_of_resolve_eq_none hblank hresolve]
  | some command =>
    rw [hresolve] at hdeeper
    obtain ⟨more, rfl⟩ := Nat.exists_eq_add_of_le' hdepth
    obtain ⟨beyond, hbeyond⟩ :=
      Registry.exists_entriesWithin_add c.registry.commands more c.registry.deepestCall
    have hentries : (c.withDepth (more + c.registry.deepestCall)).registry.entries =
        Registry.entriesBefore beyond c.registry.commands c.registry.deepestCall := hbeyond
    have hsame := h command hblank hresolve beyond
    rw [actionOf] at hsame
    rw [Registry.dispatch_of_resolve_eq_some hblank hdeeper,
      Registry.dispatch_of_resolve_eq_some hblank hresolve, Action.run, Action.run,
      Action.run_bind, Action.run_bind, hentries, hsame]

/-- **A line that stays within the bound is handled alike under any larger one.** -/
theorem handleInput_deeper (h : c.StaysWithin raw) {depth : Nat}
    (hdepth : c.registry.deepestCall ≤ depth) :
    (c.withDepth depth).handleInput raw =
      ((c.handleInput raw).1, (c.handleInput raw).2.withDepth depth) := by
  have hrun := run_dispatch_withDepth h hdepth
  simp only [handleInput, withDepth] at hrun ⊢
  rw [hrun]

/-- A command that calls `echo`, under a bound of one call. -/
example : StaysWithin
    { registry := {
        commands := [Builtin.echo,
          { names := ["twice"], help := "", action := fun entries parameters =>
              match Entry.find? entries "echo" with
              | some entry => (entry.execute parameters).bind fun _ => entry.execute parameters
              | none => .done .completed }]
        named := by decide
        deepestCall := 1 }
      sink := ({} : Terminal), hooks := (), world := ⟨{ nodes := [] }, fun _ => .epoch, 0, []⟩ }
    "twice hi" := by
  intro command _ hresolve beyond
  obtain rfl := Option.some.inj hresolve
  rfl

/-- Lines that stay within the bound one after the other are handled alike under a larger one, too. -/
theorem handleAll_deeper (h : c.AllStayWithin lines) {depth : Nat}
    (hdepth : c.registry.deepestCall ≤ depth) :
    (c.withDepth depth).handleAll lines =
      ((c.handleAll lines).1, (c.handleAll lines).2.withDepth depth) := by
  induction lines generalizing c with
  | nil => rfl
  | cons raw lines ih =>
    obtain ⟨hfirst, hothers⟩ := h
    have hnext : (c.handleInput raw).2.registry.deepestCall ≤ depth := by
      rw [registry_handleInput]
      exact hdepth
    rw [handleAll, handleInput_deeper hfirst hdepth, handleAll]
    dsimp only
    rw [ih hothers hnext]

end Console

/-! ## Commands that call no other -/

/-- The command looks at no more than the cards of the others. -/
def Command.CallsNone (command : Command) : Prop :=
  ∀ entries others : List Entry, entries.map Entry.toCard = others.map Entry.toCard →
    command.action entries = command.action others

theorem Entry.map_toCard_find? (entries : List Entry) (name : String) :
    (find? entries name).map Entry.toCard = (entries.map Entry.toCard).find? (·.answersTo name) := by
  rw [find?, List.find?_map]
  rfl

/-- No built-in command calls another one. -/
theorem Builtin.callsNone_of_mem_all {directory : String} {command : Command}
    (h : command ∈ all directory) : command.CallsNone := by
  intro entries others hcards
  simp only [all, List.mem_cons, List.not_mem_nil, or_false] at h
  rcases h with rfl | rfl | rfl | rfl
  · rfl
  · funext parameters
    cases parameters with
    | nil =>
      have hlines : (entries.map fun entry => summary entry.toCard) =
          others.map fun entry => summary entry.toCard := by
        have hsummaries := congrArg (List.map summary) hcards
        rwa [List.map_map, List.map_map] at hsummaries
      simp only [help, hlines]
    | cons name rest =>
      have hfind : (Entry.find? entries name).map Entry.toCard =
          (Entry.find? others name).map Entry.toCard := by
        rw [Entry.map_toCard_find?, Entry.map_toCard_find?, hcards]
      cases hentry : Entry.find? entries name with
      | none =>
        rw [hentry] at hfind
        have hother : Entry.find? others name = none := Option.map_eq_none_iff.mp hfind.symm
        simp only [help, hentry, hother]
      | some entry =>
        rw [hentry] at hfind
        obtain ⟨other, hother, hcard⟩ := Option.map_eq_some_iff.mp hfind.symm
        simp only [help, hentry, hother, hcard]
  · rfl
  · rfl

namespace Console

variable {σ η : Type} [Sink σ] {c : Console σ η}

theorem staysWithin_of_callsNone (h : ∀ command ∈ c.registry.commands, command.CallsNone)
    (raw : String) : c.StaysWithin raw := by
  intro command _ hresolve beyond
  have hcards : (Registry.entriesBefore beyond c.registry.commands c.registry.deepestCall).map
      Entry.toCard = c.registry.entries.map Entry.toCard := by
    rw [Registry.map_toCard_entriesBefore, Registry.map_toCard_entries]
  rw [actionOf, h command (List.mem_of_find?_eq_some hresolve) _ _ hcards]

/-- For commands that call none other, lines are handled alike under any bound, a smaller one
included. -/
theorem handleAll_withDepth (h : ∀ command ∈ c.registry.commands, command.CallsNone) (depth : Nat)
    (lines : List String) :
    (c.withDepth depth).handleAll lines =
      ((c.handleAll lines).1, (c.handleAll lines).2.withDepth depth) := by
  have hall (start : Console σ η)
      (hstart : ∀ command ∈ start.registry.commands, command.CallsNone) :
      start.AllStayWithin lines := by
    induction lines generalizing start with
    | nil => trivial
    | cons raw lines ih =>
      refine ⟨staysWithin_of_callsNone hstart raw, ih _ ?_⟩
      rw [registry_handleInput]
      exact hstart
  -- both bounds are compared with the least one there is
  have hleast := hall (c.withDepth 0) h
  have hown := handleAll_deeper hleast (Nat.zero_le c.registry.deepestCall)
  have hother := handleAll_deeper hleast (Nat.zero_le depth)
  have hsame : (c.withDepth 0).withDepth c.registry.deepestCall = c := rfl
  rw [hsame] at hown
  have hother' : (c.withDepth depth).handleAll lines = _ := hother
  rw [hother', hown]
  rfl

end Console

/-- No command of the program calls another one. -/
theorem Program.callsNone_registry (directory : String) :
    ∀ command ∈ (registry directory).1.commands, command.CallsNone := by
  intro command hcommand
  rw [commands_registry, List.mem_append, List.mem_singleton] at hcommand
  rcases hcommand with hbuiltin | rfl
  · exact Builtin.callsNone_of_mem_all hbuiltin
  · intro entries others _
    rfl

end CommandConsole
