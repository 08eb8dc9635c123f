import CommandConsole.Builtin
import CommandConsole.Proofs.Registry.Resolution

/-!
# Courses of registration

A registry is filled step by step: commands are registered, one by one or all built-in ones at
once, and commands that have to be built first are offered with what building them came to.  A step
only ever adds at the end, and it adds the commands that were built and have a name
(`commands_perform`).  So does a whole course of steps, and since a name belongs to the first
command with a claim to it, a name that once belongs to a command belongs to it for good
(`resolve_of_prefix`).
-/
namespace CommandConsole

/-- A step in the filling of a registry. -/
inductive Registration
  | register (command : Command)
  /-- A command is built and, if that succeeds, registered. -/
  | registerBuilt (built : Except ConsoleError Command)
  | registerBuiltins (dumpDirectory : String)

/-- The commands that a step brings, nameless ones among them. -/
def Registration.brought : Registration → List Command
  | register command => [command]
  | registerBuilt (.ok command) => [command]
  | registerBuilt (.error _) => []
  | registerBuiltins dumpDirectory => Builtin.all dumpDirectory

namespace Registry

/-- The registry after a step, the answer to the step if it gets one, and what the log tells of it.
-/
def perform (r : Registry) : Registration → Registry × Option Bool × List Event
  | .register command =>
    let after := r.register command
    (after.1, none, after.2)
  | .registerBuilt built =>
    let after := r.registerBuilt built
    (after.1, some after.2.1, after.2.2)
  | .registerBuiltins dumpDirectory =>
    let after := r.registerAll (Builtin.all dumpDirectory)
    (after.1, none, after.2)

/-- The registry after steps one after the other, the answers to them, and what the log tells. -/
def performAll (r : Registry) : List Registration → Registry × List (Option Bool) × List Event
  | [] => (r, [], [])
  | step :: steps =>
    let first := r.perform step
    let later := first.1.performAll steps
    (later.1, first.2.1 :: later.2.1, first.2.2 ++ later.2.2)

@[simp] theorem performAll_nil (r : Registry) : r.performAll [] = (r, [], []) := rfl

@[simp] theorem performAll_cons (r : Registry) (step : Registration) (steps : List Registration) :
    r.performAll (step :: steps) =
      (((r.perform step).1.performAll steps).1,
        (r.perform step).2.1 :: ((r.perform step).1.performAll steps).2.1,
        (r.perform step).2.2 ++ ((r.perform step).1.performAll steps).2.2) := rfl

theorem performAll_append (r : Registry) (first second : List Registration) :
    r.performAll (first ++ second) =
      (((r.performAll first).1.performAll second).1,
        (r.performAll first).2.1 ++ ((r.performAll first).1.performAll second).2.1,
        (r.performAll first).2.2 ++ ((r.performAll first).1.performAll second).2.2) := by
  induction first generalizing r with
  | nil => rfl
  | cons step steps ih => simp [ih]

theorem length_answers_performAll (r : Registry) (steps : List Registration) :
    (r.performAll steps).2.1.length = steps.length := by
  induction steps generalizing r with
  | nil => rfl
  | cons step steps ih => simp [ih]

/-! ## What is added -/

theorem commands_registerAll (r : Registry) (commands : List Command) :
    (r.registerAll commands).1.commands = r.commands ++ commands.filter (·.names ≠ []) := by
  induction commands generalizing r with
  | nil => simp [registerAll]
  | cons command commands ih =>
    rw [registerAll, ih, commands_register]
    by_cases hnames : command.names = [] <;> simp [hnames]

/-- A step adds what it brings, as far as it has a name, at the end. -/
theorem commands_perform (r : Registry) (step : Registration) :
    (r.perform step).1.commands = r.commands ++ step.brought.filter (·.names ≠ []) := by
  have hone (command : Command) :
      (r.register command).1.commands = r.commands ++ [command].filter (·.names ≠ []) := by
    rw [commands_register]
    by_cases hnames : command.names = [] <;> simp [hnames]
  cases step with
  | register command => exact hone command
  | registerBuilt built =>
    cases built with
    | ok command => exact hone command
    | error e => exact (List.append_nil _).symm
  | registerBuiltins dumpDirectory => exact commands_registerAll r (Builtin.all dumpDirectory)

theorem commands_performAll (r : Registry) (steps : List Registration) :
    (r.performAll steps).1.commands =
      r.commands ++ (steps.flatMap Registration.brought).filter (·.names ≠ []) := by
  induction steps generalizing r with
  | nil => simp
  | cons step steps ih =>
    rw [performAll_cons, ih, commands_perform, List.flatMap_cons, List.filter_append,
      List.append_assoc]

theorem prefix_performAll (r : Registry) (steps : List Registration) :
    r.commands <+: (r.performAll steps).1.commands := by
  rw [commands_performAll]
  exact List.prefix_append _ _

/-- In a course of steps an offer is answered by the registry as the steps before it have left it. -/
theorem answer_performAll (r : Registry) (before : List Registration)
    (built : Except ConsoleError Command) (after : List Registration) :
    (r.performAll (before ++ .registerBuilt built :: after)).2.1[before.length]? =
      some (some ((r.performAll before).1.registerBuilt built).2.1) := by
  have hlength : (r.performAll before).2.1.length = before.length :=
    length_answers_performAll r before
  rw [performAll_append, List.getElem?_append_right (Nat.le_of_eq hlength), hlength, Nat.sub_self]
  rfl

/-- The answer to a command that was built first tells whether it was added. -/
theorem registerBuilt_eq_true_iff {r : Registry} {built : Except ConsoleError Command} :
    (r.registerBuilt built).2.1 = true ↔
      ∃ command, built = .ok command ∧
        (r.registerBuilt built).1.commands = r.commands ++ [command] := by
  cases built with
  | error e => simp [registerBuilt]
  | ok command =>
    by_cases hnames : command.names = [] <;> simp [registerBuilt, commands_register, hnames]

/-- If nothing was added, nothing has changed. -/
theorem registerBuilt_of_eq_false {r : Registry} {built : Except ConsoleError Command}
    (h : (r.registerBuilt built).2.1 = false) : (r.registerBuilt built).1 = r := by
  cases built with
  | error e => rfl
  | ok command =>
    by_cases hnames : command.names = []
    · simp [registerBuilt, register, hnames]
    · simp [registerBuilt, commands_register, hnames] at h

/-! ## Who gets a name -/

/-- What is registered later takes no name away. -/
theorem resolve_of_prefix {r later : Registry} (h : r.commands <+: later.commands) {name : String}
    {command : Command} (hr : r.resolve name = some command) :
    later.resolve name = some command := by
  obtain ⟨added, hadded⟩ := h
  unfold resolve at hr ⊢
  rw [← hadded, List.find?_append, hr, Option.some_or]

/-- **A registry that was filled in whatever way holds the commands that were built and have a name,
in order, and every name belongs to the first of them with a claim to it.**  Whoever offers a
command to be built is told whether it was added; if not, the registry is what it was.  What a name
belongs to stays the same whatever is registered later. -/
theorem performAll_firstClaimant (steps : List Registration) :
    ((performAll {} steps).1.commands =
      (steps.flatMap Registration.brought).filter (·.names ≠ [])) ∧
    (∀ before built after, steps = before ++ .registerBuilt built :: after →
      let r := (performAll {} before).1
      let next := (performAll {} (before ++ [.registerBuilt built])).1
      ∃ added, (performAll {} steps).2.1[before.length]? = some (some added) ∧
        (added = true ↔ ∃ command, built = .ok command ∧ next.commands = r.commands ++ [command]) ∧
        (added = false → next = r)) ∧
    (∀ name command, (performAll {} steps).1.resolve name = some command ↔
      ∃ i, (performAll {} steps).1.FirstClaimant name i command) ∧
    (∀ name, (performAll {} steps).1.resolve name = none ↔
      ∀ command ∈ (performAll {} steps).1.commands, ¬ command.Claims name) ∧
    ∀ more name command, (performAll {} steps).1.resolve name = some command →
      (performAll {} (steps ++ more)).1.resolve name = some command := by
  refine ⟨?_, ?_, fun _ _ => resolve_eq_some_iff, fun _ => resolve_eq_none_iff, ?_⟩
  · simpa using commands_performAll {} steps
  · rintro before built after rfl r next
    have hnext : next = (r.registerBuilt built).1 := by
      simp only [next, performAll_append, performAll_cons, performAll_nil, perform, r]
    refine ⟨(r.registerBuilt built).2.1, ?_, ?_, ?_⟩
    · exact answer_performAll {} before built after
    · rw [hnext]
      exact registerBuilt_eq_true_iff
    · rw [hnext]
      exact registerBuilt_of_eq_false
  · intro more name command hname
    refine resolve_of_prefix ?_ hname
    rw [performAll_append]
    exact prefix_performAll _ more

/-- Two commands that both answer to `run`, and between them one that answers to nothing. -/
def runners : List Registration :=
  let completing (names : List String) : Command :=
    { names, help := "", action := fun _ _ => .done .completed }
  [.register (completing ["Run", "go"]), .registerBuilt (.ok (completing [])),
    .registerBuilt (.ok (completing ["walk", "RUN"]))]

theorem performAll_runners :
    (performAll {} runners).2.1 = [none, some false, some true] ∧
      (performAll {} (runners.take 2)).1 = (performAll {} (runners.take 1)).1 ∧
      ((performAll {} runners).1.resolve "rUN").map (·.names) = some ["Run", "go"] ∧
      (performAll {} (runners ++ [.registerBuiltins "."])).1.resolve "rUN" =
        (performAll {} runners).1.resolve "rUN" := by
  obtain ⟨-, hanswers, -, -, hstays⟩ := performAll_firstClaimant runners
  have hall : (performAll {} runners).2.1 = [none, some false, some true] := by rfl
  obtain ⟨added, hadded, -, hsame⟩ := hanswers (runners.take 1) _ (runners.drop 2) rfl
  obtain rfl : false = added := by
    rw [hall] at hadded
    exact Option.some.inj (Option.some.inj hadded)
  obtain ⟨command, hname⟩ : ∃ command, (performAll {} runners).1.resolve "rUN" = some command :=
    ⟨_, rfl⟩
  refine ⟨hall, hsame rfl, by rfl, ?_⟩
  rw [hname]
  exact hstays _ "rUN" command hname

end Registry
end CommandConsole
