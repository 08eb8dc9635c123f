import CommandConsole.Proofs.Registry.Registration
import CommandConsole.Proofs.Registry.Shadowing

/-!
# What the log tells of registrations

While a registry is filled, the log tells of every command that is added, of the names among its own
that were taken before it came, and of what was left out.  The list of shared names is drawn up
afterwards and by other means, yet it holds what the log has told: a name is shared when its second
claimant is added, and that is when the log finds it taken.  `Recorded` says that log and registry
agree in this way; registering one more command keeps them so (`Recorded.register`), and so does
every step and every course of steps (`Recorded.performAll`).

A warning is given for what was left out and for nothing else, one for each
(`filter_warn_performAll`).
-/
namespace CommandConsole

namespace Event

/-- What the log says of a name that was taken. -/
def takenMessage : String := "alias already taken; earlier command wins"

/-- What the log says of a command that was added. -/
def registeredMessage : String := "registered console command"

theorem message_eq_takenMessage_iff {event : Event} :
    event.message = takenMessage ↔ ∃ name, event = .nameTaken name := by
  cases event <;> simp [message, takenMessage]

end Event

/-- What the log warns of when a step leaves out the command that it was to add, because the command
has no name or could not be built. -/
def Registration.warning? : Registration → Option Event
  | register command | registerBuilt (.ok command) =>
    if command.names = [] then some (.namelessCommand command.help) else none
  | registerBuilt (.error e) => some (.notBuilt e)
  | registerBuiltins _ => none

namespace Registry

/-- A log agrees with a registry: a name is shared if the log has told that it was taken, and for
every command, in order, the log has told once that it was added. -/
structure Recorded (r : Registry) (log : List Event) : Prop where
  taken : ∀ form, form ∈ r.shadowedNames ↔
    ∃ name, .nameTaken name ∈ log ∧ Text.lowercase name = form
  registered : log.filter (·.message = Event.registeredMessage) =
    r.commands.map fun command => .registered command.names

variable {r : Registry} {log : List Event}

theorem recorded_empty : Recorded {} [] where
  taken form := iff_of_false List.not_mem_nil fun h => by simp at h
  registered := rfl

/-! ## One command -/

theorem register_of_nameless {command : Command} (h : command.names = []) :
    r.register command = (r, [.namelessCommand command.help]) := by
  rw [register, dif_pos h]

theorem events_register {command : Command} (h : command.names ≠ []) :
    (r.register command).2 =
      (command.names.filter fun name => (r.resolve name).isSome).map .nameTaken ++
        [.registered command.names] := by
  rw [register, dif_neg h]

/-- The names of a command that are taken when it comes are, in lowercase, those that it shares with
a command before it. -/
theorem exists_taken_iff {command : Command} {form : String} :
    (∃ name ∈ command.names, (r.resolve name).isSome = true ∧ Text.lowercase name = form) ↔
      Text.lowercase form = form ∧ command.Claims form ∧
        ∃ earlier ∈ r.commands, earlier.Claims form := by
  constructor
  · rintro ⟨name, hname, htaken, rfl⟩
    obtain ⟨earlier, hearlier, hclaims⟩ := isSome_resolve_iff.mp htaken
    have hlower := Text.lowercase_lowercase name
    exact ⟨hlower, ⟨name, hname, hlower.symm⟩, earlier, hearlier,
      (Card.claims_congr hlower.symm).mp hclaims⟩
  · rintro ⟨hlower, ⟨name, hname, hsame⟩, earlier, hearlier, hclaims⟩
    refine ⟨name, hname, isSome_resolve_iff.mpr ⟨earlier, hearlier, ?_⟩, hsame.trans hlower⟩
    exact (Card.claims_congr hsame).mpr hclaims

theorem nameTaken_mem_register_iff {command : Command} {name : String} :
    .nameTaken name ∈ (r.register command).2 ↔
      name ∈ command.names ∧ (r.resolve name).isSome = true := by
  by_cases hnames : command.names = []
  · simp [register_of_nameless hnames, hnames]
  · simp [events_register hnames]

/-- Names that were taken aside, the log tells one thing of a command, whether it was added. -/
theorem filter_events_register (command : Command) {keep : Event → Bool}
    (hkeep : ∀ name, keep (.nameTaken name) = false) :
    (r.register command).2.filter keep =
      [if command.names = [] then .namelessCommand command.help
        else .registered command.names].filter keep := by
  by_cases hnames : command.names = []
  · rw [register_of_nameless hnames, if_pos hnames]
  · have hnone : keep ∘ .nameTaken = fun _ => false := funext hkeep
    rw [events_register hnames, if_neg hnames, List.filter_append, List.filter_map, hnone,
      List.filter_false, List.map_nil, List.nil_append]

/-- **One more command is recorded.** -/
theorem Recorded.register (h : Recorded r log) (command : Command) :
    Recorded (r.register command).1 (log ++ (r.register command).2) where
  taken form := by
    have htold : (∃ name, .nameTaken name ∈ log ++ (r.register command).2 ∧
          Text.lowercase name = form) ↔
        form ∈ r.shadowedNames ∨
          ∃ name ∈ command.names, (r.resolve name).isSome = true ∧ Text.lowercase name = form := by
      simp only [List.mem_append, nameTaken_mem_register_iff, or_and_right, exists_or, h.taken,
        and_assoc]
    rw [htold, exists_taken_iff, shadowedNames, commands_register]
    by_cases hnames : command.names = []
    · rw [if_pos hnames]
      refine (or_iff_left ?_).symm
      rintro ⟨-, ⟨name, hname, -⟩, -⟩
      rw [hnames] at hname
      exact List.not_mem_nil hname
    · rw [if_neg hnames]
      exact mem_shadowedAmong_concat_iff
  registered := by
    rw [List.filter_append, h.registered, filter_events_register command fun _ => rfl,
      commands_register]
    split
    · exact List.append_nil _
    · rw [List.map_append]
      rfl

/-! ## Steps -/

theorem Recorded.registerAll (h : Recorded r log) (commands : List Command) :
    Recorded (r.registerAll commands).1 (log ++ (r.registerAll commands).2) := by
  induction commands generalizing r log with
  | nil =>
    rw [Registry.registerAll, List.append_nil]
    exact h
  | cons command commands ih =>
    rw [Registry.registerAll, ← List.append_assoc]
    exact ih (h.register command)

theorem Recorded.perform (h : Recorded r log) (step : Registration) :
    Recorded (r.perform step).1 (log ++ (r.perform step).2.2) := by
  cases step with
  | register command => exact h.register command
  | registerBuilt built =>
    cases built with
    | ok command => exact h.register command
    | error e =>
      -- the log tells more, but nothing of a name or of a command
      refine ⟨fun form => ?_, ?_⟩
      · simp [Registry.perform, registerBuilt, h.taken]
      · rw [List.filter_append, h.registered]
        exact List.append_nil _
  | registerBuiltins dumpDirectory => exact h.registerAll (Builtin.all dumpDirectory)

theorem Recorded.performAll (h : Recorded r log) (steps : List Registration) :
    Recorded (r.performAll steps).1 (log ++ (r.performAll steps).2.2) := by
  induction steps generalizing r log with
  | nil =>
    rw [performAll_nil, List.append_nil]
    exact h
  | cons step steps ih =>
    rw [performAll_cons, ← List.append_assoc]
    exact ih (h.perform step)

/-! ## Warnings -/

theorem filter_warn_register (command : Command) :
    (r.register command).2.filter (·.level = .warn) =
      (Registration.register command).warning?.toList := by
  rw [filter_events_register command fun _ => rfl, Registration.warning?]
  split
  · rfl
  · rfl

theorem filter_warn_registerAll {commands : List Command}
    (h : ∀ command ∈ commands, command.names ≠ []) :
    (r.registerAll commands).2.filter (·.level = .warn) = [] := by
  induction commands generalizing r with
  | nil => rfl
  | cons command commands ih =>
    obtain ⟨hnames, hothers⟩ := List.forall_mem_cons.mp h
    rw [registerAll, List.filter_append, filter_warn_register, ih hothers, Registration.warning?,
      if_neg hnames]
    rfl

theorem filter_warn_perform (step : Registration) :
    (r.perform step).2.2.filter (·.level = .warn) = step.warning?.toList := by
  cases step with
  | register command => exact filter_warn_register command
  | registerBuilt built =>
    cases built with
    | ok command => exact filter_warn_register command
    | error e => rfl
  | registerBuiltins dumpDirectory =>
    refine filter_warn_registerAll fun command hcommand => ?_
    simp only [Builtin.all, List.mem_cons, List.not_mem_nil, or_false] at hcommand
    rcases hcommand with rfl | rfl | rfl | rfl <;> exact List.cons_ne_nil _ _

theorem filter_warn_performAll (steps : List Registration) :
    (r.performAll steps).2.2.filter (·.level = .warn) = steps.filterMap Registration.warning? := by
  induction steps generalizing r with
  | nil => rfl
  | cons step steps ih =>
    rw [performAll_cons, List.filter_append, filter_warn_perform, ih, List.filterMap_cons]
    cases step.warning? <;> rfl

/-- A step that the log warns of leaves the registry as it is, and the warning is all that the log
tells. -/
theorem perform_of_warning {step : Registration} {warning : Event}
    (h : step.warning? = some warning) :
    ∃ answer, answer ≠ some true ∧ r.perform step = (r, answer, [warning]) := by
  have hnameless {command : Command} (hwarning : (if command.names = [] then
      some (Event.namelessCommand command.help) else none) = some warning) :
      r.register command = (r, [warning]) := by
    obtain ⟨hnames, heq⟩ := Option.ite_none_right_eq_some.mp hwarning
    rw [register_of_nameless hnames, Option.some.inj heq]
  cases step with
  | register command =>
    refine ⟨none, by decide, ?_⟩
    rw [perform, hnameless h]
  | registerBuilt built =>
    refine ⟨some false, by decide, ?_⟩
    cases built with
    | ok command =>
      rw [perform, registerBuilt, hnameless h]
      simp
    | error e =>
      obtain rfl : .notBuilt e = warning := Option.some.inj h
      rfl
  | registerBuiltins dumpDirectory => exact absurd h (by simp [Registration.warning?])

/-- **The log agrees with the list of shared names.**  However a registry is filled, the names that
the log has reported to be taken are, in lowercase, the names that the registry lists as shared; of
every command that is in the registry the log has told once, in order and with its names; and it has
warned once of every command without a name and of every one that could not be built, which is all
that such a step does. -/
theorem performAll_log_agrees (steps : List Registration) :
    let after := performAll {} steps
    (∀ form, form ∈ after.1.shadowedNames ↔
      ∃ event ∈ after.2.2, event.message = Event.takenMessage ∧
        ∃ name, event.fields = [("alias", name)] ∧ Text.lowercase name = form) ∧
    after.2.2.filter (·.message = Event.registeredMessage) =
      after.1.commands.map (fun command => .registered command.names) ∧
    after.2.2.filter (·.level = .warn) = steps.filterMap Registration.warning? ∧
    ∀ (r : Registry) (step : Registration) (warning : Event), step.warning? = some warning →
      ∃ answer, answer ≠ some true ∧ r.perform step = (r, answer, [warning]) := by
  intro after
  have hrecorded : Recorded after.1 after.2.2 := recorded_empty.performAll steps
  refine ⟨fun form => ?_, hrecorded.registered, filter_warn_performAll steps,
    fun r step warning => perform_of_warning⟩
  rw [hrecorded.taken]
  constructor
  · rintro ⟨name, htold, hlower⟩
    exact ⟨_, htold, rfl, name, rfl, hlower⟩
  · rintro ⟨event, htold, hmessage, name, hfields, hlower⟩
    obtain ⟨own, rfl⟩ := Event.message_eq_takenMessage_iff.mp hmessage
    obtain rfl : own = name := by simpa [Event.fields] using hfields
    exact ⟨own, htold, hlower⟩

/-- A course of registrations in which two offers come to nothing and the last command finds two of
its names taken, one of them twice. -/
def crowded : List Registration :=
  let completing (names : List String) : Command :=
    { names, help := "idle", action := fun _ _ => .done .completed }
  [.register (completing ["Copy", "c"]), .register (completing []),
    .registerBuilt (.error (.registrationFailed "no device")),
    .registerBuilt (.ok (completing ["COPY", "cut", "C", "copy"]))]

theorem performAll_crowded :
    let before := (performAll {} (crowded.take 2)).1
    (performAll {} crowded).1.shadowedNames = ["c", "copy"] ∧
      (∃ event ∈ (performAll {} crowded).2.2, event.message = Event.takenMessage ∧
        ∃ name, event.fields = [("alias", name)] ∧ Text.lowercase name = "copy") ∧
      (performAll {} crowded).2.2.filter (·.level = .warn) =
        [.namelessCommand "idle", .notBuilt (.registrationFailed "no device")] ∧
      (before.perform (.registerBuilt (.error (.registrationFailed "no device")))).1 = before := by
  intro before
  obtain ⟨htaken, -, hwarnings, hleft⟩ := performAll_log_agrees crowded
  have hnames : (performAll {} crowded).1.shadowedNames = ["c", "copy"] := by decide
  obtain ⟨answer, -, hnothing⟩ :=
    hleft before (.registerBuilt (.error (.registrationFailed "no device"))) _ rfl
  refine ⟨hnames, (htaken "copy").mp ?_, hwarnings, ?_⟩
  · rw [hnames]
    decide
  · rw [hnothing]

end Registry
end CommandConsole
