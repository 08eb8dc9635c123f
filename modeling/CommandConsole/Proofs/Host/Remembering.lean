import CommandConsole.Proofs.Host.Scripting
import CommandConsole.Proofs.Line.Joining

/-!
# The lines that are remembered

The host decides by itself, from the trimmed line, whether a line is remembered; what became of the
line is decided by the console, from the tokens.  The two agree: a line that is passed on is
remembered exactly if the console does not find it blank (`submit_remembers`).  Everything else that
can be done with a host remembers nothing, scripts included, since their lines go straight to the
console.  So the history is the list of the lines that were submitted and found not to be blank
(`editor_performAll`), whatever became of them otherwise.
-/
namespace CommandConsole

namespace Console

variable {σ η : Type} [Sink σ]

/-- A line is found to be blank if it is white space throughout. -/
theorem dispatch_handleInput_eq_blank_iff (c : Console σ η) (raw : String) :
    (c.handleInput raw).1 = .blank ↔ Text.AllBlank raw := by
  rw [← Text.trim_eq_empty_iff]
  constructor
  · intro hblank
    by_contra hline
    exact c.handleInput_ne_blank hline hblank
  · intro hblank
    exact (Handled.blank hblank).sound.1

end Console

/-- Something that is done with a host. -/
inductive Host.Step
  | submit (line : String)
  | runScript (source : String)
  | runFile (path : String)
  | reveal
  | hide
  | toggle
  deriving DecidableEq, Repr

namespace Host

variable {ε : Type} [LineEditor ε]

/-- Takes a step; what became of the line, if one was submitted and passed on. -/
def perform (h : Host ε) : Step → Option Dispatch × Host ε
  | .submit line => h.submit line
  | .runScript source => (none, (h.runScript source).2)
  | .runFile path => (none, (h.runFile path).2)
  | .reveal => (none, { h with console := h.console.reveal })
  | .hide => (none, { h with console := h.console.hide })
  | .toggle => (none, { h with console := h.console.toggle })

/-- Takes steps one after the other. -/
def performAll (h : Host ε) : List Step → List (Option Dispatch) × Host ε
  | [] => ([], h)
  | step :: steps =>
    let first := h.perform step
    let later := first.2.performAll steps
    (first.1 :: later.1, later.2)

/-- The line of a step, if it was submitted, passed on and not found to be blank. -/
def dispatchedLine? : Step × Option Dispatch → Option String
  | (.submit line, some dispatch) => if dispatch = .blank then none else some line
  | (.submit _, none) => none
  | (.runScript _, _) | (.runFile _, _) | (.reveal, _) | (.hide, _) | (.toggle, _) => none

/-- The lines of steps that were submitted, passed on and not found to be blank. -/
def dispatchedLines (steps : List Step) (answers : List (Option Dispatch)) : List String :=
  (steps.zip answers).filterMap dispatchedLine?

/-- The line is passed on and holds something: the console is open, and the line is neither the
toggle line nor blank. -/
def Hears (h : Host ε) (line : String) : Prop :=
  h.config.isToggle line = false ∧ h.console.isOpen = true ∧ ¬ Text.AllBlank line

instance (h : Host ε) (line : String) : Decidable (h.Hears line) :=
  inferInstanceAs (Decidable (_ ∧ _))

/-! ## One step -/

theorem perform_submit (h : Host ε) (line : String) :
    h.perform (.submit line) = h.submit line := rfl

/-- A line is either remembered and not found to be blank, or it is not remembered, and then it was
not passed on or it was found to be blank. -/
theorem submit_remembers (h : Host ε) (line : String) :
    h.Hears line ∧ (h.submit line).2.editor = LineEditor.addHistory h.editor line ∧
        (∃ dispatch, (h.submit line).1 = some dispatch ∧ dispatch ≠ .blank) ∨
      ¬ h.Hears line ∧ (h.submit line).2.editor = h.editor ∧
        ((h.submit line).1 = none ∨ (h.submit line).1 = some .blank) := by
  rcases submit_cases h line with ht | ⟨ht, ho⟩ | ⟨ht, ho⟩
  · have hears : ¬ h.Hears line := fun hears => Bool.false_ne_true (hears.1.symm.trans ht)
    rw [submit_of_isToggle ht]
    exact .inr ⟨hears, rfl, .inl rfl⟩
  · have hears : ¬ h.Hears line := fun hears => Bool.false_ne_true (ho.symm.trans hears.2.1)
    rw [submit_of_closed ht ho]
    exact .inr ⟨hears, rfl, .inl rfl⟩
  · have hblank := h.console.dispatch_handleInput_eq_blank_iff line
    rw [submit_of_open ht ho]
    dsimp only
    by_cases hline : Text.AllBlank line
    · rw [if_pos (Text.trim_eq_empty_iff.mpr hline), hblank.mpr hline]
      exact .inr ⟨fun hears => hears.2.2 hline, rfl, .inr rfl⟩
    · rw [if_neg (mt Text.trim_eq_empty_iff.mp hline)]
      exact .inl ⟨⟨ht, ho, hline⟩, rfl, _, rfl, mt hblank.mp hline⟩

/-- What became of a line tells whether it was passed on and held something. -/
theorem dispatchedLine?_submit (h : Host ε) (line : String) :
    dispatchedLine? (.submit line, (h.submit line).1) =
      if h.Hears line then some line else none := by
  rcases submit_remembers h line with
    ⟨hears, -, dispatch, hdispatch, hne⟩ | ⟨hears, -, hnone | hblank⟩
  · rw [if_pos hears, hdispatch]
    exact if_neg hne
  · rw [if_neg hears, hnone]
    rfl
  · rw [if_neg hears, hblank]
    rfl

/-- A step is remembered by its line, or not at all. -/
theorem editor_perform (h : Host ε) (step : Step) :
    (h.perform step).2.editor =
      (dispatchedLine? (step, (h.perform step).1)).toList.foldl LineEditor.addHistory h.editor := by
  cases step with
  | submit line =>
    rw [perform_submit, dispatchedLine?_submit]
    rcases submit_remembers h line with ⟨hears, heditor, -⟩ | ⟨hears, heditor, -⟩
    · rw [if_pos hears, heditor]
      rfl
    · rw [if_neg hears, heditor]
      rfl
  | runScript source =>
    show (h.runScript source).2.editor = h.editor
    rw [runScript_eq]
  | runFile path =>
    show (h.runFile path).2.editor = h.editor
    rw [runFile]
    split
    · show (h.runScript _).2.editor = h.editor
      rw [runScript_eq]
    · rfl
  | reveal | hide | toggle => rfl

omit [LineEditor ε] in
@[simp] theorem config_runScript (h : Host ε) (source : String) :
    (h.runScript source).2.config = h.config := by
  rw [runScript_eq]

@[simp] theorem config_perform (h : Host ε) (step : Step) :
    (h.perform step).2.config = h.config := by
  cases step with
  | submit line => rw [perform_submit, config_submit]
  | runScript source => exact config_runScript h source
  | runFile path =>
    show (h.runFile path).2.config = h.config
    rw [runFile]
    split
    · exact config_runScript h _
    · rfl
  | reveal | hide | toggle => rfl

/-! ## Steps one after the other -/

@[simp] theorem performAll_cons (h : Host ε) (step : Step) (steps : List Step) :
    h.performAll (step :: steps) =
      ((h.perform step).1 :: ((h.perform step).2.performAll steps).1,
        ((h.perform step).2.performAll steps).2) := rfl

/-- **What is remembered is what was dispatched.** -/
theorem editor_performAll (h : Host ε) (steps : List Step) :
    (h.performAll steps).2.editor =
      (dispatchedLines steps (h.performAll steps).1).foldl LineEditor.addHistory h.editor := by
  induction steps generalizing h with
  | nil => rfl
  | cons step steps ih =>
    rw [performAll_cons, ih, editor_perform, ← List.foldl_append, dispatchedLines, dispatchedLines,
      List.zip_cons_cons, List.filterMap_cons]
    cases dispatchedLine? (step, (h.perform step).1) with
    | none => rfl
    | some line => rfl

/-- No toggle line and no blank line is ever dispatched. -/
theorem not_isToggle_of_mem_dispatchedLines {h : Host ε} {steps : List Step} {line : String}
    (hline : line ∈ dispatchedLines steps (h.performAll steps).1) :
    h.config.isToggle line = false ∧ ¬ Text.AllBlank line := by
  induction steps generalizing h with
  | nil => exact absurd hline List.not_mem_nil
  | cons step steps ih =>
    rw [performAll_cons, dispatchedLines, List.zip_cons_cons, List.filterMap_cons] at hline
    have hlater : line ∈ dispatchedLines steps ((h.perform step).2.performAll steps).1 →
        h.config.isToggle line = false ∧ ¬ Text.AllBlank line := by
      intro hmem
      rw [← config_perform h step]
      exact ih hmem
    split at hline
    · exact hlater hline
    · rename_i first hfirst
      rcases List.mem_cons.mp hline with rfl | hmem
      · cases step with
        | submit text =>
          rw [perform_submit, dispatchedLine?_submit] at hfirst
          split at hfirst
          · rename_i hears
            obtain rfl := Option.some.inj hfirst
            exact ⟨hears.1, hears.2.2⟩
          · cases hfirst
        | runScript _ | runFile _ | reveal | hide | toggle => cases hfirst
      · exact hlater hmem

end Host

theorem EditorRecord.history_foldl (e : EditorRecord) (lines : List String) :
    (lines.foldl LineEditor.addHistory e).history = e.history ++ lines := by
  induction lines generalizing e with
  | nil => exact (List.append_nil _).symm
  | cons line lines ih =>
    rw [List.foldl_cons, ih]
    exact List.append_assoc _ _ _

namespace Host

/-- **The history is the list of the dispatched lines.**  Whatever is done with a fresh host, the
lines remembered are those that were submitted and passed on and not found to be blank, as they were
typed and in order, each once and whatever became of it otherwise.  After any steps one more step
adds its line if it submits one to an open console, and the line is neither the toggle line nor
blank; a script adds nothing, nor does opening and closing the console. -/
theorem history_performAll (registry : Registry) (config : Config) (world : World)
    (terminal : Terminal) (stdout : StandardOutput) (steps : List Step) :
    let fresh := start ({} : EditorRecord) registry config world terminal stdout
    let final := (fresh.performAll steps).2
    final.editor.history = dispatchedLines steps (fresh.performAll steps).1 ∧
    (∀ line ∈ final.editor.history, config.isToggle line = false ∧ ¬ Text.AllBlank line) ∧
    (∀ step, (final.perform step).2.editor.history =
      final.editor.history ++ match step with
        | .submit line => if final.Hears line then [line] else []
        | .runScript _ | .runFile _ | .reveal | .hide | .toggle => []) ∧
    ∀ line, final.Hears line ↔
      ∃ dispatch, (final.submit line).1 = some dispatch ∧ dispatch ≠ .blank := by
  intro fresh final
  have hhistory : final.editor.history = dispatchedLines steps (fresh.performAll steps).1 := by
    rw [show final.editor = _ from editor_performAll fresh steps, EditorRecord.history_foldl]
    rfl
  refine ⟨hhistory, ?_, ?_, ?_⟩
  · rw [hhistory]
    intro line hline
    exact not_isToggle_of_mem_dispatchedLines (h := fresh) hline
  · intro step
    rw [editor_perform, EditorRecord.history_foldl]
    cases step with
    | submit line =>
      rw [perform_submit, dispatchedLine?_submit]
      dsimp only
      split
      · rfl
      · rfl
    | runScript _ | runFile _ | reveal | hide | toggle => rfl
  · intro line
    rcases submit_remembers final line with
      ⟨hears, -, hdispatch⟩ | ⟨hears, -, hnone | hblank⟩
    · exact iff_of_true hears hdispatch
    · rw [hnone]
      exact iff_of_false hears (by simp)
    · rw [hblank]
      exact iff_of_false hears (by simp)

/-- The built-in commands and one that crashes. -/
def fragile : Registry :=
  (Registry.registerAll {} (Builtin.all "." ++
    [{ names := ["boom"], help := "Crashes.", action := fun _ _ => .done (.crashed none) }])).1

/-- A console without files. -/
def idle : World := { files := { nodes := [] }, clock := fun _ => .epoch }

/-- A line for a closed console, then lines of every kind for an open one, a script among them. -/
def errandsAndLines : List Step :=
  [.submit "early", .toggle, .submit " echo hi ", .submit "\u3000", .runScript errands,
    .submit "Nope", .submit " ` ", .submit "late", .reveal, .submit "boom"]

/-- A line that completed, one that named no command and one that crashed. -/
theorem history_errandsAndLines :
    let final := ((start ({} : EditorRecord) fragile {} idle {} (.separate [])).performAll
      errandsAndLines).2
    final.editor.history = [" echo hi ", "Nope", "boom"] ∧
      ({} : Config).isToggle "Nope" = false ∧ ¬ Text.AllBlank "Nope" := by
  intro final
  obtain ⟨hhistory, hmembers, -, -⟩ :=
    history_performAll fragile {} idle {} (.separate []) errandsAndLines
  have hlines : final.editor.history = [" echo hi ", "Nope", "boom"] := hhistory.trans (by rfl)
  have hmember : "Nope" ∈ final.editor.history := by
    rw [hlines]
    decide
  exact ⟨hlines, hmembers "Nope" hmember⟩

end Host
end CommandConsole
