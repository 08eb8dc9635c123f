import CommandConsole.Proofs.Host.Submission
import CommandConsole.Proofs.Program.Batch
import CommandConsole.Proofs.Text.Lines

/-!
# Scripts and submitted lines

A line of a script goes straight to the console; a line that is submitted goes there only if the
console is open and the line is not the toggle line, and then it is remembered, too.  So on an open
console the two ways differ in what is remembered and in nothing else, as long as no toggle line is
among the lines (`submitAll_of_open`).  That a script does not heed the open flag was shown for its
lines already (`Console.handleAll_withOpen`).

Since all that one line leaves to the next is the state of the console, scripts that are put
together run like the one after the other (`runScript_append`), provided that no line is made up of
the end of the one and the beginning of the other.
-/
namespace CommandConsole

namespace Console

variable {σ η : Type} [Sink σ]

theorem handleAll_append (c : Console σ η) (first second : List String) :
    c.handleAll (first ++ second) =
      ((c.handleAll first).1 ++ ((c.handleAll first).2.handleAll second).1,
        ((c.handleAll first).2.handleAll second).2) := by
  induction first generalizing c with
  | nil => rfl
  | cons line lines ih =>
    simp only [List.cons_append, handleAll, ih]

@[simp] theorem isOpen_handleAll (c : Console σ η) (lines : List String) :
    (c.handleAll lines).2.isOpen = c.isOpen := by
  induction lines generalizing c with
  | nil => rfl
  | cons line lines ih =>
    rw [handleAll, ih, isOpen_handleInput]

end Console

namespace Host

variable {ε : Type} [LineEditor ε]

/-- Lines that are submitted to an open console are handled like those of a script, and they are
remembered. -/
theorem submitAll_of_open {h : Host ε} (hopen : h.console.isOpen = true) {lines : List String}
    (hlines : ∀ line ∈ lines, h.config.isToggle line = false ∧ Text.trim line ≠ "") :
    h.submitAll lines =
      ((h.console.handleAll lines).1.map some,
        { h with
          editor := lines.foldl LineEditor.addHistory h.editor
          console := (h.console.handleAll lines).2 }) := by
  induction lines generalizing h with
  | nil => rfl
  | cons line lines ih =>
    obtain ⟨⟨htoggle, hblank⟩, hothers⟩ := List.forall_mem_cons.mp hlines
    let next : Host ε := { h with
      editor := LineEditor.addHistory h.editor line
      console := (h.console.handleInput line).2 }
    have hnext : h.submit line = (some (h.console.handleInput line).1, next) := by
      rw [submit_of_open htoggle hopen, if_neg hblank]
    have hstays : next.console.isOpen = true := by
      rw [Console.isOpen_handleInput, hopen]
    have hlater := ih (h := next) hstays hothers
    rw [submitAll_cons, hnext, hlater, Console.handleAll, List.map_cons, List.foldl_cons]

end Host

/-- The dispatches that count as failures. -/
theorem Dispatch.isFailure_iff {dispatch : Dispatch} :
    dispatch.isFailure = true ↔ dispatch = .notFound ∨ dispatch = .failed := by
  cases dispatch with
  | blank | executed => exact iff_of_false Bool.false_ne_true (by simp)
  | notFound | failed => exact iff_of_true rfl (by simp)

namespace Host

variable {ε : Type}

/-- A script runs the same on a closed console as on an open one. -/
theorem runScript_withOpen (h : Host ε) (isOpen : Bool) (source : String) :
    ({ h with console.isOpen := isOpen } : Host ε).runScript source =
      ((h.runScript source).1,
        { (h.runScript source).2 with console.isOpen := isOpen }) := by
  rw [runScript_eq, runScript_eq, Console.handleScript, Console.handleScript,
    Console.handleAll_withOpen]

/-- **A script does to the console what its lines do when they are submitted.**  It does so whether
the console is open or not, and it neither opens nor closes it and is not remembered.  Where the
console is open and no line is the toggle line, the lines that hold a command can be submitted one
after the other instead: all comes out the same except that they are remembered, and those that were
not found or failed are the ones that the script counts. -/
theorem runScript_eq_submitAll [LineEditor ε] (h : Host ε) (source : String) :
    (∀ isOpen, ({ h with console.isOpen := isOpen } : Host ε).runScript source =
      ((h.runScript source).1,
        { (h.runScript source).2 with console.isOpen := isOpen })) ∧
    (h.runScript source).2.console.isOpen = h.console.isOpen ∧
    (h.runScript source).2.editor = h.editor ∧
    (h.console.isOpen = true → (∀ line ∈ Text.lines source, h.config.isToggle line = false) →
      let lines := (Text.lines source).filter (Script.HoldsCommand ·)
      (h.submitAll lines).2 =
          { (h.runScript source).2 with
            editor := lines.foldl LineEditor.addHistory h.editor } ∧
        (h.runScript source).1 =
          (h.submitAll lines).1.countP fun answer =>
            answer = some .notFound ∨ answer = some .failed) := by
  refine ⟨fun isOpen => runScript_withOpen h isOpen source, ?_, ?_, ?_⟩
  · rw [runScript_eq]
    exact Console.isOpen_handleAll _ _
  · rw [runScript_eq]
  · intro hopen htoggle lines
    have hlines : ∀ line ∈ lines, h.config.isToggle line = false ∧ Text.trim line ≠ "" := by
      intro line hline
      obtain ⟨hmem, hcommand⟩ := List.mem_filter.mp hline
      exact ⟨htoggle line hmem, (of_decide_eq_true hcommand).1⟩
    rw [submitAll_of_open hopen hlines, runScript_eq, List.countP_map]
    refine ⟨rfl, List.countP_congr fun dispatch _ => ?_⟩
    rw [Dispatch.isFailure_iff]
    simp

/-- A host with the built-in commands whose console is open. -/
def attentive : Host EditorRecord :=
  start {} (Registry.registerAll {} (Builtin.all ".")).1 { startOpen := true }
    { files := { nodes := [] }, clock := fun _ => .epoch } {} (.separate [])

/-- A script with a remark, a blank line, a line that names no command and one without an end. -/
def errands : String := "# errands\necho one\n\n Nope \ndump kept"

theorem runScript_errands :
    (attentive.submitAll ["echo one", " Nope ", "dump kept"]).2.console =
        (attentive.runScript errands).2.console ∧
      (attentive.runScript errands).1 = 1 ∧
      (attentive.runScript errands).2.editor.history = [] ∧
      ({ attentive with console.isOpen := false } : Host EditorRecord).runScript errands =
        (1, { (attentive.runScript errands).2 with console.isOpen := false }) := by
  obtain ⟨hclosed, -, heditor, hsubmitted⟩ := runScript_eq_submitAll attentive errands
  have hlines : (Text.lines errands).filter (Script.HoldsCommand ·) =
      ["echo one", " Nope ", "dump kept"] := by decide
  obtain ⟨hsame, hcount⟩ := hsubmitted rfl (by decide)
  rw [hlines] at hsame hcount
  have hone : (attentive.runScript errands).1 = 1 := by
    rw [hcount]
    rfl
  refine ⟨?_, hone, ?_, ?_⟩
  · rw [hsame]
  · rw [heditor]
    rfl
  · rw [hclosed, hone]

/-- **Scripts compose.**  A script of whole lines can be put in front of any other: together they do
what the one and then the other does, and the failures add up.  A script without carriage returns
runs the same when every line feed gets one. -/
theorem runScript_append (h : Host ε) :
    (∀ a b, Text.WholeLines a →
      h.runScript (a ++ b) =
        ((h.runScript a).1 + ((h.runScript a).2.runScript b).1,
          ((h.runScript a).2.runScript b).2)) ∧
    ∀ source : String, '\r' ∉ source.toList →
      h.runScript (Text.withReturns source) = h.runScript source := by
  constructor
  · intro a b ha
    rw [runScript_eq, runScript_eq, runScript_eq, Console.handleScript, Text.lines_append ha,
      List.filter_append, Console.handleAll_append, List.countP_append]
    rfl
  · intro source hsource
    rw [runScript_eq, runScript_eq, Console.handleScript, Text.lines_withReturns hsource]
    rfl

theorem runScript_halves :
    attentive.runScript ("echo one\n" ++ "Nope\n\necho two") =
        ((attentive.runScript "echo one\n").1 +
            ((attentive.runScript "echo one\n").2.runScript "Nope\n\necho two").1,
          ((attentive.runScript "echo one\n").2.runScript "Nope\n\necho two").2) ∧
      attentive.runScript "echo one\r\n\r\nNope" = attentive.runScript "echo one\n\nNope" := by
  obtain ⟨happend, hreturns⟩ := runScript_append attentive
  exact ⟨happend _ _ (Or.inr ⟨"echo one", rfl⟩), hreturns "echo one\n\nNope" (by decide)⟩

end Host
end CommandConsole
