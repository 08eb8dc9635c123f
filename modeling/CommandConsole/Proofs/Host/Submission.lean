import CommandConsole.Host
import Mathlib.Logic.Function.Iterate

/-!
# Lines submitted to a host

Lines that are submitted one after the other are folded over the host (`submitAll`). What a line can
change is limited: the configuration and the host's own output stay, and the console is opened or
closed by the toggle line only, since no command can get at the open flag. So after any lines the
console is open or closed by the number of toggle lines among them (`isOpen_submitAll`).
-/
namespace CommandConsole

/-- The line is the one that opens and closes the console. -/
def Config.isToggle (config : Config) (line : String) : Bool :=
  Text.trim line == config.toggleLine

/-- Whether the console is open once some lines were entered: it is turned over once for every
toggle line among them. -/
def Config.openAfter (config : Config) (isOpen : Bool) (lines : List String) : Bool :=
  not^[lines.countP config.isToggle] isOpen

theorem Config.openAfter_cons (config : Config) (isOpen : Bool) (line : String)
    (lines : List String) :
    config.openAfter isOpen (line :: lines) =
      config.openAfter (if config.isToggle line then !isOpen else isOpen) lines := by
  unfold openAfter
  rw [List.countP_cons]
  -- a toggle line among the later ones turns the flag over before they do
  split
  · rw [Function.iterate_succ_apply]
  · rw [Nat.add_zero]

namespace Host

variable {ε : Type} [LineEditor ε]

/-! ## One line -/

theorem submit_of_isToggle {h : Host ε} {line : String} (ht : h.config.isToggle line = true) :
    h.submit line = (none, { h with console := h.console.toggle }) := by
  have hreaction : Reaction.of h.config h.console.isOpen line = .toggle := by
    rw [Reaction.of, if_pos (beq_iff_eq.mp ht)]
  simp only [submit, hreaction]

theorem submit_of_closed {h : Host ε} {line : String} (ht : h.config.isToggle line = false)
    (ho : h.console.isOpen = false) :
    h.submit line =
      (none, { h with console.world := h.console.world.record .inputIgnored }) := by
  have hreaction : Reaction.of h.config h.console.isOpen line = .ignore := by
    rw [Reaction.of, if_neg (beq_eq_false_iff_ne.mp ht), ho, if_neg Bool.false_ne_true]
  simp only [submit, hreaction]

theorem submit_of_open {h : Host ε} {line : String} (ht : h.config.isToggle line = false)
    (ho : h.console.isOpen = true) :
    h.submit line =
      (some (h.console.handleInput line).1,
        { h with
          editor := if Text.trim line = "" then h.editor else LineEditor.addHistory h.editor line
          console := (h.console.handleInput line).2 }) := by
  have hreaction : Reaction.of h.config h.console.isOpen line =
      .handle (Text.trim line ≠ "") := by
    rw [Reaction.of, if_neg (beq_eq_false_iff_ne.mp ht), ho, if_pos rfl]
  simp only [submit, hreaction, decide_eq_true_eq, ite_not]

omit [LineEditor ε] in
/-- What a line is taken for: the toggle line, a line for a closed console, or one for an open
console. -/
theorem submit_cases (h : Host ε) (line : String) :
    h.config.isToggle line = true ∨
      h.config.isToggle line = false ∧ h.console.isOpen = false ∨
      h.config.isToggle line = false ∧ h.console.isOpen = true := by
  cases h.config.isToggle line <;> cases h.console.isOpen <;> simp

/-- Hosts with the same console and the same configuration handle a line alike, whatever lines their
editors keep. -/
theorem submit_congr {ε' : Type} [LineEditor ε'] {h : Host ε} {h' : Host ε'}
    (hconsole : h.console = h'.console) (hconfig : h.config = h'.config) (line : String) :
    (h.submit line).1 = (h'.submit line).1 ∧
      (h.submit line).2.console = (h'.submit line).2.console := by
  rcases submit_cases h' line with ht | ⟨ht, ho⟩ | ⟨ht, ho⟩
  · rw [submit_of_isToggle ht, submit_of_isToggle (hconfig ▸ ht), hconsole]
    exact ⟨rfl, rfl⟩
  · rw [submit_of_closed ht ho, submit_of_closed (hconfig ▸ ht) (hconsole ▸ ho), hconsole]
    exact ⟨rfl, rfl⟩
  · rw [submit_of_open ht ho, submit_of_open (hconfig ▸ ht) (hconsole ▸ ho), hconsole]
    exact ⟨rfl, rfl⟩

@[simp] theorem config_submit (h : Host ε) (line : String) :
    (h.submit line).2.config = h.config := by
  rcases submit_cases h line with ht | ⟨ht, ho⟩ | ⟨ht, ho⟩
  · rw [submit_of_isToggle ht]
  · rw [submit_of_closed ht ho]
  · rw [submit_of_open ht ho]

@[simp] theorem stdout_submit (h : Host ε) (line : String) :
    (h.submit line).2.stdout = h.stdout := by
  rcases submit_cases h line with ht | ⟨ht, ho⟩ | ⟨ht, ho⟩
  · rw [submit_of_isToggle ht]
  · rw [submit_of_closed ht ho]
  · rw [submit_of_open ht ho]

/-- The toggle line opens and closes the console; no other line does, whatever command it runs. -/
theorem isOpen_submit (h : Host ε) (line : String) :
    (h.submit line).2.console.isOpen =
      if h.config.isToggle line then !h.console.isOpen else h.console.isOpen := by
  rcases submit_cases h line with ht | ⟨ht, ho⟩ | ⟨ht, ho⟩
  · rw [submit_of_isToggle ht, ht, if_pos rfl, Console.isOpen_toggle]
  · rw [submit_of_closed ht ho, ht, if_neg Bool.false_ne_true]
  · rw [submit_of_open ht ho, ht, if_neg Bool.false_ne_true, Console.isOpen_handleInput]

/-! ## Lines one after the other -/

/-- Submits lines one after the other. -/
def submitAll (h : Host ε) : List String → List (Option Dispatch) × Host ε
  | [] => ([], h)
  | line :: lines =>
    let first := h.submit line
    let later := first.2.submitAll lines
    (first.1 :: later.1, later.2)

@[simp] theorem submitAll_cons (h : Host ε) (line : String) (lines : List String) :
    h.submitAll (line :: lines) =
      ((h.submit line).1 :: ((h.submit line).2.submitAll lines).1,
        ((h.submit line).2.submitAll lines).2) := rfl

theorem submitAll_congr {ε' : Type} [LineEditor ε'] {h : Host ε} {h' : Host ε'}
    (hconsole : h.console = h'.console) (hconfig : h.config = h'.config) (lines : List String) :
    (h.submitAll lines).1 = (h'.submitAll lines).1 ∧
      (h.submitAll lines).2.console = (h'.submitAll lines).2.console := by
  induction lines generalizing h h' with
  | nil => exact ⟨rfl, hconsole⟩
  | cons line lines ih =>
    obtain ⟨hdispatch, hafter⟩ := submit_congr hconsole hconfig line
    have hconfigs : (h.submit line).2.config = (h'.submit line).2.config := by
      rw [config_submit, config_submit, hconfig]
    obtain ⟨hdispatches, hlater⟩ := ih hafter hconfigs
    rw [submitAll_cons, submitAll_cons, hdispatch, hdispatches]
    exact ⟨rfl, hlater⟩

@[simp] theorem stdout_submitAll (h : Host ε) (lines : List String) :
    (h.submitAll lines).2.stdout = h.stdout := by
  induction lines generalizing h with
  | nil => rfl
  | cons line lines ih => rw [submitAll_cons, ih, stdout_submit]

/-- **The console is open by the number of toggle lines.** -/
theorem isOpen_submitAll (h : Host ε) (lines : List String) :
    (h.submitAll lines).2.console.isOpen = h.config.openAfter h.console.isOpen lines := by
  induction lines generalizing h with
  | nil => rfl
  | cons line lines ih =>
    rw [submitAll_cons, ih, config_submit, isOpen_submit, ← Config.openAfter_cons]

end Host
end CommandConsole
