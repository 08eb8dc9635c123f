import CommandConsole.Proofs.Host.Submission
import CommandConsole.Proofs.Line.Joining

/-!
# The toggle line

A line that is entered is trimmed and then compared with the toggle line of the configuration, which
is not trimmed.  So what is entered may have white space around it, but what is configured may not:
a toggle line with white space at one of its ends is no trimmed text, and no line is ever equal to it
once it is trimmed (`Config.isToggle_eq_false`).  A console with such a toggle line stays open or
closed whatever is entered (`isOpen_submitAll_of_not_isTrimmed`).  With any other toggle line it is
turned over by that line alone, and nothing else happens (`submit_toggleLine_iff`).
-/
namespace CommandConsole

namespace Config

/-- The toggle line with white space around it is taken for the toggle line, unless it has some at
its own ends. -/
theorem isToggle_toggleLine_iff (config : Config) {before after : String}
    (hbefore : Text.AllBlank before) (hafter : Text.AllBlank after) :
    config.isToggle (before ++ config.toggleLine ++ after) = true ↔
      Text.IsTrimmed config.toggleLine := by
  rw [isToggle, Text.trim_append_append hbefore hafter, beq_iff_eq, Text.trim_eq_self_iff]

/-- No line is taken for a toggle line that has white space at one of its ends. -/
theorem isToggle_eq_false {config : Config} (h : ¬ Text.IsTrimmed config.toggleLine)
    (line : String) : config.isToggle line = false := by
  rw [isToggle, beq_eq_false_iff_ne]
  intro htrim
  exact h (htrim ▸ Text.isTrimmed_trim line)

end Config

/-- To toggle a console is to turn its flag over and to tell the log. -/
theorem Console.toggle_eq {σ : Type} (c : Console σ HookLog) :
    c.toggle =
      { c with
        isOpen := !c.isOpen
        world := c.world.record (if c.isOpen then .hidden else .shown) } := by
  unfold toggle
  cases hopen : c.isOpen with
  | true => rfl
  | false => rfl

namespace Host

variable {ε : Type} [LineEditor ε]

/-- With white space at an end of the toggle line, nothing that is entered opens or closes the
console. -/
theorem isOpen_submitAll_of_not_isTrimmed {h : Host ε} (ht : ¬ Text.IsTrimmed h.config.toggleLine)
    (lines : List String) : (h.submitAll lines).2.console.isOpen = h.console.isOpen := by
  have hnone : lines.countP h.config.isToggle = 0 :=
    List.countP_eq_zero.mpr fun line _ => by
      rw [Config.isToggle_eq_false ht line]
      exact Bool.false_ne_true
  rw [isOpen_submitAll, Config.openAfter, hnone, Function.iterate_zero_apply]

/-- **When the toggle line toggles.**  Whatever state the host is in, its toggle line with white
space around it turns the open flag over, is not passed on, and makes one call to a hook, which the
log tells; display, history, files and all else stay as they are.  All this is so if and only if the
toggle line has no white space at its own ends.  If it has, no lines at all open or close the
console. -/
theorem submit_toggleLine_iff (h : Host ε) {before after : String}
    (hbefore : Text.AllBlank before) (hafter : Text.AllBlank after) :
    (h.submit (before ++ h.config.toggleLine ++ after) =
        (none,
          { h with
            console.isOpen := !h.console.isOpen
            console.world :=
              h.console.world.record (if h.console.isOpen then .hidden else .shown) }) ↔
      Text.IsTrimmed h.config.toggleLine) ∧
    (¬ Text.IsTrimmed h.config.toggleLine →
      ∀ lines, (h.submitAll lines).2.console.isOpen = h.console.isOpen) := by
  refine ⟨?_, fun ht lines => isOpen_submitAll_of_not_isTrimmed ht lines⟩
  rw [← h.config.isToggle_toggleLine_iff hbefore hafter]
  constructor
  · intro hsubmit
    have hflag := isOpen_submit h (before ++ h.config.toggleLine ++ after)
    rw [hsubmit] at hflag
    by_contra hne
    rw [if_neg hne] at hflag
    simp at hflag
  · intro ht
    rw [submit_of_isToggle ht, Console.toggle_eq]

/-- A host without commands, whose console is closed. -/
def fresh (config : Config) : Host EditorRecord :=
  start {} {} config { files := { nodes := [] }, clock := fun _ => .epoch } {} (.separate [])

/-- A toggle line between a space and a wide one; and one that was configured with a space behind it,
which nothing toggles. -/
theorem submit_surrounded :
    ((fresh {}).submit " `\u3000").1 = none ∧
      ((fresh {}).submit " `\u3000").2.console.isOpen = true ∧
      ((fresh { toggleLine := "` " }).submitAll ["`", "` ", " ` "]).2.console.isOpen = false := by
  have hspace : Text.AllBlank " " := by decide
  have hwide : Text.AllBlank "\u3000" := by decide
  obtain ⟨htoggles, -⟩ := submit_toggleLine_iff (fresh {}) hspace hwide
  obtain ⟨-, hnever⟩ := submit_toggleLine_iff (fresh { toggleLine := "` " }) hspace hwide
  have hsubmit : (fresh {}).submit " `\u3000" = _ := htoggles.mpr (by decide)
  rw [hsubmit]
  exact ⟨rfl, rfl, hnever (by decide) _⟩

/-- A toggle line in spaces, entered as it was configured: it is ignored like any other line, and no
hook is called. -/
theorem submit_spacedToggleLine :
    (fresh { toggleLine := " ` " }).console.isOpen = false ∧
      ((fresh { toggleLine := " ` " }).submit ("" ++ " ` " ++ "")).2.console.isOpen = false ∧
      ((fresh { toggleLine := " ` " }).submit ("" ++ " ` " ++ "")).2.console.world.log =
        [.inputIgnored] := by
  exact ⟨rfl, rfl, rfl⟩

end Host
end CommandConsole
