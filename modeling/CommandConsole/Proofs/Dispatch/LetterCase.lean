import CommandConsole.Proofs.Dispatch.Boundary
import CommandConsole.Proofs.Dispatch.Reachability
import CommandConsole.Proofs.Line.FirstWord
import CommandConsole.Proofs.Text.AsciiCase
import CommandConsole.Proofs.Text.Idempotence
import CommandConsole.Transcript

/-!
# Dispatch and the case of letters

A name is looked up by its lowercase, so names that are the same in lowercase belong to the same
command, at the same position (`position?_congr`).  Such are the names that differ in the case of
ASCII letters only, and a name and its lowercase.

On a line the name is the first token.  With ASCII letters of that token in another case the line is
still cut at the same places, the parameters stay as they are (`Line.SameButCommandCase.parse_eq`),
and so the line comes to the same: it is blank, or names no command, or runs the same command on the
same parameters.
-/
namespace CommandConsole

namespace Line

/-- The lines differ at most in the case of ASCII letters within the command. -/
def SameButCommandCase (raw other : String) : Prop :=
  ∃ before command after, Text.AllBlank before ∧
    raw = before ++ (parse raw).command ++ after ∧ other = before ++ command ++ after ∧
    command.toLower = (parse raw).command.toLower

variable {raw other : String}

/-- The command of the other line is the first one in another case, and the parameters are the
same. -/
theorem SameButCommandCase.parse_eq (h : SameButCommandCase raw other) :
    (parse other).parameters = (parse raw).parameters ∧
      (parse other).command.toLower = (parse raw).command.toLower := by
  obtain ⟨before, command, after, hbefore, hraw, hother, hcase⟩ := h
  by_cases hempty : (parse raw).command = ""
  · -- there are no letters in which the lines could differ
    have hcommand : command = (parse raw).command := by
      rw [hempty] at hcase ⊢
      exact Text.toLower_eq_empty_iff.mp (hcase.trans (Text.toLower_eq_empty_iff.mpr rfl))
    obtain rfl : other = raw := by
      rw [hother, hcommand, ← hraw]
    exact ⟨rfl, rfl⟩
  · have hlead := canLead_command_parse (mt command_parse_eq_empty_iff.mpr hempty)
    have hlead' := hlead.of_lowercase_eq (Text.lowercase_eq_of_toLower_eq hcase.symm)
    have hends : Text.IsTrimmed (parse raw).command → Text.IsTrimmed command := by
      rw [← Text.isTrimmed_toLower_iff, ← hcase, Text.isTrimmed_toLower_iff]
      exact id
    have hparse : parse raw = parse ((parse raw).command ++ after) := by
      conv_lhs => rw [hraw, String.append_assoc, parse_append_left hbefore]
    have hcommand : (parse ((parse raw).command ++ after)).command = (parse raw).command := by
      rw [← hparse]
    rw [hother, String.append_assoc, parse_append_left hbefore,
      parse_append_of_command_eq hlead hlead' hends hcommand, ← hparse]
    exact ⟨rfl, hcase⟩

theorem SameButCommandCase.trim_eq_empty_iff (h : SameButCommandCase raw other) :
    Text.trim other = "" ↔ Text.trim raw = "" := by
  rw [← command_parse_eq_empty_iff, ← command_parse_eq_empty_iff, ← Text.toLower_eq_empty_iff,
    h.parse_eq.2, Text.toLower_eq_empty_iff]

end Line

namespace Registry

/-- Names that are the same in lowercase belong to the command at the same position. -/
theorem position?_congr (r : Registry) {name other : String}
    (h : Text.lowercase name = Text.lowercase other) : r.position? name = r.position? other := by
  unfold position?
  simp only [Card.answersTo, h]

theorem resolve_congr (r : Registry) {name other : String}
    (h : Text.lowercase name = Text.lowercase other) : r.resolve name = r.resolve other := by
  rw [resolve_eq_position?, resolve_eq_position?, r.position?_congr h]

end Registry

namespace Console

variable {σ η : Type} [Sink σ]

/-- Lines come to the same, or run the same command, if their first tokens are the same in
lowercase. -/
theorem handleInput_congr (c : Console σ η) {raw other : String}
    (hblank : Text.trim raw = "" ↔ Text.trim other = "")
    (hlower : Text.lowercase (Line.parse raw).command =
      Text.lowercase (Line.parse other).command) :
    (c.handleInput raw).1 = .blank ∧ (c.handleInput other).1 = .blank ∨
      (c.handleInput raw).1 = .notFound ∧ (c.handleInput other).1 = .notFound ∨
      ∃ i, c.registry.Executes raw i ∧ c.registry.Executes other i := by
  by_cases hraw : Text.trim raw = ""
  · exact .inl ⟨(Handled.blank hraw).sound.1, (Handled.blank (hblank.mp hraw)).sound.1⟩
  have hother : Text.trim other ≠ "" := mt hblank.mpr hraw
  cases hresolve : c.registry.resolve (Line.parse raw).command with
  | none =>
    refine .inr (.inl ⟨(handleInput_eq_notFound_iff hraw).mpr hresolve, ?_⟩)
    rw [handleInput_eq_notFound_iff hother, ← c.registry.resolve_congr hlower, hresolve]
  | some command =>
    obtain ⟨i, hfirst⟩ := Registry.resolve_eq_some_iff.mp hresolve
    exact .inr (.inr ⟨i, Registry.executes_iff.mpr ⟨hraw, command, hfirst⟩,
      Registry.executes_iff.mpr ⟨hother, command, hfirst.congr hlower⟩⟩)

/-- **Dispatch ignores the case of letters in the command.**  Names that differ in the case of ASCII
letters belong to the same command, or neither belongs to any, and so do a name and its lowercase.
Lines that differ in the case of ASCII letters within the command are both blank, or both name no
command, or run the same command on the same parameters. -/
theorem dispatch_ignores_case (c : Console σ η) :
    (∀ name other : String, name.toLower = other.toLower →
      c.registry.position? name = c.registry.position? other ∧
        c.registry.resolve name = c.registry.resolve other) ∧
    (∀ raw other, Line.SameButCommandCase raw other →
      (Line.parse raw).parameters = (Line.parse other).parameters ∧
      ((c.handleInput raw).1 = .blank ∧ (c.handleInput other).1 = .blank ∨
        (c.handleInput raw).1 = .notFound ∧ (c.handleInput other).1 = .notFound ∨
        ∃ i, c.registry.Executes raw i ∧ c.registry.Executes other i)) ∧
    ∀ name, c.registry.position? (Text.lowercase name) = c.registry.position? name ∧
      c.registry.resolve (Text.lowercase name) = c.registry.resolve name := by
  refine ⟨fun name other h => ?_, fun raw other h => ?_, fun name => ?_⟩
  · have hlower := Text.lowercase_eq_of_toLower_eq h
    exact ⟨c.registry.position?_congr hlower, c.registry.resolve_congr hlower⟩
  · obtain ⟨hparameters, hcase⟩ := h.parse_eq
    exact ⟨hparameters.symm, c.handleInput_congr h.trim_eq_empty_iff.symm
      (Text.lowercase_eq_of_toLower_eq hcase.symm)⟩
  · have hlower := Text.lowercase_lowercase name
    exact ⟨c.registry.position?_congr hlower, c.registry.resolve_congr hlower⟩

/-- A console with one command, whose name ends in a capital sigma. -/
def lighthouse : Console Transcript Unit where
  registry := (Registry.register {}
    { names := ["PharoΣ"], help := "Lights the beacon.", action := fun _ _ => .done .completed }).1
  sink := {}
  hooks := ()
  world := { files := { nodes := [] }, clock := fun _ => .epoch }

/-- Capitals turn into small letters and the other way round, right in front of the sigma. -/
theorem dispatch_of_flippedCase :
    lighthouse.registry.resolve "pHAROΣ" = lighthouse.registry.resolve "PharoΣ" ∧
      (Line.parse "\tPHaRoΣ  on").parameters = (Line.parse "\tphArOΣ  on").parameters ∧
      (∃ i, lighthouse.registry.Executes "\tPHaRoΣ  on" i ∧
        lighthouse.registry.Executes "\tphArOΣ  on" i) ∧
      lighthouse.registry.position? (Text.lowercase "PHAROΣ") = some 0 := by
  obtain ⟨hnames, hlines, hlower⟩ := dispatch_ignores_case lighthouse
  have hname : "pHAROΣ".toLower = "PharoΣ".toLower :=
    Text.toLower_eq_toLower_iff.mpr (by decide)
  have hline : Line.SameButCommandCase "\tPHaRoΣ  on" "\tphArOΣ  on" :=
    ⟨"\t", "phArOΣ", "  on", by decide, by decide, by decide,
      Text.toLower_eq_toLower_iff.mpr (by decide)⟩
  obtain ⟨hparameters, ⟨hblank, -⟩ | ⟨hnone, -⟩ | hsame⟩ := hlines _ _ hline
  · exact absurd hblank (by decide +kernel)
  · exact absurd hnone (by decide +kernel)
  · exact ⟨(hnames _ _ hname).2, hparameters, hsame,
      (hlower "PHAROΣ").1.trans (by decide +kernel)⟩

end Console
end CommandConsole
