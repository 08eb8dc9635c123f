import CommandConsole.Builtin
import CommandConsole.Host
import CommandConsole.Proofs.Completion.Offering
import CommandConsole.Proofs.Registry.Resolution

/-!
# Completion, parsing and look-up agree

Three pieces decide independently of each other what the first word of a line is: completion trims
the start of the line and looks for a space, parsing trims the line at both ends and cuts it at
every space, and look-up compares names in lowercase.  They have the same idea of it
(`complete?_agrees`).  The word is complete for the one exactly when what is typed next is a
parameter for the other; what the one offers the other finds, and a word that names a command already
is completed to a name of that command.
-/
namespace CommandConsole

namespace Completion

/-- What is offered takes the place of something in front of the cursor. -/
theorem start_ofHead_le (names : List String) (head : String) :
    (ofHead names head).start ≤ Text.size head := by
  obtain ⟨blank, word, h⟩ := Text.exists_indents head
  rw [ofHead_eq names h]
  split
  · exact Nat.le_refl _
  · rw [h.size_eq]
    exact Nat.le_add_right _ _

/-- What is offered takes the place of whole characters. -/
theorem isValid_start_ofHead (names : List String) (head tail : String) :
    (⟨(ofHead names head).start⟩ : String.Pos.Raw).IsValid (head ++ tail) := by
  obtain ⟨blank, word, h⟩ := Text.exists_indents head
  rw [ofHead_eq names h]
  split
  · exact Text.isValid_size_append head tail
  · rw [h.eq, String.append_assoc]
    exact Text.isValid_size_append blank (word ++ tail)

/-- A command that a word belongs to has a name that the word completes to. -/
theorem exists_mem_filter_of_resolve {registry : Registry} {word : String} {command : Command}
    (h : registry.resolve word = some command) :
    ∃ name ∈ command.names, name ∈ registry.names.filter (fits word) := by
  obtain ⟨own, hown, hnames, hlower⟩ := Registry.exists_mem_names_of_resolve h
  refine ⟨own, hown, List.mem_filter.mpr ⟨hnames, fits_iff.mpr ?_⟩⟩
  simp only [hlower, List.prefix_refl]

end Completion

namespace Editor

/-- **Completion, parsing and look-up agree.**  The editor of a host that was started with some
commands has an answer at every position between two characters of a line, and at no other.  What is
in front of the cursor is white space and a word.  If the parser takes what is typed next for text
after the command, nothing is offered, at the cursor.  Else all names of the commands are offered, in
order and with repetitions, whose lowercase begins with the lowercase of the word, in place of the
word; each of them belongs to a command, and if the word belongs to a command, then one of them is a
name of that command. -/
theorem complete?_agrees (registry : Registry) (editor : Editor) (config : Config) (world : World)
    (terminal : Terminal) (stdout : StandardOutput) (line : String) (cursor : Nat) :
    let offer := (Host.start editor registry config world terminal stdout).editor.complete? line
    ((offer cursor).isSome = true ↔ (⟨cursor⟩ : String.Pos.Raw).IsValid line) ∧
    ∀ head tail, line = head ++ tail → cursor = Text.size head →
      ∃ completion blank word, offer cursor = some completion ∧ Text.Indents head blank word ∧
        (⟨completion.start⟩ : String.Pos.Raw).IsValid line ∧ completion.start ≤ cursor ∧
        ((Line.parse (head ++ "x")).parameters ≠ [] → completion = ⟨cursor, []⟩) ∧
        ((Line.parse (head ++ "x")).parameters = [] →
          completion.start = Text.size blank ∧
          completion.candidates = registry.names.filter (fun name =>
            (Text.lowercase word).toList <+: (Text.lowercase name).toList) ∧
          (∀ name ∈ completion.candidates, ∃ command, registry.resolve name = some command) ∧
          ∀ command, registry.resolve word = some command →
            ∃ name ∈ command.names, name ∈ completion.candidates) := by
  intro offer
  refine ⟨?_, ?_⟩
  · show ((Text.upTo? cursor line).map _).isSome = true ↔ _
    rw [Option.isSome_map, Text.isSome_upTo?_iff]
  · rintro head tail rfl rfl
    obtain ⟨blank, word, hindents⟩ := Text.exists_indents head
    have hoffer : offer (Text.size head) = some (Completion.ofHead registry.names head) :=
      Completion.of?_append registry.names head tail
    have hparsed := Line.parameters_parse_typed_eq_nil_iff hindents
    refine ⟨_, blank, word, hoffer, hindents, Completion.isValid_start_ofHead _ head tail,
      Completion.start_ofHead_le _ head, fun hended => ?_, fun hgoing => ?_⟩
    · have hspace : ' ' ∈ word.toList := by
        by_contra hspace
        exact hended (hparsed.mpr hspace)
      rw [Completion.ofHead_eq registry.names hindents, if_pos hspace]
    · rw [Completion.ofHead_eq registry.names hindents, if_neg (hparsed.mp hgoing)]
      refine ⟨rfl, List.filter_congr fun name _ => ?_, fun name hname => ?_, fun command => ?_⟩
      · rw [Bool.eq_iff_iff, Completion.fits_iff, decide_eq_true_iff]
      · exact Registry.exists_resolve_of_mem_names (List.mem_filter.mp hname).1
      · exact Completion.exists_mem_filter_of_resolve

/-- The editor of a host for the built-in commands. -/
def builtin : Editor :=
  (Host.start (ofHistorySize 3) (Registry.registerAll {} (Builtin.all ".")).1 {}
    { files := { nodes := [] }, clock := fun _ => .epoch } {} .terminal).editor

/-- After a wide space, a capital letter that is a name already completes to a name of the command
that it belongs to. -/
theorem complete?_initial :
    (Line.parse "\u3000Hx").parameters = [] ∧
      ∃ completion, builtin.complete? "\u3000Hi" 4 = some completion ∧ completion.start = 3 ∧
        ∃ name ∈ Builtin.help.names, name ∈ completion.candidates := by
  obtain ⟨-, hoffers⟩ := complete?_agrees (Registry.registerAll {} (Builtin.all ".")).1
    (ofHistorySize 3) {} { files := { nodes := [] }, clock := fun _ => .epoch } {} .terminal
    "\u3000Hi" 4
  obtain ⟨completion, blank, word, hoffer, hindents, -, -, -, htyped⟩ :=
    hoffers "\u3000H" "i" rfl rfl
  obtain rfl : "H" = word := hindents.trimStart_eq
  obtain ⟨hstart, -, -, hown⟩ := htyped rfl
  have hblank : Text.size blank = 3 := by
    have hsize : 4 = Text.size blank + 1 := hindents.size_eq
    omega
  exact ⟨rfl, completion, hoffer, hstart.trans hblank, hown Builtin.help rfl⟩

end Editor
end CommandConsole
