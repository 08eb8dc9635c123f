import CommandConsole.Proofs.Line.Joining
import CommandConsole.Proofs.Text.Position

/-!
# The first word of a line

A text is the white space that it starts with and then its word, which is all the rest (`Indents`).
A line is the word of such a text and what comes after it; that the word has ended is to be seen
from a space in it.

What comes after a word is cut into the same pieces, whatever the word is: the first piece goes with
the word, and the others are the parameters (`exists_parse_append`).  If nothing but white space
comes after the word, it is trimmed off, and white space at the end of the word with it.  There are
no parameters then, with any word.
-/
namespace CommandConsole

namespace Text

/-- The text is a word with white space in front of it. -/
structure Indents (s blank word : String) : Prop where
  eq : s = blank ++ word
  allBlank : AllBlank blank
  start : ∀ c ∈ word.toList.head?, isBlank c = false

theorem exists_indents (s : String) : ∃ blank word, Indents s blank word := by
  refine ⟨String.ofList (s.toList.takeWhile isBlank), trimStart s, ?_, ?_, ?_⟩
  · rw [← String.toList_inj, String.toList_append, String.toList_ofList, toList_trimStart]
    exact List.takeWhile_append_dropWhile.symm
  · intro c hc
    rw [String.toList_ofList] at hc
    exact List.mem_takeWhile_imp hc
  · intro c hc
    rw [toList_trimStart] at hc
    obtain ⟨cs, hcs⟩ := List.head?_eq_some_iff.mp hc
    exact not_isBlank_of_stripStart hcs

theorem indents_self {word : String} (h : ∀ c ∈ word.toList.head?, isBlank c = false) :
    Indents word "" word :=
  ⟨String.empty_append.symm, allBlank_empty, h⟩

theorem Indents.trimStart_eq {s blank word : String} (h : Indents s blank word) :
    trimStart s = word := by
  rw [← String.toList_inj, toList_trimStart, h.eq, String.toList_append, stripStart,
    List.dropWhile_append_of_pos h.allBlank]
  exact stripStart_eq_self h.start

theorem Indents.size_eq {s blank word : String} (h : Indents s blank word) :
    size s = size blank + size word := by
  rw [h.eq, size_append]

/-- A text that is not all white space has a word. -/
theorem Indents.ne_empty {s blank word : String} (h : Indents s blank word) (hs : ¬ AllBlank s) :
    word ≠ "" := by
  rintro rfl
  rw [h.eq, String.append_empty] at hs
  exact hs h.allBlank

end Text

namespace Line

/-- Text typed after a word belongs to the word, unless the word holds a space. -/
theorem parameters_parse_typed_eq_nil_iff {head blank word : String}
    (h : Text.Indents head blank word) :
    (parse (head ++ "x")).parameters = [] ↔ ' ' ∉ word.toList := by
  have htrimmed : Text.IsTrimmed (word ++ "x") := by
    refine ⟨fun c hc => ?_, fun c hc => ?_⟩
    · rw [String.toList_append, List.head?_append] at hc
      cases hword : word.toList.head? with
      | some d =>
        rw [hword, Option.some_or] at hc
        exact h.start c (hword ▸ hc)
      | none =>
        rw [hword, Option.none_or] at hc
        obtain rfl : 'x' = c := Option.some.inj hc
        rfl
    · rw [String.toList_append] at hc
      have hlast : (word.toList ++ "x".toList).getLast? = some 'x' := List.getLast?_concat
      obtain rfl : 'x' = c := Option.some.inj (hlast.symm.trans hc)
      rfl
  have htrim : Text.trim (head ++ "x") = word ++ "x" := by
    refine Text.trimsTo_iff.mp ⟨htrimmed, blank, "", h.allBlank, Text.allBlank_empty, ?_⟩
    rw [h.eq, String.append_assoc, String.append_empty]
  rw [parameters_parse_eq_nil_iff, htrim, String.toList_append, List.mem_append]
  exact not_congr (or_iff_left (by decide))

/-- A word with white space after it is the command, as far as it is not white space itself. -/
theorem parse_append_of_allBlank {word tail : String} (hword : CanLead word)
    (htail : Text.AllBlank tail) : parse (word ++ tail) = ⟨Text.trim word, []⟩ := by
  have hspace : ' ' ∉ (Text.trim word).toList := by
    obtain ⟨before, after, -, -, hchars⟩ := Text.exists_append_strip word.toList
    rw [Text.toList_trim]
    intro hmem
    refine hword.noSpace ?_
    rw [hchars]
    exact List.mem_append_left _ (List.mem_append_right _ hmem)
  rw [parse_append_right htail]
  refine ext_tokens (tokens_parse_eq_iff.mpr ⟨List.cons_ne_nil _ _, ?_, ?_⟩)
  · intro token htoken
    obtain rfl := List.mem_singleton.mp htoken
    exact hspace
  · exact Text.trimsTo_iff.mpr rfl

/-- What comes after a word and is not white space throughout is cut into the same pieces, whatever
the word is. -/
theorem exists_parse_append_of_not_allBlank {tail : String} (htail : ¬ Text.AllBlank tail) :
    ∃ rest parameters, ∀ word, CanLead word →
      parse (word ++ tail) = ⟨word ++ rest, parameters⟩ := by
  obtain ⟨first, pieces, hpieces⟩ :=
    List.exists_cons_of_ne_nil (List.splitOn_ne_nil ' ' (Text.stripEnd tail.toList))
  refine ⟨String.ofList first, pieces.map String.ofList, fun word hword => ?_⟩
  have hstart : Text.stripStart (word ++ tail).toList = word.toList ++ tail.toList := by
    have hne : word.toList ≠ [] := fun he => hword.ne_empty (String.toList_eq_nil_iff.mp he)
    obtain ⟨c, cs, hcs⟩ := List.exists_cons_of_ne_nil hne
    rw [String.toList_append, hcs, List.cons_append]
    exact Text.stripStart_cons_of_not_isBlank (hword.notBlank c cs hcs)
  rw [parse, Text.strip, hstart, Text.stripEnd_append htail,
    Text.splitOn_append_of_notMem hword.noSpace, hpieces, List.modifyHead_cons, List.map_cons,
    String.ofList_append, String.ofList_toList]
  rfl

/-- **The parameters do not depend on the command.**  What follows the first word of a line goes on
with the command first and then gives the parameters, the same ones whatever the word is. -/
theorem exists_parse_append (tail : String) :
    ∃ rest parameters, ∀ word, CanLead word →
      (parse (word ++ tail)).parameters = parameters ∧
        (Text.IsTrimmed word → (parse (word ++ tail)).command = word ++ rest) := by
  by_cases htail : Text.AllBlank tail
  · refine ⟨"", [], fun word hword => ?_⟩
    rw [parse_append_of_allBlank hword htail]
    refine ⟨rfl, fun htrimmed => ?_⟩
    rw [String.append_empty]
    exact Text.trim_eq_self_iff.mpr htrimmed
  · obtain ⟨rest, parameters, hparse⟩ := exists_parse_append_of_not_allBlank htail
    refine ⟨rest, parameters, fun word hword => ?_⟩
    rw [hparse word hword]
    exact ⟨rfl, fun _ => rfl⟩

/-- Another word in place of the command makes no difference to the rest of the line.  White space
at the end of the word would, if nothing came after it. -/
theorem parse_append_of_command_eq {word other tail : String} (hword : CanLead word)
    (hother : CanLead other) (hends : Text.IsTrimmed word → Text.IsTrimmed other)
    (h : (parse (word ++ tail)).command = word) :
    parse (other ++ tail) = ⟨other, (parse (word ++ tail)).parameters⟩ := by
  by_cases htail : Text.AllBlank tail
  · rw [parse_append_of_allBlank hword htail] at h ⊢
    rw [parse_append_of_allBlank hother htail,
      Text.trim_eq_self_iff.mpr (hends (Text.trim_eq_self_iff.mp h))]
  · obtain ⟨rest, parameters, hparse⟩ := exists_parse_append_of_not_allBlank htail
    rw [hparse word hword] at h ⊢
    obtain rfl : rest = "" := by
      have hchars := congrArg String.toList h
      rw [String.toList_append, List.append_right_eq_self] at hchars
      exact String.toList_eq_nil_iff.mp hchars
    rw [hparse other hother, String.append_empty]

end Line
end CommandConsole
