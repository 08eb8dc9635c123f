import CommandConsole.Line

/-!
# Tokens of a line

Trimming takes all white space, cutting takes only the space, so a token may hold a tab, and may end
with one if another token follows it. What can stand first on a line is the text that neither of the
two touches: `CanLead` says so, and the first token of a line that is not blank is always such a
text (`canLead_command_parse`), while every such text is the first token of some line
(`parse_append_of_canLead`).
-/
namespace CommandConsole

/-- The pieces between the occurrences of a character do not hold it. -/
theorem Text.notMem_of_mem_splitOn {c : Char} {cs piece : List Char}
    (h : piece ∈ cs.splitOn c) : c ∉ piece := by
  induction cs generalizing piece with
  | nil =>
    rw [List.splitOn_nil, List.mem_singleton] at h
    subst h
    exact List.not_mem_nil
  | cons d cs ih =>
    rw [List.splitOn_cons_eq_if_modifyHead] at h
    split at h
    · rcases List.mem_cons.mp h with rfl | h
      · exact List.not_mem_nil
      · exact ih h
    · rename_i hd
      obtain ⟨first, rest, hpieces⟩ := List.exists_cons_of_ne_nil (List.splitOn_ne_nil c cs)
      rw [hpieces, List.modifyHead_cons] at h
      rcases List.mem_cons.mp h with rfl | h
      · intro hc
        rcases List.mem_cons.mp hc with rfl | hc
        · simp at hd
        · exact ih (by rw [hpieces]; exact List.mem_cons_self) hc
      · exact ih (by rw [hpieces]; exact List.mem_cons_of_mem _ h)

/-- What stands in front of the first separator goes with the first piece. -/
theorem Text.splitOn_append_of_notMem {c : Char} {word cs : List Char} (h : c ∉ word) :
    (word ++ cs).splitOn c = (cs.splitOn c).modifyHead (word ++ ·) := by
  obtain ⟨first, pieces, hpieces⟩ := List.exists_cons_of_ne_nil (List.splitOn_ne_nil c cs)
  rw [hpieces, List.modifyHead_cons]
  induction word with
  | nil => exact hpieces
  | cons d word ih =>
    obtain ⟨hd, hword⟩ := not_or.mp (mt List.mem_cons.mpr h)
    have hne : (d == c) = false := beq_eq_false_iff_ne.mpr fun he => hd he.symm
    rw [List.cons_append, List.splitOn_cons_eq_if_modifyHead, hne, if_neg Bool.false_ne_true,
      ih hword, List.modifyHead_cons, List.cons_append]

namespace Line

/-- The text can stand first on a line: it is not empty, it holds no space, and it does not begin
with white space. -/
structure CanLead (name : String) : Prop where
  ne_empty : name ≠ ""
  noSpace : ' ' ∉ name.toList
  notBlank : ∀ c cs, name.toList = c :: cs → Text.isBlank c = false

theorem canLead_of_start {word : String} (hne : word ≠ "") (hspace : ' ' ∉ word.toList)
    (hstart : ∀ c ∈ word.toList.head?, Text.isBlank c = false) : CanLead word where
  ne_empty := hne
  noSpace := hspace
  notBlank := by
    intro c cs hcs
    rw [hcs, List.head?_cons] at hstart
    exact hstart c rfl

theorem notMem_of_mem_tokens_parse {raw token : String} (h : token ∈ (parse raw).tokens) :
    ' ' ∉ token.toList := by
  rw [tokens_parse] at h
  obtain ⟨piece, hpiece, rfl⟩ := List.mem_map.mp h
  rw [String.toList_ofList]
  exact Text.notMem_of_mem_splitOn hpiece

/-- A line has parameters if a space is left in it once it is trimmed. -/
theorem parameters_parse_eq_nil_iff (raw : String) :
    (parse raw).parameters = [] ↔ ' ' ∉ (Text.trim raw).toList := by
  rw [Text.toList_trim]
  constructor
  · intro h
    have hjoin := intercalate_tokens_parse raw
    rw [tokens, h, List.map_cons, List.map_nil, List.intercalate_singleton] at hjoin
    rw [← hjoin]
    exact notMem_of_mem_tokens_parse List.mem_cons_self
  · intro h
    rw [parse, List.splitOn_eq_singleton h]
    rfl

/-- The first token of a line that is not blank begins like the trimmed line. -/
theorem command_parse_of_strip {raw : String} {c : Char} {cs : List Char}
    (h : Text.strip raw.toList = c :: cs) :
    ∃ rest, (parse raw).command.toList = c :: rest := by
  have hspace : (c == ' ') = false := by
    rw [beq_eq_false_iff_ne]
    rintro rfl
    exact absurd (Text.not_isBlank_of_strip h) (by decide)
  obtain ⟨first, rest, hpieces⟩ := List.exists_cons_of_ne_nil (List.splitOn_ne_nil ' ' cs)
  refine ⟨first, ?_⟩
  rw [parse, h, List.splitOn_cons_eq_if_modifyHead, hspace, if_neg Bool.false_ne_true, hpieces,
    List.modifyHead_cons, List.map_cons, ofTokens, String.toList_ofList]

/-- The first token of a line that is not blank can stand first. -/
theorem canLead_command_parse {raw : String} (h : Text.trim raw ≠ "") :
    CanLead (parse raw).command := by
  have hstrip : Text.strip raw.toList ≠ [] := by
    rw [← Text.toList_trim]
    exact fun he => h (String.toList_eq_nil_iff.mp he)
  obtain ⟨c, cs, hcs⟩ := List.exists_cons_of_ne_nil hstrip
  obtain ⟨rest, hrest⟩ := command_parse_of_strip hcs
  refine ⟨?_, notMem_of_mem_tokens_parse List.mem_cons_self, ?_⟩
  · rintro he
    rw [he] at hrest
    exact absurd hrest (by simp)
  · intro d ds hd
    rw [hrest] at hd
    obtain ⟨rfl, -⟩ := List.cons.inj hd
    exact Text.not_isBlank_of_strip hcs

/-- A line is blank exactly if its first token is empty. -/
theorem command_parse_eq_empty_iff {raw : String} :
    (parse raw).command = "" ↔ Text.trim raw = "" := by
  constructor
  · intro hcommand
    exact Decidable.byContradiction fun hblank => (canLead_command_parse hblank).ne_empty hcommand
  · intro hblank
    have hempty := (isEmpty_parse_iff raw).mpr hblank
    rw [isEmpty, Bool.and_eq_true, beq_iff_eq] at hempty
    exact hempty.1

/-- A text that can stand first does so where a parameter follows it.  Without the parameter, white
space at the end of the text would be trimmed off. -/
theorem parse_append_of_canLead {name : String} (h : CanLead name) :
    parse (name ++ " x") = ⟨name, ["x"]⟩ := by
  have hne : name.toList ≠ [] := fun he => h.ne_empty (String.toList_eq_nil_iff.mp he)
  obtain ⟨c, cs, hcs⟩ := List.exists_cons_of_ne_nil hne
  have hchars : (name ++ " x").toList = name.toList ++ [' '] ++ ['x'] := by
    rw [String.toList_append, List.append_assoc]
    rfl
  have hstrip : Text.strip (name ++ " x").toList = name.toList ++ ' ' :: ['x'] := by
    rw [hchars, hcs, Text.strip, List.cons_append, List.cons_append,
      Text.stripStart_cons_of_not_isBlank (h.notBlank c cs hcs), ← List.cons_append,
      ← List.cons_append, Text.stripEnd_append_of_not_isBlank (by decide), List.append_assoc]
    rfl
  rw [parse, hstrip, List.splitOn_append_cons_self_of_not_mem h.noSpace,
    List.splitOn_eq_singleton (by decide), List.map_cons, String.ofList_toList]
  rfl

end Line
end CommandConsole
