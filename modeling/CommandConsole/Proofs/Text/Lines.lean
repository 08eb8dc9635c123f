import CommandConsole.Text.Lines

/-!
# Lines of texts put together

A line never looks past the line feed that ends it.  So texts of whole lines can be put in front of
any text, and the lines are those of the one and then those of the other (`lines_append`).  And
since a line loses one carriage return right before its line feed, a text without carriage returns
has the same lines when every line feed gets one (`lines_withReturns`).  The last line, which may
have no line feed, is left alone by both.

Texts that are put together with a line feed after each of them are whole lines, but they need not
be the lines that come out again: one may hold a line feed itself, or end in a carriage return, which
is lost.  Nothing else goes wrong (`lines_ofLines_eq_iff`).
-/
namespace CommandConsole.Text

/-- The text has whole lines only: it is empty, or it ends in a line feed. -/
def WholeLines (s : String) : Prop := s = "" ∨ ∃ text, s = text ++ "\n"

theorem lines_empty : lines "" = [] := rfl

/-- The lines of a text of whole lines come before those of the text that follows. -/
theorem lines_append {a : String} (ha : WholeLines a) (b : String) :
    lines (a ++ b) = lines a ++ lines b := by
  rcases ha with rfl | ⟨text, rfl⟩
  · rw [String.empty_append, lines_empty, List.nil_append]
  · have hchars : (text ++ "\n" ++ b).toList = text.toList ++ '\n' :: b.toList := by
      rw [String.toList_append, String.toList_append, List.append_assoc]
      rfl
    rw [lines, cutLines, hchars, cutLinesFrom_append_feed, List.map_append, lines, cutLines,
      String.toList_append]
    rfl

section Returns

variable {α : Type} [DecidableEq α] {feed ret : α}

/-- An input with a carriage return put before every line feed. -/
def insertReturns (feed ret : α) (input : List α) : List α :=
  input.flatMap fun c => if c = feed then [ret, feed] else [c]

theorem insertReturns_cons_feed (cs : List α) :
    insertReturns feed ret (feed :: cs) = ret :: feed :: insertReturns feed ret cs := by
  rw [insertReturns, List.flatMap_cons, if_pos rfl]
  rfl

theorem insertReturns_cons_of_ne {c : α} (hc : c ≠ feed) (cs : List α) :
    insertReturns feed ret (c :: cs) = c :: insertReturns feed ret cs := by
  rw [insertReturns, List.flatMap_cons, if_neg hc]
  rfl

/-- A line that was read without a carriage return keeps all of it. -/
theorem dropReturn_of_notMem {current : List α} (h : ret ∉ current) :
    dropReturn ret current = current := by
  cases current with
  | nil => rfl
  | cons c current =>
    have hc : c ≠ ret := fun he => h (he ▸ List.mem_cons_self)
    rw [dropReturn, if_neg hc]

/-- The carriage returns that are put before the line feeds are those that the lines lose. -/
theorem cutLinesFrom_insertReturns (hne : ret ≠ feed) {current input : List α}
    (hcurrent : ret ∉ current) (hinput : ret ∉ input) :
    cutLinesFrom feed ret current (insertReturns feed ret input) =
      cutLinesFrom feed ret current input := by
  induction input generalizing current with
  | nil => rfl
  | cons c cs ih =>
    obtain ⟨hc, hcs⟩ := not_or.mp (mt List.mem_cons.mpr hinput)
    by_cases hfeed : c = feed
    · subst hfeed
      rw [insertReturns_cons_feed, cutLinesFrom, if_neg hne, cutLinesFrom, if_pos rfl, cutLinesFrom,
        if_pos rfl, dropReturn, if_pos rfl, dropReturn_of_notMem hcurrent,
        ih List.not_mem_nil hcs]
    · have hnext : ret ∉ c :: current :=
        fun hmem => (List.mem_cons.mp hmem).elim hc hcurrent
      rw [insertReturns_cons_of_ne hfeed, cutLinesFrom, if_neg hfeed, cutLinesFrom, if_neg hfeed,
        ih hnext hcs]

end Returns

/-- A text with a carriage return put before every line feed. -/
def withReturns (s : String) : String := String.ofList (insertReturns '\n' '\r' s.toList)

/-- A text without carriage returns has the same lines with one before every line feed. -/
theorem lines_withReturns {s : String} (h : '\r' ∉ s.toList) : lines (withReturns s) = lines s := by
  rw [lines, withReturns, String.toList_ofList, cutLines,
    cutLinesFrom_insertReturns (by decide) List.not_mem_nil h]
  rfl

/-! ## Lines put together -/

section Cutting

variable {α : Type} [DecidableEq α] {feed ret : α}

/-- A line that ends in a line feed is cut off there, less a carriage return at its end. -/
theorem cutLinesFrom_line {line : List α} (h : feed ∉ line) (current rest : List α) :
    cutLinesFrom feed ret current (line ++ feed :: rest) =
      (dropReturn ret (line.reverse ++ current)).reverse :: cutLinesFrom feed ret [] rest := by
  induction line generalizing current with
  | nil => rw [List.nil_append, cutLinesFrom, if_pos rfl, List.reverse_nil, List.nil_append]
  | cons c line ih =>
    obtain ⟨hc, hline⟩ := not_or.mp (mt List.mem_cons.mpr h)
    rw [List.cons_append, cutLinesFrom, if_neg (Ne.symm hc), ih hline, List.reverse_cons,
      List.append_assoc, List.singleton_append]

theorem dropReturn_eq_self_iff {current : List α} :
    dropReturn ret current = current ↔ current.head? ≠ some ret := by
  cases current with
  | nil => simp [dropReturn]
  | cons c current =>
    by_cases hc : c = ret
    · simp [dropReturn, hc]
    · simp [dropReturn, hc]

theorem mem_of_mem_dropReturn {c : α} {current : List α} (h : c ∈ dropReturn ret current) :
    c ∈ current := by
  cases current with
  | nil => exact h
  | cons d current =>
    rw [dropReturn] at h
    split at h
    · exact List.mem_cons_of_mem _ h
    · exact h

/-- No line holds a line feed. -/
theorem notMem_of_mem_cutLinesFrom {current input line : List α} (hcurrent : feed ∉ current)
    (h : line ∈ cutLinesFrom feed ret current input) : feed ∉ line := by
  induction input generalizing current with
  | nil =>
    cases current with
    | nil => exact absurd h List.not_mem_nil
    | cons c current =>
      rw [cutLinesFrom, List.mem_singleton] at h
      rw [h, List.mem_reverse]
      exact hcurrent
  | cons c cs ih =>
    rw [cutLinesFrom] at h
    split at h
    · rcases List.mem_cons.mp h with rfl | hlater
      · rw [List.mem_reverse]
        exact mt mem_of_mem_dropReturn hcurrent
      · exact ih List.not_mem_nil hlater
    · rename_i hc
      exact ih (fun hmem => (List.mem_cons.mp hmem).elim (Ne.symm hc) hcurrent) h

end Cutting

/-- Texts put together, each with a line feed after it. -/
def ofLines (texts : List String) : String := String.join (texts.map (· ++ "\n"))

/-- The text is a line as it stands: there is no line feed in it, and no carriage return at its end.
-/
structure IsLine (s : String) : Prop where
  noFeed : '\n' ∉ s.toList
  noReturn : s.toList.getLast? ≠ some '\r'

instance (s : String) : Decidable (IsLine s) :=
  decidable_of_iff ('\n' ∉ s.toList ∧ s.toList.getLast? ≠ some '\r')
    ⟨fun h => ⟨h.1, h.2⟩, fun h => ⟨h.noFeed, h.noReturn⟩⟩

theorem ofLines_cons (text : String) (texts : List String) :
    ofLines (text :: texts) = text ++ "\n" ++ ofLines texts := by
  rw [ofLines, List.map_cons, String.join_cons, ofLines]

theorem toList_ofLines_cons (text : String) (texts : List String) :
    (ofLines (text :: texts)).toList = text.toList ++ '\n' :: (ofLines texts).toList := by
  rw [ofLines_cons, String.toList_append, String.toList_append, List.append_assoc]
  rfl

theorem ofLines_concat (texts : List String) (text : String) :
    ofLines (texts ++ [text]) = ofLines texts ++ text ++ "\n" := by
  rw [ofLines, List.map_append, String.join_append, List.map_singleton, String.join_cons,
    String.join_nil, String.append_empty, String.append_assoc]
  rfl

theorem ofLines_eq_empty_iff {texts : List String} : ofLines texts = "" ↔ texts = [] := by
  constructor
  · intro h
    cases texts with
    | nil => rfl
    | cons text texts =>
      have hchars := congrArg String.toList h
      rw [toList_ofLines_cons] at hchars
      exact absurd hchars (by simp)
  · rintro rfl
    rfl

/-- Texts without line feeds are found again between the line feeds. -/
theorem splitOn_ofLines {texts : List String} (h : ∀ text ∈ texts, '\n' ∉ text.toList) :
    (ofLines texts).toList.splitOn '\n' = texts.map String.toList ++ [[]] := by
  induction texts with
  | nil => rfl
  | cons text texts ih =>
    obtain ⟨htext, hothers⟩ := List.forall_mem_cons.mp h
    rw [toList_ofLines_cons, List.splitOn_append_cons_self_of_not_mem htext, ih hothers]
    rfl

theorem ofLines_injective {texts others : List String}
    (htexts : ∀ text ∈ texts, '\n' ∉ text.toList) (hothers : ∀ text ∈ others, '\n' ∉ text.toList)
    (h : ofLines texts = ofLines others) : texts = others := by
  have hpieces := splitOn_ofLines htexts
  rw [h, splitOn_ofLines hothers, List.append_left_inj] at hpieces
  exact ((List.map_inj_right fun _ _ => String.toList_inj.mp).mp hpieces).symm

theorem lines_ofLines_cons {text : String} (h : '\n' ∉ text.toList) (texts : List String) :
    lines (ofLines (text :: texts)) =
      String.ofList (dropReturn '\r' text.toList.reverse).reverse :: lines (ofLines texts) := by
  rw [lines, cutLines, toList_ofLines_cons, cutLinesFrom_line h, List.append_nil, List.map_cons,
    lines, cutLines]

theorem notMem_of_mem_lines {s line : String} (h : line ∈ lines s) : '\n' ∉ line.toList := by
  obtain ⟨cs, hcs, rfl⟩ := List.mem_map.mp h
  rw [String.toList_ofList]
  exact notMem_of_mem_cutLinesFrom List.not_mem_nil hcs

/-- **Texts are the lines of what they are put together to exactly if each of them is a line.** -/
theorem lines_ofLines_eq_iff {texts : List String} :
    lines (ofLines texts) = texts ↔ ∀ text ∈ texts, IsLine text := by
  -- no text can be a line if it has a line feed, whatever the other texts are
  suffices hfeeds : (∀ text ∈ texts, '\n' ∉ text.toList) →
      (lines (ofLines texts) = texts ↔ ∀ text ∈ texts, IsLine text) by
    constructor
    · intro h
      exact (hfeeds fun text htext => notMem_of_mem_lines (h.symm ▸ htext)).mp h
    · intro h
      exact (hfeeds fun text htext => (h text htext).noFeed).mpr h
  intro hfeeds
  induction texts with
  | nil => exact iff_of_true rfl fun text htext => absurd htext List.not_mem_nil
  | cons text texts ih =>
    obtain ⟨htext, hothers⟩ := List.forall_mem_cons.mp hfeeds
    have hsame : String.ofList (dropReturn '\r' text.toList.reverse).reverse = text ↔
        IsLine text := by
      rw [← String.toList_inj, String.toList_ofList, List.reverse_eq_iff, dropReturn_eq_self_iff,
        List.head?_reverse]
      exact ⟨fun h => ⟨htext, h⟩, IsLine.noReturn⟩
    rw [lines_ofLines_cons htext, List.cons_eq_cons, hsame, ih hothers, List.forall_mem_cons]

end CommandConsole.Text
