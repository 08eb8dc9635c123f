import CommandConsole.Text.Utf8
import Mathlib.Data.List.Infix

/-!
# Marks in a stream

A mark is a sequence that stands for something else than itself where it occurs in a stream.  Two
things are read off a stream here: what stands after the last place of a mark (`afterLast`), and what
is left when marks are deleted (`without`).  Both only look at the stream, wherever it comes from.

Marks that begin with an element of their own are easy to find: no mark begins inside a stretch
without that element, so the stretch can be passed over (`fromEach_append_of_notMem`,
`without_append_of_notMem`).  In UTF-8 every ASCII character is such an element, since its byte occurs
in no other character (`notMem_encode`).
-/
namespace CommandConsole.Text

variable {α : Type} [DecidableEq α]

/-! ## Finding a mark -/

/-- The ends of a stream that begin with a mark, one for each place where it occurs. -/
def fromEach (mark stream : List α) : List (List α) := stream.tails.filter (mark.isPrefixOf ·)

/-- What stands after the last place of a mark, or all of the stream if the mark does not occur. -/
def afterLast (mark stream : List α) : List α :=
  match (fromEach mark stream).getLast? with
  | some last => last.drop mark.length
  | none => stream

variable {start c : α} {mark stretch stream rest : List α}

theorem fromEach_cons_of_ne (h : c ≠ start) :
    fromEach (start :: mark) (c :: stream) = fromEach (start :: mark) stream := by
  have hmark : (start :: mark).isPrefixOf (c :: stream) = false := by
    rw [List.isPrefixOf, beq_eq_false_iff_ne.mpr (Ne.symm h), Bool.false_and]
  rw [fromEach, List.tails_cons, List.filter_cons, hmark, if_neg Bool.false_ne_true, fromEach]

theorem fromEach_append_of_notMem (h : start ∉ stretch) :
    fromEach (start :: mark) (stretch ++ rest) = fromEach (start :: mark) rest := by
  induction stretch with
  | nil => rfl
  | cons c stretch ih =>
    obtain ⟨hc, hothers⟩ := not_or.mp (mt List.mem_cons.mpr h)
    rw [List.cons_append, fromEach_cons_of_ne (Ne.symm hc), ih hothers]

/-- What is found in the end of a stream is found last in all of it. -/
theorem exists_fromEach_append (mark before rest : List α) :
    ∃ earlier, fromEach mark (before ++ rest) = earlier ++ fromEach mark rest := by
  induction before with
  | nil => exact ⟨[], rfl⟩
  | cons c before ih =>
    obtain ⟨earlier, hearlier⟩ := ih
    unfold fromEach at hearlier ⊢
    rw [List.cons_append, List.tails_cons, List.filter_cons, hearlier]
    split
    · exact ⟨_ :: earlier, rfl⟩
    · exact ⟨earlier, rfl⟩

theorem afterLast_of_fromEach_eq_nil (h : fromEach mark stream = []) :
    afterLast mark stream = stream := by
  rw [afterLast, h]
  rfl

/-- A mark is the last one if none begins behind its first element. -/
theorem afterLast_append {before : List α} (h : fromEach mark (mark ++ rest) = [mark ++ rest]) :
    afterLast mark (before ++ (mark ++ rest)) = rest := by
  obtain ⟨earlier, hearlier⟩ := exists_fromEach_append mark before (mark ++ rest)
  rw [afterLast, hearlier, h, List.getLast?_concat]
  exact List.drop_left

/-! ## Deleting marks -/

/-- A stream without the elements that are still to be skipped, and without marks after these. -/
def withoutFrom (marks : List (List α)) : Nat → List α → List α
  | _, [] => []
  | skip + 1, _ :: stream => withoutFrom marks skip stream
  | 0, c :: stream =>
    match marks.find? (·.isPrefixOf (c :: stream)) with
    | some mark => withoutFrom marks (mark.length - 1) stream
    | none => c :: withoutFrom marks 0 stream

/-- A stream from which all marks are deleted, none of which is empty. -/
def without (marks : List (List α)) (stream : List α) : List α := withoutFrom marks 0 stream

/-- Marks that begin with an element of their own leave a stretch without it as it is. -/
theorem without_append_of_notMem {marks : List (List α)}
    (hmarks : ∀ mark ∈ marks, mark.head? = some start) (h : start ∉ stretch) :
    without marks (stretch ++ rest) = stretch ++ without marks rest := by
  induction stretch with
  | nil => rfl
  | cons c stretch ih =>
    obtain ⟨hc, hothers⟩ := not_or.mp (mt List.mem_cons.mpr h)
    have hnone : marks.find? (·.isPrefixOf (c :: (stretch ++ rest))) = none := by
      refine List.find?_eq_none.mpr fun mark hmark hprefix => ?_
      obtain ⟨body, rfl⟩ := List.head?_eq_some_iff.mp (hmarks mark hmark)
      obtain ⟨hstart, -⟩ := List.cons_prefix_cons.mp (List.isPrefixOf_iff_prefix.mp hprefix)
      exact hc hstart
    unfold without at ih ⊢
    rw [List.cons_append, withoutFrom, hnone]
    exact congrArg (c :: ·) (ih hothers)

/-! ## Texts in a stream of bytes -/

/-- A byte below 128 is found in one character only, the one with that number. -/
theorem toNat_of_mem_utf8EncodeChar {c : Char} {b : UInt8} (hb : b.toNat < 128)
    (h : b ∈ String.utf8EncodeChar c) : c.toNat = b.toNat := by
  -- every byte of a longer code has its highest bit set
  have hhigh {n k : Nat} (hk : 128 ≤ k) (hn : n + k < 256) : b ≠ UInt8.ofNat (n + k) := by
    rintro rfl
    rw [UInt8.toNat_ofNat', Nat.mod_eq_of_lt hn] at hb
    omega
  rw [String.utf8EncodeChar] at h
  split at h
  · rename_i hascii
    rw [List.mem_singleton] at h
    rw [h, UInt8.toNat_ofNat', Nat.mod_eq_of_lt (by omega)]
    rfl
  · refine absurd h ?_
    split
    · simp only [List.mem_cons, List.not_mem_nil, or_false, not_or]
      exact ⟨hhigh (by decide) (by omega), hhigh (by decide) (by omega)⟩
    · split
      · simp only [List.mem_cons, List.not_mem_nil, or_false, not_or]
        exact ⟨hhigh (by decide) (by omega), hhigh (by decide) (by omega),
          hhigh (by decide) (by omega)⟩
      · simp only [List.mem_cons, List.not_mem_nil, or_false, not_or]
        exact ⟨hhigh (by decide) (by omega), hhigh (by decide) (by omega),
          hhigh (by decide) (by omega), hhigh (by decide) (by omega)⟩

/-- A text without an ASCII character has no byte of that character in it. -/
theorem notMem_encode {c : Char} {b : UInt8} (hc : c.toNat = b.toNat) (hb : b.toNat < 128)
    {s : String} (h : c ∉ s.toList) : b ∉ encode s := by
  intro hmem
  obtain ⟨d, hd, hbyte⟩ := List.mem_flatMap.mp hmem
  have hsame : d.toNat = c.toNat := (toNat_of_mem_utf8EncodeChar hb hbyte).trans hc.symm
  exact h (Char.toNat_inj.mp hsame ▸ hd)

end CommandConsole.Text
