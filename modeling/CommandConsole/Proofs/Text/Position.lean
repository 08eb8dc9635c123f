import CommandConsole.Text.Utf8

/-!
# Positions in a text

A position is a number of bytes.  Cutting a text there succeeds exactly when some beginning of the
text takes up that many bytes (`upTo?_eq_some_iff`), and these are the positions that the standard
library takes for valid (`isSome_upTo?_iff`), so no position between two characters is refused and
none inside a character is accepted.
-/
namespace CommandConsole.Text

/-! ## Sizes -/

theorem charsSize_append (cs ds : List Char) :
    charsSize (cs ++ ds) = charsSize cs + charsSize ds := by
  induction cs with
  | nil => exact (Nat.zero_add _).symm
  | cons c cs ih => rw [List.cons_append, charsSize, charsSize, ih, Nat.add_assoc]

theorem size_append (s t : String) : size (s ++ t) = size s + size t := by
  rw [size, String.toList_append, charsSize_append, size, size]

/-- As many bytes are written as a text takes up. -/
theorem length_encode (s : String) : (encode s).length = size s := by
  rw [encode, size]
  induction s.toList with
  | nil => rfl
  | cons c cs ih =>
    rw [List.flatMap_cons, List.length_append, ih, String.length_utf8EncodeChar, charsSize]

theorem size_eq_utf8ByteSize (s : String) : size s = s.utf8ByteSize := by
  rw [← length_encode, ← String.size_toByteArray, ← toByteArray_encode, List.size_toByteArray]

/-! ## Cutting -/

theorem charsUpTo?_eq_some_iff {n : Nat} {cs head : List Char} :
    charsUpTo? n cs = some head ↔ ∃ tail, cs = head ++ tail ∧ charsSize head = n := by
  constructor
  · intro h
    induction cs generalizing n head with
    | nil =>
      cases n with
      | zero =>
        obtain rfl : [] = head := Option.some.inj h
        exact ⟨[], rfl, rfl⟩
      | succ n => cases h
    | cons c cs ih =>
      cases n with
      | zero =>
        obtain rfl : [] = head := Option.some.inj h
        exact ⟨c :: cs, rfl, rfl⟩
      | succ n =>
        rw [charsUpTo?] at h
        split at h
        · rename_i hfits
          obtain ⟨rest, hrest, rfl⟩ := Option.map_eq_some_iff.mp h
          obtain ⟨tail, rfl, hsize⟩ := ih hrest
          refine ⟨tail, rfl, ?_⟩
          rw [charsSize, hsize]
          omega
        · cases h
  · rintro ⟨tail, rfl, rfl⟩
    exact charsUpTo?_size head tail

/-- A text is cut where one of its beginnings ends. -/
theorem upTo?_eq_some_iff {n : Nat} {s head : String} :
    upTo? n s = some head ↔ ∃ tail, s = head ++ tail ∧ size head = n := by
  constructor
  · intro h
    obtain ⟨cs, hcs, rfl⟩ := Option.map_eq_some_iff.mp h
    obtain ⟨tail, htail, hsize⟩ := charsUpTo?_eq_some_iff.mp hcs
    refine ⟨String.ofList tail, ?_, ?_⟩
    · rw [← String.ofList_append, ← htail, String.ofList_toList]
    · rw [size, String.toList_ofList, hsize]
  · rintro ⟨tail, rfl, rfl⟩
    exact upTo?_size_append head tail

/-- A text can be cut at the positions between its characters and at no others. -/
theorem isSome_upTo?_iff {n : Nat} {s : String} :
    (upTo? n s).isSome = true ↔ (⟨n⟩ : String.Pos.Raw).IsValid s := by
  rw [Option.isSome_iff_exists, String.Pos.Raw.isValid_iff_exists_append]
  constructor
  · rintro ⟨head, hhead⟩
    obtain ⟨tail, htext, rfl⟩ := upTo?_eq_some_iff.mp hhead
    exact ⟨head, tail, htext, String.Pos.Raw.ext (size_eq_utf8ByteSize head)⟩
  · rintro ⟨head, tail, htext, hn⟩
    have hsize : n = head.utf8ByteSize := congrArg String.Pos.Raw.byteIdx hn
    exact ⟨head, upTo?_eq_some_iff.mpr ⟨tail, htext, (size_eq_utf8ByteSize head).trans hsize.symm⟩⟩

theorem isValid_size_append (s t : String) : (⟨size s⟩ : String.Pos.Raw).IsValid (s ++ t) := by
  rw [← isSome_upTo?_iff, upTo?_size_append]
  rfl

end CommandConsole.Text
