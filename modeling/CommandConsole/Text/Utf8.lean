/-!
# Text as bytes

Files and streams hold bytes; texts are written to them in UTF-8. `decode?` reads exactly what
`encode` writes and refuses all else. Positions in a line are byte offsets, and `upTo?` is the part
of a text before such an offset, if the offset falls between two characters.
-/
namespace CommandConsole

/-- The content of a file or of a stream. -/
abbrev Bytes := List UInt8

namespace Text

/-- The bytes of a text. -/
def encode (s : String) : Bytes := s.toList.flatMap String.utf8EncodeChar

/-- The text whose bytes these are, if there is one. -/
def decode? (bytes : Bytes) : Option String := String.fromUTF8? bytes.toByteArray

/-- The number of bytes of a run of characters. -/
def charsSize : List Char → Nat
  | [] => 0
  | c :: cs => c.utf8Size + charsSize cs

/-- The number of bytes of a text. -/
def size (s : String) : Nat := charsSize s.toList

/-- The characters that take up exactly the first `n` bytes. -/
def charsUpTo? : Nat → List Char → Option (List Char)
  | 0, _ => some []
  | _ + 1, [] => none
  | n + 1, c :: cs =>
    if c.utf8Size ≤ n + 1 then (charsUpTo? (n + 1 - c.utf8Size) cs).map (c :: ·) else none

/-- The part of a text before byte offset `n`; none if the text is shorter or the offset falls
inside a character. -/
def upTo? (n : Nat) (s : String) : Option String := (charsUpTo? n s.toList).map String.ofList

@[simp] theorem encode_append (s t : String) : encode (s ++ t) = encode s ++ encode t := by
  simp [encode]

/-- What is written of a text is what the text is made of. -/
theorem toByteArray_encode (s : String) : (encode s).toByteArray = s.toByteArray := by
  rw [← String.ofList_toList (s := s), String.toByteArray_ofList]
  simp [encode, List.utf8Encode]

/-- What was written can be read. -/
theorem decode?_encode (s : String) : decode? (encode s) = some s := by
  unfold decode?
  rw [toByteArray_encode, String.fromUTF8?, dif_pos s.isValidUTF8]
  rfl

theorem charsUpTo?_size (a b : List Char) : charsUpTo? (charsSize a) (a ++ b) = some a := by
  induction a with
  | nil => simp [charsSize, charsUpTo?]
  | cons c a ih =>
    have hc := c.utf8Size_pos
    obtain ⟨n, hn⟩ : ∃ n, c.utf8Size + charsSize a = n + 1 :=
      ⟨c.utf8Size + charsSize a - 1, by omega⟩
    have hs : n + 1 - c.utf8Size = charsSize a := by omega
    have hle : c.utf8Size ≤ n + 1 := by omega
    rw [charsSize, hn, List.cons_append, charsUpTo?, ite_cond_eq_true _ _ (by simp [hle]), hs, ih]
    rfl

/-- A text in front of another is the part before its own size. -/
theorem upTo?_size_append (s t : String) : upTo? (size s) (s ++ t) = some s := by
  simp [upTo?, size, charsUpTo?_size]

end Text
end CommandConsole
