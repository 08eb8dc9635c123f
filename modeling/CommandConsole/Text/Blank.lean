/-!
# White space

White space is the Unicode property `White_Space`: the ASCII blanks, the two no-break spaces, the
line and paragraph separators and the spaces of various widths. Zero-width characters and the byte
order mark are not in it. `trim` takes white space off both ends of a text and leaves the rest as
it is.
-/
namespace CommandConsole.Text

/-- The characters of the property `White_Space`. -/
def isBlank (c : Char) : Bool :=
  c == ' ' || ('\t' ≤ c && c ≤ '\r') || c == '\u0085' || c == '\u00a0' || c == '\u1680' ||
    ('\u2000' ≤ c && c ≤ '\u200a') || c == '\u2028' || c == '\u2029' || c == '\u202f' ||
    c == '\u205f' || c == '\u3000'

/-- A run of characters without the white space it starts with. -/
def stripStart (cs : List Char) : List Char := cs.dropWhile isBlank

/-- A run of characters without the white space it ends with. -/
def stripEnd (cs : List Char) : List Char := (stripStart cs.reverse).reverse

/-- A run of characters without the white space at its two ends. -/
def strip (cs : List Char) : List Char := stripEnd (stripStart cs)

/-- A text without the white space it starts with. -/
def trimStart (s : String) : String := String.ofList (stripStart s.toList)

/-- A text without the white space at its two ends. -/
def trim (s : String) : String := String.ofList (strip s.toList)

@[simp] theorem toList_trimStart (s : String) : (trimStart s).toList = stripStart s.toList :=
  String.toList_ofList

@[simp] theorem toList_trim (s : String) : (trim s).toList = strip s.toList :=
  String.toList_ofList

/-- Nothing is left of a run of characters exactly when all of it is white space. -/
theorem stripStart_eq_nil_iff (cs : List Char) :
    stripStart cs = [] ↔ ∀ c ∈ cs, isBlank c = true := by
  unfold stripStart
  induction cs with
  | nil => simp
  | cons c cs ih => cases h : isBlank c <;> simp [h, ih]

/-- What is left starts with no white space. -/
theorem not_isBlank_of_stripStart {cs ds : List Char} {c : Char} (h : stripStart cs = c :: ds) :
    isBlank c = false := by
  unfold stripStart at h
  induction cs with
  | nil => simp at h
  | cons b bs ih =>
    cases hb : isBlank b
    · simp only [List.dropWhile_cons, hb] at h
      simp at h
      exact h.1 ▸ hb
    · exact ih (by simpa [List.dropWhile_cons, hb] using h)

/-- A run of characters that starts with no white space stays as it is at its start. -/
theorem stripStart_cons_of_not_isBlank {c : Char} {cs : List Char} (h : isBlank c = false) :
    stripStart (c :: cs) = c :: cs := by
  simp [stripStart, h]

/-- A run of characters that ends with no white space stays as it is at its end. -/
theorem stripEnd_append_of_not_isBlank {c : Char} {cs : List Char} (h : isBlank c = false) :
    stripEnd (cs ++ [c]) = cs ++ [c] := by
  rw [stripEnd, List.reverse_append, List.reverse_singleton, List.singleton_append,
    stripStart_cons_of_not_isBlank h, List.reverse_cons, List.reverse_reverse]

/-- Only the end is taken off at the end. -/
theorem stripEnd_prefix (cs : List Char) : stripEnd cs <+: cs := by
  have h : stripStart cs.reverse <:+ cs.reverse := List.dropWhile_suffix _
  simpa [stripEnd] using List.reverse_prefix.mpr h

/-- What is left after stripping both ends starts with no white space. -/
theorem not_isBlank_of_strip {cs ds : List Char} {c : Char} (h : strip cs = c :: ds) :
    isBlank c = false := by
  obtain ⟨es, hes⟩ := stripEnd_prefix (stripStart cs)
  have hstart : stripStart cs = c :: (ds ++ es) := by
    rw [← hes, ← List.cons_append, ← h, strip]
  exact not_isBlank_of_stripStart hstart

end CommandConsole.Text
