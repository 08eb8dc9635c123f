import CommandConsole.Proofs.Line.Tokens
import Mathlib.Data.List.TakeWhile

/-!
# Taking a line apart and joining its tokens

Tokens are joined by single spaces.  Joining and parsing undo each other as far as they can: white
space around a line is lost, and nothing else is.  So the tokens of a line are described without the
parser (`tokens_parse_eq_iff`): they hold no space, and the line is their join with white space on
either side, where the join itself neither begins nor ends with white space.

Two kinds of white space meet here.  Any white space is trimmed off the two ends of a line, but only
the space separates tokens.  So a tab may stand anywhere in a token where trimming does not get at
it: at the end of the first token, say, if another token follows.
-/
namespace CommandConsole

namespace Text

/-! ## Trimmed texts -/

/-- All of the text is white space. -/
def AllBlank (s : String) : Prop := ∀ c ∈ s.toList, isBlank c = true

/-- The text neither begins nor ends with white space. -/
structure IsTrimmed (s : String) : Prop where
  start : ∀ c ∈ s.toList.head?, isBlank c = false
  finish : ∀ c ∈ s.toList.getLast?, isBlank c = false

instance (s : String) : Decidable (AllBlank s) :=
  decidable_of_iff (s.toList.all isBlank = true) List.all_eq_true

theorem isTrimmed_iff {s : String} : IsTrimmed s ↔
    s.toList.head?.all (!isBlank ·) = true ∧ s.toList.getLast?.all (!isBlank ·) = true := by
  simp only [Option.all_eq_true, Bool.not_eq_true']
  constructor
  · rintro ⟨hstart, hfinish⟩
    exact ⟨hstart, hfinish⟩
  · rintro ⟨hstart, hfinish⟩
    exact ⟨hstart, hfinish⟩

instance (s : String) : Decidable (IsTrimmed s) := decidable_of_iff _ isTrimmed_iff.symm

/-- A text is trimmed if it begins with no white space and ends with none. -/
theorem isTrimmed_append {s t : String} (hs : ∀ c ∈ s.toList.head?, isBlank c = false)
    (ht : ∀ c ∈ t.toList.getLast?, isBlank c = false) (hsne : s ≠ "") (htne : t ≠ "")
    (between : String) : IsTrimmed (s ++ between ++ t) where
  start := by
    obtain ⟨d, ds, hds⟩ := List.exists_cons_of_ne_nil (mt String.toList_eq_nil_iff.mp hsne)
    have hhead : (s ++ between ++ t).toList.head? = s.toList.head? := by
      rw [String.toList_append, String.toList_append, hds]
      rfl
    rw [hhead]
    exact hs
  finish := by
    have hlast : (s ++ between ++ t).toList.getLast? = t.toList.getLast? := by
      have hne := mt String.toList_eq_nil_iff.mp htne
      rw [String.toList_append, List.getLast?_append, List.getLast?_eq_some_getLast hne]
      rfl
    rw [hlast]
    exact ht

/-- The text is what is left of a raw one without the white space at its two ends. -/
def TrimsTo (raw text : String) : Prop :=
  IsTrimmed text ∧
    ∃ before after, AllBlank before ∧ AllBlank after ∧ raw = before ++ text ++ after

/-- The text is what is left of a raw one without the white space at its end. -/
def TrimsEndTo (raw text : String) : Prop :=
  (∀ c ∈ text.toList.getLast?, isBlank c = false) ∧ ∃ after, AllBlank after ∧ raw = text ++ after

theorem allBlank_empty : AllBlank "" := by
  intro c hc
  simp at hc

theorem AllBlank.append {s t : String} (hs : AllBlank s) (ht : AllBlank t) : AllBlank (s ++ t) := by
  intro c hc
  rw [String.toList_append, List.mem_append] at hc
  rcases hc with hc | hc
  · exact hs c hc
  · exact ht c hc

theorem stripStart_eq_self {cs : List Char} (h : ∀ c ∈ cs.head?, isBlank c = false) :
    stripStart cs = cs := by
  cases cs with
  | nil => rfl
  | cons c cs => exact stripStart_cons_of_not_isBlank (h c rfl)

theorem stripEnd_eq_self {cs : List Char} (h : ∀ c ∈ cs.getLast?, isBlank c = false) :
    stripEnd cs = cs := by
  rw [stripEnd, stripStart_eq_self (by rwa [List.head?_reverse]), List.reverse_reverse]

theorem stripEnd_append_of_isBlank {cs after : List Char} (h : ∀ c ∈ after, isBlank c = true) :
    stripEnd (cs ++ after) = stripEnd cs := by
  have hreverse : ∀ c ∈ after.reverse, isBlank c = true := fun c hc => h c (List.mem_reverse.mp hc)
  rw [stripEnd, List.reverse_append, stripStart, List.dropWhile_append_of_pos hreverse]
  rfl

/-- Only what comes last is trimmed at the end, unless it is white space throughout. -/
theorem stripEnd_append {cs ds : List Char} (h : ¬ ∀ d ∈ ds, isBlank d = true) :
    stripEnd (cs ++ ds) = cs ++ stripEnd ds := by
  have hne : stripStart ds.reverse ≠ [] := by
    intro he
    exact h fun d hd => (stripStart_eq_nil_iff _).mp he d (List.mem_reverse.mpr hd)
  have hkept : stripStart (ds.reverse ++ cs.reverse) = stripStart ds.reverse ++ cs.reverse := by
    rw [stripStart, List.dropWhile_append]
    exact if_neg fun he => hne (List.isEmpty_iff.mp he)
  rw [stripEnd, List.reverse_append, hkept, List.reverse_append, List.reverse_reverse, stripEnd]

/-- White space around a run of characters is lost, whatever the run is. -/
theorem strip_append_append {before cs after : List Char} (hbefore : ∀ c ∈ before, isBlank c = true)
    (hafter : ∀ c ∈ after, isBlank c = true) : strip (before ++ cs ++ after) = strip cs := by
  have hstart : stripStart (before ++ cs ++ after) = stripStart (cs ++ after) := by
    rw [List.append_assoc, stripStart, List.dropWhile_append_of_pos hbefore]
    rfl
  rw [strip, hstart, stripStart, List.dropWhile_append]
  split
  · -- the run is white space itself, and what comes after it goes with it
    rename_i hempty
    have hrun : stripStart cs = [] := List.isEmpty_iff.mp hempty
    have hrest : after.dropWhile isBlank = [] := (stripStart_eq_nil_iff after).mpr hafter
    rw [strip, hrun, hrest]
  · exact stripEnd_append_of_isBlank hafter

/-- What is taken off at the end is the white space there. -/
theorem stripEnd_append_takeWhile (cs : List Char) :
    stripEnd cs ++ (cs.reverse.takeWhile isBlank).reverse = cs := by
  rw [stripEnd, ← List.reverse_append, List.reverse_eq_iff]
  exact List.takeWhile_append_dropWhile

theorem not_isBlank_of_mem_getLast?_stripEnd {cs : List Char} {c : Char}
    (h : c ∈ (stripEnd cs).getLast?) : isBlank c = false := by
  rw [stripEnd, List.getLast?_reverse] at h
  obtain ⟨rest, hrest⟩ := List.head?_eq_some_iff.mp h
  exact not_isBlank_of_stripStart hrest

/-- A run of characters is what is left of it, with white space on either side. -/
theorem exists_append_strip (cs : List Char) :
    ∃ before after, (∀ c ∈ before, isBlank c = true) ∧ (∀ c ∈ after, isBlank c = true) ∧
      cs = before ++ strip cs ++ after := by
  refine ⟨cs.takeWhile isBlank, ((stripStart cs).reverse.takeWhile isBlank).reverse, ?_, ?_, ?_⟩
  · exact fun c hc => List.mem_takeWhile_imp hc
  · exact fun c hc => List.mem_takeWhile_imp (List.mem_reverse.mp hc)
  · rw [List.append_assoc, strip, stripEnd_append_takeWhile]
    exact List.takeWhile_append_dropWhile.symm

theorem isTrimmed_trim (s : String) : IsTrimmed (trim s) where
  start := by
    intro c hc
    rw [toList_trim] at hc
    obtain ⟨cs, hcs⟩ := List.head?_eq_some_iff.mp hc
    exact not_isBlank_of_strip hcs
  finish := by
    intro c hc
    rw [toList_trim, strip] at hc
    exact not_isBlank_of_mem_getLast?_stripEnd hc

/-- Trimming does what it is meant to do, and only that. -/
theorem trimsTo_iff {raw text : String} : TrimsTo raw text ↔ trim raw = text := by
  constructor
  · rintro ⟨htext, before, after, hbefore, hafter, rfl⟩
    rw [← String.toList_inj, toList_trim, String.toList_append, String.toList_append,
      strip_append_append hbefore hafter, strip, stripStart_eq_self htext.start,
      stripEnd_eq_self htext.finish]
  · rintro rfl
    obtain ⟨before, after, hbefore, hafter, hraw⟩ := exists_append_strip raw.toList
    refine ⟨isTrimmed_trim raw, String.ofList before, String.ofList after, ?_, ?_, ?_⟩
    · rwa [AllBlank, String.toList_ofList]
    · rwa [AllBlank, String.toList_ofList]
    · rw [← String.toList_inj, String.toList_append, String.toList_append, toList_trim,
        String.toList_ofList, String.toList_ofList]
      exact hraw

/-- Trimming leaves a text as it is exactly if the text has no white space at its ends. -/
theorem trim_eq_self_iff {s : String} : trim s = s ↔ IsTrimmed s := by
  constructor
  · intro h
    rw [← h]
    exact isTrimmed_trim s
  · intro h
    refine trimsTo_iff.mp ⟨h, "", "", allBlank_empty, allBlank_empty, ?_⟩
    rw [String.empty_append, String.append_empty]

/-- White space around a text is trimmed off with what the text has of it. -/
theorem trim_append_append {before after : String} (hbefore : AllBlank before)
    (hafter : AllBlank after) (s : String) : trim (before ++ s ++ after) = trim s := by
  rw [← String.toList_inj, toList_trim, toList_trim, String.toList_append, String.toList_append,
    strip_append_append hbefore hafter]

theorem exists_trimsEndTo (s : String) : ∃ text, TrimsEndTo s text := by
  refine ⟨String.ofList (stripEnd s.toList), fun c hc => ?_,
    String.ofList (s.toList.reverse.takeWhile isBlank).reverse, fun c hc => ?_, ?_⟩
  · rw [String.toList_ofList] at hc
    exact not_isBlank_of_mem_getLast?_stripEnd hc
  · rw [String.toList_ofList] at hc
    exact List.mem_takeWhile_imp (List.mem_reverse.mp hc)
  · rw [← String.ofList_append, stripEnd_append_takeWhile, String.ofList_toList]

/-- Only one text is left without the white space at the end. -/
theorem TrimsEndTo.unique {s text other : String} (h : TrimsEndTo s text)
    (hother : TrimsEndTo s other) : text = other := by
  have hleft {text : String} (h : TrimsEndTo s text) : stripEnd s.toList = text.toList := by
    obtain ⟨hfinish, after, hafter, rfl⟩ := h
    rw [String.toList_append, stripEnd_append_of_isBlank hafter, stripEnd_eq_self hfinish]
  rw [← String.toList_inj, ← hleft h, hleft hother]

theorem trim_eq_empty_iff {s : String} : trim s = "" ↔ AllBlank s := by
  rw [← trimsTo_iff]
  constructor
  · rintro ⟨-, before, after, hbefore, hafter, rfl⟩
    rw [String.append_empty]
    exact hbefore.append hafter
  · intro h
    refine ⟨⟨fun c hc => ?_, fun c hc => ?_⟩, s, "", h, fun c hc => ?_, ?_⟩
    · simp at hc
    · simp at hc
    · simp at hc
    · rw [String.append_empty, String.append_empty]

end Text

namespace Line

/-! ## Joined tokens -/

/-- **What the tokens of a line are.**  They hold no space, and joined by single spaces they are the
trimmed line. -/
theorem tokens_parse_eq_iff {raw : String} {tokens : List String} :
    (parse raw).tokens = tokens ↔
      tokens ≠ [] ∧ (∀ token ∈ tokens, ' ' ∉ token.toList) ∧
        Text.TrimsTo raw (" ".intercalate tokens) := by
  have hjoin (tokens : List String) : (" ".intercalate tokens).toList =
      [' '].intercalate (tokens.map String.toList) := String.toList_intercalate
  constructor
  · rintro rfl
    refine ⟨List.cons_ne_nil _ _, fun token => notMem_of_mem_tokens_parse, ?_⟩
    rw [Text.trimsTo_iff, ← String.toList_inj, Text.toList_trim, hjoin, intercalate_tokens_parse]
  · rintro ⟨hne, hspace, htrims⟩
    have hstrip : Text.strip raw.toList = [' '].intercalate (tokens.map String.toList) := by
      rw [← Text.toList_trim, Text.trimsTo_iff.mp htrims, hjoin]
    have hpieces : ∀ piece ∈ tokens.map String.toList, ' ' ∉ piece := by
      intro piece hpiece
      obtain ⟨token, htoken, rfl⟩ := List.mem_map.mp hpiece
      exact hspace token htoken
    rw [tokens_parse, hstrip, List.splitOn_intercalate ' ' hpieces (by simpa using hne),
      List.map_map]
    exact List.map_id'' (fun token => String.ofList_toList) tokens

theorem ext_tokens {line other : Line} (h : line.tokens = other.tokens) : line = other := by
  obtain ⟨hcommand, hparameters⟩ := List.cons.inj h
  obtain ⟨command, parameters⟩ := line
  obtain ⟨otherCommand, otherParameters⟩ := other
  obtain rfl : command = otherCommand := hcommand
  obtain rfl : parameters = otherParameters := hparameters
  rfl

/-- White space around a line is not seen. -/
theorem parse_append_append {before after : String} (hbefore : Text.AllBlank before)
    (hafter : Text.AllBlank after) (raw : String) : parse (before ++ raw ++ after) = parse raw := by
  obtain ⟨hne, hspace, htrimmed, inner, outer, hinner, houter, hraw⟩ :=
    tokens_parse_eq_iff.mp (Eq.refl (parse raw).tokens)
  refine ext_tokens (tokens_parse_eq_iff.mpr ⟨hne, hspace, htrimmed, before ++ inner,
    outer ++ after, hbefore.append hinner, houter.append hafter, ?_⟩)
  calc before ++ raw ++ after
      = before ++ (inner ++ " ".intercalate (parse raw).tokens ++ outer) ++ after := by rw [← hraw]
    _ = before ++ inner ++ " ".intercalate (parse raw).tokens ++ (outer ++ after) := by
      simp only [String.append_assoc]

theorem parse_append_left {before : String} (h : Text.AllBlank before) (raw : String) :
    parse (before ++ raw) = parse raw := by
  have hparse := parse_append_append h Text.allBlank_empty raw
  rwa [String.append_empty] at hparse

theorem parse_append_right {after : String} (h : Text.AllBlank after) (raw : String) :
    parse (raw ++ after) = parse raw := by
  have hparse := parse_append_append Text.allBlank_empty h raw
  rwa [String.empty_append] at hparse

/-- **Parsing and joining are inverse to each other.**  The tokens of any line hold no space and are,
joined by single spaces, the line without the white space at its two ends; the line is empty exactly
when it is all white space, its command is empty only then, and white space before or after it makes
no difference.  The other way round, tokens without a space whose join neither begins nor ends with
white space are got back from their join. -/
theorem parse_inverse_intercalate :
    (∀ raw : String,
      (∀ token ∈ (parse raw).tokens, ' ' ∉ token.toList) ∧
      Text.TrimsTo raw (" ".intercalate (parse raw).tokens) ∧
      ((parse raw).isEmpty = true ↔ Text.AllBlank raw) ∧
      ((parse raw).command = "" → Text.AllBlank raw) ∧
      ∀ before after : String, Text.AllBlank before → Text.AllBlank after →
        parse (before ++ raw ++ after) = parse raw) ∧
    ∀ tokens : List String, tokens ≠ [] → (∀ token ∈ tokens, ' ' ∉ token.toList) →
      Text.IsTrimmed (" ".intercalate tokens) →
      (parse (" ".intercalate tokens)).tokens = tokens := by
  constructor
  · intro raw
    obtain ⟨-, hspace, htrims⟩ := tokens_parse_eq_iff.mp (Eq.refl (parse raw).tokens)
    refine ⟨hspace, htrims, ?_, ?_, fun _ _ hbefore hafter => ?_⟩
    · rw [isEmpty_parse_iff, Text.trim_eq_empty_iff]
    · intro hcommand
      by_contra hblank
      have hlead := canLead_command_parse (mt Text.trim_eq_empty_iff.mp hblank)
      exact hlead.ne_empty hcommand
    · exact parse_append_append hbefore hafter raw
  · intro tokens hne hspace htrimmed
    refine tokens_parse_eq_iff.mpr ⟨hne, hspace, htrimmed, "", "", ?_, ?_, ?_⟩
    · intro c hc
      simp at hc
    · intro c hc
      simp at hc
    · rw [String.empty_append, String.append_empty]

/-- A tab at the end of the first token, an empty token, and a no-break space before it all. -/
theorem parse_padded :
    (parse (" ".intercalate ["echo\t", "", "b"])).tokens = ["echo\t", "", "b"] ∧
      parse ("\u00a0\t" ++ "echo\t  b" ++ "\n") = parse "echo\t  b" ∧
      Text.AllBlank "\u2003" := by
  obtain ⟨hlines, htokens⟩ := parse_inverse_intercalate
  obtain ⟨-, -, -, -, hpadded⟩ := hlines "echo\t  b"
  obtain ⟨-, -, -, hempty, -⟩ := hlines "\u2003"
  exact ⟨htokens _ (by simp) (by decide) (by decide), hpadded _ _ (by decide) (by decide),
    hempty rfl⟩

end Line
end CommandConsole
