import CommandConsole.Json.Value
import CommandConsole.Proofs.Json.Layout

/-!
# JSON documents

A text is written for a value if it lays out the tokens of the value (`Value.WrittenAs`).  Reading
is exact: it accepts a text if there is a value that the text is written for, and gives that value
(`parse?_eq_some_iff`).

The tokens are read with a stack of what stands around the value at hand.  At every moment the stack
and what is expected next determine the tokens that were read (`Expected.consumed`), so a value that
is read in the end has these very tokens; the other way round the tokens of a value, in whatever
surroundings, are read as that value (`read_tokens_append`).
-/
namespace CommandConsole.Json

namespace Value

/-! ## The tokens of a value -/

/-- An induction that goes down to the items of arrays and the members of objects. -/
@[elab_as_elim]
theorem inductionOn {motive : Value → Prop} (v : Value) (null : motive .null)
    (bool : ∀ b, motive (.bool b)) (number : ∀ literal, motive (.number literal))
    (string : ∀ content, motive (.string content))
    (array : ∀ items, (∀ v ∈ items, motive v) → motive (.array items))
    (object : ∀ members, (∀ member ∈ members, motive member.2) → motive (.object members)) :
    motive v := by
  refine Value.rec (motive_1 := motive) (motive_2 := fun items => ∀ v ∈ items, motive v)
    (motive_3 := fun members => ∀ member ∈ members, motive member.2)
    (motive_4 := fun member => motive member.2)
    null bool number string array object ?_ ?_ ?_ ?_ ?_ v
  · simp
  · intro v items hv hitems
    simpa using ⟨hv, hitems⟩
  · simp
  · intro member members hmember hmembers
    simpa using ⟨hmember, fun key v h => hmembers (key, v) h⟩
  · exact fun _ _ hv => hv

/-- What is joined starts with the first part; every other part has a comma in front of it. -/
theorem intercalate_comma_cons (part : List Token) (parts : List (List Token)) :
    [.comma].intercalate (part :: parts) = part ++ parts.flatMap (.comma :: ·) := by
  induction parts generalizing part with
  | nil => simp
  | cons next parts ih => rw [List.intercalate_cons_cons, ih]; simp

/-- What is joined ends with the last part; every other part has a comma behind it. -/
theorem intercalate_comma_append (parts : List (List Token)) (part : List Token) :
    [.comma].intercalate (parts ++ [part]) = parts.flatMap (· ++ [.comma]) ++ part := by
  induction parts with
  | nil => simp
  | cons first parts ih =>
    rw [List.cons_append, List.intercalate_cons_of_ne_nil (by simp), ih]
    simp

section Marks

variable {P : Token → Prop} (hcomma : P .comma)
include hcomma

theorem forall_mem_intercalate_comma_iff {parts : List (List Token)} :
    (∀ token ∈ [.comma].intercalate parts, P token) ↔ ∀ part ∈ parts, ∀ token ∈ part, P token := by
  cases parts with
  | nil => simp
  | cons part parts =>
    rw [intercalate_comma_cons, List.forall_mem_append, List.forall_mem_cons]
    simp only [List.forall_mem_flatMap, List.forall_mem_cons, hcomma, true_and]

/-- What holds of the marks of an array holds of all its tokens if it holds of those of its items.
-/
theorem forall_mem_tokens_array_iff (hopen : P .openBracket) (hclose : P .closeBracket)
    {items : List Value} :
    (∀ token ∈ (array items).tokens, P token) ↔ ∀ v ∈ items, ∀ token ∈ v.tokens, P token := by
  rw [tokens, itemTokens_eq, List.forall_mem_append, List.forall_mem_cons,
    forall_mem_intercalate_comma_iff hcomma, List.forall_mem_map]
  simp only [List.forall_mem_singleton, hopen, hclose, true_and, and_true]

/-- What holds of the marks of an object holds of all its tokens if it holds of its keys and of the
tokens of the values of its members. -/
theorem forall_mem_tokens_object_iff (hopen : P .openBrace) (hclose : P .closeBrace)
    (hcolon : P .colon) {members : List (Option String × Value)} :
    (∀ token ∈ (object members).tokens, P token) ↔
      ∀ member ∈ members, P (.string member.1) ∧ ∀ token ∈ member.2.tokens, P token := by
  rw [tokens, memberTokens_eq, List.forall_mem_append, List.forall_mem_cons,
    forall_mem_intercalate_comma_iff hcomma, List.forall_mem_map]
  simp only [keyTokens_eq, List.forall_mem_singleton, List.forall_mem_cons, hopen, hclose, hcolon,
    true_and, and_true]

end Marks

/-! ## Reading is complete -/

/-- The value is read from its tokens, whatever is around them. -/
def Readable (v : Value) : Prop :=
  ∀ stack rest, read .value stack (v.tokens ++ rest) = read (.rest v) stack rest

theorem read_items {items : List Value} (hitems : ∀ v ∈ items, Readable v) (before : List Value)
    (v : Value) (stack : List Frame) (rest : List Token) :
    read (.rest v) (.item before :: stack)
        ((items.map tokens).flatMap (.comma :: ·) ++ .closeBracket :: rest) =
      read (.rest (.array (before.reverse ++ v :: items))) stack rest := by
  induction items generalizing before v with
  | nil => simp [read]
  | cons next items ih =>
    have hnext := hitems next (by simp)
    have hlater := ih (fun w hw => hitems w (List.mem_cons_of_mem next hw)) (v :: before) next
    simp [read, hnext _ _, hlater]

theorem read_members {members : List (Option String × Value)}
    (hmembers : ∀ member ∈ members, Readable member.2) (before : List (Option String × Value))
    (key : Option String) (v : Value) (stack : List Frame) (rest : List Token) :
    read (.rest v) (.member before key :: stack)
        ((members.map keyTokens).flatMap (.comma :: ·) ++ .closeBrace :: rest) =
      read (.rest (.object (before.reverse ++ (key, v) :: members))) stack rest := by
  induction members generalizing before key v with
  | nil => simp [read]
  | cons next members ih =>
    obtain ⟨name, w⟩ := next
    have hnext : Readable w := hmembers (name, w) (by simp)
    have hlater :=
      ih (fun m hm => hmembers m (List.mem_cons_of_mem _ hm)) ((key, v) :: before) name w
    simp [read, keyTokens, hnext _ _, hlater]

/-- The tokens of a value are read as that value. -/
theorem read_tokens_append (v : Value) : Readable v := by
  induction v using inductionOn with
  | null | bool b | number literal | string content =>
    intro stack rest
    simp [tokens, read]
  | array items hitems =>
    intro stack rest
    rw [tokens, itemTokens_eq]
    cases items with
    | nil => simp [read]
    | cons v items =>
      have hv := hitems v (by simp)
      have hlater := read_items (fun w hw => hitems w (List.mem_cons_of_mem v hw)) [] v
      simp [intercalate_comma_cons, read, read_firstItem, hv _ _, hlater]
  | object members hmembers =>
    intro stack rest
    rw [tokens, memberTokens_eq]
    cases members with
    | nil => simp [read]
    | cons member members =>
      obtain ⟨key, v⟩ := member
      have hv : Readable v := hmembers (key, v) (by simp)
      have hlater := read_members (fun m hm => hmembers m (List.mem_cons_of_mem _ hm)) [] key v
      simp [intercalate_comma_cons, read, keyTokens, hv _ _, hlater]

/-! ## Reading is sound -/

/-- The tokens that were read of an array or object before the value at hand. -/
def Frame.consumed : Frame → List Token
  | .item before => .openBracket :: (before.reverse.map tokens).flatMap (· ++ [.comma])
  | .member before key =>
    .openBrace :: (before.reverse.map keyTokens).flatMap (· ++ [.comma]) ++ [.string key, .colon]

/-- The tokens that were read before the value at hand. -/
def consumed (stack : List Frame) : List Token := stack.reverse.flatMap Frame.consumed

/-- The tokens that were read when something is expected. -/
def Expected.consumed (stack : List Frame) : Expected → List Token
  | .value => Value.consumed stack
  | .firstItem => Value.consumed stack ++ [.openBracket]
  | .firstKey => Value.consumed stack ++ [.openBrace]
  | .key before =>
    Value.consumed stack ++ .openBrace :: (before.reverse.map keyTokens).flatMap (· ++ [.comma])
  | .colon before name =>
    Value.consumed stack ++ .openBrace :: (before.reverse.map keyTokens).flatMap (· ++ [.comma]) ++
      [.string name]
  | .rest v => Value.consumed stack ++ v.tokens

/-- What was read before and what is left make up the tokens of the value that is read. -/
theorem tokens_of_read {expected : Expected} {stack : List Frame} {ts : List Token} {v : Value}
    (h : read expected stack ts = some v) : v.tokens = expected.consumed stack ++ ts := by
  induction ts generalizing expected stack with
  | nil => cases expected <;> cases stack <;> simp_all [read, Expected.consumed, consumed]
  | cons token ts ih =>
    have hstep {next : Expected} {around : List Frame} (hnext : read next around ts = some v)
        (hconsumed : next.consumed around = expected.consumed stack ++ [token]) :
        v.tokens = expected.consumed stack ++ token :: ts := by
      rw [ih hnext, hconsumed, List.append_assoc, List.singleton_append]
    cases expected with
    | value =>
      cases token <;> simp only [read, reduceCtorEq] at h
      all_goals exact hstep h (by simp [Expected.consumed, tokens])
    | firstItem =>
      cases token <;> simp only [read, reduceCtorEq] at h
      all_goals
        exact hstep h (by simp [Expected.consumed, consumed, Frame.consumed, tokens, itemTokens])
    | firstKey =>
      cases token <;> simp only [read, reduceCtorEq] at h
      all_goals exact hstep h (by simp [Expected.consumed, tokens, memberTokens])
    | key before =>
      cases token <;> simp only [read, reduceCtorEq] at h
      exact hstep h (by simp [Expected.consumed])
    | colon before name =>
      cases token <;> simp only [read, reduceCtorEq] at h
      exact hstep h (by simp [Expected.consumed, consumed, Frame.consumed])
    | rest w =>
      rcases stack with _ | ⟨before | ⟨before, name⟩, stack⟩
      · simp [read] at h
      · cases token <;> simp only [read, reduceCtorEq] at h
        all_goals
          exact hstep h (by
            simp [Expected.consumed, consumed, Frame.consumed, tokens, itemTokens_eq,
              intercalate_comma_append])
      · cases token <;> simp only [read, reduceCtorEq] at h
        all_goals
          exact hstep h (by
            simp [Expected.consumed, consumed, Frame.consumed, tokens, memberTokens_eq, keyTokens,
              intercalate_comma_append])

/-- Tokens are read as a value exactly if they are the tokens of that value. -/
theorem ofTokens?_eq_some_iff {ts : List Token} {v : Value} :
    ofTokens? ts = some v ↔ ts = v.tokens := by
  constructor
  · intro h
    simpa [Expected.consumed, consumed] using (tokens_of_read h).symm
  · rintro rfl
    have h := read_tokens_append v [] []
    rw [List.append_nil] at h
    exact h

/-! ## Texts -/

/-- The text is written for the value. -/
def WrittenAs (v : Value) (text : String) : Prop := LaidOut v.tokens text.toList

theorem isChain_intercalate_comma {parts : List (List Token)}
    (hparts : ∀ part ∈ parts, part.IsChain Token.Apart) :
    ([.comma].intercalate parts).IsChain Token.Apart := by
  have hcomma : ¬ Token.comma.IsNumber := not_false
  induction parts with
  | nil => simp
  | cons part parts ih =>
    have hpart := hparts part (by simp)
    have hlater := ih fun other hother => hparts other (List.mem_cons_of_mem part hother)
    cases parts with
    | nil => simpa using hpart
    | cons next parts =>
      rw [List.intercalate_cons_cons, List.append_assoc]
      exact (isChain_apart_append_cons_iff part hcomma _).mpr ⟨hpart, hlater⟩

theorem isChain_enclosed {start stop : Token} (hstart : ¬ start.IsNumber)
    (hstop : ¬ stop.IsNumber) {parts : List (List Token)}
    (hparts : ∀ part ∈ parts, part.IsChain Token.Apart) :
    (start :: [.comma].intercalate parts ++ [stop]).IsChain Token.Apart := by
  have hfront := (isChain_apart_append_cons_iff [] hstart _).mpr
    ⟨.nil, isChain_intercalate_comma hparts⟩
  exact (isChain_apart_append_cons_iff _ hstop []).mpr ⟨hfront, .nil⟩

/-- In a value no two numbers stand next to each other. -/
theorem isChain_tokens (v : Value) : v.tokens.IsChain Token.Apart := by
  induction v using inductionOn with
  | null | bool b | number literal | string content => exact .singleton _
  | array items hitems =>
    have hopen : ¬ Token.openBracket.IsNumber := not_false
    have hclose : ¬ Token.closeBracket.IsNumber := not_false
    rw [tokens, itemTokens_eq]
    exact isChain_enclosed hopen hclose (by simpa using hitems)
  | object members hmembers =>
    have hopen : ¬ Token.openBrace.IsNumber := not_false
    have hclose : ¬ Token.closeBrace.IsNumber := not_false
    have hcolon : ¬ Token.colon.IsNumber := not_false
    rw [tokens, memberTokens_eq]
    refine isChain_enclosed hopen hclose fun part hpart => ?_
    obtain ⟨⟨key, v⟩, hmember, rfl⟩ := List.mem_map.mp hpart
    exact (isChain_apart_append_cons_iff [.string key] hcolon _).mpr
      ⟨.singleton _, hmembers _ hmember⟩

/-- **A text is read as a value exactly if it is written for that value.** -/
theorem parse?_eq_some_iff {text : String} {v : Value} :
    parse? text = some v ↔ v.WrittenAs text := by
  unfold parse? tokens?
  rw [Option.bind_eq_some_iff]
  constructor
  · rintro ⟨ts, hscan, hread⟩
    rw [WrittenAs, ← ofTokens?_eq_some_iff.mp hread]
    exact laidOut_of_scan hscan
  · intro h
    exact ⟨v.tokens, scan_of_laidOut h (isChain_tokens v), ofTokens?_eq_some_iff.mpr rfl⟩

/-- A value is rendered as a text that is written for it. -/
theorem writtenAs_render {v : Value} (h : ∀ token ∈ v.tokens, token.Lawful) :
    v.WrittenAs v.render := by
  rw [WrittenAs, render, String.toList_ofList]
  exact laidOut_spell h

end Value

/-- A text and the value that it is written for.  No string in it holds half a pair of units. -/
structure Document where
  text : String
  value : Value
  written : value.WrittenAs text
  whole : .string none ∉ value.tokens

end CommandConsole.Json
