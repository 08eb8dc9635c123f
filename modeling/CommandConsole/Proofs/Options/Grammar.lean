import CommandConsole.Options
import Mathlib.Data.List.Forall2

/-!
# The grammar of the program's arguments

The arguments of the program are units put one after the other.  A unit is an option without a
value, an option with the next argument for its value, or the path of a script, which does not start
with a dash (`WrittenAs`).  A unit is known to be complete from its first text alone, so arguments
can be cut into units in one way at most (`eq_of_flatten_eq`).

Reading goes along the units: a unit that stands in front gives its argument and leaves what comes
after it (`ofTexts_append`).  So it succeeds if nothing but units is there (`ofTexts_flatten`), and
otherwise it stops at the first text that stands where a unit should and starts none
(`ofTexts_of_stopsAt`).
-/
namespace CommandConsole.Argument

/-- What an argument of the program is written as. -/
inductive WrittenAs : Argument → List String → Prop
  | shortHelp : WrittenAs .help ["-h"]
  | longHelp : WrittenAs .help ["--help"]
  | shortVersion : WrittenAs .version ["-V"]
  | longVersion : WrittenAs .version ["--version"]
  | shortBatch : WrittenAs .batch ["-b"]
  | longBatch : WrittenAs .batch ["--batch"]
  | closed : WrittenAs .closed ["--closed"]
  /-- The value may be anything, even an option. -/
  | dumpDirectory (directory : String) :
      WrittenAs (.dumpDirectory directory) ["--dump-dir", directory]
  | prompt (text : String) : WrittenAs (.prompt text) ["--prompt", text]
  /-- The path may be empty. -/
  | script (path : String) : path.toList.head? ≠ some '-' → WrittenAs (.script path) [path]

/-- The texts are one unit. -/
def IsUnit (unit : List String) : Prop := ∃ argument : Argument, argument.WrittenAs unit

/-- The texts are cut into units. -/
structure SplitInto (texts : List String) (units : List (List String)) : Prop where
  isUnit : ∀ unit ∈ units, IsUnit unit
  flatten_eq : units.flatten = texts

/-- No unit stands in front of the texts. -/
def StartsNoUnit (texts : List String) : Prop := ∀ unit, IsUnit unit → ¬ unit <+: texts

/-- The texts are units up to a text that starts none, and the rest comes after that. -/
def StopsAt (texts : List String) (text : String) (rest : List String) : Prop :=
  ∃ front units, SplitInto front units ∧ texts = front ++ text :: rest ∧
    StartsNoUnit (text :: rest)

/-- The text is an option that needs a value. -/
def IsValued (text : String) : Prop := text = "--dump-dir" ∨ text = "--prompt"

instance (text : String) : Decidable (IsValued text) := inferInstanceAs (Decidable (_ ∨ _))

/-- Why a text that starts no unit is refused. -/
def refusal (text : String) : UsageError :=
  if IsValued text then .missingValue text else .unknownOption text

variable {argument : Argument} {unit other texts rest : List String} {text : String}

/-! ## One unit -/

theorem ofValued?_eq_none_iff : ofValued? text = none ↔ ¬ IsValued text := by
  unfold ofValued? IsValued
  split <;> simp_all

/-- A unit has a text, and another one exactly if the first is an option that needs a value. -/
theorem IsUnit.exists_eq_cons (h : IsUnit unit) :
    ∃ text rest, unit = text :: rest ∧ rest.length = if IsValued text then 1 else 0 := by
  obtain ⟨argument, hwritten⟩ := h
  cases hwritten with
  | script path hpath =>
    refine ⟨path, [], rfl, ?_⟩
    rw [if_neg]
    · rfl
    · rintro (rfl | rfl)
      · exact hpath rfl
      · exact hpath rfl
  | dumpDirectory value | prompt value => exact ⟨_, [value], rfl, rfl⟩
  | shortHelp | longHelp | shortVersion | longVersion | shortBatch | longBatch | closed =>
    exact ⟨_, [], rfl, rfl⟩

theorem IsUnit.ne_nil (h : IsUnit unit) : unit ≠ [] := by
  obtain ⟨text, rest, rfl, -⟩ := h.exists_eq_cons
  exact List.cons_ne_nil _ _

/-- What stands in front is one unit at most. -/
theorem IsUnit.eq_of_append_eq (hunit : IsUnit unit) (hother : IsUnit other)
    (h : unit ++ texts = other ++ rest) : unit = other := by
  obtain ⟨text, value, rfl, hvalue⟩ := hunit.exists_eq_cons
  obtain ⟨text', value', rfl, hvalue'⟩ := hother.exists_eq_cons
  obtain ⟨rfl, htail⟩ := List.cons.inj h
  rw [(List.append_inj htail (hvalue.trans hvalue'.symm)).1]

/-- **The way to cut texts into units is unique.** -/
theorem eq_of_flatten_eq {units others : List (List String)} (hunits : ∀ unit ∈ units, IsUnit unit)
    (hothers : ∀ unit ∈ others, IsUnit unit) (h : units.flatten = others.flatten) :
    units = others := by
  induction units generalizing others with
  | nil =>
    cases others with
    | nil => rfl
    | cons other others =>
      have hnil := List.append_eq_nil_iff.mp h.symm
      exact absurd hnil.1 (hothers other List.mem_cons_self).ne_nil
  | cons unit units ih =>
    cases others with
    | nil =>
      have hnil := List.append_eq_nil_iff.mp h
      exact absurd hnil.1 (hunits unit List.mem_cons_self).ne_nil
    | cons other others =>
      obtain ⟨hunit, hlater⟩ := List.forall_mem_cons.mp hunits
      obtain ⟨hother, hlater'⟩ := List.forall_mem_cons.mp hothers
      rw [List.flatten_cons, List.flatten_cons] at h
      obtain rfl := hunit.eq_of_append_eq hother h
      rw [ih hlater hlater' (List.append_cancel_left h)]

theorem isUnit_of_isValued (h : IsValued text) (value : String) : IsUnit [text, value] := by
  rcases h with rfl | rfl
  · exact ⟨_, .dumpDirectory value⟩
  · exact ⟨_, .prompt value⟩

/-- An option that needs a value starts a unit unless it comes last. -/
theorem StartsNoUnit.eq_nil (h : StartsNoUnit (text :: rest)) (hvalued : IsValued text) :
    rest = [] := by
  cases rest with
  | nil => rfl
  | cons value rest =>
    exact absurd (List.prefix_append [text, value] rest) (h _ (isUnit_of_isValued hvalued value))

theorem startsNoUnit_singleton (hvalued : IsValued text) : StartsNoUnit [text] := by
  intro unit hunit hfront
  obtain ⟨text, value, rfl, hvalue⟩ := hunit.exists_eq_cons
  obtain ⟨rfl, hnone⟩ := List.cons_prefix_cons.mp hfront
  rw [List.prefix_nil.mp hnone, if_pos hvalued] at hvalue
  cases hvalue

/-! ## Reading -/

theorem writtenAs_of_ofFlag? (h : ofFlag? text = some argument) : argument.WrittenAs [text] := by
  unfold ofFlag? at h
  split at h
  · obtain rfl := Option.some.inj h
    rcases ‹_ ∨ _› with rfl | rfl
    · exact .shortHelp
    · exact .longHelp
  split at h
  · obtain rfl := Option.some.inj h
    rcases ‹_ ∨ _› with rfl | rfl
    · exact .shortVersion
    · exact .longVersion
  split at h
  · obtain rfl := Option.some.inj h
    rcases ‹_ ∨ _› with rfl | rfl
    · exact .shortBatch
    · exact .longBatch
  split at h
  · obtain rfl := Option.some.inj h
    obtain rfl := ‹text = _›
    exact .closed
  · cases h

/-- A text without a dash in front is no option. -/
theorem ofValued?_ofFlag?_eq_none (h : text.toList.head? ≠ some '-') :
    ofValued? text = none ∧ ofFlag? text = none := by
  have hne : ∀ option : String, option.toList.head? = some '-' → text ≠ option := by
    rintro option hoption rfl
    exact h hoption
  have hneither : ∀ option other : String, option.toList.head? = some '-' →
      other.toList.head? = some '-' → ¬ (text = option ∨ text = other) :=
    fun option other hoption hother => not_or.mpr ⟨hne option hoption, hne other hother⟩
  constructor
  · rw [ofValued?, if_neg (hne _ rfl), if_neg (hne _ rfl)]
  · rw [ofFlag?, if_neg (hneither _ _ rfl rfl), if_neg (hneither _ _ rfl rfl),
      if_neg (hneither _ _ rfl rfl), if_neg (hne _ rfl)]

/-- A unit in front gives its argument. -/
theorem ofTexts_append (h : argument.WrittenAs unit) (texts : List String) :
    ofTexts (unit ++ texts) = (ofTexts texts).map (argument :: ·) := by
  cases h with
  | script path hpath =>
    obtain ⟨hvalued, hflag⟩ := ofValued?_ofFlag?_eq_none hpath
    simp only [List.singleton_append, ofTexts, hvalued, hflag, if_neg hpath]
  | dumpDirectory _ | prompt _ => rfl
  | shortHelp | longHelp | shortVersion | longVersion | shortBatch | longBatch | closed => rfl

/-- Units in front give their arguments. -/
theorem ofTexts_flatten_append {arguments : List Argument} {units : List (List String)}
    (h : List.Forall₂ WrittenAs arguments units) (texts : List String) :
    ofTexts (units.flatten ++ texts) = (ofTexts texts).map (arguments ++ ·) := by
  induction h with
  | nil =>
    rw [List.flatten_nil, List.nil_append]
    cases ofTexts texts <;> rfl
  | cons hunit _ ih =>
    rw [List.flatten_cons, List.append_assoc, ofTexts_append hunit, ih]
    cases ofTexts texts <;> rfl

/-- Where no unit starts, the text in front is refused. -/
theorem ofTexts_of_startsNoUnit (h : StartsNoUnit (text :: rest)) :
    ofTexts (text :: rest) = .error (refusal text) := by
  cases hvalued : ofValued? text with
  | some make =>
    have hneeds : IsValued text := by
      by_contra hnot
      rw [ofValued?_eq_none_iff.mpr hnot] at hvalued
      cases hvalued
    obtain rfl := h.eq_nil hneeds
    rw [refusal, if_pos hneeds]
    unfold ofTexts
    simp only [hvalued]
  | none =>
    have hnot := ofValued?_eq_none_iff.mp hvalued
    cases hflag : ofFlag? text with
    | some argument =>
      exact absurd (List.prefix_append [text] rest) (h _ ⟨argument, writtenAs_of_ofFlag? hflag⟩)
    | none =>
      have hdash : text.toList.head? = some '-' := by
        by_contra hdash
        exact h _ ⟨_, .script text hdash⟩ (List.prefix_append [text] rest)
      simp only [ofTexts, hvalued, hflag, refusal, if_pos hdash, if_neg hnot]

/-! ## Reading to the end -/

variable {arguments : List Argument} {units : List (List String)}

theorem splitInto_iff :
    SplitInto texts units ↔
      (∃ arguments, List.Forall₂ WrittenAs arguments units) ∧ units.flatten = texts := by
  constructor
  · rintro ⟨hunits, rfl⟩
    refine ⟨?_, rfl⟩
    induction units with
    | nil => exact ⟨[], .nil⟩
    | cons unit units ih =>
      obtain ⟨⟨argument, hunit⟩, hlater⟩ := List.forall_mem_cons.mp hunits
      obtain ⟨arguments, harguments⟩ := ih hlater
      exact ⟨argument :: arguments, .cons hunit harguments⟩
  · rintro ⟨⟨arguments, harguments⟩, rfl⟩
    refine ⟨?_, rfl⟩
    induction harguments with
    | nil => exact List.forall_mem_nil _
    | cons hunit _ ih => exact List.forall_mem_cons.mpr ⟨⟨_, hunit⟩, ih⟩

theorem ofTexts_flatten (h : List.Forall₂ WrittenAs arguments units) :
    ofTexts units.flatten = .ok arguments := by
  have hend := ofTexts_flatten_append h []
  rw [List.append_nil] at hend
  rw [hend, ofTexts, Except.map, List.append_nil]

theorem ofTexts_of_stopsAt (h : StopsAt texts text rest) :
    ofTexts texts = .error (refusal text) := by
  obtain ⟨front, units, hfront, rfl, hstart⟩ := h
  obtain ⟨⟨arguments, harguments⟩, rfl⟩ := splitInto_iff.mp hfront
  rw [ofTexts_flatten_append harguments, ofTexts_of_startsNoUnit hstart]
  rfl

/-- Texts are units throughout, or reading stops somewhere. -/
theorem exists_splitInto_or_stopsAt (texts : List String) :
    (∃ units, SplitInto texts units) ∨ ∃ text rest, StopsAt texts text rest := by
  induction hlength : texts.length using Nat.strongRecOn generalizing texts with
  | ind n ih =>
    subst hlength
    cases texts with
    | nil => exact .inl ⟨[], List.forall_mem_nil _, rfl⟩
    | cons text rest =>
      by_cases hstart : StartsNoUnit (text :: rest)
      · exact .inr ⟨text, rest, [], [], ⟨List.forall_mem_nil _, rfl⟩, rfl, hstart⟩
      · simp only [StartsNoUnit, not_forall, not_not] at hstart
        obtain ⟨unit, hunit, later, hlater⟩ := hstart
        have hshorter : later.length < (text :: rest).length := by
          rw [← hlater, List.length_append]
          have := List.length_pos_of_ne_nil hunit.ne_nil
          omega
        rw [← hlater]
        rcases ih _ hshorter later rfl with
          ⟨units, hunits, rfl⟩ | ⟨text, rest, front, units, ⟨hunits, rfl⟩, rfl, hstart⟩
        · exact .inl ⟨unit :: units, List.forall_mem_cons.mpr ⟨hunit, hunits⟩, List.flatten_cons⟩
        · exact .inr ⟨text, rest, unit ++ units.flatten, unit :: units,
            ⟨List.forall_mem_cons.mpr ⟨hunit, hunits⟩, List.flatten_cons⟩,
            (List.append_assoc _ _ _).symm, hstart⟩

end CommandConsole.Argument
