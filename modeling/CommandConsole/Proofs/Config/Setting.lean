import CommandConsole.Config.Document
import CommandConsole.Proofs.Json.Document

/-!
# Settings one by one

A configuration is no more than the values of its settings (`eq_of_value_eq`).  To change a setting
to a value is to get the one configuration in which the setting is written as this value and every
other setting is as it was (`set?_eq_some_iff`); that works for the values of its kind, and for no
others (`fits_iff`).

The values are those of a text.  There a natural number has one form only, since no zeros may stand
in front of it.
-/
namespace CommandConsole.Config

open Json (Value Token IsNumber)

/-- A configuration is determined by the values of its settings. -/
theorem eq_of_value_eq {c d : Config} (h : ∀ field : Field, field.value c = field.value d) :
    c = d := by
  obtain ⟨startOpen, dumpDirectory, prompt, closedPrompt, toggleLine, historySize, showBanner⟩ := c
  have hopen := h .startOpen
  have hdirectory := h .dumpDirectory
  have hprompt := h .prompt
  have hclosed := h .closedPrompt
  have htoggle := h .toggleLine
  have hsize := h .historySize
  have hbanner := h .showBanner
  simp only [Field.value, Value.bool.injEq, Value.string.injEq, Option.some.injEq,
    Value.number.injEq, Nat.repr_inj, UInt64.toNat_inj]
    at hopen hdirectory hprompt hclosed htoggle hsize hbanner
  rw [hopen, hdirectory, hprompt, hclosed, htoggle, hsize, hbanner]

namespace Field

theorem nodup_all : all.Nodup := by decide

theorem mem_all (field : Field) : field ∈ all := by cases field <;> decide

/-- A name is that of the setting it is looked up as. -/
theorem ofName?_eq_some_iff {name : String} {field : Field} :
    ofName? name = some field ↔ name = field.name := by
  constructor
  · intro h
    unfold ofName? at h
    have hname := List.find?_some h
    exact (beq_iff_eq.mp hname).symm
  · rintro rfl
    cases field <;> rfl

theorem name_injective : Function.Injective name := by
  intro field other h
  have := ofName?_eq_some_iff.mpr h
  rw [ofName?_eq_some_iff.mpr rfl] at this
  exact Option.some.inj this

/-! ## The kind of a setting -/

/-- The value is of the kind of the setting. -/
def Fits : Field → Value → Prop
  | startOpen, v | showBanner, v => ∃ b, v = .bool b
  | dumpDirectory, v | prompt, v | closedPrompt, v | toggleLine, v => ∃ s, v = .string (some s)
  | historySize, v => ∃ n, n ≤ 2 ^ 64 - 1 ∧ v = .number (Nat.repr n)

/-- The values that fit a setting are those that it is written as. -/
theorem fits_iff {field : Field} {v : Value} : field.Fits v ↔ ∃ c, field.value c = v := by
  cases field with
  | startOpen => exact ⟨fun ⟨b, h⟩ => ⟨{ startOpen := b }, h.symm⟩, fun ⟨c, h⟩ => ⟨_, h.symm⟩⟩
  | showBanner => exact ⟨fun ⟨b, h⟩ => ⟨{ showBanner := b }, h.symm⟩, fun ⟨c, h⟩ => ⟨_, h.symm⟩⟩
  | dumpDirectory =>
    exact ⟨fun ⟨s, h⟩ => ⟨{ dumpDirectory := s }, h.symm⟩, fun ⟨c, h⟩ => ⟨_, h.symm⟩⟩
  | prompt => exact ⟨fun ⟨s, h⟩ => ⟨{ prompt := s }, h.symm⟩, fun ⟨c, h⟩ => ⟨_, h.symm⟩⟩
  | closedPrompt => exact ⟨fun ⟨s, h⟩ => ⟨{ closedPrompt := s }, h.symm⟩, fun ⟨c, h⟩ => ⟨_, h.symm⟩⟩
  | toggleLine => exact ⟨fun ⟨s, h⟩ => ⟨{ toggleLine := s }, h.symm⟩, fun ⟨c, h⟩ => ⟨_, h.symm⟩⟩
  | historySize =>
    constructor
    · rintro ⟨n, hn, rfl⟩
      have hlt : n < UInt64.size := by simp [UInt64.size]; omega
      exact ⟨{ historySize := UInt64.ofNat n }, by simp [value, UInt64.toNat_ofNat_of_lt' hlt]⟩
    · rintro ⟨c, rfl⟩
      exact ⟨c.historySize.toNat, by have := c.historySize.toNat_lt; omega, rfl⟩

/-- For every choice of fitting values there is a configuration that has them. -/
theorem exists_forall_value_eq {given : Field → Value}
    (h : ∀ field : Field, field.Fits (given field)) :
    ∃ c, ∀ field : Field, field.value c = given field := by
  choose c hc using fun field => fits_iff.mp (h field)
  refine ⟨{
    startOpen := (c startOpen).startOpen
    dumpDirectory := (c dumpDirectory).dumpDirectory
    prompt := (c prompt).prompt
    closedPrompt := (c closedPrompt).closedPrompt
    toggleLine := (c toggleLine).toggleLine
    historySize := (c historySize).historySize
    showBanner := (c showBanner).showBanner }, fun field => ?_⟩
  rw [← hc field]
  cases field <;> rfl

/-! ## Changing a setting -/

/-- In a number as it should be, digits alone stand for a number whose decimal form they are. -/
theorem natural?_eq_some_iff {literal : String} (h : IsNumber literal.toList) {n : Nat} :
    natural? literal = some n ↔ literal = n.repr := by
  unfold natural?
  constructor
  · intro hn
    split at hn
    · rename_i hdigits
      have hwhole := h.isWhole (by simpa using hdigits)
      obtain rfl := Option.some.inj hn
      rw [← String.toList_inj, Nat.toList_repr]
      exact hwhole.eq_toDigits
    · simp at hn
  · rintro rfl
    have hdigits : ∀ d ∈ Nat.toDigits 10 n, d.isDigit = true :=
      fun d hd => Nat.isDigit_of_mem_toDigits (by simp) (by simp) hd
    simpa [Nat.toList_repr] using hdigits

theorem exists_set?_value (field : Field) (c d : Config) :
    ∃ e, field.set? (field.value d) c = some e := by
  cases field with
  | historySize =>
    have hnatural := (natural?_eq_some_iff (Json.isNumber_repr d.historySize.toNat)).mpr rfl
    have hlt : d.historySize.toNat < UInt64.size := d.historySize.toNat_lt_size
    simp [set?, value, hnatural, hlt]
  | _ => exact ⟨_, rfl⟩

theorem value_of_set? {field : Field} {v : Value} {c d : Config}
    (hlawful : ∀ token ∈ v.tokens, token.Lawful) (h : field.set? v c = some d) :
    field.value d = v ∧ ∀ other, other ≠ field → other.value d = other.value c := by
  cases field with
  | startOpen | showBanner =>
    cases v with
    | bool b =>
      obtain rfl := Option.some.inj h
      exact ⟨rfl, fun other hother => by cases other <;> simp_all [value]⟩
    | _ => simp [set?] at h
  | dumpDirectory | prompt | closedPrompt | toggleLine =>
    cases v with
    | string content =>
      cases content with
      | none => simp [set?] at h
      | some s =>
        obtain rfl := Option.some.inj h
        exact ⟨rfl, fun other hother => by cases other <;> simp_all [value]⟩
    | _ => simp [set?] at h
  | historySize =>
    cases v with
    | number literal =>
      have hnumber : IsNumber literal.toList := hlawful (.number literal) (by simp [Value.tokens])
      simp only [set?] at h
      split at h
      · rename_i n hn
        split at h
        · rename_i hlt
          obtain rfl := Option.some.inj h
          refine ⟨?_, fun other hother => ?_⟩
          · rw [(natural?_eq_some_iff hnumber).mp hn]
            simp [value, UInt64.toNat_ofNat_of_lt' hlt]
          · cases other <;> simp_all [value]
        · simp at h
      · simp at h
    | _ => simp [set?] at h

/-- A setting is changed to a value by writing it as this value and leaving all others alone. -/
theorem set?_eq_some_iff {field : Field} {v : Value} {c d : Config}
    (hlawful : ∀ token ∈ v.tokens, token.Lawful) :
    field.set? v c = some d ↔
      field.value d = v ∧ ∀ other, other ≠ field → other.value d = other.value c := by
  refine ⟨value_of_set? hlawful, ?_⟩
  rintro ⟨rfl, hothers⟩
  obtain ⟨e, he⟩ := exists_set?_value field c d
  obtain ⟨hvalue, hsame⟩ := value_of_set? hlawful he
  have heq : e = d := eq_of_value_eq fun other => by
    by_cases hother : other = field
    · rw [hother, hvalue]
    · rw [hsame other hother, hothers other hother]
  rw [he, heq]

end Field
end CommandConsole.Config
