import CommandConsole.Registry

/-!
# Who answers to a name

A card has a claim to a name if one of its own names is the same in lowercase. Of the commands with
a claim the first gets the name: `FirstClaimant` says so by position, and looking a name up finds
exactly that command (`resolve_eq_some_iff`), or none if nobody has a claim
(`resolve_eq_none_iff`).
-/
namespace CommandConsole

/-- One of the card's names is the given one, up to case. -/
def Card.Claims (card : Card) (name : String) : Prop :=
  ∃ own ∈ card.names, Text.lowercase own = Text.lowercase name

theorem Card.answersTo_iff {card : Card} {name : String} :
    card.answersTo name = true ↔ card.Claims name := by
  simp [answersTo, Claims]

instance (card : Card) (name : String) : Decidable (card.Claims name) :=
  decidable_of_iff _ Card.answersTo_iff

/-- Claims do not tell names apart that are the same in lowercase. -/
theorem Card.claims_congr {card : Card} {name other : String}
    (h : Text.lowercase name = Text.lowercase other) : card.Claims name ↔ card.Claims other := by
  rw [Claims, Claims, h]

namespace Registry

/-- The command at position `i` has a claim to a name, and none before it has. -/
structure FirstClaimant (r : Registry) (name : String) (i : Nat) (command : Command) : Prop where
  atPosition : r.commands[i]? = some command
  claims : command.Claims name
  first : ∀ j < i, ∀ earlier, r.commands[j]? = some earlier → ¬ earlier.Claims name

theorem position?_eq_some_iff {r : Registry} {name : String} {i : Nat} :
    r.position? name = some i ↔ ∃ command, r.FirstClaimant name i command := by
  unfold position?
  rw [List.findIdx?_eq_some_iff_getElem]
  constructor
  · rintro ⟨hi, hanswers, hbefore⟩
    refine ⟨r.commands[i], List.getElem?_eq_getElem hi, Card.answersTo_iff.mp hanswers, ?_⟩
    intro j hj earlier hearlier hclaims
    obtain ⟨_, rfl⟩ := List.getElem?_eq_some_iff.mp hearlier
    exact hbefore j hj (Card.answersTo_iff.mpr hclaims)
  · rintro ⟨command, hat, hclaims, hfirst⟩
    obtain ⟨hi, rfl⟩ := List.getElem?_eq_some_iff.mp hat
    refine ⟨hi, Card.answersTo_iff.mpr hclaims, ?_⟩
    intro j hj hanswers
    exact hfirst j hj _ (List.getElem?_eq_getElem _) (Card.answersTo_iff.mp hanswers)

/-- A name belongs to the first command with a claim to it. -/
theorem resolve_eq_some_iff {r : Registry} {name : String} {command : Command} :
    r.resolve name = some command ↔ ∃ i, r.FirstClaimant name i command := by
  rw [resolve_eq_position?, Option.bind_eq_some_iff]
  constructor
  · rintro ⟨i, hi, hat⟩
    obtain ⟨other, hother⟩ := position?_eq_some_iff.mp hi
    obtain rfl : other = command := Option.some.inj (hother.atPosition.symm.trans hat)
    exact ⟨i, hother⟩
  · rintro ⟨i, hi⟩
    exact ⟨i, position?_eq_some_iff.mpr ⟨command, hi⟩, hi.atPosition⟩

/-- A name belongs to nobody if nobody has a claim to it. -/
theorem resolve_eq_none_iff {r : Registry} {name : String} :
    r.resolve name = none ↔ ∀ command ∈ r.commands, ¬ command.Claims name := by
  unfold resolve
  rw [List.find?_eq_none]
  constructor
  · intro h command hcommand hclaims
    exact h command hcommand (Card.answersTo_iff.mpr hclaims)
  · intro h command hcommand hanswers
    exact h command hcommand (Card.answersTo_iff.mp hanswers)

/-- A name belongs to somebody if somebody has a claim to it. -/
theorem isSome_resolve_iff {r : Registry} {name : String} :
    (r.resolve name).isSome = true ↔ ∃ command ∈ r.commands, command.Claims name := by
  unfold resolve
  rw [List.find?_isSome]
  simp only [Card.answersTo_iff]

/-- Names that are the same in lowercase have the same first claimant. -/
theorem FirstClaimant.congr {r : Registry} {name other : String} {i : Nat} {command : Command}
    (h : r.FirstClaimant name i command) (hsame : Text.lowercase name = Text.lowercase other) :
    r.FirstClaimant other i command where
  atPosition := h.atPosition
  claims := (Card.claims_congr hsame).mp h.claims
  first := fun j hj earlier hat hclaims =>
    h.first j hj earlier hat ((Card.claims_congr hsame).mpr hclaims)

/-- A name that somebody has a claim to has a first claimant. -/
theorem exists_firstClaimant {r : Registry} {name : String} {command : Command}
    (hcommand : command ∈ r.commands) (hclaims : command.Claims name) :
    ∃ i first, r.FirstClaimant name i first := by
  cases hresolve : r.resolve name with
  | none => exact absurd hclaims (resolve_eq_none_iff.mp hresolve command hcommand)
  | some first =>
    obtain ⟨i, hfirst⟩ := resolve_eq_some_iff.mp hresolve
    exact ⟨i, first, hfirst⟩

/-- Every name of a command belongs to a command, that one or one before it. -/
theorem exists_resolve_of_mem_names {r : Registry} {name : String} (h : name ∈ r.names) :
    ∃ command, r.resolve name = some command := by
  obtain ⟨command, hcommand, hname⟩ := List.mem_flatMap.mp h
  cases hresolve : r.resolve name with
  | some other => exact ⟨other, rfl⟩
  | none => exact absurd ⟨name, hname, rfl⟩ (resolve_eq_none_iff.mp hresolve command hcommand)

/-- The command that a name belongs to has that name, up to case. -/
theorem exists_mem_names_of_resolve {r : Registry} {name : String} {command : Command}
    (h : r.resolve name = some command) :
    ∃ own ∈ command.names, own ∈ r.names ∧ Text.lowercase own = Text.lowercase name := by
  obtain ⟨i, hfirst⟩ := resolve_eq_some_iff.mp h
  obtain ⟨own, hown, hlower⟩ := hfirst.claims
  have hcommand : command ∈ r.commands := List.mem_of_getElem? hfirst.atPosition
  exact ⟨own, hown, List.mem_flatMap.mpr ⟨command, hcommand, hown⟩, hlower⟩

end Registry
end CommandConsole
