import CommandConsole.Console
import CommandConsole.Proofs.Line.Tokens
import CommandConsole.Proofs.Registry.Resolution
import CommandConsole.Proofs.Text.Lowercase

/-!
# Which commands can be reached

Registration turns a command away only if it has no name at all.  Other commands are accepted and
yet out of reach: each of their names is empty, holds a space, begins with white space, or belongs
to a command before them.  All others can be reached (`exists_executes_iff`).  What the registry
executes on a line is what any console with these commands does when it handles the line
(`Console.executes_iff_handleInput`).

A name need not be typed as it was registered, so a line reaches a command by any text with the same
lowercase.  That text can stand first on a line; lowercase keeps white space as it is, so the name
could stand there itself.
-/
namespace CommandConsole

/-- Two texts with the same lowercase can both stand first on a line, or neither. -/
theorem Line.CanLead.of_lowercase_eq {name other : String}
    (h : Text.lowercase name = Text.lowercase other) (hname : CanLead name) : CanLead other := by
  have hchars : Text.lowerFrom [] name.toList = Text.lowerFrom [] other.toList := by
    rw [← Text.toList_lowercase, ← Text.toList_lowercase, h]
  have hhead : name.toList.head?.map Text.isBlank = other.toList.head?.map Text.isBlank := by
    rw [← Text.head_lowerFrom [], hchars, Text.head_lowerFrom]
  have hne : name.toList ≠ [] := fun he => hname.ne_empty (String.toList_eq_nil_iff.mp he)
  obtain ⟨c, cs, hcs⟩ := List.exists_cons_of_ne_nil hne
  rw [hcs, List.head?_cons, Option.map_some, hname.notBlank c cs hcs] at hhead
  refine ⟨?_, ?_, ?_⟩
  · rintro rfl
    exact absurd hhead (by simp)
  · intro hspace
    rw [← Text.space_mem_lowerFrom [], ← hchars, Text.space_mem_lowerFrom] at hspace
    exact hname.noSpace hspace
  · intro d ds hds
    rw [hds, List.head?_cons, Option.map_some] at hhead
    exact (Option.some.inj hhead).symm

namespace Registry

/-- The registry with other actions for its commands, given by position. -/
def withActions (r : Registry) (actions : Nat → List Entry → List String → Action Outcome) :
    Registry :=
  { r with
    commands := r.commands.mapIdx fun i command => { command with action := actions i }
    named := by
      intro command hcommand
      obtain ⟨i, hi, rfl⟩ := List.mem_mapIdx.mp hcommand
      exact r.named r.commands[i] (List.getElem_mem hi) }

/-- Handling the line executes the command at position `i`: whatever the commands do, the line is
echoed and then the action at that position is taken on the line's parameters. -/
def Executes (r : Registry) (raw : String) (i : Nat) : Prop :=
  ∀ actions, (r.withActions actions).dispatch raw =
    .printStyled raw .echo
      ((actions i (r.withActions actions).entries (Line.parse raw).parameters).bind
        (report (Line.parse raw).command))

variable {r : Registry} {actions : Nat → List Entry → List String → Action Outcome}

/-- Names belong to positions, not to actions. -/
theorem FirstClaimant.withActions {name : String} {i : Nat} {command : Command}
    (h : r.FirstClaimant name i command)
    (actions : Nat → List Entry → List String → Action Outcome) :
    (r.withActions actions).FirstClaimant name i { command with action := actions i } where
  atPosition := by
    rw [Registry.withActions, List.getElem?_mapIdx, h.atPosition, Option.map_some]
  claims := h.claims
  first := by
    intro j hj earlier hearlier hclaims
    rw [Registry.withActions, List.getElem?_mapIdx, Option.map_eq_some_iff] at hearlier
    obtain ⟨own, hown, rfl⟩ := hearlier
    exact h.first j hj own hown hclaims

/-- A name that belongs to nobody does not belong to anybody with other actions either. -/
theorem resolve_withActions_eq_none {name : String} (h : r.resolve name = none) :
    (r.withActions actions).resolve name = none := by
  rw [resolve_eq_none_iff] at h ⊢
  intro command hcommand hclaims
  obtain ⟨i, hi, rfl⟩ := List.mem_mapIdx.mp hcommand
  exact h _ (List.getElem_mem hi) hclaims

/-- Actions that tell by their end which of them was taken: the one at `i` completes, and it alone
does. -/
def telling (i : Nat) : Nat → List Entry → List String → Action Outcome :=
  fun j _ _ => .done (if j = i then .completed else .crashed none)

/-- Handling a line executes the first command with a claim to its first token, and no other. -/
theorem executes_iff {raw : String} {i : Nat} :
    r.Executes raw i ↔
      Text.trim raw ≠ "" ∧ ∃ command, r.FirstClaimant (Line.parse raw).command i command := by
  constructor
  · intro h
    have htold := h (telling i)
    have hblank : Text.trim raw ≠ "" := by
      intro hblank
      rw [dispatch_of_blank hblank] at htold
      cases htold
    refine ⟨hblank, ?_⟩
    cases hresolve : r.resolve (Line.parse raw).command with
    | none =>
      rw [dispatch_of_resolve_eq_none hblank (resolve_withActions_eq_none hresolve)] at htold
      cases htold
    | some command =>
      obtain ⟨j, hj⟩ := resolve_eq_some_iff.mp hresolve
      by_cases hji : j = i
      · exact ⟨command, hji ▸ hj⟩
      · have htaken := dispatch_of_resolve_eq_some hblank
          (resolve_eq_some_iff.mpr ⟨j, hj.withActions (telling i)⟩)
        rw [htold] at htaken
        simp only [telling, Action.bind, if_pos, if_neg hji] at htaken
        exact absurd htaken (by simp [report, Outcome.reason?, Action.tell, Action.bind])
  · rintro ⟨hblank, command, hfirst⟩ actions
    exact dispatch_of_resolve_eq_some hblank (resolve_eq_some_iff.mpr ⟨i, hfirst.withActions actions⟩)

end Registry

namespace Console

variable {σ η : Type} [Sink σ]

/-- The console with other actions for its commands. -/
def withActions (c : Console σ η) (actions : Nat → List Entry → List String → Action Outcome) :
    Console σ η :=
  { c with registry := c.registry.withActions actions }

/-- What a console comes to that echoes the line, takes an action and reports how that ended. -/
def takeAction (c : Console σ η) (raw : String) (action : Action Outcome) :
    Dispatch × Console σ η :=
  let taken := action.run (Sink.printStyled c.sink raw .echo) c.world
  let reported := (Registry.report (Line.parse raw).command taken.1).run taken.2.1 taken.2.2
  (reported.1, { c with sink := reported.2.1, world := reported.2.2 })

/-- To execute the command at position `i` is to take its action when the line is handled, on any
console and whatever the commands do. -/
theorem executes_iff_handleInput (c : Console σ η) {raw : String} {i : Nat} :
    c.registry.Executes raw i ↔ ∀ actions,
      (c.withActions actions).handleInput raw =
        (c.withActions actions).takeAction raw
          (actions i (c.withActions actions).registry.entries (Line.parse raw).parameters) := by
  constructor
  · intro h actions
    rw [handleInput, takeAction, withActions, h actions, Action.run, Action.run_bind]
  · intro h
    have hexecuted : ((c.withActions (Registry.telling i)).handleInput raw).1 = .executed := by
      rw [h (Registry.telling i), takeAction]
      simp only [Registry.telling, if_pos]
      rfl
    rw [dispatch_handleInput, withActions] at hexecuted
    refine Registry.executes_iff.mpr ?_
    have hblank : Text.trim raw ≠ "" := by
      intro hblank
      rw [Registry.dispatch_of_blank hblank] at hexecuted
      cases hexecuted
    refine ⟨hblank, ?_⟩
    cases hresolve : c.registry.resolve (Line.parse raw).command with
    | none =>
      rw [Registry.dispatch_of_resolve_eq_none hblank
        (Registry.resolve_withActions_eq_none hresolve)] at hexecuted
      cases hexecuted
    | some command =>
      obtain ⟨j, hj⟩ := Registry.resolve_eq_some_iff.mp hresolve
      by_cases hji : j = i
      · exact ⟨command, hji ▸ hj⟩
      · rw [Registry.dispatch_of_resolve_eq_some hblank
          (Registry.resolve_eq_some_iff.mpr
            ⟨j, hj.withActions (Registry.telling i)⟩)] at hexecuted
        simp only [Registry.telling, if_neg hji] at hexecuted
        cases hexecuted

end Console

namespace Registry

/-- **Reachability.**  Some line executes the command at position `i` exactly when one of its names
can stand first on a line and is not, up to case, a name of a command before it. -/
theorem exists_executes_iff (r : Registry) (i : Fin r.commands.length) :
    (∃ raw, r.Executes raw i) ↔
      ∃ name ∈ r.commands[i].names, Line.CanLead name ∧
        ∀ j < i, ∀ other ∈ r.commands[j].names, Text.lowercase other ≠ Text.lowercase name := by
  constructor
  · rintro ⟨raw, hraw⟩
    obtain ⟨hblank, command, hfirst⟩ := executes_iff.mp hraw
    obtain rfl : r.commands[i] = command :=
      Option.some.inj ((List.getElem?_eq_getElem i.isLt).symm.trans hfirst.atPosition)
    obtain ⟨name, hname, hlower⟩ := hfirst.claims
    refine ⟨name, hname, (Line.canLead_command_parse hblank).of_lowercase_eq hlower.symm, ?_⟩
    intro j hj other hother hsame
    exact hfirst.first j hj _ (List.getElem?_eq_getElem j.isLt)
      ⟨other, hother, hsame.trans hlower⟩
  · rintro ⟨name, hname, hlead, hearlier⟩
    -- the name alone would not do: it may end in white space, which trimming takes off
    have hparse := Line.parse_append_of_canLead hlead
    refine ⟨name ++ " x", executes_iff.mpr ⟨?_, r.commands[i], ?_⟩⟩
    · rw [← Line.isEmpty_parse_eq_false_iff, hparse]
      exact Bool.and_false _
    · rw [hparse]
      refine ⟨List.getElem?_eq_getElem i.isLt, ⟨name, hname, rfl⟩, ?_⟩
      rintro j hj earlier hat ⟨other, hother, hsame⟩
      obtain ⟨hlt, rfl⟩ := List.getElem?_eq_some_iff.mp hat
      exact hearlier ⟨j, hlt⟩ hj other hother hsame

end Registry
end CommandConsole
