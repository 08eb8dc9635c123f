import CommandConsole.Proofs.Registry.Resolution
import CommandConsole.Proofs.Text.Idempotence
import Mathlib.Data.List.Induction
import Mathlib.Order.Basic
import Mathlib.Data.String.Basic

/-!
# Names that several commands claim

The registry lists the lowercase names that more than one command answers to.  The list is drawn up
in one pass with two accumulators, the names seen so far and those found so far.  Here the pass is
read from its end: one more command adds to the list those of its names that a command before it has
a claim to and that are not listed yet (`shadowedAmong_concat`).

It follows that a name is listed if two positions have a claim to it (`mem_shadowedAmong_iff`), and
that it is listed when the second of these comes (`SecondClaimant`), which settles the order of the
list (`pairwise_shadowedAmong`).  Who gets a listed name does not depend on whether one asks for it
in lowercase, since lowercase is idempotent.
-/
namespace CommandConsole.Registry

/-! ## The names of one command -/

theorem mem_insertName_iff {form name : String} {sorted : List String} :
    form ∈ insertName name sorted ↔ form = name ∨ form ∈ sorted := by
  induction sorted with
  | nil => rw [insertName, List.mem_singleton, or_iff_left List.not_mem_nil]
  | cons other rest ih =>
    rw [insertName]
    split
    · exact List.mem_cons
    split
    · rename_i hsame
      rw [hsame, List.mem_cons, or_self_left]
    · rw [List.mem_cons, ih, List.mem_cons, or_left_comm]

theorem pairwise_insertName {sorted : List String} (h : sorted.Pairwise (· < ·)) (name : String) :
    (insertName name sorted).Pairwise (· < ·) := by
  induction sorted with
  | nil => exact List.pairwise_singleton _ _
  | cons other rest ih =>
    obtain ⟨hother, hrest⟩ := List.pairwise_cons.mp h
    rw [insertName]
    split
    · rename_i hbefore
      refine List.pairwise_cons.mpr ⟨?_, h⟩
      intro form hform
      rcases List.mem_cons.mp hform with rfl | hform
      · exact hbefore
      · exact lt_trans hbefore (hother form hform)
    split
    · exact h
    · rename_i hnotBefore hne
      refine List.pairwise_cons.mpr ⟨?_, ih hrest⟩
      intro form hform
      rcases mem_insertName_iff.mp hform with rfl | hform
      · exact lt_of_le_of_ne (not_lt.mp hnotBefore) (Ne.symm hne)
      · exact hother form hform

theorem mem_sortedNames_iff {card : Card} {form : String} :
    form ∈ sortedNames card ↔ ∃ own ∈ card.names, Text.lowercase own = form := by
  rw [sortedNames]
  induction card.names with
  | nil => exact iff_of_false List.not_mem_nil (by simp)
  | cons name names ih =>
    rw [List.foldr_cons, mem_insertName_iff, ih, List.exists_mem_cons_iff, eq_comm]

/-- The lowercase names of a command are the lowercase texts that it has a claim to. -/
theorem mem_sortedNames_iff_claims {card : Card} {form : String} :
    form ∈ sortedNames card ↔ Text.lowercase form = form ∧ card.Claims form := by
  rw [mem_sortedNames_iff, Card.Claims]
  constructor
  · rintro ⟨own, hown, rfl⟩
    exact ⟨Text.lowercase_lowercase own, own, hown, (Text.lowercase_lowercase own).symm⟩
  · rintro ⟨hlower, own, hown, hsame⟩
    exact ⟨own, hown, hsame.trans hlower⟩

theorem pairwise_sortedNames (card : Card) : (sortedNames card).Pairwise (· < ·) := by
  rw [sortedNames]
  induction card.names with
  | nil => exact List.Pairwise.nil
  | cons name names ih => exact pairwise_insertName ih _

/-! ## One more command -/

/-- The lowercase names that more than one of some commands answers to. -/
def shadowedAmong (commands : List Command) : List String := shadowedFrom [] [] commands

theorem shadowedFrom_concat (seen found : List String) (commands : List Command)
    (command : Command) :
    shadowedFrom seen found (commands ++ [command]) =
      shadowedFrom seen found commands ++
        (sortedNames command.toCard).filter fun form =>
          (form ∈ seen ∨ ∃ earlier ∈ commands, form ∈ sortedNames earlier.toCard) ∧
            form ∉ shadowedFrom seen found commands := by
  induction commands generalizing seen found with
  | nil => simp [shadowedFrom]
  | cons first commands ih =>
    rw [List.cons_append, shadowedFrom, shadowedFrom, ih]
    refine congrArg _ (List.filter_congr fun form _ => decide_eq_decide.mpr ?_)
    refine and_congr_left fun _ => ?_
    -- the names seen after the first command are those seen before it and its own
    rw [List.mem_append, List.mem_filter, decide_eq_true_eq, List.exists_mem_cons_iff]
    tauto

/-- One more command adds those of its names that a command before it has a claim to, unless they
are listed already. -/
theorem shadowedAmong_concat (commands : List Command) (command : Command) :
    shadowedAmong (commands ++ [command]) =
      shadowedAmong commands ++
        (sortedNames command.toCard).filter fun form =>
          (∃ earlier ∈ commands, form ∈ sortedNames earlier.toCard) ∧
            form ∉ shadowedAmong commands := by
  rw [shadowedAmong, shadowedFrom_concat]
  simp only [List.not_mem_nil, false_or]
  rfl

theorem mem_shadowedAmong_concat_iff {commands : List Command} {command : Command} {form : String} :
    form ∈ shadowedAmong (commands ++ [command]) ↔
      form ∈ shadowedAmong commands ∨
        Text.lowercase form = form ∧ command.Claims form ∧
          ∃ earlier ∈ commands, earlier.Claims form := by
  rw [shadowedAmong_concat, List.mem_append, List.mem_filter, decide_eq_true_eq,
    mem_sortedNames_iff_claims]
  simp only [mem_sortedNames_iff_claims]
  by_cases hlisted : form ∈ shadowedAmong commands
  · exact iff_of_true (Or.inl hlisted) (Or.inl hlisted)
  · constructor
    · rintro (h | ⟨⟨hlower, hclaims⟩, ⟨earlier, hearlier, -, hbefore⟩, -⟩)
      · exact absurd h hlisted
      · exact Or.inr ⟨hlower, hclaims, earlier, hearlier, hbefore⟩
    · rintro (h | ⟨hlower, hclaims, earlier, hearlier, hbefore⟩)
      · exact absurd h hlisted
      · exact Or.inr ⟨⟨hlower, hclaims⟩, ⟨earlier, hearlier, hlower, hbefore⟩, hlisted⟩

/-! ## Positions with a claim -/

/-- The command at position `i` has a claim to a name. -/
def ClaimedAt (commands : List Command) (name : String) (i : Nat) : Prop :=
  ∃ command, commands[i]? = some command ∧ command.Claims name

variable {commands : List Command} {command : Command} {form name : String} {i j : Nat}

theorem ClaimedAt.lt_length (h : ClaimedAt commands name i) : i < commands.length := by
  obtain ⟨command, hat, -⟩ := h
  exact (List.getElem?_eq_some_iff.mp hat).1

theorem exists_claimedAt_iff :
    (∃ i, ClaimedAt commands name i) ↔ ∃ command ∈ commands, command.Claims name := by
  constructor
  · rintro ⟨i, command, hat, hclaims⟩
    exact ⟨command, List.mem_of_getElem? hat, hclaims⟩
  · rintro ⟨command, hcommand, hclaims⟩
    obtain ⟨i, hat⟩ := List.mem_iff_getElem?.mp hcommand
    exact ⟨i, command, hat, hclaims⟩

theorem claimedAt_concat_iff :
    ClaimedAt (commands ++ [command]) name i ↔
      ClaimedAt commands name i ∨ i = commands.length ∧ command.Claims name := by
  constructor
  · rintro ⟨found, hat, hclaims⟩
    obtain ⟨hi, -⟩ := List.getElem?_eq_some_iff.mp hat
    rw [List.length_append, List.length_singleton] at hi
    rcases Nat.lt_succ_iff_lt_or_eq.mp hi with hlt | rfl
    · rw [List.getElem?_append_left hlt] at hat
      exact Or.inl ⟨found, hat, hclaims⟩
    · rw [List.getElem?_concat_length] at hat
      obtain rfl := Option.some.inj hat
      exact Or.inr ⟨rfl, hclaims⟩
  · rintro (h | ⟨rfl, hclaims⟩)
    · have hlt := h.lt_length
      obtain ⟨found, hat, hclaims⟩ := h
      exact ⟨found, by rw [List.getElem?_append_left hlt, hat], hclaims⟩
    · exact ⟨command, List.getElem?_concat_length, hclaims⟩

/-- A name is listed exactly if it is in lowercase and two positions have a claim to it. -/
theorem mem_shadowedAmong_iff :
    form ∈ shadowedAmong commands ↔
      Text.lowercase form = form ∧
        ∃ i j, i < j ∧ ClaimedAt commands form i ∧ ClaimedAt commands form j := by
  induction commands using List.reverseRecOn with
  | nil =>
    refine iff_of_false List.not_mem_nil ?_
    rintro ⟨-, i, j, -, hi, -⟩
    exact absurd hi.lt_length (Nat.not_lt_zero i)
  | append_singleton commands command ih =>
    rw [mem_shadowedAmong_concat_iff, ih, ← exists_claimedAt_iff, ← and_or_left]
    refine and_congr_right fun _ => ?_
    constructor
    · rintro (⟨i, j, hij, hi, hj⟩ | ⟨hclaims, i, hi⟩)
      · exact ⟨i, j, hij, claimedAt_concat_iff.mpr (Or.inl hi),
          claimedAt_concat_iff.mpr (Or.inl hj)⟩
      · exact ⟨i, commands.length, hi.lt_length, claimedAt_concat_iff.mpr (Or.inl hi),
          claimedAt_concat_iff.mpr (Or.inr ⟨rfl, hclaims⟩)⟩
    · rintro ⟨i, j, hij, hi, hj⟩
      rcases claimedAt_concat_iff.mp hj with hj | ⟨rfl, hclaims⟩
      · -- both positions lie before the command that was added
        rcases claimedAt_concat_iff.mp hi with hi | ⟨rfl, -⟩
        · exact Or.inl ⟨i, j, hij, hi, hj⟩
        · exact absurd hj.lt_length (Nat.not_lt.mpr (Nat.le_of_lt hij))
      · rcases claimedAt_concat_iff.mp hi with hi | ⟨rfl, -⟩
        · exact Or.inr ⟨hclaims, i, hi⟩
        · exact absurd hij (Nat.lt_irrefl _)

theorem nodup_shadowedAmong (commands : List Command) : (shadowedAmong commands).Nodup := by
  induction commands using List.reverseRecOn with
  | nil => exact List.nodup_nil
  | append_singleton commands command ih =>
    have hown : (sortedNames command.toCard).Nodup :=
      (pairwise_sortedNames command.toCard).imp fun hlt => ne_of_lt hlt
    rw [shadowedAmong_concat]
    refine List.nodup_append.mpr ⟨ih, hown.filter _, ?_⟩
    rintro form hlisted _ hadded rfl
    exact (of_decide_eq_true (List.mem_filter.mp hadded).2).2 hlisted

/-! ## The order of the list -/

/-- Position `j` is the second with a claim to a name: one position before it has a claim, and no
other does. -/
structure SecondClaimant (commands : List Command) (name : String) (j : Nat) : Prop where
  claimed : ClaimedAt commands name j
  exists_first : ∃ i < j, ∀ k < j, ClaimedAt commands name k ↔ k = i

/-- One name gets its second claimant before the other does, or both get it at the same position and
the one name comes first by code points. -/
def SharedBefore (commands : List Command) (form other : String) : Prop :=
  ∃ i j, SecondClaimant commands form i ∧ SecondClaimant commands other j ∧
    (i < j ∨ i = j ∧ form < other)

theorem SecondClaimant.concat (h : SecondClaimant commands name j) (command : Command) :
    SecondClaimant (commands ++ [command]) name j where
  claimed := claimedAt_concat_iff.mpr (Or.inl h.claimed)
  exists_first := by
    obtain ⟨i, hij, honly⟩ := h.exists_first
    refine ⟨i, hij, fun k hk => ?_⟩
    have hbefore : k ≠ commands.length :=
      Nat.ne_of_lt (Nat.lt_trans hk h.claimed.lt_length)
    rw [claimedAt_concat_iff, ← honly k hk]
    exact or_iff_left fun hlast => hbefore hlast.1

theorem SharedBefore.concat {other : String} (h : SharedBefore commands form other)
    (command : Command) : SharedBefore (commands ++ [command]) form other := by
  obtain ⟨i, j, hi, hj, horder⟩ := h
  exact ⟨i, j, hi.concat command, hj.concat command, horder⟩

/-- A name that one more command adds to the list has that command for its second claimant. -/
theorem secondClaimant_of_mem_added
    (h : form ∈ (sortedNames command.toCard).filter fun form =>
      (∃ earlier ∈ commands, form ∈ sortedNames earlier.toCard) ∧
        form ∉ shadowedAmong commands) :
    SecondClaimant (commands ++ [command]) form commands.length := by
  obtain ⟨hown, hadded⟩ := List.mem_filter.mp h
  obtain ⟨⟨earlier, hearlier, hbefore⟩, hunlisted⟩ := of_decide_eq_true hadded
  obtain ⟨hlower, hclaims⟩ := mem_sortedNames_iff_claims.mp hown
  obtain ⟨i, hi⟩ :=
    exists_claimedAt_iff.mpr ⟨earlier, hearlier, (mem_sortedNames_iff_claims.mp hbefore).2⟩
  refine ⟨claimedAt_concat_iff.mpr (Or.inr ⟨rfl, hclaims⟩), i, hi.lt_length, fun k hk => ?_⟩
  rw [claimedAt_concat_iff, or_iff_left fun hlast => Nat.ne_of_lt hk hlast.1]
  constructor
  · -- another claim beside that of position `i` would have put the name on the list
    intro hclaimed
    by_contra hne
    refine hunlisted (mem_shadowedAmong_iff.mpr ⟨hlower, ?_⟩)
    rcases Nat.lt_or_gt_of_ne hne with hlt | hgt
    · exact ⟨k, i, hlt, hclaimed, hi⟩
    · exact ⟨i, k, hgt, hi, hclaimed⟩
  · rintro rfl
    exact hi

theorem exists_secondClaimant_of_mem (h : form ∈ shadowedAmong commands) :
    ∃ j, SecondClaimant commands form j := by
  induction commands using List.reverseRecOn with
  | nil => exact absurd h List.not_mem_nil
  | append_singleton commands command ih =>
    rw [shadowedAmong_concat] at h
    rcases List.mem_append.mp h with hlisted | hadded
    · obtain ⟨j, hj⟩ := ih hlisted
      exact ⟨j, hj.concat command⟩
    · exact ⟨commands.length, secondClaimant_of_mem_added hadded⟩

theorem pairwise_shadowedAmong (commands : List Command) :
    (shadowedAmong commands).Pairwise (SharedBefore commands) := by
  induction commands using List.reverseRecOn with
  | nil => exact List.Pairwise.nil
  | append_singleton commands command ih =>
    rw [shadowedAmong_concat]
    refine List.pairwise_append.mpr ⟨ih.imp fun h => h.concat command, ?_, ?_⟩
    · -- two names that the command adds are in the order of its sorted names
      refine ((pairwise_sortedNames command.toCard).filter _).imp_of_mem ?_
      intro form other hform hother hlt
      exact ⟨_, _, secondClaimant_of_mem_added hform, secondClaimant_of_mem_added hother,
        Or.inr ⟨rfl, hlt⟩⟩
    · intro form hlisted other hadded
      obtain ⟨j, hj⟩ := exists_secondClaimant_of_mem hlisted
      exact ⟨j, commands.length, hj.concat command, secondClaimant_of_mem_added hadded,
        Or.inl hj.claimed.lt_length⟩

/-! ## Who gets a listed name -/

theorem FirstClaimant.claimedAt {r : Registry} (h : r.FirstClaimant name i command) :
    ClaimedAt r.commands name i := ⟨command, h.atPosition, h.claims⟩

theorem FirstClaimant.le_of_claimedAt {r : Registry} (h : r.FirstClaimant name i command)
    (hj : ClaimedAt r.commands name j) : i ≤ j := by
  obtain ⟨later, hat, hclaims⟩ := hj
  by_contra hlt
  exact h.first j (Nat.not_le.mp hlt) later hat hclaims

/-- **The list of shared names is exact.**  It holds, without repetition, the lowercase texts that
the commands at two positions have a claim to, in the order in which they get their second claimant
and, for the names of one command, in the order of code points.  A listed name belongs to the first
command with a claim to it, and whichever way a later command spells the name, it does not get it.
A name that is not listed in its lowercase form belongs to the command that has it. -/
theorem shadowedNames_exact (r : Registry) :
    r.shadowedNames.Nodup ∧
    (∀ form, form ∈ r.shadowedNames ↔
      Text.lowercase form = form ∧
        ∃ i j, i < j ∧ ClaimedAt r.commands form i ∧ ClaimedAt r.commands form j) ∧
    r.shadowedNames.Pairwise (SharedBefore r.commands) ∧
    (∀ form ∈ r.shadowedNames, ∃ i command, r.FirstClaimant form i command ∧
      r.resolve form = some command ∧
      ∀ j later, j ≠ i → r.commands[j]? = some later →
        ∀ own ∈ later.names, Text.lowercase own = form →
          i < j ∧ r.position? own = some i ∧ r.resolve own = some command) ∧
    ∀ i command, r.commands[i]? = some command →
      ∀ name ∈ command.names, Text.lowercase name ∉ r.shadowedNames →
        r.position? name = some i ∧ r.resolve name = some command := by
  refine ⟨nodup_shadowedAmong r.commands, fun form => mem_shadowedAmong_iff,
    pairwise_shadowedAmong r.commands, ?_, ?_⟩
  · intro form hform
    obtain ⟨hlower, i, j, -, ⟨claimant, hat, hclaims⟩, -⟩ := mem_shadowedAmong_iff.mp hform
    obtain ⟨first, command, hfirst⟩ := exists_firstClaimant (List.mem_of_getElem? hat) hclaims
    refine ⟨first, command, hfirst, resolve_eq_some_iff.mpr ⟨first, hfirst⟩, ?_⟩
    intro j later hne hlater own hown hsame
    have hclaimed : ClaimedAt r.commands form j :=
      ⟨later, hlater, own, hown, hsame.trans hlower.symm⟩
    have hfirst' : r.FirstClaimant own first command := hfirst.congr (hlower.trans hsame.symm)
    exact ⟨Nat.lt_of_le_of_ne (hfirst.le_of_claimedAt hclaimed) hne.symm,
      position?_eq_some_iff.mpr ⟨command, hfirst'⟩, resolve_eq_some_iff.mpr ⟨first, hfirst'⟩⟩
  · intro i command hat name hname hunlisted
    have hclaims : command.Claims name := ⟨name, hname, rfl⟩
    obtain ⟨first, winner, hfirst⟩ := exists_firstClaimant (List.mem_of_getElem? hat) hclaims
    -- were the first claimant another position, the name would be listed
    have hlower : Text.lowercase name = Text.lowercase (Text.lowercase name) :=
      (Text.lowercase_lowercase name).symm
    have hi : ClaimedAt r.commands (Text.lowercase name) i :=
      ⟨command, hat, (Card.claims_congr hlower).mp hclaims⟩
    have hsame : first = i := by
      by_contra hne
      have hlt : first < i :=
        Nat.lt_of_le_of_ne (hfirst.le_of_claimedAt ⟨command, hat, hclaims⟩) hne
      exact hunlisted (mem_shadowedAmong_iff.mpr
        ⟨hlower.symm, first, i, hlt, (hfirst.congr hlower).claimedAt, hi⟩)
    subst hsame
    obtain rfl := Option.some.inj (hat.symm.trans hfirst.atPosition)
    exact ⟨position?_eq_some_iff.mpr ⟨command, hfirst⟩, resolve_eq_some_iff.mpr ⟨first, hfirst⟩⟩

/-- Three commands that share names in different cases; the second has one of them twice, and one
that it shares ends in a sigma. -/
def overlapping : Registry :=
  let completing (names : List String) : Command :=
    { names, help := "", action := fun _ _ => .done .completed }
  (registerAll {} [completing ["Clear", "ΑΣ"], completing ["C", "copy", "c", "ας"],
    completing ["CLEAR", "C", "cut"]]).1

theorem shadowedNames_overlapping :
    overlapping.shadowedNames = ["ας", "c", "clear"] ∧ overlapping.shadowedNames.Nodup ∧
      overlapping.resolve "ας" = overlapping.commands[0]? ∧
      overlapping.position? "ας" = some 0 ∧ overlapping.position? "copy" = some 1 := by
  obtain ⟨hnodup, -, -, hshared, hunshared⟩ := shadowedNames_exact overlapping
  have hnames : overlapping.shadowedNames = ["ας", "c", "clear"] := by decide +kernel
  obtain ⟨i, command, hfirst, hresolve, hlater⟩ := hshared "ας" (by rw [hnames]; decide)
  obtain rfl : i = 0 := by
    have hzero : overlapping.position? "ας" = some 0 := by decide +kernel
    exact Option.some.inj ((position?_eq_some_iff.mpr ⟨command, hfirst⟩).symm.trans hzero)
  have hlower : Text.lowercase "ας" = "ας" := by decide +kernel
  obtain ⟨-, hposition, -⟩ := hlater 1 _ (by decide) rfl "ας" (by decide) hlower
  have hown := hunshared 1 _ rfl "copy" (by decide) (by rw [hnames]; decide +kernel)
  exact ⟨hnames, hnodup, hresolve.trans hfirst.atPosition.symm, hposition, hown.1⟩

end CommandConsole.Registry
