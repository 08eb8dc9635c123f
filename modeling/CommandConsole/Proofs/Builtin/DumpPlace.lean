import CommandConsole.Proofs.Builtin.Dump
import CommandConsole.Proofs.FileSystem.Walking

/-!
# Dumps and their directory

A dump with a name writes to the name as it is joined to the directory of dumps; the name itself is
not looked at.  So a dump to an absolute name is made there, whatever the directory is.  A relative
name is walked from the directory, and whether it stays inside can be read off the name: no `..` may
come before there was an entry to go back from (`Path.staysBelow`), so no front of the name leads up
more often than down (`Path.staysBelow_iff`).

Along the walk the place is always the directory and, below it, as many entries as were counted
(`FileSystem.step_append`).  Both directions follow by induction: where the count never fails the
file is below the directory (`staysBelow`), and where it fails the walk is above it.
-/
namespace CommandConsole

namespace Path

/-- The names never lead above where they start, if this many entries were gone down before. -/
def staysBelow : Nat → List String → Bool
  | _, [] => true
  | depth, name :: names =>
    if name = "." then staysBelow depth names
    else if name = ".." then decide (0 < depth) && staysBelow (depth - 1) names
    else staysBelow (depth + 1) names

/-- An entry to go down to. -/
def isEntry (name : String) : Bool := name ≠ "." ∧ name ≠ ".."

/-- Names stay below where they start if no front of them leads up more often than down. -/
theorem staysBelow_iff {depth : Nat} {names : List String} :
    staysBelow depth names = true ↔
      ∀ front, front <+: names → front.count ".." ≤ depth + front.countP isEntry := by
  induction names generalizing depth with
  | nil => simp [staysBelow]
  | cons name names ih =>
    have hfronts (p : List String → Prop) (hnil : p []) :
        (∀ front, front <+: name :: names → p front) ↔
          ∀ front, front <+: names → p (name :: front) := by
      constructor
      · exact fun h front hfront => h _ (List.cons_prefix_cons.mpr ⟨rfl, hfront⟩)
      · intro h front hfront
        rcases List.prefix_cons_iff.mp hfront with rfl | ⟨rest, rfl, hrest⟩
        · exact hnil
        · exact h rest hrest
    rw [hfronts _ (Nat.zero_le _), staysBelow]
    by_cases hdot : name = "."
    · have hentry : ¬ isEntry name = true := by simp [isEntry, hdot]
      have hne : name ≠ ".." := by simp [hdot]
      simp only [if_pos hdot, ih, List.countP_cons_of_neg hentry, List.count_cons_of_ne hne]
    rw [if_neg hdot]
    by_cases hdots : name = ".."
    · subst hdots
      have hentry : ¬ isEntry ".." = true := by simp [isEntry]
      rw [if_pos rfl, Bool.and_eq_true, decide_eq_true_eq, ih]
      simp only [List.countP_cons_of_neg hentry, List.count_cons_self]
      constructor
      · rintro ⟨hdepth, h⟩ front hfront
        have := h front hfront
        omega
      · intro h
        have hdepth := h [] List.nil_prefix
        rw [List.count_nil, List.countP_nil] at hdepth
        refine ⟨hdepth, fun front hfront => ?_⟩
        have := h front hfront
        omega
    · have hentry : isEntry name = true := by simp [isEntry, hdot, hdots]
      rw [if_neg hdots, ih]
      simp only [List.countP_cons_of_pos hentry, List.count_cons_of_ne hdots, Nat.add_assoc,
        Nat.add_comm 1]

/-- The path is the directory and names that stay below it. -/
def IsInside (directory path : String) : Prop :=
  isAbsolute path = isAbsolute directory ∧
    ∃ below, names path = names directory ++ below ∧ staysBelow 0 below = true

theorem isInside_join_iff {directory name : String} (h : isAbsolute name = false) :
    IsInside directory (join directory name) ↔ staysBelow 0 (names name) = true := by
  rw [IsInside, names_join h, isAbsolute_join h]
  constructor
  · rintro ⟨-, below, hbelow, hstays⟩
    rwa [List.append_cancel_left hbelow]
  · exact fun hstays => ⟨rfl, _, rfl, hstays⟩

/-- A last name that does not lead up changes nothing. -/
theorem staysBelow_concat {last : String} (h : last ≠ "..") (depth : Nat) (names : List String) :
    staysBelow depth (names ++ [last]) = staysBelow depth names := by
  induction names generalizing depth with
  | nil => simp [staysBelow, h]
  | cons name names ih => simp only [List.cons_append, staysBelow, ih]

end Path

namespace FileSystem

variable {fs : FileSystem} {base extra place : Location} {names : List String}

/-- A step from below a place stays below it and counts, unless it leads up from there. -/
theorem step_append (base extra : Location) (name : String) :
    (name = ".." ∧ extra = []) ∨
      ∃ more, step (base ++ extra) name = base ++ more ∧
        ∀ names,
          Path.staysBelow extra.length (name :: names) = Path.staysBelow more.length names := by
  by_cases hdot : name = "."
  · exact .inr ⟨extra, if_pos hdot, fun names => if_pos hdot⟩
  by_cases hdots : name = ".."
  · rcases extra.eq_nil_or_concat with rfl | ⟨entries, last, rfl⟩
    · exact .inl ⟨hdots, rfl⟩
    · refine .inr ⟨entries, ?_, fun names => ?_⟩
      · rw [step, if_neg hdot, if_pos hdots, List.concat_eq_append, ← List.append_assoc,
          List.dropLast_concat]
      · rw [Path.staysBelow, if_neg hdot, if_pos hdots, List.length_concat,
          decide_eq_true (by omega), Bool.true_and, Nat.add_sub_cancel]
  · refine .inr ⟨extra ++ [name], ?_, fun names => ?_⟩
    · rw [step, if_neg hdot, if_neg hdots, List.append_assoc]
    · rw [Path.staysBelow, if_neg hdot, if_neg hdots, List.length_append, List.length_singleton]

/-- Names that stay below a place end below it. -/
theorem prefix_foldl_step (hplace : place = base ++ extra)
    (h : Path.staysBelow extra.length names = true) : base <+: names.foldl step place := by
  induction names generalizing place extra with
  | nil => exact ⟨extra, hplace.symm⟩
  | cons name names ih =>
    subst hplace
    rcases step_append base extra name with ⟨rfl, rfl⟩ | ⟨more, hstep, hstays⟩
    · cases h
    · exact ih hstep (hstays names ▸ h)

/-- Names that do not stay below a place lead above it on their way. -/
theorem exists_walk_above {final : Location} (hbase : base ≠ []) (hplace : place = base ++ extra)
    (h : Path.staysBelow extra.length names = false) (hwalk : fs.walk place names = .ok final) :
    ∃ front above, front <+: names ∧ fs.walk place front = .ok above ∧ ¬ base <+: above := by
  induction names generalizing place extra with
  | nil => cases h
  | cons name names ih =>
    subst hplace
    rw [walk] at hwalk
    split at hwalk
    · rename_i next hnext
      have hnextPlace := eq_step_of_enter hnext
      rcases step_append base extra name with ⟨rfl, rfl⟩ | ⟨more, hstep, hstays⟩
      · refine ⟨[".."], next, ⟨names, rfl⟩, ?_, fun hprefix => ?_⟩
        · rw [walk, hnext]
          rfl
        · -- the directory above has a name less
          have hlonger := hprefix.length_le
          have hpositive := List.length_pos_iff.mpr hbase
          rw [hnextPlace, List.append_nil, step, if_neg (by decide), if_pos rfl,
            List.length_dropLast] at hlonger
          omega
      · obtain ⟨front, above, hfront, habove, hout⟩ :=
          ih (hnextPlace.trans hstep) (hstays names ▸ h) hwalk
        refine ⟨name :: front, above, List.cons_prefix_cons.mpr ⟨rfl, hfront⟩, ?_, hout⟩
        rw [walk, hnext]
        exact habove
    · cases hwalk

end FileSystem

namespace Builtin

/-- **A dump is made where its name leads from the directory.**  It writes to the name as it is
joined to the directory and to nothing else.  An absolute name stands for itself there, whatever the
directory is.  With a relative one the path is the directory extended by it, and is inside exactly
if no front of the name leads up more often than down; then the file is below the place that the
directory leads to.  Any other name leads out of the directory on its way to the file, unless that
is the root. -/
theorem dump_isInside_iff {σ : Type} [Sink σ] [LawfulSink σ] (directory : String) {name : String}
    (hname : name ≠ "") (rest : List String) (entries : List Entry) (sink : σ) (world : World) :
    let path := Path.join directory name
    let after := (((dump directory).action entries (name :: rest)).run sink world).2.2.files
    (∀ place, world.files.target path = .ok place →
      after = world.files.put place (Text.encode (Sink.content sink))) ∧
    (∀ cause, world.files.target path = .error cause → after = world.files) ∧
    (Path.isAbsolute name = true → path = name) ∧
    (Path.isAbsolute name = false →
      Path.names path = Path.names directory ++ Path.names name ∧
      (Path.IsInside directory path ↔ ∀ front, front <+: Path.names name →
        front.count ".." ≤ front.countP Path.isEntry) ∧
      ∀ place, world.files.target path = .ok place →
        ∃ base, world.files.LeadsTo directory base ∧
          (Path.IsInside directory path → base <+: place ∧ place ≠ base) ∧
          (¬ Path.IsInside directory path → base ≠ [] →
            ∃ front above, front <+: Path.names name ∧ world.files.walk base front = .ok above ∧
              ¬ base <+: above)) := by
  intro path after
  have hfiles := (run_dump entries (name :: rest) directory sink world).2.2
  rw [dumpName_cons hname] at hfiles
  refine ⟨fun place htarget => ?_, fun cause htarget => ?_, fun habsolute => if_pos habsolute,
    fun hrelative => ⟨Path.names_join hrelative, ?_, fun place htarget => ?_⟩⟩
  · exact hfiles.trans (by rw [htarget])
  · exact hfiles.trans (by rw [htarget])
  · rw [Path.isInside_join_iff hrelative, Path.staysBelow_iff]
    simp only [Nat.zero_add]
  · obtain ⟨base, within, last, hbase, hlast, hwithin, -, hdots, rfl⟩ :=
      FileSystem.target_join_eq_ok hname hrelative htarget
    obtain ⟨front, hfront⟩ := List.getLast?_eq_some_iff.mp hlast
    -- the file itself is no step up, so the count is settled before it
    rw [hfront, List.dropLast_concat] at hwithin
    have hinside : Path.IsInside directory path ↔ Path.staysBelow 0 front = true := by
      rw [Path.isInside_join_iff hrelative, hfront, Path.staysBelow_concat hdots]
    refine ⟨base, hbase, fun hstays => ?_, fun hleaves hne => ?_⟩
    · have hbelow := FileSystem.prefix_foldl_step (List.append_nil base).symm (hinside.mp hstays)
      rw [← FileSystem.eq_foldl_of_walk hwithin] at hbelow
      refine ⟨hbelow.trans (List.prefix_append _ _), fun hsame => ?_⟩
      have hlength := hbelow.length_le
      rw [← hsame, List.length_append, List.length_singleton] at hlength
      omega
    · rw [hinside, Bool.not_eq_true] at hleaves
      obtain ⟨part, above, hpart, habove, hout⟩ :=
        FileSystem.exists_walk_above hne (List.append_nil base).symm hleaves hwithin
      rw [hfront]
      exact ⟨part, above, hpart.trans (List.prefix_append _ _), habove, hout⟩

/-- Files with a directory for dumps, `sub`, and another one in it. -/
def cupboard : FileSystem := { nodes := [(["sub"], .directory), (["sub", "a"], .directory)] }

/-- A name that goes down and up again stays inside. -/
theorem dump_upFromBelow :
    let world : World := { files := cupboard, clock := fun _ => .epoch }
    Path.IsInside "sub" (Path.join "sub" "a/../b.txt") ∧
      (((dump "sub").action [] ["a/../b.txt"]).run ({} : Terminal) world).2.2.files =
        cupboard.put ["sub", "b.txt"] [] ∧
      ∃ base, cupboard.LeadsTo "sub" base ∧ base <+: ["sub", "b.txt"] := by
  intro world
  obtain ⟨hput, -, -, hrelative⟩ := dump_isInside_iff "sub" (by decide : "a/../b.txt" ≠ "") [] []
    ({} : Terminal) world
  obtain ⟨-, -, hbelow⟩ := hrelative (by decide)
  have hinside : Path.IsInside "sub" (Path.join "sub" "a/../b.txt") :=
    (Path.isInside_join_iff (by decide)).mpr (by decide)
  have hplace : cupboard.target (Path.join "sub" "a/../b.txt") = .ok ["sub", "b.txt"] := by rfl
  obtain ⟨base, hbase, hstays, -⟩ := hbelow _ hplace
  exact ⟨hinside, hput _ hplace, base, hbase, (hstays hinside).1⟩

end Builtin

namespace Console

/-- A terminal with the built-in commands and dumps to `sub`. -/
def closet : Console Terminal HookCalls where
  registry := (Registry.registerAll {} (Builtin.all "sub")).1
  sink := {}
  hooks := {}
  world := { files := Builtin.cupboard, clock := fun _ => .epoch }

/-- Neither `..` nor a slash in front keeps a dump from being made outside. -/
theorem handleInput_dumpOutside :
    ¬ Path.IsInside "sub" (closet.dumpPath "sub" "dump ../x.txt") ∧
      (closet.handleInput "dump ../x.txt").2.world.files.node? ["x.txt"] =
        some (.file (Text.encode "dump ../x.txt\n")) ∧
      ¬ Path.IsInside "sub" (closet.dumpPath "sub" "dump /y.txt") ∧
      (closet.handleInput "dump /y.txt").2.world.files.node? ["y.txt"] =
        some (.file (Text.encode "dump /y.txt\n")) := by
  have habove : closet.dumpPath "sub" "dump ../x.txt" = Path.join "sub" "../x.txt" := by rfl
  have hroot : closet.dumpPath "sub" "dump /y.txt" = "/y.txt" := by rfl
  refine ⟨?_, by rfl, ?_, by rfl⟩
  · rw [habove, Path.isInside_join_iff (by decide)]
    decide
  · rw [hroot]
    rintro ⟨habsolute, -⟩
    exact absurd habsolute (by decide)

end Console
end CommandConsole
