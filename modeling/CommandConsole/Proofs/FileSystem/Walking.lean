import CommandConsole.FileSystem

/-!
# Where joined paths lead

The names of a joined path are those of the directory and then those of the name that was joined to
it (`Path.names_join`), unless that name is absolute and stands for itself.  So the joined path is
walked through the directory first, and on from the place that it leads to
(`FileSystem.target_join_eq_ok`).

What is there decides whether a walk succeeds, but not where it ends: each name of a walk that
succeeds stays, goes up or goes down one step as it says (`FileSystem.eq_foldl_of_walk`).
-/
namespace CommandConsole

namespace Path

theorem isAbsolute_iff {path : String} : isAbsolute path = true ↔ path.toList.head? = some '/' :=
  beq_iff_eq

theorem endsInSlash_iff {path : String} :
    endsInSlash path = true ↔ path.toList.getLast? = some '/' := beq_iff_eq

/-- The names before a slash and those after it. -/
theorem names_append_slash (front rest : String) :
    names (front ++ "/" ++ rest) = names front ++ names rest := by
  have hchars : (front ++ "/" ++ rest).toList = front.toList ++ '/' :: rest.toList := by
    rw [String.toList_append, String.toList_append, List.append_assoc]
    rfl
  rw [names, names, names, hchars, List.splitOn_append_cons_self, List.filter_append,
    List.map_append]

theorem names_empty : names "" = [] := rfl

/-- A slash at the end of a path adds no name. -/
theorem exists_eq_append_slash {path : String} (h : endsInSlash path = true) :
    ∃ front, path = front ++ "/" ∧ names front = names path := by
  obtain ⟨cs, hcs⟩ := List.getLast?_eq_some_iff.mp (endsInSlash_iff.mp h)
  have hpath : path = String.ofList cs ++ "/" := by
    rw [← String.toList_inj, String.toList_append, String.toList_ofList]
    exact hcs
  refine ⟨String.ofList cs, hpath, ?_⟩
  have hnames := names_append_slash (String.ofList cs) ""
  rw [String.append_empty, ← hpath, names_empty, List.append_nil] at hnames
  exact hnames.symm

variable {directory name : String}

/-- The names of a joined path. -/
theorem names_join (h : isAbsolute name = false) :
    names (join directory name) = names directory ++ names name := by
  rw [join, h, if_neg Bool.false_ne_true]
  split
  · rename_i hends
    rw [Bool.or_eq_true, beq_iff_eq] at hends
    rcases hends with rfl | hends
    · rw [String.empty_append, names_empty, List.nil_append]
    · obtain ⟨front, hfront, hnames⟩ := exists_eq_append_slash hends
      rw [← hnames, hfront, names_append_slash]
  · exact names_append_slash directory name

/-- A joined path starts where the directory does. -/
theorem isAbsolute_join (h : isAbsolute name = false) :
    isAbsolute (join directory name) = isAbsolute directory := by
  by_cases hempty : directory = ""
  · rw [join, h, if_neg Bool.false_ne_true, hempty, beq_self_eq_true, Bool.true_or, if_pos rfl,
      String.empty_append, h]
    rfl
  · have hne : directory.toList ≠ [] := mt String.toList_eq_nil_iff.mp hempty
    obtain ⟨c, cs, hcs⟩ := List.exists_cons_of_ne_nil hne
    rw [join, h, if_neg Bool.false_ne_true]
    split <;> simp only [isAbsolute, String.toList_append, hcs, List.cons_append, List.head?_cons]

/-- A relative name that is not empty has a first name between slashes. -/
theorem names_ne_nil (hne : name ≠ "") (h : isAbsolute name = false) : names name ≠ [] := by
  obtain ⟨c, cs, hcs⟩ := List.exists_cons_of_ne_nil (mt String.toList_eq_nil_iff.mp hne)
  have hc : (c == '/') = false := by
    rw [beq_eq_false_iff_ne]
    rintro rfl
    rw [isAbsolute, hcs, List.head?_cons, beq_self_eq_true] at h
    exact Bool.noConfusion h
  obtain ⟨first, rest, hpieces⟩ := List.exists_cons_of_ne_nil (List.splitOn_ne_nil '/' cs)
  rw [names, hcs, List.splitOn_cons_eq_if_modifyHead, hc, if_neg Bool.false_ne_true, hpieces,
    List.modifyHead_cons, List.filter_cons_of_pos (by simp)]
  exact List.cons_ne_nil _ _

/-- A name without slashes is the only one between them. -/
theorem names_of_noSlash (hne : name ≠ "") (h : '/' ∉ name.toList) : names name = [name] := by
  have hkept : [name.toList].filter (· ≠ []) = [name.toList] :=
    List.filter_cons_of_pos (by simpa using mt String.toList_eq_nil_iff.mp hne)
  rw [names, List.splitOn_eq_singleton h, hkept, List.map_singleton, String.ofList_toList]

theorem isAbsolute_of_noSlash (h : '/' ∉ name.toList) : isAbsolute name = false := by
  rw [← Bool.not_eq_true, isAbsolute_iff]
  exact fun hhead => h (List.mem_of_head? hhead)

end Path

namespace FileSystem

variable {fs : FileSystem} {path directory name : String} {place : Location}

/-- Where a name leads from a place. -/
def step (place : Location) (name : String) : Location :=
  if name = "." then place else if name = ".." then place.dropLast else place ++ [name]

theorem eq_step_of_enter {next : Location} (h : fs.enter place name = .ok next) :
    next = step place name := by
  rw [enter] at h
  rw [step]
  split at h
  · rename_i hdot
    rw [if_pos hdot]
    exact (Except.ok.inj h).symm
  rename_i hdot
  rw [if_neg hdot]
  split at h
  · rename_i hdots
    rw [if_pos hdots]
    exact (Except.ok.inj h).symm
  rename_i hdots
  rw [if_neg hdots]
  split at h
  · cases h
  split at h
  · exact (Except.ok.inj h).symm
  · cases h
  · cases h

/-- Where a walk ends, if it succeeds. -/
theorem eq_foldl_of_walk {names : List String} {final : Location}
    (h : fs.walk place names = .ok final) : final = names.foldl step place := by
  induction names generalizing place with
  | nil => exact (Except.ok.inj h).symm
  | cons name names ih =>
    rw [walk] at h
    split at h
    · rename_i next hnext
      rw [List.foldl_cons, ← eq_step_of_enter hnext]
      exact ih h
    · cases h

/-- A walk through some names and then others. -/
theorem walk_append_eq_ok {first second : List String} {final : Location} :
    fs.walk place (first ++ second) = .ok final ↔
      ∃ middle, fs.walk place first = .ok middle ∧ fs.walk middle second = .ok final := by
  induction first generalizing place with
  | nil => simp [walk]
  | cons name names ih =>
    rw [List.cons_append, walk, walk]
    cases fs.enter place name with
    | ok next => exact ih
    | error cause => simp

/-- The path leads to the directory at a place. -/
def LeadsTo (fs : FileSystem) (path : String) (place : Location) : Prop :=
  fs.walk (fs.start path) (Path.names path) = .ok place

/-- The last name of a path, and the directory that the names before it lead to. -/
theorem parent_eq_ok {within : Location} {last : String} (h : fs.parent path = .ok (within, last)) :
    (Path.names path).getLast? = some last ∧
      fs.walk (fs.start path) (Path.names path).dropLast = .ok within := by
  rw [parent] at h
  split at h
  · cases h
  split at h
  · cases h
  split at h
  · cases h
  split at h
  · cases h
  rename_i hname
  split at h
  · rename_i hwalk
    obtain ⟨rfl, rfl⟩ := Prod.mk.inj (Except.ok.inj h)
    exact ⟨hname, hwalk⟩
  · cases h

/-- A path that a file can be written to leads to a directory and has a name for the file in it. -/
theorem target_eq_ok (h : fs.target path = .ok place) :
    ∃ within last, (Path.names path).getLast? = some last ∧
      fs.walk (fs.start path) (Path.names path).dropLast = .ok within ∧
      last ≠ "." ∧ last ≠ ".." ∧ place = within ++ [last] := by
  rw [target] at h
  split at h
  · cases h
  rename_i within last hparent
  obtain ⟨hname, hwalk⟩ := parent_eq_ok hparent
  split at h
  · cases h
  rename_i hlast
  obtain ⟨hdot, hdots, -⟩ : last ≠ "." ∧ last ≠ ".." ∧ ¬ Path.endsInSlash path = true := by
    simpa only [not_or] using hlast
  refine ⟨within, last, hname, hwalk, hdot, hdots, ?_⟩
  split at h
  · cases h
  -- a file that is there is replaced, and where nothing is one is made
  split at h
  · cases h
  · exact (Except.ok.inj h).symm
  · exact (Except.ok.inj h).symm

/-- A relative name is walked from the directory that it was joined to. -/
theorem target_join_eq_ok (hne : name ≠ "") (hname : Path.isAbsolute name = false)
    (h : fs.target (Path.join directory name) = .ok place) :
    ∃ base within last, fs.LeadsTo directory base ∧ (Path.names name).getLast? = some last ∧
      fs.walk base (Path.names name).dropLast = .ok within ∧
      last ≠ "." ∧ last ≠ ".." ∧ place = within ++ [last] := by
  obtain ⟨within, last, hlast, hwalk, hdot, hdots, hplace⟩ := target_eq_ok h
  have hnames := Path.names_ne_nil hne hname
  have hstart : fs.start (Path.join directory name) = fs.start directory := by
    rw [start, start, Path.isAbsolute_join hname]
  rw [Path.names_join hname, List.getLast?_append, List.getLast?_eq_some_getLast hnames,
    Option.some_or, ← List.getLast?_eq_some_getLast hnames] at hlast
  rw [Path.names_join hname, List.dropLast_append_of_ne_nil hnames, hstart] at hwalk
  obtain ⟨base, hbase, hwithin⟩ := walk_append_eq_ok.mp hwalk
  exact ⟨base, within, last, hbase, hlast, hwithin, hdot, hdots, hplace⟩

end FileSystem
end CommandConsole
