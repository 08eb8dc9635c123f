import CommandConsole.DumpName
import CommandConsole.Proofs.Builtin.Dump
import CommandConsole.Proofs.FileSystem.Walking
import Mathlib.Data.List.Forall2

/-!
# Names after the clock

A dump without a name of its own is called after the clock, and its name tells all that the clock
shows: two moments have the same name exactly if they show the same year, month, day, hour, minute
and second (`byDefault_eq_iff`).  Years are of different lengths, and the sign of a negative one is
the character that stands between the fields.  But behind the year all fields have two digits, so
the name is taken apart from its end, and the year is what remains.

There is no slash in such a name.  So it names a file in the directory itself, and two dumps to one
place have the same name there.
-/
namespace CommandConsole

/-- The clock shows the same at both moments. -/
structure DateTime.ShowsSame (now later : DateTime) : Prop where
  year : now.date.year = later.date.year
  month : now.date.month = later.date.month
  day : now.date.day = later.date.day
  hour : now.time.hour = later.time.hour
  minute : now.time.minute = later.time.minute
  /-- A leap second is shown as the second 60. -/
  second : now.time.shownSecond = later.time.shownSecond

theorem Date.month_lt (date : Date) : date.month < 100 :=
  Nat.lt_of_le_of_lt date.month_exists.2 (by decide)

theorem Date.day_lt (date : Date) : date.day < 100 := by
  have hmost : daysInMonth date.year date.month ≤ 31 := by
    unfold daysInMonth
    split
    · split <;> decide
    · split <;> decide
  exact Nat.lt_of_le_of_lt (Nat.le_trans date.day_exists.2 hmost) (by decide)

theorem TimeOfDay.shownSecond_lt (time : TimeOfDay) : time.shownSecond < 100 := by
  have hsecond := time.second_exists
  have hnano := time.nanosecond_exists
  rw [shownSecond]
  omega

/-- A text follows a pattern: a `D` in the pattern stands for any digit, every other character for
itself. -/
def Text.Follows (pattern text : List Char) : Prop :=
  List.Forall₂ (fun p c => if p = 'D' then c.isDigit = true else c = p) pattern text

namespace Text.Follows

theorem append {pattern more text rest : List Char} (h : Follows pattern text)
    (hrest : Follows more rest) : Follows (pattern ++ more) (text ++ rest) :=
  List.rel_append h hrest

/-- A text without a `D` follows itself. -/
theorem plain {text : List Char} (h : 'D' ∉ text) : Follows text text := by
  refine List.forall₂_same.mpr fun c hc => ?_
  rw [if_neg (ne_of_mem_of_not_mem hc h)]

theorem digits {text : List Char} (h : ∀ c ∈ text, c.isDigit = true) :
    Follows (List.replicate text.length 'D') text := by
  induction text with
  | nil => exact .nil
  | cons c text ih =>
    obtain ⟨hc, htext⟩ := List.forall_mem_cons.mp h
    refine .cons ?_ (ih htext)
    rw [if_pos rfl]
    exact hc

end Text.Follows

namespace DumpName

/-! ## Fields -/

theorem isDigit_of_mem_padded {width n : Nat} : ∀ c ∈ padded width n, c.isDigit = true := by
  intro c hc
  rw [padded, List.mem_append] at hc
  rcases hc with hc | hc
  · rw [List.eq_of_mem_replicate hc]
    rfl
  · exact Nat.isDigit_of_mem_toDigits (by decide) (by decide) hc

/-- A number that is not too long has as many digits as asked for. -/
theorem length_padded {width n : Nat} (h : (Nat.toDigits 10 n).length ≤ width) :
    (padded width n).length = width := by
  rw [padded, List.length_append, List.length_replicate]
  omega

theorem length_padded_two {n : Nat} (h : n < 100) : (padded 2 n).length = 2 :=
  length_padded ((Nat.length_toDigits_le_iff (by decide) (by decide)).mpr h)

theorem length_padded_four {n : Nat} (h : n < 10000) : (padded 4 n).length = 4 :=
  length_padded ((Nat.length_toDigits_le_iff (by decide) (by decide)).mpr h)

/-- The zeros in front do not change the number. -/
theorem ofDigitChars_padded (width n : Nat) : Nat.ofDigitChars 10 (padded width n) 0 = n := by
  rw [padded, Nat.ofDigitChars_append, Nat.ofDigitChars_replicate_zero, Nat.mul_zero,
    Nat.ofDigitChars_ten_toDigits]

theorem padded_injective {width m n : Nat} (h : padded width m = padded width n) : m = n := by
  rw [← ofDigitChars_padded width m, h, ofDigitChars_padded]

theorem yearDigits_of_covered {year : Int} (h : 0 ≤ year ∧ year ≤ 9999) :
    yearDigits year = padded 4 year.toNat := if_pos h

/-- The sign in front of a year that four digits do not hold. -/
def yearSign (year : Int) : Char := if year < 0 then '-' else '+'

theorem yearDigits_of_not_covered {year : Int} (h : ¬ (0 ≤ year ∧ year ≤ 9999)) :
    yearDigits year = yearSign year :: padded 4 year.natAbs := if_neg h

theorem yearSign_eq_iff {year other : Int} :
    yearSign year = yearSign other ↔ (year < 0 ↔ other < 0) := by
  by_cases hyear : year < 0 <;> by_cases hother : other < 0 <;> simp [yearSign, hyear, hother]

/-- A year that is signed is told from one that is not. -/
theorem sign_cons_ne_padded (year : Int) (digits : List Char) (width n : Nat) :
    yearSign year :: digits ≠ padded width n := by
  intro h
  have hdigit := isDigit_of_mem_padded (yearSign year) (h ▸ List.mem_cons_self)
  rw [yearSign] at hdigit
  split at hdigit <;> exact absurd hdigit (by decide)

theorem yearDigits_injective {year other : Int} (h : yearDigits year = yearDigits other) :
    year = other := by
  by_cases hyear : 0 ≤ year ∧ year ≤ 9999 <;> by_cases hother : 0 ≤ other ∧ other ≤ 9999
  · rw [yearDigits_of_covered hyear, yearDigits_of_covered hother] at h
    have hnumber := padded_injective h
    omega
  · rw [yearDigits_of_covered hyear, yearDigits_of_not_covered hother] at h
    exact absurd h.symm (sign_cons_ne_padded _ _ _ _)
  · rw [yearDigits_of_not_covered hyear, yearDigits_of_covered hother] at h
    exact absurd h (sign_cons_ne_padded _ _ _ _)
  · -- both are signed, and sign and amount give the number
    rw [yearDigits_of_not_covered hyear, yearDigits_of_not_covered hother] at h
    obtain ⟨hsign, hdigits⟩ := List.cons.inj h
    have hsame := yearSign_eq_iff.mp hsign
    have hnumber := padded_injective hdigits
    omega

/-- A last field of two digits is told from what stands before it. -/
theorem append_padded_inj {front other : List Char} {m n : Nat} (hm : m < 100) (hn : n < 100)
    (h : front ++ '-' :: padded 2 m = other ++ '-' :: padded 2 n) : front = other ∧ m = n := by
  have hlength : ('-' :: padded 2 m).length = ('-' :: padded 2 n).length := by
    rw [List.length_cons, List.length_cons, length_padded_two hm, length_padded_two hn]
  obtain ⟨hfront, hfield⟩ := List.append_inj' h hlength
  exact ⟨hfront, padded_injective (List.cons.inj hfield).2⟩

/-! ## Names -/

theorem stamp_eq (now : DateTime) :
    stamp now = yearDigits now.date.year ++ '-' :: padded 2 now.date.day ++
      '-' :: padded 2 now.date.month ++ ['-'] ++ '-' :: padded 2 now.time.hour ++
      '-' :: padded 2 now.time.minute ++ '-' :: padded 2 now.time.shownSecond := by
  rw [stamp, List.append_assoc (yearDigits now.date.year ++ _ ++ _) ['-']]
  rfl

/-- What the clock shows can be read off the name. -/
theorem stamp_eq_iff {now later : DateTime} : stamp now = stamp later ↔ now.ShowsSame later := by
  constructor
  · intro h
    rw [stamp_eq, stamp_eq] at h
    -- from the end, where every field is of one length
    have hhour (time : TimeOfDay) : time.hour < 100 :=
      Nat.lt_trans time.hour_exists (by decide)
    have hminute (time : TimeOfDay) : time.minute < 100 :=
      Nat.lt_trans time.minute_exists (by decide)
    obtain ⟨h, hsecond⟩ := append_padded_inj now.time.shownSecond_lt later.time.shownSecond_lt h
    obtain ⟨h, hminute⟩ := append_padded_inj (hminute now.time) (hminute later.time) h
    obtain ⟨h, hhour⟩ := append_padded_inj (hhour now.time) (hhour later.time) h
    obtain ⟨h, hmonth⟩ := append_padded_inj now.date.month_lt later.date.month_lt
      (List.append_cancel_right h)
    obtain ⟨h, hday⟩ := append_padded_inj now.date.day_lt later.date.day_lt h
    exact ⟨yearDigits_injective h, hmonth, hday, hhour, hminute, hsecond⟩
  · rintro ⟨hyear, hmonth, hday, hhour, hminute, hsecond⟩
    rw [stamp, stamp, hyear, hmonth, hday, hhour, hminute, hsecond]

theorem toList_byDefault (now : DateTime) :
    (byDefault now).toList = "consoledump_".toList ++ stamp now ++ ".txt".toList := by
  simp only [byDefault, String.toList_append, String.toList_ofList]

theorem byDefault_eq_iff {now later : DateTime} :
    byDefault now = byDefault later ↔ now.ShowsSame later := by
  rw [← String.toList_inj, toList_byDefault, toList_byDefault, List.append_left_inj,
    List.append_right_inj, stamp_eq_iff]

/-! ## Characters -/

theorem mem_stamp {now : DateTime} {c : Char} (h : c ∈ stamp now) :
    c.isDigit = true ∨ c = '-' ∨ c = '+' := by
  have hyear : c ∈ yearDigits now.date.year → c.isDigit = true ∨ c = '-' ∨ c = '+' := by
    intro hc
    rw [yearDigits] at hc
    split at hc
    · exact .inl (isDigit_of_mem_padded c hc)
    · rcases List.mem_cons.mp hc with rfl | hc
      · split <;> simp
      · exact .inl (isDigit_of_mem_padded c hc)
  have hfield {n : Nat} : c ∈ '-' :: padded 2 n → c.isDigit = true ∨ c = '-' ∨ c = '+' := by
    intro hc
    rcases List.mem_cons.mp hc with rfl | hc
    · exact .inr (.inl rfl)
    · exact .inl (isDigit_of_mem_padded c hc)
  simp only [stamp_eq, List.mem_append] at h
  rcases h with (((((h | h) | h) | h) | h) | h) | h
  · exact hyear h
  · exact hfield h
  · exact hfield h
  · exact .inr (.inl (List.mem_singleton.mp h))
  · exact hfield h
  · exact hfield h
  · exact hfield h

/-- No character separates the name into several. -/
theorem not_separator_of_mem_byDefault (now : DateTime) :
    ∀ c ∈ (byDefault now).toList, c ≠ '/' ∧ c ≠ '\\' := by
  intro c hc
  have hfixed {text : List Char} (h : '/' ∉ text ∧ '\\' ∉ text) (hmem : c ∈ text) :
      c ≠ '/' ∧ c ≠ '\\' :=
    ⟨ne_of_mem_of_not_mem hmem h.1, ne_of_mem_of_not_mem hmem h.2⟩
  simp only [toList_byDefault, List.mem_append] at hc
  rcases hc with (hc | hc) | hc
  · exact hfixed (by decide) hc
  · rcases mem_stamp hc with hdigit | rfl | rfl
    · constructor <;> (rintro rfl; exact absurd hdigit (by decide))
    · decide
    · decide
  · exact hfixed (by decide) hc

/-- The name of a moment in a year of four digits has a fixed shape. -/
theorem byDefault_follows {now : DateTime} (h : 0 ≤ now.date.year ∧ now.date.year ≤ 9999) :
    Text.Follows "consoledump_DDDD-DD-DD--DD-DD-DD.txt".toList (byDefault now).toList := by
  have hdigits {width n : Nat} (hlength : (padded width n).length = width) :
      Text.Follows (List.replicate width 'D') (padded width n) := by
    have hfollows : Text.Follows (List.replicate (padded width n).length 'D') (padded width n) :=
      .digits isDigit_of_mem_padded
    rwa [hlength] at hfollows
  have hdash : Text.Follows ['-'] ['-'] := .plain (by decide)
  have hfield {n : Nat} (hn : n < 100) :
      Text.Follows ('-' :: List.replicate 2 'D') ('-' :: padded 2 n) :=
    hdash.append (hdigits (length_padded_two hn))
  have hyear : Text.Follows (List.replicate 4 'D') (yearDigits now.date.year) := by
    rw [yearDigits_of_covered h]
    exact hdigits (length_padded_four (by omega))
  have hdate := (hyear.append (hfield now.date.day_lt)).append (hfield now.date.month_lt)
  have hstamp := (((hdate.append hdash).append
    (hfield (Nat.lt_trans now.time.hour_exists (by decide)))).append
    (hfield (Nat.lt_trans now.time.minute_exists (by decide)))).append
    (hfield now.time.shownSecond_lt)
  rw [← stamp_eq] at hstamp
  have hfront : Text.Follows "consoledump_".toList "consoledump_".toList := .plain (by decide)
  have hend : Text.Follows ".txt".toList ".txt".toList := .plain (by decide)
  rw [toList_byDefault]
  exact (hfront.append hstamp).append hend

/-! ## Places -/

theorem byDefault_ne_empty (now : DateTime) : byDefault now ≠ "" := by
  rw [Ne, ← String.toList_eq_nil_iff, toList_byDefault]
  exact List.append_ne_nil_of_right_ne_nil _ (by decide)

/-- A dump that is named after the clock is in the directory, and no other directory is on the
way. -/
theorem target_join_byDefault {files : FileSystem} {directory : String} {now : DateTime}
    {place : Location} (h : files.target (Path.join directory (byDefault now)) = .ok place) :
    ∃ base, files.LeadsTo directory base ∧ place = base ++ [byDefault now] := by
  have hslash : '/' ∉ (byDefault now).toList := fun hmem =>
    (not_separator_of_mem_byDefault now '/' hmem).1 rfl
  have hne := byDefault_ne_empty now
  obtain ⟨base, within, last, hbase, hlast, hwithin, -, -, rfl⟩ :=
    FileSystem.target_join_eq_ok hne (Path.isAbsolute_of_noSlash hslash) h
  rw [Path.names_of_noSlash hne hslash] at hlast hwithin
  obtain rfl : base = within := Except.ok.inj hwithin
  obtain rfl : byDefault now = last := Option.some.inj hlast
  exact ⟨base, hbase, rfl⟩

end DumpName

namespace Builtin

/-- The parameters give no name to a dump: there are none, or the first is empty. -/
def NamesByClock (parameters : List String) : Prop := parameters.head?.getD "" = ""

theorem dumpName_of_namesByClock {parameters : List String} (h : NamesByClock parameters)
    (moment : DateTime) : dumpName parameters moment = DumpName.byDefault moment := by
  cases parameters with
  | nil => rfl
  | cons name rest =>
    obtain rfl : name = "" := h
    rfl

/-- **Dumps named after the clock are kept apart.**  Two names are the same exactly if the clock
shows the same year, month, day, hour, minute and second, so of two such dumps, over whatever files
and directories, the one replaces the other only if they are made in the same second.  The names
have no separators in them, have a fixed shape in the years 0 to 9999, and what is written is a file
of this name in the directory itself. -/
theorem dumps_byDefault_apart {σ : Type} [Sink σ] [LawfulSink σ] :
    (∀ now later : DateTime,
      DumpName.byDefault now = DumpName.byDefault later ↔ now.ShowsSame later) ∧
    (∀ now : DateTime, ∀ c ∈ (DumpName.byDefault now).toList, c ≠ '/' ∧ c ≠ '\\') ∧
    (∀ now : DateTime, 0 ≤ now.date.year ∧ now.date.year ≤ 9999 →
      Text.Follows "consoledump_DDDD-DD-DD--DD-DD-DD.txt".toList (DumpName.byDefault now).toList) ∧
    (∀ (directory : String) (entries : List Entry) (parameters : List String) (sink : σ)
        (world : World), NamesByClock parameters →
      let name := DumpName.byDefault (world.clock world.readings)
      let after := ((dump directory).action entries parameters).run sink world
      (∀ place, world.files.target (Path.join directory name) = .ok place →
        (∃ base, world.files.LeadsTo directory base ∧ place = base ++ [name]) ∧
          after.2.2.files = world.files.put place (Text.encode (Sink.content sink))) ∧
      ∀ cause, world.files.target (Path.join directory name) = .error cause →
        after.2.2.files = world.files) ∧
    ∀ (files others : FileSystem) (directory other : String) (now later : DateTime)
        (place : Location),
      files.target (Path.join directory (DumpName.byDefault now)) = .ok place →
      others.target (Path.join other (DumpName.byDefault later)) = .ok place →
      now.ShowsSame later := by
  refine ⟨fun _ _ => DumpName.byDefault_eq_iff, DumpName.not_separator_of_mem_byDefault,
    fun _ => DumpName.byDefault_follows, ?_, ?_⟩
  · intro directory entries parameters sink world hnone name after
    have hfiles := (run_dump entries parameters directory sink world).2.2
    rw [dumpName_of_namesByClock hnone] at hfiles
    constructor
    · intro place htarget
      exact ⟨DumpName.target_join_byDefault htarget, hfiles.trans (by rw [htarget])⟩
    · intro cause htarget
      exact hfiles.trans (by rw [htarget])
  · intro files others directory other now later place hfirst hsecond
    obtain ⟨base, -, rfl⟩ := DumpName.target_join_byDefault hfirst
    obtain ⟨base', -, hplace⟩ := DumpName.target_join_byDefault hsecond
    exact DumpName.byDefault_eq_iff.mp (List.singleton_inj.mp (List.append_inj' hplace rfl).2)

/-- A leap second at the end of the year before the year 0, seen this many nanoseconds into it. -/
def leapSecond (nanosecond : Nat) (h : nanosecond < 1000000000) : DateTime where
  date := ⟨-1, 12, 31, by decide, by decide, by decide⟩
  time := ⟨23, 59, 59, 1000000000 + nanosecond, by decide, by decide, by decide, by omega⟩

/-- Files with a directory for dumps. -/
def drawer : FileSystem := { nodes := [(["logs"], .directory)] }

/-- Two looks at one leap second, and a dump at the first of them. -/
theorem dumps_leapSecond :
    let early := leapSecond 0 (by decide)
    let late := leapSecond 500000000 (by decide)
    let world : World := { files := drawer, clock := fun _ => early }
    DumpName.byDefault early = DumpName.byDefault late ∧
      DumpName.byDefault early ≠ DumpName.byDefault .epoch ∧
      Text.Follows "consoledump_DDDD-DD-DD--DD-DD-DD.txt".toList
        (DumpName.byDefault .epoch).toList ∧
      (((dump "logs").action [] []).run ({} : Terminal) world).2.2.files =
        drawer.put ["logs", "consoledump_-0001-31-12--23-59-60.txt"] [] ∧
      early.ShowsSame late := by
  intro early late world
  obtain ⟨hnames, -, hshape, hruns, hplaces⟩ := dumps_byDefault_apart (σ := Terminal)
  have hearly : DumpName.byDefault early = "consoledump_-0001-31-12--23-59-60.txt" := by decide
  have hlate : DumpName.byDefault late = "consoledump_-0001-31-12--23-59-60.txt" := by decide
  have hplace (now : DateTime)
      (h : DumpName.byDefault now = "consoledump_-0001-31-12--23-59-60.txt") :
      drawer.target (Path.join "logs" (DumpName.byDefault now)) =
        .ok ["logs", "consoledump_-0001-31-12--23-59-60.txt"] := by
    rw [h]
    rfl
  have hsame := hplaces drawer drawer "logs" "logs" early late _ (hplace early hearly)
    (hplace late hlate)
  obtain ⟨-, hfiles⟩ := (hruns "logs" [] [] {} world rfl).1 _ (hplace early hearly)
  refine ⟨(hnames early late).mpr hsame, fun h => ?_, hshape .epoch (by decide), hfiles, hsame⟩
  exact absurd ((hnames early .epoch).mp h).year (by decide)

end Builtin
end CommandConsole
