import CommandConsole.Proofs.Config.Setting
import Mathlib

/-!
# Reading a configuration

A document is read as the default configuration with the settings that it gives replaced, and with
nothing else replaced.  An object gives the settings whose names are among its keys, an array gives
the first ones in their order; `Overrides` says what comes of the members of an object, and an array
is read as the object with the same settings (`withItems_eq_withMembers`).  What else an object
holds, and in which order, makes no difference.
-/
namespace CommandConsole.Config

open Json (Value Token Document)

/-! ## Members -/

/-- How many members of an object give a setting. -/
def timesGiven (field : Field) (members : List (Option String × Value)) : Nat :=
  members.countP fun member => member.1 == some field.name

theorem timesGiven_cons (field : Field) (name : String) (v : Value)
    (members : List (Option String × Value)) :
    timesGiven field ((some name, v) :: members) =
      timesGiven field members + if name = field.name then 1 else 0 := by
  simp [timesGiven, List.countP_cons]

theorem timesGiven_eq_zero_iff {field : Field} {members : List (Option String × Value)} :
    timesGiven field members = 0 ↔ ∀ v, (some field.name, v) ∉ members := by
  rw [timesGiven, List.countP_eq_zero]
  constructor
  · intro h v hmember
    exact h _ hmember (by simp)
  · rintro h ⟨key, v⟩ hmember hkey
    exact h v (beq_iff_eq.mp hkey ▸ hmember)

/-- The configuration is another one with the settings replaced that the members of an object
give, each of them once. -/
structure Overrides (c : Config) (members : List (Option String × Value)) (d : Config) : Prop where
  once : ∀ field : Field, timesGiven field members ≤ 1
  given : ∀ (field : Field) (v : Value), (some field.name, v) ∈ members → field.value d = v
  kept : ∀ field : Field, timesGiven field members = 0 → field.value d = field.value c

section Members

variable {c d : Config} {members : List (Option String × Value)} {v : Value}

theorem overrides_nil_iff : Overrides c [] d ↔ d = c := by
  constructor
  · intro h
    exact eq_of_value_eq fun field => h.kept field rfl
  · rintro rfl
    exact ⟨fun _ => by simp [timesGiven], by simp, fun _ _ => rfl⟩

/-- A member that is no setting replaces nothing. -/
theorem overrides_cons_of_unknown {name : String} (hname : ∀ field : Field, name ≠ field.name) :
    Overrides c ((some name, v) :: members) d ↔ Overrides c members d := by
  have htimes (field : Field) :
      timesGiven field ((some name, v) :: members) = timesGiven field members := by
    simp [timesGiven_cons, hname]
  have hmem (field : Field) (w : Value) :
      (some field.name, w) ∈ (some name, v) :: members ↔ (some field.name, w) ∈ members := by
    simp [(hname field).symm]
  constructor
  · rintro ⟨honce, hgiven, hkept⟩
    simp only [htimes, hmem] at honce hgiven hkept
    exact ⟨honce, hgiven, hkept⟩
  · rintro ⟨honce, hgiven, hkept⟩
    refine ⟨?_, ?_, ?_⟩ <;> simpa only [htimes, hmem]

/-- A setting that is given in front is replaced and is not given again. -/
theorem overrides_cons_iff (hlawful : ∀ token ∈ v.tokens, token.Lawful) (field : Field) :
    Overrides c ((some field.name, v) :: members) d ↔
      timesGiven field members = 0 ∧ ∃ e, field.set? v c = some e ∧ Overrides e members d := by
  have hself :
      timesGiven field ((some field.name, v) :: members) = timesGiven field members + 1 := by
    simp [timesGiven_cons]
  have hother {other : Field} (h : other ≠ field) :
      timesGiven other ((some field.name, v) :: members) = timesGiven other members := by
    have hname : field.name ≠ other.name := fun h' => h (Field.name_injective h').symm
    simp [timesGiven_cons, hname]
  constructor
  · rintro ⟨honce, hgiven, hkept⟩
    have hzero : timesGiven field members = 0 := by
      have := honce field
      omega
    obtain rfl := hgiven field v (by simp)
    obtain ⟨e, he⟩ := Field.exists_set?_value field c d
    obtain ⟨hvalue, hsame⟩ := (Field.set?_eq_some_iff hlawful).mp he
    refine ⟨hzero, e, he, fun other => ?_, fun other w hw => hgiven other w (by simp [hw]), ?_⟩
    · by_cases h : other = field
      · rw [h, hzero]
        exact Nat.zero_le 1
      · exact hother h ▸ honce other
    · intro other hnone
      by_cases h : other = field
      · rw [h, hvalue]
      · rw [hkept other (hother h ▸ hnone), hsame other h]
  · rintro ⟨hzero, e, he, honce, hgiven, hkept⟩
    obtain ⟨hvalue, hsame⟩ := (Field.set?_eq_some_iff hlawful).mp he
    refine ⟨fun other => ?_, fun other w hw => ?_, fun other hnone => ?_⟩
    · by_cases h : other = field
      · rw [h, hself, hzero]
      · exact hother h ▸ honce other
    · rcases List.mem_cons.mp hw with hw | hw
      · obtain ⟨hname, rfl⟩ := Prod.mk.injEq .. ▸ hw
        obtain rfl := Field.name_injective (Option.some.inj hname)
        rw [hkept other hzero, hvalue]
      · exact hgiven other w hw
    · have h : other ≠ field := by
        rintro rfl
        omega
      rw [hkept other (hother h ▸ hnone), hsame other h]

/-- Members are applied if they override, and none of them gives a setting that was given before. -/
theorem withMembers_eq_some_iff {seen : List Field} (hkeys : ∀ member ∈ members, member.1 ≠ none)
    (hlawful : ∀ member ∈ members, ∀ token ∈ member.2.tokens, token.Lawful) :
    withMembers c seen members = some d ↔
      Overrides c members d ∧ ∀ field ∈ seen, timesGiven field members = 0 := by
  induction members generalizing c seen with
  | nil => simp [withMembers, overrides_nil_iff, timesGiven, eq_comm]
  | cons member members ih =>
    obtain ⟨hkey, hothers⟩ := List.forall_mem_cons.mp hkeys
    obtain ⟨hfirst, hrest⟩ := List.forall_mem_cons.mp hlawful
    have hlater {c : Config} {seen : List Field} :
        withMembers c seen members = some d ↔
          Overrides c members d ∧ ∀ field ∈ seen, timesGiven field members = 0 :=
      ih hothers hrest
    obtain ⟨key, v⟩ := member
    obtain ⟨name, rfl⟩ := Option.ne_none_iff_exists'.mp hkey
    rw [withMembers]
    cases hname : Field.ofName? name with
    | none =>
      have hunknown (field : Field) : name ≠ field.name := fun h => by
        rw [Field.ofName?_eq_some_iff.mpr h] at hname
        exact absurd hname (by simp)
      simp only [hlater, overrides_cons_of_unknown hunknown, timesGiven_cons, hunknown, if_false,
        Nat.add_zero]
    | some field =>
      obtain rfl := Field.ofName?_eq_some_iff.mp hname
      have htimes (other : Field) : timesGiven other ((some field.name, v) :: members) = 0 ↔
          other ≠ field ∧ timesGiven other members = 0 := by
        simp [timesGiven_cons, Field.name_injective.eq_iff, and_comm, eq_comm]
      rw [overrides_cons_iff hfirst]
      simp only [htimes]
      by_cases hseen : field ∈ seen
      · simp only [hseen, if_true, reduceCtorEq, false_iff]
        rintro ⟨-, hnone⟩
        exact (hnone field hseen).1 rfl
      · cases hset : field.set? v c with
        | none => simp [hseen]
        | some e =>
          simp only [hseen, if_false, hlater, List.forall_mem_cons]
          constructor
          · rintro ⟨hoverrides, hzero, hnone⟩
            exact ⟨⟨hzero, e, rfl, hoverrides⟩, fun other hother =>
              ⟨fun h => hseen (h ▸ hother), hnone other hother⟩⟩
          · rintro ⟨⟨hzero, _, ⟨⟩, hoverrides⟩, hnone⟩
            exact ⟨hoverrides, hzero, fun other hother => (hnone other hother).2⟩

end Members

/-! ## Items -/

/-- The members of an object that gives settings by their names. -/
def membersOf (settings : List (Field × Value)) : List (Option String × Value) :=
  settings.map fun setting => (some setting.1.name, setting.2)

theorem mem_membersOf_iff {settings : List (Field × Value)} {field : Field} {v : Value} :
    (some field.name, v) ∈ membersOf settings ↔ (field, v) ∈ settings := by
  simp [membersOf, Field.name_injective.eq_iff]

/-- Items are applied as the members of an object would be that gives the same settings. -/
theorem withItems_eq_withMembers {fields seen : List Field} {items : List Value} (c : Config)
    (hlength : items.length ≤ fields.length) (hnodup : fields.Nodup)
    (hseen : ∀ field ∈ fields, field ∉ seen) :
    withItems c fields items = withMembers c seen (membersOf (fields.zip items)) := by
  induction items generalizing c fields seen with
  | nil => cases fields <;> rfl
  | cons v items ih =>
    cases fields with
    | nil => simp at hlength
    | cons field fields =>
      obtain ⟨hfirst, hnodup⟩ := List.nodup_cons.mp hnodup
      obtain ⟨hfield, hfields⟩ := List.forall_mem_cons.mp hseen
      have hname : Field.ofName? field.name = some field := Field.ofName?_eq_some_iff.mpr rfl
      rw [withItems, List.zip_cons_cons]
      simp only [membersOf, List.map_cons, withMembers, hname, hfield, if_false]
      cases field.set? v c with
      | none => rfl
      | some e =>
        refine ih e (by simpa using hlength) hnodup fun other hother => ?_
        rw [List.mem_cons, not_or]
        exact ⟨fun h => hfirst (h ▸ hother), hfields other hother⟩

theorem withItems_eq_none {fields : List Field} {items : List Value} (c : Config)
    (hlength : fields.length < items.length) : withItems c fields items = none := by
  induction items generalizing c fields with
  | nil => simp at hlength
  | cons v items ih =>
    cases fields with
    | nil => rfl
    | cons field fields =>
      rw [withItems]
      cases field.set? v c with
      | none => rfl
      | some e => exact ih e (by simpa using hlength)

theorem timesGiven_membersOf_zip_le (fields : List Field) (items : List Value) (field : Field) :
    timesGiven field (membersOf (fields.zip items)) ≤ fields.count field := by
  induction fields generalizing items with
  | nil => simp [membersOf, timesGiven]
  | cons other fields ih =>
    cases items with
    | nil => simp [membersOf, timesGiven]
    | cons v items =>
      have hlater := ih items
      rw [List.zip_cons_cons, membersOf, List.map_cons, timesGiven_cons, List.count_cons]
      rw [membersOf] at hlater
      simpa [Field.name_injective.eq_iff] using hlater

theorem timesGiven_items_le_one (items : List Value) (field : Field) :
    timesGiven field (membersOf (Field.all.zip items)) ≤ 1 :=
  (timesGiven_membersOf_zip_le Field.all items field).trans
    (List.nodup_iff_count_le_one.mp Field.nodup_all field)

/-! ## Documents -/

/-- The document gives a value for a setting: by its name, or in its place. -/
def Gives : Value → Field → Value → Prop
  | .object members, field, v => (some field.name, v) ∈ members
  | .array items, field, v => (field, v) ∈ Field.all.zip items
  | _, _, _ => False

/-- The document is an object that gives every setting at most once, or an array that has no more
items than there are settings. -/
def HasShape : Value → Prop
  | .object members => ∀ field : Field, timesGiven field members ≤ 1
  | .array items => items.length ≤ Field.all.length
  | _ => False

/-- The configuration is the default one with what the document gives in the place of the settings
for which it gives something. -/
structure ReadAs (v : Value) (c : Config) : Prop where
  shape : HasShape v
  given : ∀ (field : Field) (w : Value), Gives v field w → field.value c = w
  kept : ∀ field : Field, (∀ w, ¬ Gives v field w) → field.value c = field.value {}

theorem readAs_congr {v w : Value} (hshape : HasShape v ↔ HasShape w)
    (hgives : ∀ field value, Gives v field value ↔ Gives w field value) {c : Config} :
    ReadAs v c ↔ ReadAs w c := by
  constructor
  · rintro ⟨hv, hgiven, hkept⟩
    simp only [hgives] at hgiven hkept
    exact ⟨hshape.mp hv, hgiven, hkept⟩
  · rintro ⟨hw, hgiven, hkept⟩
    simp only [← hgives] at hgiven hkept
    exact ⟨hshape.mpr hw, hgiven, hkept⟩

/-- An array says what the object says that gives its items by their names. -/
theorem readAs_array_iff {items : List Value} (hlength : items.length ≤ Field.all.length)
    {c : Config} :
    ReadAs (.array items) c ↔ ReadAs (.object (membersOf (Field.all.zip items))) c := by
  have hshape : HasShape (.array items) ↔ HasShape (.object (membersOf (Field.all.zip items))) :=
    iff_of_true hlength (timesGiven_items_le_one items)
  exact readAs_congr hshape fun field v => mem_membersOf_iff.symm

theorem ofValue?_object_eq_some_iff {members : List (Option String × Value)} {c : Config}
    (hkeys : ∀ member ∈ members, member.1 ≠ none)
    (hlawful : ∀ member ∈ members, ∀ token ∈ member.2.tokens, token.Lawful) :
    ofValue? (.object members) = some c ↔ ReadAs (.object members) c := by
  rw [ofValue?, withMembers_eq_some_iff hkeys hlawful]
  constructor
  · rintro ⟨⟨honce, hgiven, hkept⟩, -⟩
    exact ⟨honce, hgiven, fun field hnone => hkept field (timesGiven_eq_zero_iff.mpr hnone)⟩
  · rintro ⟨honce, hgiven, hkept⟩
    exact ⟨⟨honce, hgiven, fun field hnone => hkept field (timesGiven_eq_zero_iff.mp hnone)⟩,
      by simp⟩

/-- An array that is not too long is read as the object that gives the same settings by name. -/
theorem ofValue?_array_eq_object {items : List Value} (hlength : items.length ≤ Field.all.length) :
    ofValue? (.array items) = ofValue? (.object (membersOf (Field.all.zip items))) :=
  withItems_eq_withMembers {} hlength Field.nodup_all (by simp)

theorem ofValue?_array_eq_some_iff {items : List Value} {c : Config}
    (hlawful : ∀ v ∈ items, ∀ token ∈ v.tokens, token.Lawful) :
    ofValue? (.array items) = some c ↔ ReadAs (.array items) c := by
  by_cases hlength : items.length ≤ Field.all.length
  · rw [ofValue?_array_eq_object hlength, readAs_array_iff hlength]
    refine ofValue?_object_eq_some_iff (fun member hmember => ?_) fun member hmember => ?_
    · obtain ⟨setting, -, rfl⟩ := List.mem_map.mp hmember
      simp
    · obtain ⟨⟨field, v⟩, hsetting, rfl⟩ := List.mem_map.mp hmember
      exact hlawful v (List.of_mem_zip hsetting).2
  · have hnone : ofValue? (.array items) = none := withItems_eq_none {} (Nat.lt_of_not_le hlength)
    rw [hnone]
    exact iff_of_false (by simp) fun h => hlength h.shape

/-- A configuration is read from a document as the document says, and from nothing else. -/
theorem parse?_eq_some_iff_readAs (d : Document) {c : Config} :
    parse? d.text = some c ↔ ReadAs d.value c := by
  rw [parse?, Value.parse?_eq_some_iff.mpr d.written, Option.bind_some]
  obtain ⟨text, v, hwritten, hwhole⟩ := d
  have hlawful := Json.lawful_of_laidOut hwritten
  cases v with
  | object members =>
    have hkeys := (Value.forall_mem_tokens_object_iff (P := (· ≠ .string none)) (by simp) (by simp)
      (by simp) (by simp)).mp fun token htoken h => hwhole (h ▸ htoken)
    have hvalues := (Value.forall_mem_tokens_object_iff trivial trivial trivial trivial).mp hlawful
    exact ofValue?_object_eq_some_iff (fun member hmember h => (hkeys member hmember).1 (by rw [h]))
      fun member hmember => (hvalues member hmember).2
  | array items =>
    exact ofValue?_array_eq_some_iff
      ((Value.forall_mem_tokens_array_iff trivial trivial trivial).mp hlawful)
  | null | bool b | number literal | string content =>
    exact iff_of_false (by simp [ofValue?]) fun h => h.shape

/-- The member of an object is a setting. -/
def isSetting (member : Option String × Value) : Bool :=
  Field.all.any fun field => member.1 == some field.name

/-- Two documents give the same settings: objects that agree up to the order of the settings and up
to what is no setting, or an array and the object that gives its items by their names. -/
inductive GivesSame : Value → Value → Prop
  | members {members others : List (Option String × Value)} :
      (members.filter isSetting).Perm (others.filter isSetting) →
      GivesSame (.object members) (.object others)
  | items {items : List Value} : items.length ≤ Field.all.length →
      GivesSame (.array items) (.object (membersOf (Field.all.zip items)))

theorem isSetting_name (field : Field) (v : Value) : isSetting (some field.name, v) = true := by
  rw [isSetting, List.any_eq_true]
  exact ⟨field, Field.mem_all field, beq_self_eq_true _⟩

theorem timesGiven_filter_isSetting (field : Field) (members : List (Option String × Value)) :
    timesGiven field (members.filter isSetting) = timesGiven field members := by
  rw [timesGiven, List.countP_filter]
  refine List.countP_congr fun member _ => ?_
  obtain ⟨key, v⟩ := member
  rw [Bool.and_eq_true, beq_iff_eq]
  constructor
  · exact And.left
  · rintro rfl
    exact ⟨rfl, isSetting_name field v⟩

theorem mem_filter_isSetting_iff {field : Field} {v : Value}
    {members : List (Option String × Value)} :
    (some field.name, v) ∈ members.filter isSetting ↔ (some field.name, v) ∈ members := by
  simp [List.mem_filter, isSetting_name]

/-- Only what a document gives matters to what it is read as. -/
theorem GivesSame.readAs_iff {v w : Value} (h : GivesSame v w) {c : Config} :
    ReadAs v c ↔ ReadAs w c := by
  cases h with
  | @members members others hperm =>
    have htimes (field : Field) : timesGiven field members = timesGiven field others := by
      rw [← timesGiven_filter_isSetting, timesGiven, hperm.countP_eq, ← timesGiven,
        timesGiven_filter_isSetting]
    have hshape : HasShape (.object members) ↔ HasShape (.object others) := by
      simp only [HasShape, htimes]
    refine readAs_congr hshape fun field value => ?_
    rw [Gives, Gives, ← mem_filter_isSetting_iff, hperm.mem_iff, mem_filter_isSetting_iff]
  | items hlength => exact readAs_array_iff hlength

/-- A setting that is given once is given one value. -/
theorem eq_of_timesGiven_le_one {field : Field} {members : List (Option String × Value)}
    (honce : timesGiven field members ≤ 1) {v w : Value} (hv : (some field.name, v) ∈ members)
    (hw : (some field.name, w) ∈ members) : v = w := by
  rw [timesGiven, List.countP_eq_length_filter] at honce
  have hmem {value : Value} (h : (some field.name, value) ∈ members) :
      (some field.name, value) ∈ members.filter (·.1 == some field.name) :=
    List.mem_filter.mpr ⟨h, beq_self_eq_true _⟩
  obtain ⟨member, hgiven⟩ := List.length_eq_one_iff.mp
    (honce.antisymm (List.length_pos_of_mem (hmem hv)))
  have hv' := hmem hv
  have hw' := hmem hw
  rw [hgiven, List.mem_singleton] at hv' hw'
  exact congrArg Prod.snd (hv'.trans hw'.symm)

theorem HasShape.eq_of_gives {v : Value} (h : HasShape v) {field : Field} {w w' : Value}
    (hw : Gives v field w) (hw' : Gives v field w') : w = w' := by
  cases v with
  | object members => exact eq_of_timesGiven_le_one (h field) hw hw'
  | array items =>
    exact eq_of_timesGiven_le_one (timesGiven_items_le_one items field)
      (mem_membersOf_iff.mpr hw) (mem_membersOf_iff.mpr hw')
  | null | bool b | number literal | string content => exact h.elim

/-- A document can be read if it has the shape, and what it gives is of the kind of the setting. -/
theorem exists_readAs_iff {v : Value} :
    (∃ c, ReadAs v c) ↔ HasShape v ∧ ∀ field w, Gives v field w → field.Fits w := by
  constructor
  · rintro ⟨c, hshape, hgiven, -⟩
    exact ⟨hshape, fun field w hw => Field.fits_iff.mpr ⟨c, hgiven field w hw⟩⟩
  · rintro ⟨hshape, hfits⟩
    have hchoice (field : Field) : ∃ w, field.Fits w ∧ (∀ w', Gives v field w' → w' = w) ∧
        ((∀ w', ¬ Gives v field w') → w = field.value {}) := by
      by_cases hgives : ∃ w, Gives v field w
      · obtain ⟨w, hw⟩ := hgives
        exact ⟨w, hfits field w hw, fun w' hw' => hshape.eq_of_gives hw' hw,
          fun hnone => absurd hw (hnone w)⟩
      · rw [not_exists] at hgives
        exact ⟨field.value {}, Field.fits_iff.mpr ⟨{}, rfl⟩, fun w' hw' => absurd hw' (hgives w'),
          fun _ => rfl⟩
    choose chosen hchosen hgiven hkept using hchoice
    obtain ⟨c, hc⟩ := Field.exists_forall_value_eq hchosen
    refine ⟨c, hshape, fun field w hw => ?_, fun field hnone => ?_⟩
    · rw [hc field, hgiven field w hw]
    · rw [hc field, hkept field hnone]

/-- **A document is read as the default configuration with the settings replaced that it gives.**
It can be read if it has the shape, and what it gives is of the kind of the setting; order and what
is no setting do not matter, and an array is read as the object that gives its items by their names.
-/
theorem parse?_replaces_given (d : Document) :
    ((∃ c, parse? d.text = some c) ↔
      HasShape d.value ∧ ∀ field v, Gives d.value field v → field.Fits v) ∧
    (∀ c, parse? d.text = some c ↔ ReadAs d.value c) ∧
    ∀ e : Document, GivesSame d.value e.value → parse? d.text = parse? e.text := by
  refine ⟨?_, fun c => parse?_eq_some_iff_readAs d, fun e hsame => ?_⟩
  · simp only [parse?_eq_some_iff_readAs, exists_readAs_iff]
  · refine Option.ext fun c => ?_
    rw [parse?_eq_some_iff_readAs, parse?_eq_some_iff_readAs, hsame.readAs_iff]

/-- A prompt, and a theme that is no setting and is given twice. -/
def themedPrompt : Document where
  text := "\x7b\"theme\": null, \"prompt\": \"$ \",\n \"theme\": [1e3]\x7d"
  value := .object [(some "theme", .null), (some "prompt", .string (some "$ ")),
    (some "theme", .array [.number "1e3"])]
  written := Value.parse?_eq_some_iff.mp (by cbv)
  whole := by simp [Value.tokens, Value.memberTokens, Value.keyTokens, Value.itemTokens]

/-- A prompt alone, with an escape in it. -/
def plainPrompt : Document where
  text := "\x7b\"prompt\":\"\\u0024 \"\x7d"
  value := .object [(some "prompt", .string (some "$ "))]
  written := Value.parse?_eq_some_iff.mp (by cbv)
  whole := by simp [Value.tokens, Value.memberTokens, Value.keyTokens]

theorem parse?_themedPrompt :
    GivesSame themedPrompt.value plainPrompt.value ∧
      parse? themedPrompt.text = parse? plainPrompt.text ∧
      parse? plainPrompt.text = some { prompt := "$ " } := by
  have hsame : GivesSame themedPrompt.value plainPrompt.value := .members (.of_eq (by cbv))
  have hplain : parse? plainPrompt.text = some { prompt := "$ " } := by cbv
  exact ⟨hsame, (parse?_replaces_given themedPrompt).2.2 plainPrompt hsame, hplain⟩

/-! ## Reading what was written -/

/-- Every setting is written, with its value. -/
theorem toValue_eq (c : Config) :
    c.toValue = .object (membersOf (Field.all.zip (Field.all.map (·.value c)))) := rfl

theorem gives_toValue_iff {c : Config} {field : Field} {v : Value} :
    Gives c.toValue field v ↔ v = field.value c := by
  have hzip :
      Field.all.zip (Field.all.map (·.value c)) = Field.all.map fun f => (f, f.value c) := rfl
  rw [toValue_eq, Gives, mem_membersOf_iff, hzip]
  constructor
  · intro h
    obtain ⟨_, -, ⟨⟩⟩ := List.mem_map.mp h
    rfl
  · rintro rfl
    exact List.mem_map.mpr ⟨field, Field.mem_all field, rfl⟩

/-- A configuration says of itself what it is. -/
theorem readAs_toValue (c : Config) : ReadAs c.toValue c where
  shape := timesGiven_items_le_one (Field.all.map (·.value c))
  given _ _ h := (gives_toValue_iff.mp h).symm
  kept _ h := absurd (gives_toValue_iff.mpr rfl) (h _)

theorem Field.lawful_of_mem_tokens_value (field : Field) (c : Config) :
    ∀ token ∈ (field.value c).tokens, token.Lawful := by
  cases field with
  | historySize =>
    have hnumber := Json.isNumber_repr c.historySize.toNat
    simpa [value, Value.tokens, Token.Lawful] using hnumber
  | _ => simp [value, Value.tokens, Token.Lawful]

/-- The document that a configuration is written as. -/
def document (c : Config) : Document where
  text := c.toJson
  value := c.toValue
  written := by
    refine Value.writtenAs_render ?_
    refine (Value.forall_mem_tokens_object_iff trivial trivial trivial trivial).mpr ?_
    intro member hmember
    obtain ⟨field, -, rfl⟩ := List.mem_map.mp hmember
    exact ⟨trivial, field.lawful_of_mem_tokens_value c⟩
  whole := by
    refine fun hmem => (Value.forall_mem_tokens_object_iff (P := (· ≠ .string none)) (by simp)
      (by simp) (by simp) (by simp)).mpr ?_ _ hmem rfl
    intro member hmember
    obtain ⟨field, -, rfl⟩ := List.mem_map.mp hmember
    cases field <;> simp [Field.value, Value.tokens]

/-- **What was written is read again as what it was.** -/
theorem parse?_toJson (c : Config) : parse? c.toJson = some c :=
  (parse?_eq_some_iff_readAs c.document).mpr (readAs_toValue c)

end CommandConsole.Config
