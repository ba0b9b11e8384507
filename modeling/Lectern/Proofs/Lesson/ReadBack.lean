/-
Module: Lectern.Proofs.Lesson.ReadBack
Purpose: What reading the record of a lesson tells of its parts, and when pedagogies, lessons,
  versions of content and traces are read from what is written of them as they were: as soon as
  their moments are, a lesson with another status and any version of content.
Trusted boundary: none
Main exports: Schema.Checked.seq_eq_valid, Pedagogy.read_toJson, Lesson.parts_of_read,
  Timestamp.ReadsBack, Lesson.ReadsBack, Lesson.readsBack_iff, Content.read_toJson, Trace.ReadsBack
-/
import Lectern.Proofs.Json.ReadBack
import Lectern.Store.Operation

namespace Lectern

open Schema

/-! ## Records -/

namespace Schema.Checked

theorem map_eq_valid {α β : Type} {f : α → β} {read : Checked α} {value : β} :
    f <$> read = .valid value ↔ ∃ part, read = .valid part ∧ f part = value := by
  cases read with
  | valid part =>
      change Checked.valid (f part) = _ ↔ _
      simp
  | invalid faults =>
      change Checked.invalid faults = _ ↔ _
      simp

theorem seq_eq_valid {α β : Type} {first : Checked (α → β)} {second : Checked α} {value : β} :
    first <*> second = .valid value ↔
      ∃ f part, first = .valid f ∧ second = .valid part ∧ f part = value := by
  change Checked.seq first (fun _ => second) = _ ↔ _
  cases first with
  | valid f =>
      cases second with
      | valid part => simp [Checked.seq]
      | invalid faults => simp [Checked.seq]
  | invalid faults =>
      cases second with
      | valid part => simp [Checked.seq]
      | invalid more => simp [Checked.seq]

theorem map_valid {α β : Type} (f : α → β) (value : α) :
    f <$> valid value = valid (f value) := rfl

theorem seq_valid {α β : Type} (f : α → β) (value : α) :
    valid f <*> valid value = valid (f value) := rfl

theorem under_eq_valid {α : Type} {step : Step} {read : Checked α} {value : α} :
    read.under step = .valid value ↔ read = .valid value := by
  cases read with
  | valid part => rfl
  | invalid faults => exact iff_of_false nofun nofun

theorem andThen_eq_valid {α β : Type} {read : Checked α} {next : α → Checked β} {value : β} :
    read.andThen next = .valid value ↔ ∃ part, read = .valid part ∧ next part = .valid value := by
  cases read with
  | valid part => simp [andThen]
  | invalid faults => simp [andThen]

theorem value?_eq_some {α : Type} {read : Checked α} {value : α} :
    read.value? = some value ↔ read = .valid value := by
  cases read with
  | valid part => simp [value?]
  | invalid faults => exact iff_of_false nofun nofun

instance {α : Type} [DecidableEq α] (read : Checked α) (value : α) :
    Decidable (read = .valid value) :=
  decidable_of_iff _ value?_eq_some

end Schema.Checked

namespace Schema

variable {α : Type} {data : Json}

/-- Data that is read as a record has members, and all records are read from these. -/
theorem exists_members {name : String} {read : Members → Checked α} {value : α}
    (valid : record name read data = .valid value) : ∃ members,
      ∀ {β : Type} (other : String) (next : Members → Checked β),
        record other next data = next members := by
  cases data with
  | obj members => exact ⟨_, fun _ _ => rfl⟩
  | unpairedKeys members apart => exact ⟨_, fun _ _ => rfl⟩
  | _ => cases valid

theorem record_eq_valid {name : String} {read : Members → Checked α} {value : α}
    (valid : record name read data = .valid value) : ∃ members, read members = .valid value := by
  obtain ⟨members, same⟩ := exists_members valid
  exact ⟨members, (same name read).symm.trans valid⟩

@[simp] theorem stringKeys_obj (read : Reader α) (members : List (String × Json)) :
    stringKeys read (.obj members) = read (.obj members) := rfl

theorem stringKeys_eq_valid {read : Reader α} {value : α}
    (valid : stringKeys read data = .valid value) : read data = .valid value := by
  cases data with
  | unpairedKeys members apart => cases valid
  | _ => exact valid

/-- A member that may be left out is the usual value, or it is read. -/
theorem optional_eq_valid {names : List String} {read : Reader α} {fallback : α}
    {members : Members} {value : α} (valid : optional names read fallback members = .valid value) :
    value = fallback ∨ ∃ data, read data = .valid value := by
  unfold optional at valid
  split at valid
  next name data _ => exact .inr ⟨data, Checked.under_eq_valid.mp valid⟩
  next => exact .inl (Checked.valid.inj valid).symm

/-- What may be null is, or it is read. -/
theorem nullable_eq_valid {read : Reader α} {value : Option α}
    (valid : nullable read data = .valid value) :
    value = none ∨ ∃ part, value = some part ∧ read data = .valid part := by
  cases data with
  | null => exact .inl (Checked.valid.inj valid).symm
  | _ =>
      obtain ⟨part, read, rfl⟩ := Checked.map_eq_valid.mp valid
      exact .inr ⟨part, rfl, read⟩

/-- A number that is read with a bound keeps to it. -/
theorem atLeast_eq_valid {least : Int} {read : Reader Int} {value : Int}
    (valid : atLeast least read data = .valid value) :
    least ≤ value ∧ read data = .valid value := by
  obtain ⟨part, given, enough⟩ := Checked.andThen_eq_valid.mp valid
  split at enough
  next => cases enough
  next enoughGiven =>
    cases enough
    exact ⟨Int.not_lt.mp enoughGiven, given⟩

theorem atMost_eq_valid {most : Int} {read : Reader Int} {value : Int}
    (valid : atMost most read data = .valid value) : value ≤ most ∧ read data = .valid value := by
  obtain ⟨part, given, within⟩ := Checked.andThen_eq_valid.mp valid
  split at within
  next => cases within
  next withinGiven =>
    cases within
    exact ⟨Int.not_lt.mp withinGiven, given⟩

end Schema

/-! ## Pedagogies -/

/-- The font size is one that may be asked for. -/
def Accessibility.InRange (value : Accessibility) : Prop :=
  12 ≤ value.minFontSizePx ∧ value.minFontSizePx ≤ 24

/-- Whatever is read asks for such a font size. -/
theorem Accessibility.inRange_of_read {data : Json} {value : Accessibility}
    (valid : read data = .valid value) : value.InRange := by
  obtain ⟨members, valid⟩ := record_eq_valid (stringKeys_eq_valid valid)
  simp only [Checked.seq_eq_valid, Checked.map_eq_valid] at valid
  obtain ⟨_, _, ⟨_, _, ⟨_, _, ⟨size, given, rfl⟩, _, rfl⟩, _, rfl⟩, _, rfl⟩ := valid
  rcases optional_eq_valid given with rfl | ⟨data, given⟩
  · exact ⟨Nat.le_of_ble_eq_true rfl, Nat.le_of_ble_eq_true rfl⟩
  · obtain ⟨least, given⟩ := atLeast_eq_valid given
    have most := (atMost_eq_valid given).1
    constructor
    · exact (Int.le_toNat (by omega)).mpr least
    · exact Int.toNat_le.mpr most

theorem Pedagogy.inRange_of_read {data : Json} {value : Pedagogy}
    (valid : read data = .valid value) : value.accessibility.InRange := by
  obtain ⟨members, valid⟩ := record_eq_valid (stringKeys_eq_valid valid)
  simp only [Checked.seq_eq_valid, Checked.map_eq_valid] at valid
  obtain ⟨_, _, ⟨_, asked, ⟨_, _, ⟨_, _, ⟨_, _, ⟨_, _, rfl⟩, _, rfl⟩, _, rfl⟩, _, rfl⟩, given, rfl⟩,
    _, rfl⟩ := valid
  rcases optional_eq_valid given with rfl | ⟨data, given⟩
  · exact ⟨Nat.le_of_ble_eq_true rfl, Nat.le_of_ble_eq_true rfl⟩
  · exact Accessibility.inRange_of_read given

theorem Accessibility.read_toJson {value : Accessibility} (inRange : value.InRange) :
    read (value.toJson .snake) = .valid value := by
  obtain ⟨least, most⟩ := inRange
  have size : atLeast 12 (atMost 24 whole) (.nat value.minFontSizePx) =
      .valid (value.minFontSizePx : Int) := by
    have notAbove : ¬ (value.minFontSizePx : Int) > 24 := by omega
    have notBelow : ¬ (value.minFontSizePx : Int) < 12 := by omega
    simp [atLeast, atMost, whole, Json.nat, Checked.andThen, notAbove, notBelow]
  simp [toJson, keys, read, record, Json.distinctMembers, Schema.optional, spelled?, Json.lookup,
    closed, flag, Spelling.pick, size, Checked.under, Checked.map_valid, Checked.seq_valid]

/-- A pedagogy is read from what is written of it as it was. -/
theorem Pedagogy.read_toJson {value : Pedagogy} (inRange : value.accessibility.InRange) :
    read (value.toJson .snake) = .valid value := by
  have accessibility := Accessibility.read_toJson inRange
  have band : among GradeBand.name [.upToSecond, .thirdToFifth, .sixthToEighth, .ninthToTwelfth]
      (.str value.gradeBand.name) = .valid value.gradeBand := by
    cases value.gradeBand <;> rfl
  have level : among ReadingLevel.name [.emergent, .basic, .intermediate, .advanced]
      (.str value.readingLevel.name) = .valid value.readingLevel := by
    cases value.readingLevel <;> rfl
  have tone : among Tone.name [.friendly, .neutral, .formal] (.str value.tone.name) =
      .valid value.tone := by
    cases value.tone <;> rfl
  have load : among CognitiveLoad.name [.low, .medium, .high] (.str value.cognitiveLoad.name) =
      .valid value.cognitiveLoad := by
    cases value.cognitiveLoad <;> rfl
  simp [toJson, keys, read, record, Json.distinctMembers, Schema.optional, spelled?, Json.lookup,
    closed, Spelling.pick, band, level, tone, load, accessibility, Checked.under, Checked.map_valid,
    Checked.seq_valid]

/-! ## Lessons -/

/-- A moment is read from its text as it was. -/
def Timestamp.ReadsBack (moment : Timestamp) : Prop := time (.str moment.render) = .valid moment

instance (moment : Timestamp) : Decidable moment.ReadsBack :=
  inferInstanceAs (Decidable (time _ = .valid moment))

namespace Lesson

/-- The identifier that data gives a lesson. -/
def readId : Reader String := record "Lesson" (required ["id"] text)

/-- The status that data gives a lesson. -/
def readStatus : Reader Status :=
  record "Lesson" (optional ["status"] (Schema.member Status.name Status.all) .queued)

/-- A lesson that is read has the status that is read alone, and the identifier, if there is one. -/
theorem parts_of_read {freshId : String} {now : Timestamp} {data : Json} {lesson : Lesson}
    (read : Lesson.read freshId now data = .valid lesson) :
    readStatus data = .valid lesson.status ∧
      ∀ own, readId data = .valid own → lesson.id = own := by
  obtain ⟨members, same⟩ := exists_members read
  rw [Lesson.read, same] at read
  rw [readStatus, readId, same, same]
  simp only [Checked.seq_eq_valid, Checked.map_eq_valid] at read
  obtain ⟨_, _, ⟨_, _, ⟨_, _, ⟨_, status, ⟨_, _, ⟨_, _, ⟨id, idRead, rfl⟩, _, rfl⟩, _, rfl⟩,
    statusRead, rfl⟩, _, rfl⟩, _, rfl⟩, _, rfl⟩ := read
  refine ⟨statusRead, ?_⟩
  intro own ownRead
  simp only [required] at ownRead
  simp only [Schema.optional] at idRead
  split at ownRead
  next name value spelled =>
    rw [spelled] at idRead
    exact Checked.valid.inj (idRead.symm.trans ownRead)
  next => cases ownRead

theorem readId_toJson (spelling : Spelling) (lesson : Lesson) :
    readId (lesson.toJson spelling) = .valid lesson.id := by
  simp [Lesson.toJson, readId, record, Json.distinctMembers, required, spelled?, Json.lookup, text,
    Checked.under]

theorem member_status (status : Status) :
    Schema.member Status.name Status.all (.str status.name) = .valid status := by
  cases status with
  | queued => rfl
  | generating => rfl
  | generated => rfl
  | failed => rfl

theorem readStatus_toJson (spelling : Spelling) (lesson : Lesson) :
    readStatus (lesson.toJson spelling) = .valid lesson.status := by
  simp [Lesson.toJson, readStatus, record, Json.distinctMembers, Schema.optional, spelled?,
    Json.lookup, member_status, Checked.under]

theorem withoutFloats_toJson (spelling : Spelling) (lesson : Lesson) :
    (lesson.toJson spelling).WithoutFloats .record := by
  have pedagogy :
      ((lesson.pedagogy.map (Pedagogy.toJson spelling)).getD .null).WithoutFloats .record := by
    cases lesson.pedagogy with
    | none => exact .null
    | some value =>
        have accessibility : (value.accessibility.toJson spelling).WithoutFloats .record :=
          .obj (by simp [Json.nat, Json.WithoutFloats.int_record, Json.WithoutFloats.bool])
        exact .obj (by simp [Json.WithoutFloats.str, accessibility])
  exact .obj (by simp [Json.WithoutFloats.str, pedagogy])

/-- A lesson is read from its record as it was. -/
def ReadsBack (lesson : Lesson) : Prop :=
  ∀ freshId now, Lesson.read freshId now (lesson.toJson .snake) = .valid lesson

/-- A lesson is read back if its moments and its pedagogy are. -/
theorem readsBack_iff {lesson : Lesson} : lesson.ReadsBack ↔
    nullable Pedagogy.read ((lesson.pedagogy.map (Pedagogy.toJson .snake)).getD .null) =
        .valid lesson.pedagogy ∧
      lesson.createdAt.ReadsBack ∧ lesson.updatedAt.ReadsBack := by
  have spelled (freshId : String) (now : Timestamp) :
      Lesson.read freshId now (lesson.toJson .snake) =
        Lesson.mk <$> .valid lesson.id <*> .valid lesson.title <*> .valid lesson.topic <*>
          .valid lesson.status <*>
          (nullable Pedagogy.read
            ((lesson.pedagogy.map (Pedagogy.toJson .snake)).getD .null)).under (.key "pedagogy") <*>
          (time (.str lesson.createdAt.render)).under (.key "created_at") <*>
          (time (.str lesson.updatedAt.render)).under (.key "updated_at") := by
    simp [Lesson.read, Lesson.toJson, record, Json.distinctMembers, required, Schema.optional,
      spelled?, Json.lookup, text, Checked.under, member_status]
  constructor
  · intro reads
    have read := reads "" lesson.createdAt
    simp only [spelled, Checked.seq_eq_valid, Checked.map_eq_valid, Checked.under_eq_valid] at read
    obtain ⟨_, updated, ⟨_, created, ⟨_, pedagogy, ⟨_, _, ⟨_, _, ⟨_, _, ⟨_, _, rfl⟩, _, rfl⟩, _,
      rfl⟩, _, rfl⟩, pedagogyRead, rfl⟩, createdRead, rfl⟩, updatedRead, same⟩ := read
    cases lesson
    cases same
    exact ⟨pedagogyRead, createdRead, updatedRead⟩
  · rintro ⟨pedagogy, created, updated⟩ freshId now
    rw [Timestamp.ReadsBack] at created updated
    rw [spelled, pedagogy, created, updated]
    rfl

/-- A lesson is read back if it asks for a font size that may be asked for. -/
theorem readsBack_of_inRange {lesson : Lesson}
    (fits : ∀ given ∈ lesson.pedagogy, given.accessibility.InRange)
    (created : lesson.createdAt.ReadsBack) (updated : lesson.updatedAt.ReadsBack) :
    lesson.ReadsBack := by
  refine readsBack_iff.mpr ⟨?_, created, updated⟩
  cases there : lesson.pedagogy with
  | none => rfl
  | some given =>
      change (Pedagogy.read (given.toJson .snake)).map some = .valid (some given)
      rw [Pedagogy.read_toJson (fits given there)]
      rfl

instance (lesson : Lesson) : Decidable lesson.ReadsBack := decidable_of_iff' _ readsBack_iff

/-- A lesson is read back behind a change of its status, too. -/
theorem ReadsBack.withStatus {lesson : Lesson} (reads : lesson.ReadsBack) {now : Timestamp}
    (moment : now.ReadsBack) (status : Status) :
    (Store.withStatus now status lesson).ReadsBack := by
  obtain ⟨pedagogy, created, _⟩ := readsBack_iff.mp reads
  exact readsBack_iff.mpr ⟨pedagogy, created, moment⟩

end Lesson

/-! ## Content -/

namespace Content

theorem withoutFloats_toJson (content : Content) : content.toJson.WithoutFloats .record :=
  .obj (by simp [Json.nat, Json.WithoutFloats.int_record, Json.WithoutFloats.str])

/-- A version of content, counted from one, is read from its record as it was. -/
theorem read_toJson {content : Content} (moment : content.createdAt.ReadsBack)
    (counted : 1 ≤ content.version) (now : Timestamp) :
    Content.read now content.toJson = .valid content := by
  have version : natural 1 (.int content.version) = .valid content.version := by
    have least : ¬ ((content.version : Int) < 1) := by omega
    simp [natural, atLeast, whole, Checked.andThen, Checked.map, least]
  rw [Timestamp.ReadsBack] at moment
  simp [Content.read, Content.toJson, record, Json.distinctMembers, required, Schema.optional,
    spelled?, Json.lookup, text, Checked.under, Json.nat, version, moment]
  rfl

end Content

/-! ## Traces -/

/-- A trace is read from the line that is written of it as it was. Its results may hold any numbers,
and those with a fraction are written in decimal digits. -/
def Trace.ReadsBack (trace : Trace) : Prop :=
  ∃ data,
    Json.Parser.parseChars .record (Json.compact Json.recordStyle trace.toJson).toList = .ok data ∧
      ∀ now, Trace.read now data = .valid trace

namespace Trace

/-- A trace without such numbers is read back if its moment is, as its results name nothing twice. -/
theorem readsBack_of_withoutFloats {trace : Trace} (moment : trace.createdAt.ReadsBack)
    (validation : (Json.obj trace.validation).WithoutFloats .record)
    (validated : Json.distinctMembers trace.validation = trace.validation)
    (compilation : (Json.obj trace.compilation).WithoutFloats .record)
    (compiled : Json.distinctMembers trace.compilation = trace.compilation) : trace.ReadsBack := by
  have optionalText (value : Option String) : (Json.optionalText value).WithoutFloats .record := by
    cases value with
    | none => exact .null
    | some text => exact .str text
  have nullable_optionalText (value : Option String) :
      nullable text (Json.optionalText value) = .valid value := by
    cases value with
    | none => rfl
    | some text => rfl
  have dictionary_eq {members : List (String × Json)}
      (same : Json.distinctMembers members = members) :
      dictionary (.obj members) = .valid members := congrArg Checked.valid same
  have number : natural 0 (.int trace.attemptNumber) = .valid trace.attemptNumber := by
    have least : ¬ ((trace.attemptNumber : Int) < 0) := by omega
    simp [natural, atLeast, whole, Checked.andThen, Checked.map, least]
  have whole : trace.toJson.WithoutFloats .record :=
    .obj (by
      simp [Json.nat, Json.WithoutFloats.int_record, Json.WithoutFloats.str, optionalText, validation,
        compilation])
  rw [Timestamp.ReadsBack] at moment
  refine ⟨trace.toJson, Json.parseChars_compact whole, fun now => ?_⟩
  simp [Trace.read, Trace.toJson, record, Json.distinctMembers, required, Schema.optional,
    spelled?, Json.lookup, text, Checked.under, Json.nat, number, moment, nullable_optionalText,
    dictionary_eq validated, dictionary_eq compiled]
  rfl

end Trace

end Lectern
