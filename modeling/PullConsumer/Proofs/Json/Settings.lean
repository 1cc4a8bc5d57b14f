import PullConsumer.Proofs.Json.Codec

/-! # Reading settings that are given in part

An object that gives some of the settings is read as the standard settings with exactly these
changed (`Json.decodeSettings_of_valid`), in whatever order its members come and whatever else it
holds. So settings are read back as they were written, like everything else that has a JSON form
(`Json.forms_faithful`).
-/

namespace PullConsumer.Json

/-! ### Settings of a subject -/

/-- What stands for the timeout of a subject: nothing, a null, or a number. -/
inductive GivesTimeout : Option Value → Option UInt64 → Prop
  | absent : GivesTimeout none none
  | null : GivesTimeout (some .null) none
  | number (timeout : UInt64) : GivesTimeout (some (.integer timeout.toNat)) (some timeout)

/-- An object that gives the timeout of a subject at most once; other members may be anything. -/
def GivesSubject (value : Value) (subject : SubjectSettings) : Prop :=
  ∃ members, value = .object members ∧
    members.Pairwise (fun earlier later => earlier.1 = subjectTimeoutField → later.1 ≠ earlier.1) ∧
    GivesTimeout (Dictionary.find? subjectTimeoutField members) subject.pullRequestTimeout

/-- An object of objects that give subjects their settings; of two members with one name the later
counts. -/
def GivesSubjects (value : Value) (subjects : Dictionary SubjectSettings) : Prop :=
  ∃ members pairs, value = .object members ∧ subjects = .ofList pairs ∧
    List.Forall₂ (fun member pair => member.1 = pair.1 ∧ GivesSubject member.2 pair.2) members pairs

variable {members : List (String × Value)} {value : Value} {subject : SubjectSettings}
  {subjects : Dictionary SubjectSettings} {draft : SettingsDraft} {name : String}

/-- A value that gives a timeout is read as this timeout. -/
theorem decodeOptionalUInt64_of_gives {timeout : Option UInt64}
    (gives : GivesTimeout (some value) timeout) : decodeOptionalUInt64 value = .ok timeout := by
  cases gives with
  | null => rfl
  | number timeout =>
      change (decodeUInt64 "u64" (.integer timeout.toNat)).map some = _
      rw [decodeUInt64_toNat]
      rfl

/-- Members under other keys do not change what has been read of a subject. -/
theorem decodeSubjectMembers_of_absent (read : Option (Option UInt64))
    (absent : ∀ member ∈ members, member.1 ≠ subjectTimeoutField) :
    decodeSubjectMembers read members = .ok ⟨read.getD none⟩ := by
  induction members with
  | nil => rfl
  | cons member rest ih =>
      obtain ⟨other, absent⟩ := List.forall_mem_cons.mp absent
      rw [decodeSubjectMembers, if_neg other]
      exact ih absent

/-- A value that gives the settings of a subject is read as these settings. -/
theorem decodeSubject_of_gives (gives : GivesSubject value subject) :
    decodeSubject value = .ok subject := by
  obtain ⟨members, rfl, once, timeout⟩ := gives
  change decodeSubjectMembers none members = .ok subject
  induction members with
  | nil =>
      obtain ⟨own⟩ := subject
      cases timeout
      rfl
  | cons member rest ih =>
      obtain ⟨name, value⟩ := member
      obtain ⟨alone, once⟩ := List.pairwise_cons.mp once
      unfold Dictionary.find? at timeout
      unfold decodeSubjectMembers
      split
      · rename_i same
        rw [if_pos same] at timeout
        rw [decodeOptionalUInt64_of_gives timeout]
        exact decodeSubjectMembers_of_absent _ fun member listed => same ▸ alone member listed same
      · rename_i other
        rw [if_neg other] at timeout
        exact ih once timeout

/-- A value that gives the settings of all subjects is read as these settings. -/
theorem decodeSubjects_of_gives (gives : GivesSubjects value subjects) :
    decodeMap decodeSubject value = .ok subjects := by
  obtain ⟨members, pairs, rfl, rfl, each⟩ := gives
  exact decodeMap_of_forall₂ (each.imp fun _ _ both => ⟨both.1, decodeSubject_of_gives both.2⟩)

/-- The settings of a subject are given by what they are written as. -/
theorem encodeSubject_gives (subject : SubjectSettings) :
    GivesSubject (encodeSubject subject) subject := by
  obtain ⟨own⟩ := subject
  refine ⟨_, rfl, List.pairwise_singleton .., ?_⟩
  cases own with
  | none => exact .null
  | some timeout => exact .number timeout

/-- The settings of a subject survive being written and read. -/
theorem subject_roundTrips : RoundTrips decodeSubject encodeSubject :=
  .of_back fun subject => decodeSubject_of_gives (encodeSubject_gives subject)

/-! ### Settings -/

/-- Members that give settings: each at most once, and with a valid value; other members may be
anything. -/
structure Valid (members : List (String × Value)) : Prop where
  once : members.Pairwise fun earlier later => earlier.1 ∈ settingsFields → later.1 ≠ earlier.1
  number : ∀ field value, (SettingField.name field, value) ∈ members →
    ∃ number : UInt64, value = .integer number.toNat
  subjects : ∀ value, (subjectsField, value) ∈ members → ∃ subjects, GivesSubjects value subjects

/-- The settings that members give are as given, and all others as they were before. -/
structure Overrides (members : List (String × Value)) (before after : Settings) : Prop where
  number : ∀ field (number : UInt64), (SettingField.name field, .integer number.toNat) ∈ members →
    after.number field = number
  subjects : ∀ value subjects, (subjectsField, value) ∈ members → GivesSubjects value subjects →
    after.subjects = subjects
  otherNumber : ∀ field, SettingField.name field ∉ members.map Prod.fst →
    after.number field = before.number field
  otherSubjects : subjectsField ∉ members.map Prod.fst → after.subjects = before.subjects

/-- A field is found under its own name only. -/
theorem named?_eq_some_iff {field : SettingField} :
    SettingField.named? name = some field ↔ field.name = name := by
  constructor
  · intro found
    unfold SettingField.named? at found
    simpa using List.find?_some found
  · rintro rfl
    cases field <;> rfl

/-- Every number among the settings has a field. -/
theorem name_mem_settingsFields (field : SettingField) : field.name ∈ settingsFields := by
  cases field <;> decide

/-- The settings of the subjects have a field. -/
theorem subjects_mem_settingsFields : subjectsField ∈ settingsFields := by decide

/-- No number among the settings has the name of the subjects. -/
theorem name_ne_subjects (field : SettingField) : field.name ≠ subjectsField := by
  cases field <;> decide

/-- Fields are told apart by their names. -/
theorem name_injective {field other : SettingField} (same : field.name = other.name) :
    field = other :=
  Option.some.inj ((named?_eq_some_iff.mpr rfl).symm.trans (named?_eq_some_iff.mpr same.symm))

/-- Members override settings one after the other, if no field is given twice. -/
theorem Overrides.cons {member : String × Value} {before middle after : Settings}
    (first : Overrides [member] before middle) (rest : Overrides members middle after)
    (alone : ∀ later ∈ members, member.1 ∈ settingsFields → later.1 ≠ member.1) :
    Overrides (member :: members) before after := by
  have last : member.1 ∈ settingsFields → member.1 ∉ members.map Prod.fst := by
    intro known again
    obtain ⟨later, listed, same⟩ := List.mem_map.mp again
    exact alone later listed known same
  constructor
  case number =>
    intro field number given
    rcases List.mem_cons.mp given with rfl | later
    · rw [rest.otherNumber field (last (name_mem_settingsFields field))]
      exact first.number field number List.mem_cons_self
    · exact rest.number field number later
  case subjects =>
    intro value subjects given gives
    rcases List.mem_cons.mp given with rfl | later
    · rw [rest.otherSubjects (last subjects_mem_settingsFields)]
      exact first.subjects value subjects List.mem_cons_self gives
    · exact rest.subjects value subjects later gives
  case otherNumber =>
    intro field absent
    rw [List.map_cons, List.mem_cons, not_or] at absent
    rw [rest.otherNumber field absent.2]
    exact first.otherNumber field fun here => absent.1 (List.mem_singleton.mp here)
  case otherSubjects =>
    intro absent
    rw [List.map_cons, List.mem_cons, not_or] at absent
    rw [rest.otherSubjects absent.2]
    exact first.otherSubjects fun here => absent.1 (List.mem_singleton.mp here)

/-- A number that was not given before is taken into the draft. -/
theorem add_number {field : SettingField} (ungiven : field.name ∉ draft.given) (number : UInt64) :
    draft.add settingsReader field.name (.integer number.toNat) =
      .ok ⟨draft.settings.setNumber number field, field.name :: draft.given⟩ := by
  simp only [SettingsDraft.add, if_neg ungiven, named?_eq_some_iff.mpr rfl, settingsReader,
    decodeUInt64_toNat]
  rfl

/-- The settings of the subjects are taken into the draft if they were not given before. -/
theorem add_subjects (ungiven : subjectsField ∉ draft.given)
    (gives : GivesSubjects value subjects) :
    draft.add settingsReader subjectsField value =
      .ok ⟨{ draft.settings with subjects := subjects }, subjectsField :: draft.given⟩ := by
  have unnumbered : SettingField.named? subjectsField = none := by decide
  simp only [SettingsDraft.add, if_neg ungiven, unnumbered, if_true, settingsReader,
    decodeSubjects_of_gives gives]
  rfl

/-- A member under an unknown name leaves the draft as it is. -/
theorem add_other (unknown : name ∉ settingsFields) (ungiven : name ∉ draft.given) :
    draft.add settingsReader name value = .ok draft := by
  have unnumbered : SettingField.named? name = none := by
    refine Option.eq_none_iff_forall_ne_some.mpr fun field found => unknown ?_
    exact named?_eq_some_iff.mp found ▸ name_mem_settingsFields field
  have different : name ≠ subjectsField := fun same => unknown (same ▸ subjects_mem_settingsFields)
  simp only [SettingsDraft.add, if_neg ungiven, unnumbered, if_neg different]
  rfl

/-- A member that was not given before changes the setting that it names, if it names one. -/
theorem add_overrides (valid : Valid [(name, value)]) (ungiven : name ∉ draft.given) :
    ∃ next, draft.add settingsReader name value = .ok next ∧
      Overrides [(name, value)] draft.settings next.settings ∧
      ∀ given ∈ next.given, given ∈ draft.given ∨ given = name ∧ name ∈ settingsFields := by
  by_cases known : name ∈ settingsFields
  · rcases List.mem_append.mp known with numbered | grouped
    · obtain ⟨field, _, rfl⟩ := List.mem_map.mp numbered
      obtain ⟨number, rfl⟩ := valid.number field value List.mem_cons_self
      refine ⟨_, add_number ungiven number, ⟨?_, ?_, ?_, ?_⟩, ?_⟩
      · intro other own given
        obtain ⟨same, also⟩ := Prod.mk.inj (List.mem_singleton.mp given)
        rw [Settings.number_setNumber, if_pos (name_injective same).symm]
        exact UInt64.toNat_inj.mp (Int.ofNat.inj (Value.integer.inj also)).symm
      · intro _ _ given
        exact absurd (Prod.mk.inj (List.mem_singleton.mp given)).1.symm (name_ne_subjects field)
      · intro other absent
        rw [Settings.number_setNumber, if_neg]
        rintro rfl
        exact absent List.mem_cons_self
      · intro _
        cases field <;> rfl
      · exact fun given listed => (List.mem_cons.mp listed).symm.imp_right (⟨·, known⟩)
    · obtain rfl := List.mem_singleton.mp grouped
      obtain ⟨subjects, gives⟩ := valid.subjects value List.mem_cons_self
      refine ⟨_, add_subjects ungiven gives, ⟨?_, ?_, ?_, ?_⟩, ?_⟩
      · intro field _ given
        exact absurd (Prod.mk.inj (List.mem_singleton.mp given)).1 (name_ne_subjects field)
      · intro other own given also
        obtain ⟨_, rfl⟩ := Prod.mk.inj (List.mem_singleton.mp given)
        exact Except.ok.inj
          ((decodeSubjects_of_gives gives).symm.trans (decodeSubjects_of_gives also))
      · intro field _
        cases field <;> rfl
      · exact fun absent => absurd List.mem_cons_self absent
      · exact fun given listed => (List.mem_cons.mp listed).symm.imp_right (⟨·, known⟩)
  · refine ⟨draft, add_other known ungiven, ⟨?_, ?_, fun _ _ => rfl, fun _ => rfl⟩, fun _ => .inl⟩
    · intro field _ given
      obtain ⟨rfl, _⟩ := Prod.mk.inj (List.mem_singleton.mp given)
      exact absurd (name_mem_settingsFields field) known
    · intro _ _ given
      obtain ⟨rfl, _⟩ := Prod.mk.inj (List.mem_singleton.mp given)
      exact absurd subjects_mem_settingsFields known

/-- Members that are valid and give no field twice are read as overriding the draft. -/
theorem decodeSettingsMembers_of_valid (valid : Valid members)
    (ungiven : ∀ name ∈ draft.given, name ∉ members.map Prod.fst) :
    ∃ settings, decodeSettingsMembers draft members = .ok settings ∧
      Overrides members draft.settings settings := by
  induction members generalizing draft with
  | nil => exact ⟨draft.settings, rfl, nofun, nofun, fun _ _ => rfl, fun _ => rfl⟩
  | cons member rest ih =>
      obtain ⟨name, value⟩ := member
      obtain ⟨alone, once⟩ := List.pairwise_cons.mp valid.once
      have head : Valid [(name, value)] :=
        ⟨List.pairwise_singleton .., fun field value here => valid.number field value
          (List.mem_cons.mpr (.inl (List.mem_singleton.mp here))), fun value here =>
          valid.subjects value (List.mem_cons.mpr (.inl (List.mem_singleton.mp here)))⟩
      have tail : Valid rest :=
        ⟨once, fun field value later => valid.number field value (List.mem_cons_of_mem _ later),
          fun value later => valid.subjects value (List.mem_cons_of_mem _ later)⟩
      have fresh : name ∉ draft.given := fun given => ungiven name given List.mem_cons_self
      obtain ⟨next, added, first, grown⟩ := add_overrides head fresh
      have unread : ∀ given ∈ next.given, given ∉ rest.map Prod.fst := by
        intro given listed later
        rcases grown given listed with earlier | ⟨rfl, known⟩
        · exact ungiven given earlier (List.mem_cons_of_mem _ later)
        · obtain ⟨member, listed, same⟩ := List.mem_map.mp later
          exact alone member listed known same
      obtain ⟨settings, read, others⟩ := ih tail unread
      exact ⟨settings, bind_eq_ok_iff.mpr ⟨next, added, read⟩, first.cons others alone⟩

/-- Members that give settings in part are read as the standard settings with these changed. -/
theorem decodeSettings_of_valid (valid : Valid members) :
    ∃ settings, decodeSettings (.object members) = .ok settings ∧
      Overrides members .standard settings := by
  have ungiven : ∀ name ∈ SettingsDraft.empty.given, name ∉ members.map Prod.fst := nofun
  exact decodeSettingsMembers_of_valid valid ungiven

/-- Settings are equal if all their numbers and the settings of all subjects are. -/
theorem ext_number {left right : Settings}
    (numbers : ∀ field, left.number field = right.number field)
    (subjects : left.subjects = right.subjects) : left = right := by
  cases left
  cases right
  rw [Settings.mk.injEq]
  exact ⟨numbers .pullRequestTimeout, numbers .ackFlushInterval, numbers .ackBatchSize,
    numbers .destroyDrainTimeout, numbers .offlineFlushTimeout, numbers .retryBaseBackoff,
    numbers .retryMaxBackoff, subjects⟩

/-- The members of settings, with the settings of subjects in some order. -/
def settingsMembers (settings : Settings) (subjects : List (String × SubjectSettings)) :
    List (String × Value) :=
  (SettingField.all.map fun field => (field.name, .integer (settings.number field).toNat)) ++
    [(subjectsField, .object (subjects.map fun pair => (pair.1, encodeSubject pair.2)))]

/-- Settings are read back from their members in any order. -/
theorem decodeSettings_of_perm {settings : Settings} {subjects : List (String × SubjectSettings)}
    (listed : subjects.Perm settings.subjects.entries)
    (perm : members.Perm (settingsMembers settings subjects)) :
    decodeSettings (.object members) = .ok settings := by
  have numbered : ∀ {field value}, (SettingField.name field, value) ∈ members ↔
      value = .integer (settings.number field).toNat := by
    intro field value
    unfold settingsMembers at perm
    rw [perm.mem_iff, List.mem_append, List.mem_map]
    constructor
    · rintro (⟨other, _, same⟩ | grouped)
      · obtain ⟨names, rfl⟩ := Prod.mk.inj same
        rw [name_injective names]
      · exact absurd (Prod.mk.inj (List.mem_singleton.mp grouped)).1 (name_ne_subjects field)
    · rintro rfl
      exact .inl ⟨field, by cases field <;> decide, rfl⟩
  have gives : GivesSubjects (.object (subjects.map fun pair => (pair.1, encodeSubject pair.2)))
      settings.subjects := by
    refine ⟨_, subjects, rfl, (Dictionary.ofList_of_perm listed).symm, ?_⟩
    exact List.forall₂_map_left_iff.mpr
      (List.forall₂_same.mpr fun pair _ => ⟨rfl, encodeSubject_gives pair.2⟩)
  have grouped : ∀ {value}, (subjectsField, value) ∈ members ↔
      value = .object (subjects.map fun pair => (pair.1, encodeSubject pair.2)) := by
    intro value
    unfold settingsMembers at perm
    rw [perm.mem_iff, List.mem_append, List.mem_map]
    constructor
    · rintro (⟨field, _, same⟩ | here)
      · exact absurd (Prod.mk.inj same).1 (name_ne_subjects field)
      · exact (Prod.mk.inj (List.mem_singleton.mp here)).2
    · rintro rfl
      exact .inr List.mem_cons_self
  have distinct : (members.map Prod.fst).Nodup := by
    refine (perm.map Prod.fst).nodup_iff.mpr ?_
    change settingsFields.Nodup
    decide
  have once : members.Pairwise fun earlier later =>
      earlier.1 ∈ settingsFields → later.1 ≠ earlier.1 := by
    refine (List.pairwise_map.mp distinct).imp ?_
    exact fun different _ => Ne.symm different
  have valid : Valid members :=
    ⟨once, fun _ _ given => ⟨_, numbered.mp given⟩,
      fun _ given => ⟨settings.subjects, grouped.mp given ▸ gives⟩⟩
  obtain ⟨read, decoded, overrides⟩ := decodeSettings_of_valid valid
  rw [decoded]
  refine congrArg Except.ok (ext_number (fun field => ?_) ?_)
  · exact overrides.number field _ (numbered.mpr rfl)
  · exact overrides.subjects _ _ (grouped.mpr rfl) gives

/-- What is so of the JSON forms of messages, settings and choices. -/
structure Faithful : Prop where
  message : RoundTrips decodeMessage encodeMessage
  settings : RoundTrips decodeSettings encodeSettings
  subject : RoundTrips decodeSubject encodeSubject
  responseCode : RoundTrips decodeResponseCode encodeResponseCode
  strategy : RoundTrips decodeStrategy encodeStrategy
  clientKind : RoundTrips decodeClientKind encodeClientKind
  /-- A message is read back from its members in any order, its attributes in any order. -/
  reorderedMessage : ∀ {message : Message} {attributes members},
    attributes.Perm message.attributes.entries →
    members.Perm (messageMembers message attributes) → decodeMessage (.object members) = .ok message
  /-- Settings are read back from their members in any order, those of subjects in any order. -/
  reorderedSettings : ∀ {settings : Settings} {subjects members},
    subjects.Perm settings.subjects.entries →
    members.Perm (settingsMembers settings subjects) →
    decodeSettings (.object members) = .ok settings
  /-- Settings that are given in part are read as the standard settings with these changed. -/
  partialSettings : ∀ {members}, Valid members → ∃ settings,
    decodeSettings (.object members) = .ok settings ∧ Overrides members .standard settings

/-- Everything with a JSON form is read back as it was written. -/
theorem forms_faithful : Faithful where
  message := message_roundTrips
  settings := .of_back fun _ => decodeSettings_of_perm (.refl _) (.refl _)
  subject := subject_roundTrips
  responseCode := responseCode_roundTrips
  strategy := strategy_roundTrips
  clientKind := clientKind_roundTrips
  reorderedMessage := decodeMessage_of_perm
  reorderedSettings := decodeSettings_of_perm
  partialSettings := decodeSettings_of_valid

end PullConsumer.Json
