import TapeDebugger.Proofs.Machine.Integrity
import TapeDebugger.Proofs.Session.Answers
import TapeDebugger.Settings.Schema

/-!
# Accepted settings

What a settings file says is checked three times: against the schema when the file is read, when
a session is created, and when a load builds its tape. The three checks do not know of each other.
`EnforcesSchema` is all that is relied on of reading, that a field only has a value which the
schema allows, and `evaluate?` does enforce the schema. The other two checks then succeed
(`accepted_settings_work`).
-/

namespace TapeDebugger

namespace Settings

/-- What the schema says of the value of a field: it is of the right kind and within its bounds, and
an integer fits 64 bits. -/
def Rule.Allows : Rule → Leaf → Prop
  | integer least greatest, .integer value =>
    (∀ bound ∈ least, bound ≤ value) ∧ (∀ bound ∈ greatest, value ≤ bound) ∧
      -Int.pow 2 63 ≤ value ∧ value < Int.pow 2 63
  | choice options, .text value => value ∈ options
  | flag, .bool _ => True
  | text, .text _ => True
  | struct, .struct => True
  | _, _ => False

/-- Reading a settings file gives values to fields of the schema only, and only such as it
allows. -/
structure EnforcesSchema (evaluate : List UInt8 → Option FieldValues) : Prop where
  allowed {source : List UInt8} {values : FieldValues} {path : List String} {value : Leaf}
    (accepted : evaluate source = some values) (given : values path = some value) :
    ∃ rule, rule? path = some rule ∧ rule.Allows value

/-- The rules admit nothing but what the schema allows. -/
theorem Rule.allows_of_admits {rule : Rule} {value : Leaf} (admits : rule.admits value = true) :
    rule.Allows value := by
  cases rule with
  | integer least greatest =>
      cases value with
      | integer value =>
          simp only [Rule.admits, Bool.and_eq_true, Option.all_eq_true, decide_eq_true_eq,
            isStorable] at admits
          obtain ⟨⟨⟨bottom, top⟩, above⟩, below⟩ := admits
          exact ⟨above, below, Int.le_of_lt bottom, top⟩
      | _ => cases admits
  | choice options =>
      cases value with
      | text value => exact List.contains_iff_mem.mp admits
      | _ => cases admits
  | flag | text | struct => cases value <;> trivial

section Evaluation

variable {assignments : List Assignment} {path : List String} {value : Leaf}

/-- A field that has a value is assigned one. -/
theorem exists_assignment_of_valueAt? (given : valueAt? assignments path = some value) :
    ∃ assignment ∈ assignments, assignment.path = publicPath path := by
  rw [valueAt?, Leaf.agree?] at given
  split at given
  · obtain ⟨assignment, selected, -⟩ := List.mem_map.mp (List.mem_of_find?_eq_some given)
    obtain ⟨member, same⟩ := List.mem_filter.mp selected
    exact ⟨assignment, member, eq_of_beq same⟩
  · cases given

/-- The names of a public path are those it was made from, and none of them is private. -/
theorem map_name_publicPath (names : List String) : (publicPath names).map (·.name) = names := by
  rw [publicPath, List.map_map]
  exact List.map_id names

/-- A public path has no private part. -/
theorem any_isPrivate_publicPath (names : List String) :
    (publicPath names).any (·.isPrivate) = false := by
  simp [publicPath]

/-- Accepted assignments only give a field what the schema allows. -/
theorem allows_of_isAccepted (accepted : isAccepted assignments = true)
    (given : valueAt? assignments path = some value) :
    ∃ rule, rule? path = some rule ∧ rule.Allows value := by
  obtain ⟨assignment, member, same⟩ := exists_assignment_of_valueAt? given
  have checked := List.all_eq_true.mp accepted assignment member
  simp only [same, any_isPrivate_publicPath, map_name_publicPath, Bool.false_eq_true,
    ↓reduceIte] at checked
  cases known : rule? path with
  | none => simp [known] at checked
  | some rule =>
      rw [valueAt?] at given
      simp only [known, Rule.admitsAll, given] at checked
      exact ⟨rule, rfl, Rule.allows_of_admits checked⟩

end Evaluation

/-- Reading settings files enforces the schema. -/
theorem enforcesSchema_evaluate? : EnforcesSchema evaluate? where
  allowed {source values path value} accepted given := by
    rw [evaluate?] at accepted
    cases read : assignments? source with
    | none => simp [read] at accepted
    | some assignments =>
        simp only [read] at accepted
        split at accepted
        · obtain rfl := Option.some.inj accepted
          exact allows_of_isAccepted ‹_› given
        · cases accepted

/-- The integer that a field is given. -/
def FieldValues.wholeNumber? (values : FieldValues) (path : List String) : Option Int :=
  match values path with
  | some (.integer value) => some value
  | _ => none

section Integers

open SettingsFile

variable {evaluate : List UInt8 → Option FieldValues} {source : List UInt8}
  {values : FieldValues} {path : List String} {least greatest : Option Int}

/-- A number that the schema asks for is within its bounds and fits a word. -/
theorem EnforcesSchema.wholeNumber (enforces : EnforcesSchema evaluate)
    (accepted : evaluate source = some values)
    (known : rule? path = some (.integer least greatest)) {value : Int}
    (given : values.wholeNumber? path = some value) :
    (∀ bound ∈ least, bound ≤ value) ∧ (∀ bound ∈ greatest, value ≤ bound) ∧
      (Int64.ofInt value).toInt = value := by
  rw [FieldValues.wholeNumber?] at given
  split at given
  · cases given
    obtain ⟨rule, same, allows⟩ := enforces.allowed accepted ‹_›
    obtain rfl := Option.some.inj (known.symm.trans same)
    obtain ⟨above, below, bottom, top⟩ := allows
    exact ⟨above, below, Int64.toInt_ofInt_of_le bottom top⟩
  · cases given

/-- A setting is read as a word when it is read as a whole number. -/
theorem integer?_eq_map (values : FieldValues) (path : List String) :
    integer? values path = (values.wholeNumber? path).map Int64.ofInt := by
  rw [integer?, FieldValues.wholeNumber?]
  cases values path with
  | none => rfl
  | some value => cases value <;> rfl

/-- Words hold the numbers of a file as they are. -/
theorem EnforcesSchema.map_toInt_integer? (enforces : EnforcesSchema evaluate)
    (accepted : evaluate source = some values)
    (known : rule? path = some (.integer least greatest)) :
    (integer? values path).map Int64.toInt = values.wholeNumber? path := by
  rw [integer?_eq_map, Option.map_map]
  cases given : values.wholeNumber? path with
  | none => rfl
  | some value => exact congrArg some (enforces.wholeNumber accepted known given).2.2

/-- An accepted integer lies within the bounds of its rule. -/
theorem EnforcesSchema.bounds (enforces : EnforcesSchema evaluate)
    (accepted : evaluate source = some values)
    (known : rule? path = some (.integer least greatest)) {word : Int64}
    (given : integer? values path = some word) :
    (∀ bound ∈ least, bound ≤ word.toInt) ∧ (∀ bound ∈ greatest, word.toInt ≤ bound) := by
  have number : values.wholeNumber? path = some word.toInt := by
    rw [← enforces.map_toInt_integer? accepted known, given, Option.map_some]
  exact ⟨(enforces.wholeNumber accepted known number).1,
    (enforces.wholeNumber accepted known number).2.1⟩

/-- A number with a least value that is not negative is not negative. -/
theorem EnforcesSchema.nonneg (enforces : EnforcesSchema evaluate)
    (accepted : evaluate source = some values) {bound : Int}
    (known : rule? path = some (.integer (some bound) greatest)) (sign : 0 ≤ bound) {word : Int64}
    (given : integer? values path = some word) : 0 ≤ word := by
  have above : bound ≤ word.toInt := (enforces.bounds accepted known given).1 bound rfl
  exact Int64.le_iff_toInt_le.mpr (Int.le_trans sign above)

/-- An accepted integer whose rule forbids negative numbers is not negative, and neither is the zero
that stands for one left out. -/
theorem EnforcesSchema.getD_nonneg (enforces : EnforcesSchema evaluate)
    (accepted : evaluate source = some values) {bound : Int}
    (known : rule? path = some (.integer (some bound) greatest)) (sign : 0 ≤ bound) :
    0 ≤ (integer? values path).getD 0 := by
  cases given : integer? values path with
  | none => exact Int64.le_refl 0
  | some word => exact enforces.nonneg accepted known sign given

end Integers

end Settings

/-- Settings are usable when there is a cell and zero is within the bounds. -/
theorem TapeSettings.exists_check {settings : TapeSettings} (size : 1 ≤ settings.size)
    (minValue : settings.minValue ≤ 0) (maxValue : 0 ≤ settings.maxValue) :
    ∃ limits, settings.check = .ok limits ∧ limits.size = settings.size.toNatClampNeg ∧
      limits.minValue = settings.minValue ∧ limits.maxValue = settings.maxValue := by
  have ordered : ¬ settings.maxValue < settings.minValue :=
    Int64.not_lt.mpr (Int64.le_trans minValue maxValue)
  have bounds : ¬ (0 < settings.minValue ∨ settings.maxValue < 0) :=
    not_or.mpr ⟨Int64.not_lt.mpr minValue, Int64.not_lt.mpr maxValue⟩
  rw [check, dif_neg (Int64.not_lt.mpr size), if_neg ordered, dif_neg bounds]
  exact ⟨_, rfl, rfl, rfl, rfl⟩

namespace SessionConfig

/-- No number is on the wrong side of zero. -/
structure SignsFit (config : SessionConfig) : Prop where
  tapeSize : 0 ≤ config.tapeSize
  runChunk : 0 ≤ config.runChunk
  maxRunSteps : 0 ≤ config.maxRunSteps
  defaultWindowRadius : ∀ radius ∈ config.defaultWindowRadius, 0 ≤ radius
  minValue : ∀ bound ∈ config.minValue, bound ≤ 0
  maxValue : ∀ bound ∈ config.maxValue, 0 ≤ bound

namespace SignsFit

variable {config : SessionConfig}

/-- A configuration whose signs fit has no negative numbers to report. -/
theorem negativeNumbers_eq_nil (fits : config.SignsFit) : config.negativeNumbers = [] := by
  rw [negativeNumbers, if_neg (Int64.not_lt.mpr fits.tapeSize),
    if_neg (Int64.not_lt.mpr fits.runChunk), if_neg (Int64.not_lt.mpr fits.maxRunSteps)]
  cases shown : config.defaultWindowRadius with
  | none => rfl
  | some radius =>
      exact if_neg (Int64.not_lt.mpr (fits.defaultWindowRadius radius shown))

/-- The tape of a load without overrides is usable. -/
theorem exists_tapeSettings_check (fits : config.SignsFit) :
    ∃ limits, (config.tapeSettings {}).check = .ok limits ∧
      limits.size = (config.tapeSettings {}).size.toNatClampNeg ∧
      limits.minValue = (config.tapeSettings {}).minValue ∧
      limits.maxValue = (config.tapeSettings {}).maxValue := by
  refine TapeSettings.exists_check ?_ ?_ ?_
  · by_cases zero : config.tapeSize = 0
    · simp only [tapeSettings, zero, ne_eq, not_true_eq_false, ↓reduceIte]
      decide
    · simp only [tapeSettings, zero, ne_eq, not_true_eq_false, not_false_eq_true, ↓reduceIte]
      exact one_le_of_pos (Int64.lt_of_le_of_ne fits.tapeSize (Ne.symm zero))
  · cases given : config.minValue with
    | none =>
        simp only [tapeSettings, given, Option.or_none, Option.getD_none]
        decide
    | some bound => simpa [tapeSettings, given] using fits.minValue bound given
  · cases given : config.maxValue with
    | none =>
        simp only [tapeSettings, given, Option.or_none, Option.getD_none]
        decide
    | some bound => simpa [tapeSettings, given] using fits.maxValue bound given

/-- A session can be created. -/
theorem exists_create (fits : config.SignsFit) :
    ∃ session, Session.create config = .ok session := by
  obtain ⟨limits, checked, -⟩ := fits.exists_tapeSettings_check
  rw [Session.create, check, fits.negativeNumbers_eq_nil, checked]
  exact ⟨_, rfl⟩

end SignsFit

end SessionConfig

/-- A load reports the tape of its machine, which is that of the limits. -/
theorem LoadReport.ofMachine_load_new (limits : TapeLimits) (code input : List UInt8) :
    (ofMachine ((Machine.new limits).load code input).1).tapeSize = limits.size ∧
      (ofMachine ((Machine.new limits).load code input).1).minValue = limits.minValue ∧
      (ofMachine ((Machine.new limits).load code input).1).maxValue = limits.maxValue := by
  have kept : ((Machine.new limits).load code input).1.limits = limits := by
    rw [Machine.load]
    split <;> rfl
  have sized := ((Machine.Intact.new limits).load code input).tape.size_cells
  rw [kept] at sized
  exact ⟨sized, congrArg TapeLimits.minValue kept, congrArg TapeLimits.maxValue kept⟩

namespace Settings

variable {evaluate : List UInt8 → Option FieldValues} {source : List UInt8}
  {values : FieldValues}

/-- The signs of an accepted settings file fit. A number that is not given is zero, or it is
missing. -/
theorem EnforcesSchema.signsFit (enforces : EnforcesSchema evaluate)
    (accepted : evaluate source = some values) :
    (SettingsFile.ofValues values).sessionConfig.SignsFit where
  tapeSize := enforces.getD_nonneg accepted rfl (by decide)
  runChunk := enforces.getD_nonneg accepted rfl (by decide)
  maxRunSteps := enforces.getD_nonneg accepted rfl (by decide)
  defaultWindowRadius _ given :=
    enforces.nonneg accepted rfl (Int.le_refl 0) given
  minValue _ given := by
    have below := (enforces.bounds accepted rfl given).2 0 rfl
    exact Int64.le_iff_toInt_le.mpr below
  maxValue _ given :=
    enforces.nonneg accepted rfl (Int.le_refl 0) given

/-- A report has the tape that a settings file asks for, and the standard one where it says
nothing. -/
structure FieldValues.Describes (values : FieldValues) (report : LoadReport) : Prop where
  tapeSize : (report.tapeSize : Int) = (values.wholeNumber? ["tapeSize"]).getD 30000
  minValue : report.minValue.toInt = (values.wholeNumber? ["minValue"]).getD (-(Int.pow 2 53 - 1))
  maxValue : report.maxValue.toInt = (values.wholeNumber? ["maxValue"]).getD (Int.pow 2 53 - 1)

/-- A load is into as many cells as a settings file asks for. A file cannot ask for none, so that a
size of zero always means that it does not say. -/
theorem EnforcesSchema.toInt_tapeSettings_size (enforces : EnforcesSchema evaluate)
    (accepted : evaluate source = some values) :
    ((SettingsFile.ofValues values).sessionConfig.tapeSettings {}).size.toInt =
      (values.wholeNumber? ["tapeSize"]).getD 30000 := by
  rw [← enforces.map_toInt_integer? accepted rfl]
  cases given : SettingsFile.integer? values ["tapeSize"] with
  | none =>
      simp only [SessionConfig.tapeSettings, SettingsFile.sessionConfig, SettingsFile.ofValues,
        given]
      decide
  | some word =>
      have above : 1 ≤ word.toInt := (enforces.bounds accepted rfl given).1 1 rfl
      have nonzero : word ≠ 0 := by
        rintro rfl
        exact absurd above (by decide)
      simp [SessionConfig.tapeSettings, SettingsFile.sessionConfig, SettingsFile.ofValues, given,
        nonzero]

/-- A load into the tape that an accepted settings file asks for reports that tape. -/
theorem EnforcesSchema.describes (enforces : EnforcesSchema evaluate)
    (accepted : evaluate source = some values) {limits : TapeLimits}
    (checked : ((SettingsFile.ofValues values).sessionConfig.tapeSettings {}).check = .ok limits)
    (code input : List UInt8) :
    values.Describes (.ofMachine ((Machine.new limits).load code input).1) := by
  obtain ⟨usable, same, size, minValue, maxValue⟩ :=
    (enforces.signsFit accepted).exists_tapeSettings_check
  obtain rfl := Except.ok.inj (checked.symm.trans same)
  obtain ⟨reportedSize, reportedMin, reportedMax⟩ :=
    LoadReport.ofMachine_load_new limits code input
  refine ⟨?_, ?_, ?_⟩
  · have positive := limits.size_pos
    rw [reportedSize, ← enforces.toInt_tapeSettings_size accepted]
    rw [size, toNatClampNeg_eq] at positive ⊢
    omega
  · have standard : TapeSettings.minSafeInteger.toInt = -(Int.pow 2 53 - 1) := by decide
    rw [reportedMin, minValue, ← enforces.map_toInt_integer? accepted rfl, ← standard,
      Option.getD_map]
    rfl
  · have standard : TapeSettings.maxSafeInteger.toInt = Int.pow 2 53 - 1 := by decide
    rw [reportedMax, maxValue, ← enforces.map_toInt_integer? accepted rfl, ← standard,
      Option.getD_map]
    rfl

/-- Every accepted settings file makes a session, and a load on that session which overrides
nothing is not refused: unless it is canceled, it reports the tape of the file. -/
theorem accepted_settings_work (enforces : EnforcesSchema evaluate)
    (accepted : evaluate source = some values) :
    (∃ session, Session.create (SettingsFile.ofValues values).sessionConfig = .ok session) ∧
      ∀ session, Session.Reachable (SettingsFile.ofValues values).sessionConfig session →
        ∀ context code input,
          (∀ fault, (session.load context code input {}).fault ≠ some (.argument fault)) ∧
            (context.poll ≠ none → ∃ report,
              (session.load context code input {}).value = some report ∧
                values.Describes report) := by
  have fits := enforces.signsFit accepted
  refine ⟨fits.exists_create, fun session reachable context code input => ?_⟩
  obtain ⟨limits, checked, -⟩ := fits.exists_tapeSettings_check
  have resolved : Session.loadLimits session.config {} = .ok limits := by
    have defaults : (SettingsFile.ofValues values).sessionConfig.withDefaults.tapeSettings {} =
        (SettingsFile.ofValues values).sessionConfig.tapeSettings {} := rfl
    rw [reachable.config_eq, Session.loadLimits, defaults, checked]
    rfl
  rw [Session.load_eq, Session.atEntry]
  cases poll : context.poll with
  | none =>
      refine ⟨fun fault refused => ?_, fun polls => absurd rfl polls⟩
      cases refused
  | some polled =>
      simp only [resolved]
      constructor
      · intro fault refused
        simp only [Session.conclude, Option.map_eq_some_iff] at refused
        obtain ⟨bracket, -, different⟩ := refused
        cases different
      · intro _
        exact ⟨_, rfl, enforces.describes accepted checked code input⟩

/-- A file with one of the two bounds: the other one, and the number of cells, are standard. -/
theorem accepted_settings_work_one_bound :
    ∃ values, evaluate? "maxValue: 255".toUTF8.toList = some values ∧
      ∃ session, Session.create (SettingsFile.ofValues values).sessionConfig = .ok session ∧
        ∃ report, (session.load .background "+.".toUTF8.toList [] {}).value = some report ∧
          report.tapeSize = 30000 ∧ report.minValue.toInt = -(Int.pow 2 53 - 1) ∧
          report.maxValue.toInt = 255 := by
  have read : assignments? "maxValue: 255".toUTF8.toList =
      some [{ path := [{ name := "maxValue", isPrivate := false }], leaf := .integer 255 }] := by
    decide +kernel
  have accepted : evaluate? "maxValue: 255".toUTF8.toList = some (valueAt?
      [{ path := [{ name := "maxValue", isPrivate := false }], leaf := .integer 255 }]) := by
    rw [evaluate?, read]
    rfl
  obtain ⟨⟨session, created⟩, loads⟩ := accepted_settings_work enforcesSchema_evaluate? accepted
  obtain ⟨report, reported, describes⟩ :=
    (loads session (.created created) .background "+.".toUTF8.toList []).2 nofun
  exact ⟨_, accepted, session, created, report, reported, Int.ofNat_inj.mp describes.tapeSize,
    describes.minValue, describes.maxValue⟩

end Settings

end TapeDebugger
