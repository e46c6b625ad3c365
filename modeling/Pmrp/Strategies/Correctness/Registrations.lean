import Pmrp.Strategies.Registry

/-!
# `Strategies.Correctness.Registrations` — what `create_strategy` returns

A run of `register` calls keeps the first registration of each type and version (`lookup_runRegister`). A strategy is
returned exactly when that registration accepts the configuration and its factory returns an instance with the
registered attributes; an instance with others is refused with a `StrategyRegistryError` exactly when every text that
the error would carry is one that the error's own constructor accepts.
-/

namespace Pmrp
namespace StrategyRegistry

open Freezing StrategyErrors

variable {Config : Type}

/-! ## Registered types -/

theorem registrationKey_eq_ok {strategyType strategyVersion : String} {key : String × String} :
    registrationKey strategyType strategyVersion = .ok key ↔
      IsStrippedText strategyType ∧ IsStrippedText strategyVersion ∧ key = (strategyType, strategyVersion) := by
  simp only [registrationKey, validateRequiredText, bind_eq_ok, raiseIf_eq_ok, not_not, exists_const, pure_eq_ok,
    eq_comm (a := key)]

theorem registrationKey_of_registration (registration : StrategyTypeRegistration Config) :
    registrationKey registration.definition.strategyType registration.definition.version = .ok registration.key :=
  registrationKey_eq_ok.mpr
    ⟨registration.definition.strategyType_required, registration.definition.version_required, rfl⟩

theorem register_eq_ok {registrations registrations' : Registrations Config}
    {registration : StrategyTypeRegistration Config} :
    register registrations registration = .ok registrations' ↔
      Dictionary.lookup StrategyTypeRegistration.key registration.key registrations = none ∧
        registrations' = Dictionary.insert StrategyTypeRegistration.key registration registrations := by
  rw [register, registrationKey_of_registration, ok_bind]
  simp only [bind_eq_ok, raiseIf_eq_ok, exists_const, pure_eq_ok, Bool.not_eq_true, Option.isSome_eq_false_iff,
    Option.isNone_iff_eq_none, eq_comm (a := registrations')]

/-- One call of `register` fills the place of its key if that is empty. -/
theorem lookup_register (registrations : Registrations Config) (registration : StrategyTypeRegistration Config)
    (key : String × String) :
    Dictionary.lookup StrategyTypeRegistration.key key
        (match register registrations registration with
          | .ok registrations' => registrations'
          | .error _ => registrations) =
      (Dictionary.lookup StrategyTypeRegistration.key key registrations).or
        (if registration.key = key then some registration else none) := by
  cases hregister : register registrations registration with
  | ok registrations' =>
      obtain ⟨hfree, rfl⟩ := register_eq_ok.mp hregister
      rw [Dictionary.lookup_insert]
      split_ifs with hkey
      · rw [← hkey, hfree, Option.none_or]
      · rw [Option.or_none]
  | error e =>
      -- the call raises because the key has a registration, which keeps its place
      split_ifs with hkey
      · cases hlookup : Dictionary.lookup StrategyTypeRegistration.key key registrations with
        | some taken => rfl
        | none =>
            have hok := register_eq_ok.mpr ⟨hkey ▸ hlookup, rfl⟩
            rw [hregister] at hok
            cases hok
      · rw [Option.or_none]

/-- After any calls of `register` a type and version have the first registration that was made for them. -/
theorem lookup_runRegister (calls : List (StrategyTypeRegistration Config)) (key : String × String) :
    Dictionary.lookup StrategyTypeRegistration.key key (runRegister calls) =
      calls.find? fun registration => decide (registration.key = key) := by
  -- generalised over what is registered before the calls
  have hfrom : ∀ registrations : Registrations Config,
      Dictionary.lookup StrategyTypeRegistration.key key
          (calls.foldl (fun registrations registration =>
            match register registrations registration with
            | .ok registrations' => registrations'
            | .error _ => registrations) registrations) =
        (Dictionary.lookup StrategyTypeRegistration.key key registrations).or
          (calls.find? fun registration => decide (registration.key = key)) := by
    induction calls with
    | nil => intro registrations; exact Option.or_none.symm
    | cons registration calls ih =>
        intro registrations
        rw [List.foldl_cons, ih, lookup_register, Option.or_assoc, List.find?_cons]
        by_cases hkey : registration.key = key
        · rw [if_pos hkey, decide_eq_true hkey, Option.some_or]
        · rw [if_neg hkey, decide_eq_false hkey, Option.none_or]
  exact hfrom []

theorem get_eq_ok {registrations : Registrations Config} {strategyType strategyVersion : String}
    {registration : StrategyTypeRegistration Config} :
    get registrations strategyType strategyVersion = .ok registration ↔
      Dictionary.lookup StrategyTypeRegistration.key (strategyType, strategyVersion) registrations =
        some registration := by
  constructor
  · intro hget
    obtain ⟨key, hkey, hfound⟩ := bind_eq_ok.mp hget
    obtain ⟨-, -, rfl⟩ := registrationKey_eq_ok.mp hkey
    cases hlookup : Dictionary.lookup StrategyTypeRegistration.key (strategyType, strategyVersion) registrations with
    | some found => rw [hlookup] at hfound; exact congrArg some (pure_eq_ok.mp hfound)
    | none => rw [hlookup] at hfound; cases hfound
  · intro hlookup
    -- the arguments are the texts of a registration, so they pass the check of the key
    have hkey := registrationKey_of_registration registration
    have hself : registration.key = (strategyType, strategyVersion) := Dictionary.key_of_lookup hlookup
    obtain ⟨htype, hversion⟩ := Prod.mk.inj hself
    rw [htype, hversion, hself] at hkey
    rw [get, hkey, ok_bind, hlookup]
    rfl

/-! ## The configuration -/

theorem validateConfiguration_eq_ok {registration : StrategyTypeRegistration Config}
    {record : StrategyConfigurationRecord} {configuration : Config} :
    validateConfiguration registration record = .ok configuration ↔
      record.configurationVersion = registration.definition.configurationSchemaVersion ∧
        registration.modelValidate (thawCanonicalMapping record.configuration) = .ok configuration := by
  rw [validateConfiguration, bind_eq_ok]
  have hversion : ∀ u, validateConfigurationVersion registration record = .ok u ↔
      record.configurationVersion = registration.definition.configurationSchemaVersion := by
    intro u
    rw [validateConfigurationVersion]
    split_ifs with h
    · simp [h]
    · simp [h, bind_eq_ok]
  simp only [hversion, exists_const]
  refine and_congr_right fun _ => ?_
  cases registration.modelValidate (thawCanonicalMapping record.configuration) <;> simp

theorem createInstance_eq_ok {registration : StrategyTypeRegistration Config} {record : StrategyConfigurationRecord}
    {configuration : Config} {created : Created} :
    createInstance registration record configuration = .ok created ↔
      registration.create record.strategyId configuration = some created := by
  rw [createInstance]
  cases registration.create record.strategyId configuration <;> simp

/-! ## The instance -/

/-- The attributes of the instance are those of the registration and of the record. -/
structure Matches (registration : StrategyTypeRegistration Config) (record : StrategyConfigurationRecord)
    (strategy : Instance) : Prop where
  strategyId : strategy.strategyId = .text record.strategyId.val
  strategyType : strategy.strategyType = .typed registration.definition.strategyType
  strategyVersion : strategy.strategyVersion = .typed registration.definition.version
  schemaVersion : strategy.configurationSchemaVersion = .typed registration.definition.configurationSchemaVersion
  subscriptions : strategy.subscribedEventTypes = some registration.definition.subscribedEventTypes

theorem idMismatch_eq_nil {expected : StrategyId} {actual : IdAttribute} :
    idMismatch expected actual = [] ↔ actual = .text expected.val := by
  cases actual <;> simp [idMismatch]

theorem textMismatch_eq_nil {name expected : String} {actual : Attribute String} :
    textMismatch name expected actual = [] ↔ actual = .typed expected := by
  cases actual <;> simp [textMismatch]

theorem versionMismatch_eq_nil {expected : ℤ} {actual : Attribute ℤ} :
    versionMismatch expected actual = .ok [] ↔ actual = .typed expected := by
  cases actual with
  | typed value =>
      rw [versionMismatch]
      split_ifs with h
      · simp [h]
      · cases intText value <;> simp [h]
  | other typeName => simp [versionMismatch]

theorem subscriptionMismatch_eq_nil {expected : List String} {actual : Option (List String)} :
    subscriptionMismatch expected actual = [] ↔ actual = some expected := by
  cases actual <;> simp [subscriptionMismatch]

theorem mismatches_eq_nil {registration : StrategyTypeRegistration Config} {record : StrategyConfigurationRecord}
    {strategy : Instance} :
    mismatches registration record strategy = .ok [] ↔ Matches registration record strategy := by
  constructor
  · intro h
    obtain ⟨version, hversion, hfound⟩ := bind_eq_ok.mp h
    simp only [pure_eq_ok, List.append_eq_nil_iff] at hfound
    obtain ⟨⟨⟨⟨hid, htype⟩, hstrategyVersion⟩, rfl⟩, hsubscriptions⟩ := hfound
    exact ⟨idMismatch_eq_nil.mp hid, textMismatch_eq_nil.mp htype, textMismatch_eq_nil.mp hstrategyVersion,
      versionMismatch_eq_nil.mp hversion, subscriptionMismatch_eq_nil.mp hsubscriptions⟩
  · intro h
    refine bind_eq_ok.mpr ⟨[], versionMismatch_eq_nil.mpr h.schemaVersion, ?_⟩
    rw [idMismatch_eq_nil.mpr h.strategyId, textMismatch_eq_nil.mpr h.strategyType,
      textMismatch_eq_nil.mpr h.strategyVersion, subscriptionMismatch_eq_nil.mpr h.subscriptions]
    rfl

theorem validateCreatedStrategy_eq_ok {registration : StrategyTypeRegistration Config}
    {record : StrategyConfigurationRecord} {created : Created} {strategy : Instance} :
    validateCreatedStrategy registration record created = .ok strategy ↔
      created = .strategy strategy ∧ Matches registration record strategy := by
  cases created with
  | other => simp [validateCreatedStrategy]
  | strategy actual =>
      rw [validateCreatedStrategy, bind_eq_ok]
      simp only [raising_eq_ok, Created.strategy.injEq]
      constructor
      · rintro ⟨found, hfound, hok⟩
        split_ifs at hok with hnone
        · rw [pure_eq_ok] at hok
          subst hok hnone
          exact ⟨rfl, mismatches_eq_nil.mp hfound⟩
      · rintro ⟨rfl, hmatches⟩
        exact ⟨[], mismatches_eq_nil.mpr hmatches, rfl⟩

/-! ## Strategies that are returned -/

/-- Over any calls of `register`, a strategy is returned exactly by the first registration of its type and version, for
    a configuration of the registered version that the registered model accepts, and with the registered attributes. -/
theorem createStrategy_of_registered (calls : List (StrategyTypeRegistration Config))
    (strategyType strategyVersion : String) (record : StrategyConfigurationRecord) (strategy : Instance) :
    createStrategy (runRegister calls) strategyType strategyVersion record = .ok strategy ↔
      ∃ registration configuration,
        (calls.find? fun registration => decide (registration.key = (strategyType, strategyVersion))) =
            some registration ∧
          record.configurationVersion = registration.definition.configurationSchemaVersion ∧
          registration.modelValidate (thawCanonicalMapping record.configuration) = .ok configuration ∧
          registration.create record.strategyId configuration = some (.strategy strategy) ∧
          Matches registration record strategy := by
  simp only [createStrategy, bind_eq_ok, raising_eq_ok, get_eq_ok, lookup_runRegister, validateConfiguration_eq_ok,
    createInstance_eq_ok, validateCreatedStrategy_eq_ok]
  constructor
  · rintro ⟨registration, hfind, configuration, ⟨hversion, hmodel⟩, created, hcreate, rfl, hmatches⟩
    exact ⟨registration, configuration, hfind, hversion, hmodel, hcreate, hmatches⟩
  · rintro ⟨registration, configuration, hfind, hversion, hmodel, hcreate, hmatches⟩
    exact ⟨registration, hfind, configuration, ⟨hversion, hmodel⟩, _, hcreate, rfl, hmatches⟩

/-! ## Instances that are refused -/

def ReportableId (expected : StrategyId) : IdAttribute → Prop
  | .text value => value = expected.val ∨ IsStrippedText value
  | .other shown => IsStrippedText shown

def ReportableText (expected : String) : Attribute String → Prop
  | .typed value => value = expected ∨ IsStrippedText value
  | .other typeName => IsStrippedText typeName

def ReportableVersion (expected : ℤ) : Attribute ℤ → Prop
  | .typed value => value = expected ∨ (Nat.toDigits 10 value.natAbs).length ≤ Json.digitLimit
  | .other typeName => IsStrippedText typeName

def ReportableSubscriptions (expected : List String) : Option (List String) → Prop
  | some eventTypes => eventTypes = expected ∨ IsStrippedText (",".intercalate eventTypes)
  | none => True

/-- Each attribute is the registered one, or has a text that the constructor of the error accepts. -/
structure Reportable (registration : StrategyTypeRegistration Config) (record : StrategyConfigurationRecord)
    (strategy : Instance) : Prop where
  strategyId : ReportableId record.strategyId strategy.strategyId
  strategyType : ReportableText registration.definition.strategyType strategy.strategyType
  strategyVersion : ReportableText registration.definition.version strategy.strategyVersion
  schemaVersion :
    ReportableVersion registration.definition.configurationSchemaVersion strategy.configurationSchemaVersion
  subscriptions :
    ReportableSubscriptions registration.definition.subscribedEventTypes strategy.subscribedEventTypes

theorem forall_idMismatch {expected : StrategyId} {actual : IdAttribute} :
    (∀ item ∈ idMismatch expected actual, IsStrippedText item.2) ↔ ReportableId expected actual := by
  cases actual with
  | text value => by_cases h : value = expected.val <;> simp [idMismatch, ReportableId, h]
  | other shown => simp [idMismatch, ReportableId]

theorem forall_textMismatch {name expected : String} {actual : Attribute String} :
    (∀ item ∈ textMismatch name expected actual, IsStrippedText item.2) ↔ ReportableText expected actual := by
  cases actual with
  | typed value => by_cases h : value = expected <;> simp [textMismatch, ReportableText, h]
  | other typeName => simp [textMismatch, ReportableText]

theorem forall_subscriptionMismatch {expected : List String} {actual : Option (List String)} :
    (∀ item ∈ subscriptionMismatch expected actual, IsStrippedText item.2) ↔
      ReportableSubscriptions expected actual := by
  cases actual with
  | some eventTypes => by_cases h : eventTypes = expected <;> simp [subscriptionMismatch, ReportableSubscriptions, h]
  | none =>
      have hinvalid : IsStrippedText "invalid" := by decide
      simp [subscriptionMismatch, ReportableSubscriptions, hinvalid]

theorem exists_versionMismatch {expected : ℤ} {actual : Attribute ℤ} :
    (∃ found, versionMismatch expected actual = .ok found ∧ ∀ item ∈ found, IsStrippedText item.2) ↔
      ReportableVersion expected actual := by
  cases actual with
  | other typeName => simp [versionMismatch, ReportableVersion]
  | typed value =>
      by_cases h : value = expected
      · simp [versionMismatch, ReportableVersion, h]
      · -- the text of an integer is accepted, so only the number of its digits counts
        have hrequired : IsStrippedText value.repr := required_toString_int value
        by_cases hdigits : (Nat.toDigits 10 value.natAbs).length ≤ Json.digitLimit
        · simp [versionMismatch, ReportableVersion, h, intText, hdigits, hrequired]
        · simp [versionMismatch, ReportableVersion, h, intText, hdigits]

theorem required_identity {registration : StrategyTypeRegistration Config} {record : StrategyConfigurationRecord} :
    ∀ item ∈ identity registration record, IsStrippedText item.2 := by
  intro item hitem
  simp only [identity, List.mem_cons, List.not_mem_nil, or_false] at hitem
  rcases hitem with rfl | rfl | rfl
  · exact registration.definition.strategyType_required
  · exact registration.definition.version_required
  · exact record.strategyId.required

/-- The mismatches are found, and the constructor accepts all their texts. -/
theorem exists_mismatches {registration : StrategyTypeRegistration Config} {record : StrategyConfigurationRecord}
    {strategy : Instance} :
    (∃ found, mismatches registration record strategy = .ok found ∧ ∀ item ∈ found, IsStrippedText item.2) ↔
      Reportable registration record strategy := by
  constructor
  · rintro ⟨found, hfound, hrequired⟩
    obtain ⟨version, hversion, hlist⟩ := bind_eq_ok.mp hfound
    rw [pure_eq_ok] at hlist
    subst hlist
    simp only [List.forall_mem_append] at hrequired
    obtain ⟨⟨⟨⟨hid, htype⟩, hstrategyVersion⟩, hschema⟩, hsubscriptions⟩ := hrequired
    exact ⟨forall_idMismatch.mp hid, forall_textMismatch.mp htype, forall_textMismatch.mp hstrategyVersion,
      exists_versionMismatch.mp ⟨version, hversion, hschema⟩, forall_subscriptionMismatch.mp hsubscriptions⟩
  · intro h
    obtain ⟨version, hversion, hschema⟩ := exists_versionMismatch.mpr h.schemaVersion
    refine ⟨_, bind_eq_ok.mpr ⟨version, hversion, pure_eq_ok.mpr rfl⟩, ?_⟩
    simp only [List.forall_mem_append]
    exact ⟨⟨⟨⟨forall_idMismatch.mpr h.strategyId, forall_textMismatch.mpr h.strategyType⟩,
      forall_textMismatch.mpr h.strategyVersion⟩, hschema⟩, forall_subscriptionMismatch.mpr h.subscriptions⟩

/-- The empty tuple of subscriptions has no text to report. -/
theorem not_reportable_of_no_subscriptions {registration : StrategyTypeRegistration Config}
    {record : StrategyConfigurationRecord} {strategy : Instance} (h : strategy.subscribedEventTypes = some []) :
    ¬Reportable registration record strategy := by
  intro hreportable
  have hsubscriptions := hreportable.subscriptions
  rw [h] at hsubscriptions
  rcases hsubscriptions with hexpected | hrequired
  · exact registration.definition.subscribed hexpected.symm
  · exact hrequired.1 rfl

def mismatchMessage : String := "Strategy factory returned an instance that does not match its registration"
def mismatchCode : String := "strategy_registry_strategy_mismatch"

theorem intText_error {value : ℤ} {e : PyError} (h : intText value = .error e) : ∃ message, e = valueError message := by
  unfold intText at h
  split_ifs at h
  · cases h
  · exact ⟨_, (Except.error.inj h).symm⟩

/-- Every error of `mismatches` is the `ValueError` of a number with too many digits. -/
theorem mismatches_error {registration : StrategyTypeRegistration Config} {record : StrategyConfigurationRecord}
    {strategy : Instance} {e : PyError} (h : mismatches registration record strategy = .error e) :
    ∃ message, e = valueError message := by
  cases hversion : versionMismatch registration.definition.configurationSchemaVersion
      strategy.configurationSchemaVersion with
  | ok version => rw [mismatches, hversion] at h; cases h
  | error e' =>
      rw [mismatches, hversion, error_bind, Except.error.injEq] at h
      subst h
      cases hactual : strategy.configurationSchemaVersion with
      | other typeName => rw [hactual] at hversion; cases hversion
      | typed value =>
          rw [hactual, versionMismatch] at hversion
          split_ifs at hversion with hsame
          · cases hversion
          cases htext : intText value with
          | ok text => rw [htext] at hversion; cases hversion
          | error e'' =>
              rw [htext] at hversion
              cases hversion
              exact intText_error htext

theorem validateCreatedStrategy_refusal {registration : StrategyTypeRegistration Config}
    {record : StrategyConfigurationRecord} {strategy : Instance} (hmatches : ¬Matches registration record strategy) :
    (Reportable registration record strategy →
        ∃ context, validateCreatedStrategy registration record (.strategy strategy) =
          .error (.strategyError mismatchMessage mismatchCode context)) ∧
      (¬Reportable registration record strategy →
        ∃ message, validateCreatedStrategy registration record (.strategy strategy) =
          .error (.raised (valueError message))) := by
  cases hfound : mismatches registration record strategy with
  | error e =>
      obtain ⟨message, rfl⟩ := mismatches_error hfound
      constructor
      · intro h
        obtain ⟨found, hok, -⟩ := exists_mismatches.mpr h
        rw [hfound] at hok
        cases hok
      · exact fun _ => ⟨message, by rw [validateCreatedStrategy, hfound]; rfl⟩
  | ok found =>
      have hsome : found ≠ [] := fun hnil => hmatches (mismatches_eq_nil.mp (hnil ▸ hfound))
      have hresult : validateCreatedStrategy registration record (.strategy strategy) =
          .error (construct mismatchMessage mismatchCode (found ++ identity registration record)) := by
        rw [validateCreatedStrategy, hfound]
        change (if found = [] then _ else _) = _
        rw [if_neg hsome]
        rfl
      rw [hresult]
      constructor
      · intro h
        obtain ⟨found', hok, hrequired⟩ := exists_mismatches.mpr h
        rw [hfound, Except.ok.injEq] at hok
        subst hok
        exact ⟨_, congrArg _ (construct_of_required (List.forall_mem_append.mpr ⟨hrequired, required_identity⟩))⟩
      · intro h
        have hbad : ∃ item ∈ found, ¬IsStrippedText item.2 := by
          by_contra hall
          push Not at hall
          exact h (exists_mismatches.mp ⟨found, hfound, hall⟩)
        obtain ⟨item, hitem, hnot⟩ := hbad
        obtain ⟨key, hkey⟩ := @construct_of_not_required mismatchMessage mismatchCode _ _
          (List.mem_append_left (identity registration record) hitem) hnot
        exact ⟨_, congrArg _ hkey⟩

/-- A `StrategyRegistryError` refuses an instance with other attributes than the registered ones exactly when every
    differing attribute has a nonempty text without surrounding whitespace to report. A plain `ValueError` refuses the
    others, among them every instance without subscriptions. -/
theorem createStrategy_refusal {registrations : Registrations Config} {strategyType strategyVersion : String}
    {record : StrategyConfigurationRecord} {registration : StrategyTypeRegistration Config} {configuration : Config}
    {strategy : Instance} (hget : get registrations strategyType strategyVersion = .ok registration)
    (hconfiguration : validateConfiguration registration record = .ok configuration)
    (hcreate : registration.create record.strategyId configuration = some (.strategy strategy))
    (hmatches : ¬Matches registration record strategy) :
    ((∃ context, createStrategy registrations strategyType strategyVersion record =
          .error (.strategyError mismatchMessage mismatchCode context)) ↔
        Reportable registration record strategy) ∧
      (¬Reportable registration record strategy →
        ∃ message, createStrategy registrations strategyType strategyVersion record =
          .error (.raised (valueError message))) ∧
      (strategy.subscribedEventTypes = some [] →
        ∃ message, createStrategy registrations strategyType strategyVersion record =
          .error (.raised (valueError message))) := by
  have hrun : createStrategy registrations strategyType strategyVersion record =
      validateCreatedStrategy registration record (.strategy strategy) := by
    rw [createStrategy, raising_eq_ok.mpr hget, ok_bind, hconfiguration, ok_bind, createInstance_eq_ok.mpr hcreate,
      ok_bind]
  obtain ⟨hreported, hplain⟩ := validateCreatedStrategy_refusal hmatches
  rw [hrun]
  refine ⟨⟨fun herror => ?_, hreported⟩, hplain, fun hnone => hplain (not_reportable_of_no_subscriptions hnone)⟩
  by_contra hnot
  obtain ⟨context, hcontext⟩ := herror
  obtain ⟨message, hmessage⟩ := hplain hnot
  rw [hcontext] at hmessage
  cases hmessage

/-! ### A strategy without subscriptions -/

theorem required_quiet : IsStrippedText "quiet" ∧ IsStrippedText "v1" := by decide
theorem identifier_quiet : IsIdentifier "strat_" "strat_quiet" := by decide
theorem subscribed_quiet : ["market.order_book_snapshot"] ≠ [] := List.cons_ne_nil _ _

def quietInstance : Instance where
  strategyId := .text "strat_quiet"
  strategyType := .typed "quiet"
  strategyVersion := .typed "v1"
  configurationSchemaVersion := .typed 1
  subscribedEventTypes := some []

def quietRegistration : StrategyTypeRegistration Unit where
  definition := ⟨"quiet", "v1", 1, ["market.order_book_snapshot"], required_quiet.1, required_quiet.2, subscribed_quiet⟩
  modelValidate _ := .ok ⟨⟩
  create _ _ := some (.strategy quietInstance)

def quietRecord : StrategyConfigurationRecord := ⟨⟨"strat_quiet", identifier_quiet⟩, 1, []⟩

theorem createStrategy_refusal_quiet :
    ∃ message, createStrategy (runRegister [quietRegistration]) "quiet" "v1" quietRecord =
      .error (.raised (valueError message)) := by
  have hget : get (runRegister [quietRegistration]) "quiet" "v1" = .ok quietRegistration := by
    rw [get_eq_ok, lookup_runRegister]
    rfl
  have hconfiguration : validateConfiguration quietRegistration quietRecord = .ok ⟨⟩ :=
    validateConfiguration_eq_ok.mpr ⟨rfl, rfl⟩
  have hmatches : ¬Matches quietRegistration quietRecord quietInstance := fun h => by
    have hsubscriptions := h.subscriptions
    cases hsubscriptions
  exact (createStrategy_refusal hget hconfiguration rfl hmatches).2.2 rfl

end StrategyRegistry
end Pmrp
