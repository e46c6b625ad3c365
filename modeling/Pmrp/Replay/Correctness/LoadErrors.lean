import Pmrp.Replay.Loader

/-!
# `Replay.Correctness.LoadErrors` — what escapes the loading of a dataset

A parse is handled unless a timestamp has no UTC time, bytes that are no UTF-8 are not handled at all, and a replay
error is raised unless a text of its context has whitespace around it. `loadReplayDataset_replayOnly_iff` puts the
stages together.
-/

namespace Pmrp
namespace ReplayRecords

/-! ## Fields -/

variable {payload : JsonObject} {key : String} {α : Type}

theorem raisesValueError_required {field : JsonValue → Result α} (h : ∀ value, RaisesValueError (field value)) :
    RaisesValueError (required payload key field) := by
  unfold required
  split
  · exact raisesValueError_error _
  · exact h _

theorem raisesValueError_withDefault {default : α} {field : JsonValue → Result α}
    (h : ∀ value, RaisesValueError (field value)) : RaisesValueError (withDefault payload key default field) := by
  unfold withDefault
  split
  · exact raisesValueError_ok _
  · exact h _

theorem raisesValueError_optional {field : JsonValue → Result α} (h : ∀ value, RaisesValueError (field value)) :
    RaisesValueError (optional payload key field) := by
  refine raisesValueError_withDefault fun value => ?_
  cases value with
  | null => exact raisesValueError_ok _
  | _ => exact (h _).bind fun _ => raisesValueError_ok _

theorem raisesValueError_identifier (cls pre : String) (value : JsonValue) :
    RaisesValueError (identifier cls pre value) := by
  cases value with
  | string text =>
      show RaisesValueError (Identifier.parse cls pre text)
      unfold Identifier.parse
      split_ifs <;> first | exact raisesValueError_error _ | exact raisesValueError_ok _
  | _ => exact raisesValueError_error _

theorem raisesValueError_text (bound : ℕ) (key : String) (value : JsonValue) :
    RaisesValueError (text bound key value) := by
  cases value with
  | string value =>
      refine RaisesValueError.bind ?_ fun _ => raisesValueError_ok _
      exact (raisesValueError_raiseIf _).bind fun _ => raisesValueError_raiseIf _
  | _ => exact raisesValueError_error _

theorem raisesValueError_eventType (value : JsonValue) : RaisesValueError (eventType value) :=
  (raisesValueError_text _ _ _).bind fun _ => (raisesValueError_raiseIf _).bind fun _ => raisesValueError_ok _

theorem raisesValueError_causationRef (value : JsonValue) : RaisesValueError (causationRef value) := by
  cases value with
  | string value =>
      simp only [causationRef]
      split_ifs
      · exact raisesValueError_ok _
      · exact raisesValueError_ok _
      · exact raisesValueError_ok _
      · exact raisesValueError_error _
  | _ => exact raisesValueError_error _

theorem raisesValueError_qualityFlag (value : JsonValue) : RaisesValueError (qualityFlag value) := by
  cases value with
  | string value =>
      cases hflag : allFlags.find? fun flag => flag.value = value with
      | none =>
          simp only [qualityFlag, hflag]
          exact raisesValueError_error _
      | some flag =>
          simp only [qualityFlag, hflag]
          exact raisesValueError_ok _
  | _ => exact raisesValueError_error _

theorem raisesValueError_qualityFlags (value : JsonValue) : RaisesValueError (qualityFlags value) := by
  cases value with
  | array items => exact raisesValueError_mapM raisesValueError_qualityFlag items
  | _ => exact raisesValueError_error _

theorem raisesValueError_boolean (key : String) (value : JsonValue) : RaisesValueError (boolean key value) := by
  cases value with
  | bool value => exact raisesValueError_ok _
  | _ => exact raisesValueError_error _

theorem raisesValueError_nonnegativeInt (key : String) (value : JsonValue) :
    RaisesValueError (nonnegativeInt key value) := by
  cases value with
  | int value => exact (raisesValueError_raiseIf _).bind fun _ => raisesValueError_ok _
  | _ => exact raisesValueError_error _

theorem raisesValueError_stringItem (item : String × JsonValue) : RaisesValueError (stringItem item) := by
  unfold stringItem
  split
  · exact (raisesValueError_raiseIf _).bind fun _ => (raisesValueError_raiseIf _).bind fun _ => raisesValueError_ok _
  · exact raisesValueError_error _

theorem raisesValueError_versionMapping (value : JsonValue) : RaisesValueError (versionMapping value) := by
  cases value with
  | object items => exact raisesValueError_mapM raisesValueError_stringItem items
  | _ => exact raisesValueError_error _

theorem raisesValueError_noExtra (fieldNames : List String) : RaisesValueError (noExtra payload fieldNames) :=
  raisesValueError_raiseIf _

mutual
theorem handled_freezeValue (fieldName : String) : ∀ value, Handled (freezeValue fieldName value)
  | .null => handled_ok _
  | .bool _ => handled_ok _
  | .int _ => handled_ok _
  | .float _ => handled_typeError _
  | .string _ => handled_ok _
  | .array items => (handled_freezeValues fieldName items).bind fun _ _ => handled_ok _
  | .object items => (handled_freezeMapping fieldName items).bind fun _ _ => handled_ok _
theorem handled_freezeValues (fieldName : String) : ∀ values, Handled (freezeValues fieldName values)
  | [] => handled_ok _
  | value :: values => (handled_freezeValue fieldName value).bind fun _ _ =>
      (handled_freezeValues fieldName values).bind fun _ _ => handled_ok _
theorem handled_freezeMapping (fieldName : String) : ∀ items, Handled (freezeMapping fieldName items)
  | [] => handled_ok _
  | (_, value) :: items => (raisesValueError_raiseIf _).handled.bind fun _ _ =>
      (handled_freezeValue fieldName value).bind fun _ _ =>
        (handled_freezeMapping fieldName items).bind fun _ _ => handled_ok _
end

theorem handled_attributes (value : JsonValue) : Handled (attributes value) := by
  cases value with
  | object items => exact handled_freezeMapping _ items
  | _ => exact handled_valueError _

theorem handled_withDefault {default : α} {field : JsonValue → Result α} (h : ∀ value, Handled (field value)) :
    Handled (withDefault payload key default field) := by
  unfold withDefault
  split
  · exact handled_ok _
  · exact h _

theorem handled_collected_bind {β : Type} {field : Result β} {f : Option β → Result α} (hfield : Handled field)
    (hf : ∀ value, Handled (f value)) : Handled (collected field >>= f) :=
  (handled_collected_iff.mpr hfield).bind fun value _ => hf value

/-! ## Fields that end the validation -/

variable {fromisoformat : FromIsoFormat} {P : Prop}

/-- What the conversion of a timestamp field lets past the handler: nothing where there is none. -/
def FieldTimePasses (fromisoformat : FromIsoFormat) (rest : Prop) : Option JsonValue → Prop
  | none => rest
  | some value => TimePasses fromisoformat rest value

theorem handled_requiredTime_iff {f : Option UTCDateTime → Result α} (hf : ∀ value, Handled (f value) ↔ P) :
    Handled (collected (required payload key (utcDatetime fromisoformat)) >>= f) ↔
      FieldTimePasses fromisoformat P (payload.lookup key) := by
  unfold required
  cases payload.lookup key with
  | none => exact handled_field_iff (raisesValueError_error _) hf
  | some value => exact handled_time_iff hf

/-- A schema version that is no integer is a `TypeError`. -/
def VersionTyped : Option JsonValue → Prop
  | none => True
  | some (.int _) => True
  | some _ => False

theorem handled_schemaVersion_iff {f : Option ℤ → Result α} (hf : ∀ value, Handled (f value) ↔ P) :
    Handled (collected (required payload key schemaVersion) >>= f) ↔ (VersionTyped (payload.lookup key) → P) := by
  unfold required
  cases payload.lookup key with
  | none =>
      exact (handled_field_iff (raisesValueError_error _) hf).trans ⟨fun h _ => h, fun h => h trivial⟩
  | some value =>
      cases value with
      | int version =>
          refine (handled_field_iff ?_ hf).trans ⟨fun h _ => h, fun h => h trivial⟩
          exact (raisesValueError_raiseIf _).bind fun _ => raisesValueError_ok _
      | _ => exact iff_of_true (handled_typeError _) False.elim

/-- A speed that is neither an integer nor a string is a `TypeError`. -/
def DecimalTyped : Option JsonValue → Prop
  | none => True
  | some (.int _) => True
  | some (.string _) => True
  | some _ => False

theorem handled_positiveDecimal_iff {parsers : Parsers} {fieldName : String} {f : Option ℚ → Result α}
    (hf : ∀ value, Handled (f value) ↔ P) :
    Handled (collected (required payload key (positiveDecimal parsers fieldName)) >>= f) ↔
      (DecimalTyped (payload.lookup key) → P) := by
  unfold required
  cases payload.lookup key with
  | none =>
      exact (handled_field_iff (raisesValueError_error _) hf).trans ⟨fun h _ => h, fun h => h trivial⟩
  | some value =>
      cases value with
      | int value =>
          refine (handled_field_iff ?_ hf).trans ⟨fun h _ => h, fun h => h trivial⟩
          exact (raisesValueError_raiseIf _).bind fun _ => raisesValueError_ok _
      | string value =>
          refine (handled_field_iff ?_ hf).trans ⟨fun h _ => h, fun h => h trivial⟩
          refine (raisesValueError_raiseIf _).bind fun _ => ?_
          cases parsers.decimal value with
          | none => exact raisesValueError_error _
          | some decimal => exact (raisesValueError_raiseIf _).bind fun _ => raisesValueError_ok _
      | _ => exact iff_of_true (handled_typeError _) False.elim

/-! ## Events and manifests -/

/-- No timestamp of the event is without a UTC time, as far as the validation gets. -/
def EventTimesPass (fromisoformat : FromIsoFormat) (payload : JsonObject) : Prop :=
  VersionTyped (payload.lookup "schema_version") →
    FieldTimePasses fromisoformat
      (FieldTimePasses fromisoformat
        (FieldTimePasses fromisoformat True (payload.lookup "published_at")) (payload.lookup "received_at"))
      (payload.lookup "occurred_at")

/-- No timestamp of the manifest is without a UTC time, as far as the validation gets. -/
def ManifestTimesPass (fromisoformat : FromIsoFormat) (payload : JsonObject) : Prop :=
  FieldTimePasses fromisoformat
    (FieldTimePasses fromisoformat
      (DecimalTyped (payload.lookup "speed") → FieldTimePasses fromisoformat True (payload.lookup "created_at"))
      (payload.lookup "ends_at"))
    (payload.lookup "starts_at")

variable {parsers : Parsers}

theorem handled_eventRest (eventId : Option EventId) (type : Option String) (version : Option ℤ)
    (occurredAt receivedAt publishedAt : Option UTCDateTime) :
    Handled (eventRest payload eventId type version occurredAt receivedAt publishedAt) := by
  unfold eventRest
  refine handled_collected_bind (raisesValueError_required (raisesValueError_text _ _)).handled fun _ => ?_
  refine handled_collected_bind (raisesValueError_optional (raisesValueError_text _ _)).handled fun _ => ?_
  refine handled_collected_bind (raisesValueError_optional (raisesValueError_identifier _ _)).handled fun _ => ?_
  refine handled_collected_bind (raisesValueError_optional (raisesValueError_identifier _ _)).handled fun _ => ?_
  refine handled_collected_bind (raisesValueError_optional (raisesValueError_identifier _ _)).handled fun _ => ?_
  refine handled_collected_bind (raisesValueError_optional (raisesValueError_identifier _ _)).handled fun _ => ?_
  refine handled_collected_bind (raisesValueError_required (raisesValueError_identifier _ _)).handled fun _ => ?_
  refine handled_collected_bind (raisesValueError_optional raisesValueError_causationRef).handled fun _ => ?_
  refine handled_collected_bind (raisesValueError_optional (raisesValueError_text _ _)).handled fun _ => ?_
  refine handled_collected_bind (raisesValueError_optional (raisesValueError_identifier _ _)).handled fun _ => ?_
  refine handled_collected_bind (raisesValueError_optional (raisesValueError_identifier _ _)).handled fun _ => ?_
  refine handled_collected_bind (raisesValueError_withDefault raisesValueError_qualityFlags).handled fun _ => ?_
  refine handled_collected_bind (handled_withDefault handled_attributes) fun _ => ?_
  refine handled_collected_bind (raisesValueError_noExtra _).handled fun _ => ?_
  repeat refine handled_assemble fun _ => ?_
  exact handled_ok _

theorem handled_manifestRest (fields : ManifestFields) (createdAt : Option UTCDateTime) :
    Handled (manifestRest payload fields createdAt) := by
  unfold manifestRest
  refine handled_collected_bind (raisesValueError_required (raisesValueError_text _ _)).handled fun _ => ?_
  refine handled_collected_bind (raisesValueError_noExtra _).handled fun _ => ?_
  repeat refine handled_assemble fun _ => ?_
  split_ifs
  · exact handled_ok _
  · exact handled_valueError _

theorem handled_eventFromPayload_iff :
    Handled (eventFromPayload parsers payload) ↔ EventTimesPass parsers.fromisoformat payload := by
  unfold eventFromPayload
  refine handled_field_iff (raisesValueError_required (raisesValueError_identifier _ _)) fun _ => ?_
  refine handled_field_iff (raisesValueError_required raisesValueError_eventType) fun _ => ?_
  refine handled_schemaVersion_iff fun _ => ?_
  refine handled_requiredTime_iff fun _ => handled_requiredTime_iff fun _ => handled_requiredTime_iff fun _ => ?_
  exact iff_true_intro (handled_eventRest _ _ _ _ _ _)

theorem handled_manifestFromPayload_iff :
    Handled (manifestFromPayload parsers payload) ↔ ManifestTimesPass parsers.fromisoformat payload := by
  unfold manifestFromPayload
  refine handled_field_iff (raisesValueError_required (raisesValueError_identifier _ _)) fun _ => ?_
  refine handled_field_iff (raisesValueError_required (raisesValueError_text _ _)) fun _ => ?_
  refine handled_field_iff (raisesValueError_required (raisesValueError_text _ _)) fun _ => ?_
  refine handled_requiredTime_iff fun _ => handled_requiredTime_iff fun _ => ?_
  refine handled_positiveDecimal_iff fun _ => ?_
  refine handled_field_iff (raisesValueError_required (raisesValueError_boolean _)) fun _ => ?_
  refine handled_field_iff (raisesValueError_required (raisesValueError_nonnegativeInt _)) fun _ => ?_
  refine handled_field_iff (raisesValueError_required (raisesValueError_text _ _)) fun _ => ?_
  refine handled_field_iff (raisesValueError_required raisesValueError_versionMapping) fun _ => ?_
  refine handled_field_iff (raisesValueError_required raisesValueError_versionMapping) fun _ => ?_
  refine handled_field_iff (raisesValueError_required (raisesValueError_text _ _)) fun _ => ?_
  refine handled_field_iff (raisesValueError_required (raisesValueError_text _ _)) fun _ => ?_
  refine handled_field_iff (raisesValueError_required (raisesValueError_text _ _)) fun _ => ?_
  exact handled_requiredTime_iff fun _ => iff_true_intro (handled_manifestRest _ _)

theorem handled_modelValidateJson_iff {model : JsonObject → Result α} {passes : JsonObject → Prop} {text : String}
    (hmodel : ∀ payload, Handled (model payload) ↔ passes payload) :
    Handled (modelValidateJson parsers model text) ↔
      ∀ payload, parsers.fromJson text = some (.object payload) → passes payload := by
  unfold modelValidateJson
  cases hjson : parsers.fromJson text with
  | none => exact iff_of_true (handled_valueError _) (by rintro payload ⟨⟩)
  | some value =>
      cases value with
      | object payload =>
          refine (hmodel payload).trans ⟨?_, fun h => h payload rfl⟩
          rintro h payload' ⟨⟩
          exact h
      | _ => exact iff_of_true (handled_valueError _) (by rintro payload ⟨⟩)

/-! ## No model raises a replay error -/

/-- No exception of a call is a replay error. -/
def NotReplay (x : Result α) : Prop := ∀ e, x = .error e → e.isReplayError = false

theorem notReplay_of_handled {x : Result α} (h : Handled x) : NotReplay x := by
  intro e he
  have hhandled := h e he
  unfold PyError.isHandled at hhandled
  unfold PyError.isReplayError
  cases hkind : e.kind <;> rw [hkind] at hhandled <;> first | rfl | cases hhandled

theorem NotReplay.bind {β : Type} {x : Result β} {f : β → Result α} (hx : NotReplay x) (hf : ∀ b, NotReplay (f b)) :
    NotReplay (x >>= f) := by
  cases x with
  | ok b => exact hf b
  | error e =>
      rintro e' ⟨⟩
      exact hx e rfl

theorem NotReplay.collected {x : Result α} (h : NotReplay x) : NotReplay (collected x) := by
  cases x with
  | ok a => rintro e ⟨⟩
  | error e =>
      intro e' he
      simp only [Pmrp.collected] at he
      split_ifs at he
      cases he
      exact h e rfl

theorem notReplay_time (payload : JsonObject) (key : String) :
    NotReplay (Pmrp.collected (required payload key (utcDatetime fromisoformat))) := by
  refine NotReplay.collected ?_
  unfold required
  split
  · exact notReplay_of_handled (handled_valueError _)
  · rename_i value _
    cases value with
    | string text =>
        show NotReplay (parseUtcDatetime fromisoformat text)
        unfold parseUtcDatetime
        split
        · exact notReplay_of_handled (handled_valueError _)
        · unfold IsoDatetime.toUtc
          split
          · exact notReplay_of_handled (handled_valueError _)
          · unfold addTimedelta
            split_ifs
            · exact notReplay_of_handled (handled_ok _)
            · rintro e ⟨⟩
              rfl
    | _ => exact notReplay_of_handled (handled_typeError _)

theorem notReplay_field {field : Result α} (h : Handled field) : NotReplay (Pmrp.collected field) :=
  notReplay_of_handled (handled_collected_iff.mpr h)

theorem handled_schemaVersion (value : JsonValue) : Handled (schemaVersion value) := by
  cases value with
  | int version => exact ((raisesValueError_raiseIf _).bind fun _ => raisesValueError_ok _).handled
  | _ => exact handled_typeError _

theorem handled_positiveDecimal (fieldName : String) (value : JsonValue) :
    Handled (positiveDecimal parsers fieldName value) := by
  cases value with
  | int value => exact ((raisesValueError_raiseIf _).bind fun _ => raisesValueError_ok _).handled
  | string value =>
      refine ((raisesValueError_raiseIf _).bind fun _ => ?_).handled
      cases parsers.decimal value with
      | none => exact raisesValueError_error _
      | some decimal => exact (raisesValueError_raiseIf _).bind fun _ => raisesValueError_ok _
  | _ => exact handled_typeError _

theorem handled_required {field : JsonValue → Result α} (h : ∀ value, Handled (field value)) :
    Handled (required payload key field) := by
  unfold required
  split
  · exact handled_valueError _
  · exact h _

theorem notReplay_eventFromPayload : NotReplay (eventFromPayload parsers payload) := by
  unfold eventFromPayload
  refine (notReplay_field (raisesValueError_required (raisesValueError_identifier _ _)).handled).bind fun _ => ?_
  refine (notReplay_field (raisesValueError_required raisesValueError_eventType).handled).bind fun _ => ?_
  refine (notReplay_field (handled_required handled_schemaVersion)).bind fun _ => ?_
  refine (notReplay_time _ _).bind fun _ => (notReplay_time _ _).bind fun _ => (notReplay_time _ _).bind fun _ => ?_
  exact notReplay_of_handled (handled_eventRest _ _ _ _ _ _)

theorem notReplay_manifestFromPayload : NotReplay (manifestFromPayload parsers payload) := by
  unfold manifestFromPayload
  refine (notReplay_field (raisesValueError_required (raisesValueError_identifier _ _)).handled).bind fun _ => ?_
  refine (notReplay_field (raisesValueError_required (raisesValueError_text _ _)).handled).bind fun _ => ?_
  refine (notReplay_field (raisesValueError_required (raisesValueError_text _ _)).handled).bind fun _ => ?_
  refine (notReplay_time _ _).bind fun _ => (notReplay_time _ _).bind fun _ => ?_
  refine (notReplay_field (handled_required (handled_positiveDecimal _))).bind fun _ => ?_
  refine (notReplay_field (raisesValueError_required (raisesValueError_boolean _)).handled).bind fun _ => ?_
  refine (notReplay_field (raisesValueError_required (raisesValueError_nonnegativeInt _)).handled).bind fun _ => ?_
  refine (notReplay_field (raisesValueError_required (raisesValueError_text _ _)).handled).bind fun _ => ?_
  refine (notReplay_field (raisesValueError_required raisesValueError_versionMapping).handled).bind fun _ => ?_
  refine (notReplay_field (raisesValueError_required raisesValueError_versionMapping).handled).bind fun _ => ?_
  refine (notReplay_field (raisesValueError_required (raisesValueError_text _ _)).handled).bind fun _ => ?_
  refine (notReplay_field (raisesValueError_required (raisesValueError_text _ _)).handled).bind fun _ => ?_
  refine (notReplay_field (raisesValueError_required (raisesValueError_text _ _)).handled).bind fun _ => ?_
  refine (notReplay_time _ _).bind fun _ => ?_
  exact notReplay_of_handled (handled_manifestRest _ _)

theorem notReplay_modelValidateJson {model : JsonObject → Result α} (h : ∀ payload, NotReplay (model payload))
    (text : String) : NotReplay (modelValidateJson parsers model text) := by
  unfold modelValidateJson
  split
  · exact h _
  · exact notReplay_of_handled (handled_valueError _)
  · exact notReplay_of_handled (handled_valueError _)

end ReplayRecords
namespace ReplayLoader

open ReplayRecords

/-! ## Replay errors only -/

/-- The call returns or raises a replay error. -/
def ReplayOnly {α : Type} (x : Result α) : Prop := ∀ e, x = .error e → e.isReplayError = true

variable {runtime : Runtime} {α β : Type}

theorem replayOnly_ok (a : α) : ReplayOnly (.ok a : Result α) := by
  rintro e ⟨⟩

theorem replayOnly_bind_iff {x : Result α} {f : α → Result β} :
    ReplayOnly (x >>= f) ↔ ReplayOnly x ∧ ∀ a, x = .ok a → ReplayOnly (f a) := by
  cases x with
  | ok a =>
      refine ⟨fun h => ⟨replayOnly_ok a, ?_⟩, fun h => h.2 a rfl⟩
      rintro a' ⟨⟩
      exact h
  | error e =>
      constructor
      · intro h
        refine ⟨?_, by rintro a ⟨⟩⟩
        rintro _ ⟨⟩
        exact h e rfl
      · rintro ⟨h, -⟩ _ ⟨⟩
        exact h e rfl

/-- A replay error is raised when its constructor takes the context. -/
theorem replayOnly_raise_iff {kind : ErrorKind} {message : String} {context : List (String × String)}
    (hkind : (⟨kind, message⟩ : PyError).isReplayError = true) :
    ReplayOnly (raiseReplayError kind message context : Result α) ↔ ∀ item ∈ context, IsStrippedText item.2 := by
  unfold raiseReplayError
  cases hfind : context.find? fun item => ¬IsStrippedText item.2 with
  | none =>
      refine iff_of_true ?_ ?_
      · rintro e ⟨⟩
        exact hkind
      · intro item hitem
        have hnone := List.find?_eq_none.mp hfind item hitem
        rw [decide_eq_true_eq, not_not] at hnone
        exact hnone
  | some item =>
      refine iff_of_false ?_ ?_
      · intro h
        cases h _ rfl
      · intro h
        have hrefused := List.find?_some hfind
        simp only [decide_eq_true_eq] at hrefused
        exact hrefused (h item (List.mem_of_find?_eq_some hfind))

/-- A character between the blank and the first control character beyond ASCII. -/
def Visible (c : Char) : Prop := 32 < c.toNat ∧ c.toNat < 133

instance (c : Char) : Decidable (Visible c) := inferInstanceAs (Decidable (_ ∧ _))

theorem Visible.not_space {c : Char} (h : Visible c) : isSpace c = false := by
  have hrange : ∀ lo hi : Char, hi.toNat ≤ 32 ∨ 133 ≤ lo.toNat → inRange lo hi c = false := by
    intro lo hi hout
    unfold Visible at h
    exact decide_eq_false (by omega)
  have hne : ∀ d : Char, 133 ≤ d.toNat → (c == d) = false := by
    intro d hd
    rw [beq_eq_false_iff_ne]
    rintro rfl
    unfold Visible at h
    omega
  unfold isSpace
  rw [hrange _ _ (Or.inl (by decide)), hrange _ _ (Or.inl (by decide)), hrange _ _ (Or.inr (by decide)),
    hne _ (by decide), hne _ (by decide), hne _ (by decide), hne _ (by decide), hne _ (by decide), hne _ (by decide),
    hne _ (by decide), hne _ (by decide)]
  rfl

theorem isStrippedText_of_visible {text : String} (hne : text ≠ "") (h : ∀ c ∈ text.toList, Visible c) :
    IsStrippedText text := by
  refine ⟨hne, ?_⟩
  have hhead : text.toList.head?.any isSpace = false := by
    cases hhead : text.toList.head? with
    | none => rfl
    | some c => exact (h c (List.mem_of_head? hhead)).not_space
  have hlast : text.toList.getLast?.any isSpace = false := by
    cases hlast : text.toList.getLast? with
    | none => rfl
    | some c => exact (h c (List.mem_of_getLast? hlast)).not_space
  unfold isStripped
  rw [hhead, hlast]
  rfl

theorem isStrippedText_toString (n : ℕ) : IsStrippedText (toString n) := by
  refine isStrippedText_of_visible Nat.repr_ne_empty fun c hc => ?_
  have hdigits : (toString n).toList = Nat.toDigits 10 n := by
    show n.repr.toList = _
    rw [Nat.repr_eq_ofList_toDigits, String.toList_ofList]
  rw [hdigits] at hc
  have hdigit := Nat.isDigit_of_mem_toDigits (by decide) (by decide) hc
  simp only [Char.isDigit, Bool.and_eq_true, decide_eq_true_eq] at hdigit
  have hlow : 48 ≤ c.toNat := hdigit.1
  have hhigh : c.toNat ≤ 57 := hdigit.2
  exact ⟨by omega, by omega⟩

/-- The checksum of a dataset is quoted as it is. -/
theorem isStrippedText_checksum (events : List EventEnvelope) :
    IsStrippedText (calculateReplayDatasetChecksum runtime events) := by
  unfold calculateReplayDatasetChecksum
  generalize String.join (events.map fun event => runtime.canonicalJson event.canonical ++ "\n") = lines
  have hlist : ("sha256:" ++ runtime.sha256 lines).toList = "sha256:".toList ++ (runtime.sha256 lines).toList :=
    String.toList_append
  refine isStrippedText_of_visible ?_ fun c hc => ?_
  · intro hempty
    rw [hempty] at hlist
    exact absurd hlist (by simp)
  · rw [hlist, List.mem_append] at hc
    rcases hc with hname | hhex
    · have hvisible : ("sha256:".toList.all fun c => decide (Visible c)) = true := by decide
      exact of_decide_eq_true (List.all_eq_true.mp hvisible c hname)
    · have hdigit := List.all_eq_true.mp (runtime.hex_sha256 lines) c hhex
      rcases Bool.or_eq_true_iff.mp hdigit with h | h
      · have hrange : 48 ≤ c.toNat ∧ c.toNat ≤ 57 := of_decide_eq_true h
        exact ⟨by omega, by omega⟩
      · have hrange : 97 ≤ c.toNat ∧ c.toNat ≤ 102 := of_decide_eq_true h
        exact ⟨by omega, by omega⟩

theorem replayOnly_orNone_iff {x : Result α} {f : Option α → Result β} (hx : NotReplay x) :
    ReplayOnly (orNone x >>= f) ↔
      Handled x ∧ ((∀ a, x ≠ .ok a) → ReplayOnly (f none)) ∧ ∀ a, x = .ok a → ReplayOnly (f (some a)) := by
  cases x with
  | ok a =>
      constructor
      · intro h
        refine ⟨handled_ok a, fun hnone => absurd rfl (hnone a), ?_⟩
        rintro a' ⟨⟩
        exact h
      · exact fun h => h.2.2 a rfl
  | error e =>
      by_cases hhandled : e.isHandled = true
      · have hnone : orNone (.error e : Result α) = .ok none := if_pos hhandled
        rw [hnone, ok_bind]
        constructor
        · intro h
          refine ⟨?_, fun _ => h, by rintro a ⟨⟩⟩
          rintro e' ⟨⟩
          exact hhandled
        · exact fun h => h.2.1 (by rintro a ⟨⟩)
      · have hraised : orNone (.error e : Result α) = .error e := if_neg hhandled
        rw [hraised]
        refine iff_of_false (fun h => ?_) fun h => hhandled (h.1 e rfl)
        have hreplay := h e rfl
        rw [hx e rfl] at hreplay
        cases hreplay

/-! ## The manifest -/

/-- Nothing in the text of a manifest ends its validation. -/
def ManifestTextPasses (parsers : Parsers) (text : String) : Prop :=
  ∀ payload, parsers.fromJson text = some (.object payload) → ManifestTimesPass parsers.fromisoformat payload

/-- The manifest file passes: it can be read as a valid manifest with nothing to overflow, or its path can be quoted
    and it is not bytes that are no text. -/
def ManifestPasses (runtime : Runtime) (path : FilePath) : Prop :=
  if path.name ≠ "manifest.json" then IsStrippedText path.text
  else
    match runtime.readBytes path with
    | none => IsStrippedText path.text
    | some bytes => ∃ text, String.fromUTF8? bytes = some text ∧ ManifestTextPasses runtime.toParsers (textMode text) ∧
        ((∀ manifest, manifestFromJson runtime.toParsers (textMode text) ≠ .ok manifest) → IsStrippedText path.text)

theorem replayOnly_quoting_iff {kind : ErrorKind} {message key text : String}
    (hkind : (⟨kind, message⟩ : PyError).isReplayError = true) :
    ReplayOnly (raiseReplayError kind message [(key, text)] : Result α) ↔ IsStrippedText text := by
  rw [replayOnly_raise_iff hkind]
  simp

/-- A file that is read: bytes that are no text are not handled. -/
theorem replayOnly_read_iff {path : FilePath} {f : Option String → Result α} :
    ReplayOnly (tryReadText runtime path >>= f) ↔
      match runtime.readBytes path with
      | none => ReplayOnly (f none)
      | some bytes => ∃ text, String.fromUTF8? bytes = some text ∧ ReplayOnly (f (some (textMode text))) := by
  unfold tryReadText
  cases runtime.readBytes path with
  | none => rfl
  | some bytes =>
      dsimp only
      cases String.fromUTF8? bytes with
      | none =>
          refine iff_of_false (fun h => ?_) (by rintro ⟨text, ⟨⟩, -⟩)
          cases h _ rfl
      | some text =>
          constructor
          · exact fun h => ⟨text, rfl, h⟩
          · rintro ⟨text', ⟨⟩, h⟩
            exact h

theorem replayOnly_manifest_iff {path : FilePath} :
    ReplayOnly (loadReplayManifest runtime path) ↔ ManifestPasses runtime path := by
  unfold loadReplayManifest ManifestPasses
  split_ifs with hname
  · exact replayOnly_quoting_iff rfl
  · rw [replayOnly_read_iff]
    cases runtime.readBytes path with
    | none => exact replayOnly_quoting_iff rfl
    | some bytes =>
        refine exists_congr fun text => and_congr_right fun _ => ?_
        have hparse : Handled (manifestFromJson runtime.toParsers (textMode text)) ↔
            ManifestTextPasses runtime.toParsers (textMode text) :=
          handled_modelValidateJson_iff fun _ => handled_manifestFromPayload_iff
        refine (replayOnly_orNone_iff (notReplay_modelValidateJson (fun _ => notReplay_manifestFromPayload) _)).trans ?_
        refine and_congr hparse ?_
        refine (and_iff_left ?_).trans (imp_congr_right fun _ => replayOnly_quoting_iff rfl)
        exact fun manifest _ => replayOnly_ok manifest

/-! ## Event files -/

/-- Nothing in the text of an event ends its validation. -/
def EventTextPasses (parsers : Parsers) (text : String) : Prop :=
  ∀ payload, parsers.fromJson text = some (.object payload) → EventTimesPass parsers.fromisoformat payload

def IsEvent (parsers : Parsers) (text : String) : Prop := ∃ event, eventFromJson parsers text = .ok event

/-- The lines of a file pass, as far as they are parsed. -/
def LinesPass (runtime : Runtime) (path : FilePath) : List (List Char) → Prop
  | [] => True
  | line :: lines =>
      if isBlank line then LinesPass runtime path lines
      else EventTextPasses runtime.toParsers (String.ofList line) ∧
        (¬IsEvent runtime.toParsers (String.ofList line) → IsStrippedText path.text) ∧
        (IsEvent runtime.toParsers (String.ofList line) → LinesPass runtime path lines)

theorem replayOnly_lines_iff {path : FilePath} {lines : List (List Char)} {lineNumber : ℕ} :
    ReplayOnly (parseEventLines runtime path lineNumber lines) ↔ LinesPass runtime path lines := by
  induction lines generalizing lineNumber with
  | nil => exact iff_of_true (replayOnly_ok _) trivial
  | cons line lines ih =>
      unfold parseEventLines LinesPass
      split_ifs with hblank
      · exact ih
      · have hparse : Handled (eventFromJson runtime.toParsers (String.ofList line)) ↔
            EventTextPasses runtime.toParsers (String.ofList line) :=
          handled_modelValidateJson_iff fun _ => handled_eventFromPayload_iff
        refine (replayOnly_orNone_iff (notReplay_modelValidateJson (fun _ => notReplay_eventFromPayload) _)).trans ?_
        refine and_congr hparse (and_congr ?_ ?_)
        · refine imp_congr not_exists.symm ?_
          rw [replayOnly_raise_iff rfl]
          have hnumber : IsStrippedText (toString lineNumber) := isStrippedText_toString lineNumber
          constructor
          · exact fun h => h _ List.mem_cons_self
          · intro h item hitem
            rcases List.mem_cons.mp hitem with rfl | hitem
            · exact h
            · rw [List.mem_singleton.mp hitem]
              exact hnumber
        · have hrest : ∀ event,
            ReplayOnly (do pure (event :: (← parseEventLines runtime path (lineNumber + 1) lines))) ↔
              LinesPass runtime path lines := by
            intro event
            rw [replayOnly_bind_iff, ih]
            exact and_iff_left fun events _ => replayOnly_ok _
          constructor
          · rintro h ⟨event, hevent⟩
            exact (hrest event).mp (h event hevent)
          · exact fun h event hevent => (hrest event).mpr (h ⟨event, hevent⟩)

/-- The event file passes: its lines do, and where an error is about the file, its path can be quoted. -/
def FilePasses (runtime : Runtime) (path : FilePath) : Prop :=
  if path.suffix ≠ ".jsonl" then IsStrippedText path.text
  else
    match runtime.readBytes path with
    | none => IsStrippedText path.text
    | some bytes => ∃ text, String.fromUTF8? bytes = some text ∧
        LinesPass runtime path (splitlines (textMode text).toList) ∧
        ((∀ line ∈ splitlines (textMode text).toList, isBlank line = true) → IsStrippedText path.text)

/-- Lines that parse give an event each, but for the blank ones. -/
theorem isEmpty_of_parseEventLines {path : FilePath} {lines : List (List Char)} {lineNumber : ℕ}
    {events : List EventEnvelope} (h : parseEventLines runtime path lineNumber lines = .ok events) :
    events.isEmpty = true ↔ ∀ line ∈ lines, isBlank line = true := by
  induction lines generalizing lineNumber with
  | nil =>
      cases h
      exact iff_of_true rfl (by rintro line ⟨⟩)
  | cons line lines ih =>
      unfold parseEventLines at h
      split_ifs at h with hblank
      · rw [ih h, List.forall_mem_cons]
        exact (and_iff_right hblank).symm
      · obtain ⟨event?, -, h⟩ := bind_eq_ok.mp h
        have hcons : events.isEmpty = false := by
          cases event? with
          | none =>
              unfold raiseReplayError at h
              dsimp only at h
              split at h <;> cases h
          | some event =>
              obtain ⟨rest, -, hpure⟩ := bind_eq_ok.mp h
              rw [← pure_eq_ok.mp hpure]
              rfl
        rw [hcons]
        exact iff_of_false (by decide) fun hall => hblank (hall line List.mem_cons_self)

/-- Lines that are all blank parse, into nothing. -/
theorem parseEventLines_of_blank {path : FilePath} {lines : List (List Char)} {lineNumber : ℕ}
    (h : ∀ line ∈ lines, isBlank line = true) : parseEventLines runtime path lineNumber lines = .ok [] := by
  induction lines generalizing lineNumber with
  | nil => rfl
  | cons line lines ih =>
      unfold parseEventLines
      rw [if_pos (h line List.mem_cons_self)]
      exact ih fun line' hline' => h line' (List.mem_cons_of_mem line hline')

theorem replayOnly_file_iff {path : FilePath} :
    ReplayOnly (loadReplayEventsJsonl runtime path) ↔ FilePasses runtime path := by
  unfold loadReplayEventsJsonl FilePasses
  split_ifs with hsuffix
  · exact replayOnly_quoting_iff rfl
  · rw [replayOnly_read_iff]
    cases runtime.readBytes path with
    | none => exact replayOnly_quoting_iff rfl
    | some bytes =>
        refine exists_congr fun text => and_congr_right fun _ => ?_
        dsimp only
        rw [replayOnly_bind_iff, replayOnly_lines_iff]
        refine and_congr_right fun _ => ?_
        constructor
        · intro h hblank
          exact (replayOnly_quoting_iff rfl).mp (h [] (parseEventLines_of_blank hblank))
        · intro h events hevents
          by_cases hempty : events.isEmpty = true
          · rw [if_pos hempty]
            exact (replayOnly_quoting_iff rfl).mpr (h ((isEmpty_of_parseEventLines hevents).mp hempty))
          · rw [if_neg hempty]
            exact replayOnly_ok events

/-- The event files pass, as far as they are loaded. -/
def FilesPass (runtime : Runtime) : List FilePath → Prop
  | [] => True
  | path :: paths => FilePasses runtime path ∧
      ((∃ events, loadReplayEventsJsonl runtime path = .ok events) → FilesPass runtime paths)

theorem replayOnly_files_iff {paths : List FilePath} :
    ReplayOnly (loadReplayEventFiles runtime paths) ↔ FilesPass runtime paths := by
  induction paths with
  | nil => exact iff_of_true (replayOnly_ok _) trivial
  | cons path paths ih =>
      unfold loadReplayEventFiles FilesPass
      rw [replayOnly_bind_iff, replayOnly_file_iff]
      refine and_congr_right fun _ => ?_
      have hrest : ∀ events, ReplayOnly (do pure (events ++ (← loadReplayEventFiles runtime paths))) ↔
          FilesPass runtime paths := by
        intro events
        rw [replayOnly_bind_iff, ih]
        exact and_iff_left fun _ _ => replayOnly_ok _
      constructor
      · rintro h ⟨events, hevents⟩
        exact (hrest events).mp (h events hevents)
      · exact fun h events hevents => (hrest events).mpr (h ⟨events, hevents⟩)

/-- A file that loads has events. -/
theorem events_ne_nil {path : FilePath} {events : List EventEnvelope}
    (h : loadReplayEventsJsonl runtime path = .ok events) : events ≠ [] := by
  have hraise : ∀ {kind message context}, (raiseReplayError kind message context : Result (List EventEnvelope)) ≠
      .ok events := by
    intro kind message context
    unfold raiseReplayError
    split <;> rintro ⟨⟩
  unfold loadReplayEventsJsonl at h
  split_ifs at h with hsuffix
  · exact absurd h hraise
  · obtain ⟨text?, -, h⟩ := bind_eq_ok.mp h
    cases text? with
    | none => exact absurd h hraise
    | some text =>
        obtain ⟨parsed, -, h⟩ := bind_eq_ok.mp h
        split_ifs at h with hempty
        · exact absurd h hraise
        · rw [← pure_eq_ok.mp h]
          rintro rfl
          exact hempty rfl

theorem events_ne_nil_of_files {paths : List FilePath} {events : List EventEnvelope}
    (h : loadReplayEventFiles runtime paths = .ok events) (hne : paths ≠ []) : events ≠ [] := by
  cases paths with
  | nil => exact absurd rfl hne
  | cons path paths =>
      obtain ⟨first, hfirst, h⟩ := bind_eq_ok.mp h
      obtain ⟨rest, -, hpure⟩ := bind_eq_ok.mp h
      rw [← pure_eq_ok.mp hpure]
      exact List.append_ne_nil_of_left_ne_nil (events_ne_nil hfirst) rest

/-! ## The dataset -/

/-- The files pass, and where the dataset is refused, the texts of the manifest that the error quotes have no
    whitespace around them. -/
structure LoadPasses (runtime : Runtime) (manifestPath : FilePath) (eventPaths : List FilePath) : Prop where
  manifest : ManifestPasses runtime manifestPath
  files : (∃ manifest, loadReplayManifest runtime manifestPath = .ok manifest) → FilesPass runtime eventPaths
  quoted : ∀ manifest events, loadReplayManifest runtime manifestPath = .ok manifest →
    loadReplayEventFiles runtime eventPaths = .ok events →
    (calculateReplayDatasetChecksum runtime events ≠ manifest.datasetChecksum →
      IsStrippedText manifest.datasetId ∧ IsStrippedText manifest.datasetChecksum) ∧
    (calculateReplayDatasetChecksum runtime events = manifest.datasetChecksum →
      (∃ event ∈ events, ¬EventBelongs manifest event) → IsStrippedText manifest.datasetId)

theorem handled_buildDataset (manifest : ReplayManifest) (events : List EventEnvelope) (checksum : String) :
    Handled (buildDataset manifest events checksum) := by
  unfold buildDataset
  split_ifs
  · exact handled_valueError _
  · exact handled_valueError _
  · exact handled_ok _
  · exact handled_valueError _

/-- The events make a dataset of the manifest exactly when they belong to it. -/
theorem buildDataset_ne_ok {manifest : ReplayManifest} {events : List EventEnvelope} {checksum : String}
    (hne : events ≠ []) (hchecksum : checksum = manifest.datasetChecksum) :
    (∀ dataset, buildDataset manifest events checksum ≠ .ok dataset) ↔
      ∃ event ∈ events, ¬EventBelongs manifest event := by
  unfold buildDataset
  rw [dif_neg hne, dif_neg (not_not_intro hchecksum)]
  split_ifs with hevents
  · refine iff_of_false (fun h => h _ rfl) ?_
    rintro ⟨event, hevent, hnot⟩
    exact hnot (hevents event hevent)
  · refine iff_of_true (by rintro dataset ⟨⟩) ?_
    simpa using hevents

theorem replayOnly_check_iff {manifest : ReplayManifest} {events : List EventEnvelope} (hne : events ≠ []) :
    ReplayOnly (checkDataset runtime manifest events) ↔
      (calculateReplayDatasetChecksum runtime events ≠ manifest.datasetChecksum →
        IsStrippedText manifest.datasetId ∧ IsStrippedText manifest.datasetChecksum) ∧
      (calculateReplayDatasetChecksum runtime events = manifest.datasetChecksum →
        (∃ event ∈ events, ¬EventBelongs manifest event) → IsStrippedText manifest.datasetId) := by
  unfold checkDataset
  dsimp only
  split_ifs with hchecksum
  · rw [replayOnly_raise_iff rfl]
    have hactual := @isStrippedText_checksum runtime events
    simp only [List.forall_mem_cons, List.not_mem_nil, false_implies, implies_true, and_true, hactual]
    exact ⟨fun h => ⟨fun _ => h, fun heq => absurd heq hchecksum⟩, fun h => h.1 hchecksum⟩
  · have heq := not_not.mp hchecksum
    refine (replayOnly_orNone_iff (notReplay_of_handled (handled_buildDataset _ _ _))).trans ?_
    rw [buildDataset_ne_ok hne heq]
    constructor
    · rintro ⟨-, h, -⟩
      exact ⟨fun hdiffers => absurd heq hdiffers, fun _ hbad => (replayOnly_quoting_iff rfl).mp (h hbad)⟩
    · rintro ⟨-, h⟩
      exact ⟨handled_buildDataset _ _ _, fun hbad => (replayOnly_quoting_iff rfl).mpr (h heq hbad),
        fun dataset _ => replayOnly_ok dataset⟩

/-- **Loading raises replay errors only** when the manifest and the event files pass, and otherwise another exception
    escapes. -/
theorem loadReplayDataset_replayOnly_iff (runtime : Runtime) (manifestPath : FilePath) (eventPaths : List FilePath) :
    ReplayOnly (loadReplayDataset runtime manifestPath eventPaths) ↔
      eventPaths = [] ∨ LoadPasses runtime manifestPath eventPaths := by
  unfold loadReplayDataset
  split_ifs with hpaths
  · refine iff_of_true ((replayOnly_raise_iff rfl).mpr ?_) (Or.inl hpaths)
    rintro item ⟨⟩
  · rw [replayOnly_bind_iff, replayOnly_manifest_iff, or_iff_right hpaths]
    constructor
    · rintro ⟨hmanifest, h⟩
      refine ⟨hmanifest, ?_, ?_⟩
      · rintro ⟨manifest, hok⟩
        exact replayOnly_files_iff.mp (replayOnly_bind_iff.mp (h manifest hok)).1
      · intro manifest events hok hevents
        exact (replayOnly_check_iff (events_ne_nil_of_files hevents hpaths)).mp
          ((replayOnly_bind_iff.mp (h manifest hok)).2 events hevents)
    · intro h
      refine ⟨h.manifest, fun manifest hok => replayOnly_bind_iff.mpr ⟨?_, ?_⟩⟩
      · exact replayOnly_files_iff.mpr (h.files ⟨manifest, hok⟩)
      · intro events hevents
        exact (replayOnly_check_iff (events_ne_nil_of_files hevents hpaths)).mpr (h.quoted manifest events hok hevents)

/-! ## A manifest that is no text -/

/-- Every file is the one byte 255. -/
def byteRuntime : Runtime where
  fromJson _ := none
  fromisoformat _ := none
  decimal _ := none
  readBytes _ := some ⟨#[255]⟩
  canonicalJson _ := "canonical"
  sha256 _ := "e3b0c44298fc1c149afbf4c8996fb92427ae41e4649b934ca495991b7852b855"
  length_sha256 _ := by decide
  hex_sha256 _ := by decide

theorem byteManifest_escapes :
    loadReplayDataset byteRuntime ⟨"replay/manifest.json", "manifest.json"⟩ [⟨"replay/events.jsonl", "events.jsonl"⟩] =
      .error ⟨.unicodeDecodeError, "'utf-8' codec can't decode bytes"⟩ := by
  have hdecode : String.fromUTF8? ⟨#[255]⟩ = none := by decide +kernel
  have hread : tryReadText byteRuntime ⟨"replay/manifest.json", "manifest.json"⟩ =
      .error ⟨.unicodeDecodeError, "'utf-8' codec can't decode bytes"⟩ := by
    simp only [tryReadText, byteRuntime, hdecode]
  unfold loadReplayDataset loadReplayManifest
  rw [if_neg (by simp), if_neg (by simp), hread]
  rfl

end ReplayLoader
end Pmrp
