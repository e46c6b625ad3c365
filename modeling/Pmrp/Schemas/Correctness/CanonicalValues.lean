import Pmrp.Schemas.Freezing

/-!
# `Schemas.Correctness.CanonicalValues` — freezing keeps the canonical JSON, and reading it gives the value back

What is frozen is frozen, and a value has one `canonical_json` before and after freezing and thawing and in any order of
insertion. `json.loads` of it gives `to_canonical_data` back exactly when no text of the data has a high surrogate right
before a low one.

## Contents
- **Freezing.** `freeze_idempotent`, `toCanonicalData_frozen`, `toCanonicalData_thaw`.
- **The order of insertion.** `toCanonicalData_reordered`, `canonicalJson_reordered`.
- **Reading back.** `wellFormed_toCanonicalData`, `decode_canonicalJson`, `readsBack_iff`.
-/

namespace Pmrp
namespace Freezing

variable {isoformat : UTCDateTime → String} {fieldName : String}

/-! ## Freezing -/

theorem validateMappingKey_eq_ok {key : Key} {u : Unit} :
    validateMappingKey fieldName key = .ok u ↔ ∃ text, key = .str text ∧ isPadded text = false := by
  cases key with
  | str text => simp only [validateMappingKey, raiseIf_eq_ok, Bool.not_eq_true, Key.str.injEq, exists_eq_left']
  | _ => simp only [validateMappingKey, reduceCtorEq, false_and, exists_false]

theorem freezeItems_cons {key : Key} {value : PyValue} {items frozen : List (Key × PyValue)} :
    freezeItems fieldName ((key, value) :: items) = .ok frozen ↔ (∃ text, key = .str text ∧ isPadded text = false) ∧
      ∃ value', freezeCanonicalValue fieldName value = .ok value' ∧
        ∃ items', freezeItems fieldName items = .ok items' ∧ (key, value') :: items' = frozen := by
  simp only [freezeItems, bind_eq_ok, validateMappingKey_eq_ok, pure_eq_ok, exists_const]

theorem freezeAll_cons {value : PyValue} {values frozen : List PyValue} :
    freezeAll fieldName (value :: values) = .ok frozen ↔ ∃ value', freezeCanonicalValue fieldName value = .ok value' ∧
      ∃ values', freezeAll fieldName values = .ok values' ∧ value' :: values' = frozen := by
  simp only [freezeAll, bind_eq_ok, pure_eq_ok]

/-- A datetime in UTC is what it is converted to. -/
theorem toUtc_toUtc {value : IsoDatetime} {u : UTCDateTime} (h : value.toUtc = .ok u) :
    IsoDatetime.toUtc ⟨u, some 0⟩ = .ok u := by
  unfold IsoDatetime.toUtc at h
  split at h
  · cases h
  -- the offset of the frozen datetime is zero
  · obtain ⟨hrange, rfl⟩ := addTimedelta_eq_ok.mp h
    refine addTimedelta_eq_ok.mpr ⟨?_, ?_⟩
    · rw [neg_zero, add_zero]
      exact hrange
    · rw [neg_zero, add_zero]

mutual
/-- **What is frozen is frozen as it is.** -/
theorem freeze_idempotent : ∀ (value : PyValue) {frozen : PyValue} (fieldName' : String),
    freezeCanonicalValue fieldName value = .ok frozen → freezeCanonicalValue fieldName' frozen = .ok frozen
  | .mapping _ items, _, fieldName', h => by
      obtain ⟨items', hitems, h⟩ := bind_eq_ok.mp h
      cases h
      rw [freezeCanonicalValue, freezeItems_idempotent items fieldName' hitems]
      rfl
  | .sequence _ values, _, fieldName', h => by
      obtain ⟨values', hvalues, h⟩ := bind_eq_ok.mp h
      cases h
      rw [freezeCanonicalValue, freezeAll_idempotent values fieldName' hvalues]
      rfl
  | .datetime value, _, fieldName', h => by
      obtain ⟨u, hu, h⟩ := bind_eq_ok.mp h
      cases h
      rw [freezeCanonicalValue, toUtc_toUtc hu]
      rfl
  | .decimal _, _, _, h | .enumeration _, _, _, h | .model _, _, _, h | .scalar _, _, _, h => by
      cases h
      rfl
  | .set, _, _, h | .nonFiniteDecimal, _, _, h | .float, _, _, h | .bytes _, _, _, h | .other _, _, _, h => by cases h
theorem freezeItems_idempotent : ∀ (items : List (Key × PyValue)) {frozen : List (Key × PyValue)} (fieldName' : String),
    freezeItems fieldName items = .ok frozen → freezeItems fieldName' frozen = .ok frozen
  | [], _, _, h => by
      cases h
      rfl
  | (key, value) :: items, _, fieldName', h => by
      obtain ⟨hkey, value', hvalue, items', hitems, rfl⟩ := freezeItems_cons.mp h
      exact freezeItems_cons.mpr ⟨hkey, value', freeze_idempotent value fieldName' hvalue, items',
        freezeItems_idempotent items fieldName' hitems, rfl⟩
theorem freezeAll_idempotent : ∀ (values : List PyValue) {frozen : List PyValue} (fieldName' : String),
    freezeAll fieldName values = .ok frozen → freezeAll fieldName' frozen = .ok frozen
  | [], _, _, h => by
      cases h
      rfl
  | value :: values, _, fieldName', h => by
      obtain ⟨value', hvalue, values', hvalues, rfl⟩ := freezeAll_cons.mp h
      exact freezeAll_cons.mpr ⟨value', freeze_idempotent value fieldName' hvalue, values',
        freezeAll_idempotent values fieldName' hvalues, rfl⟩
end

mutual
/-- **Freezing keeps the canonical data.** -/
theorem toCanonicalData_frozen : ∀ (value : PyValue) {frozen : PyValue},
    freezeCanonicalValue fieldName value = .ok frozen →
      toCanonicalData isoformat frozen = toCanonicalData isoformat value
  | .mapping _ items, _, h => by
      obtain ⟨items', hitems, h⟩ := bind_eq_ok.mp h
      cases h
      rw [toCanonicalData, toCanonicalData, canonicalMapping_frozen items hitems]
  | .sequence _ values, _, h => by
      obtain ⟨values', hvalues, h⟩ := bind_eq_ok.mp h
      cases h
      rw [toCanonicalData, toCanonicalData, canonicalAll_frozen values hvalues]
  | .datetime value, _, h => by
      obtain ⟨u, hu, h⟩ := bind_eq_ok.mp h
      cases h
      rw [toCanonicalData, toCanonicalData, formatUtcDatetime, formatUtcDatetime, toUtc_toUtc hu, hu]
  | .decimal _, _, h | .enumeration _, _, h | .model _, _, h | .scalar _, _, h => by
      cases h
      rfl
  | .set, _, h | .nonFiniteDecimal, _, h | .float, _, h | .bytes _, _, h | .other _, _, h => by cases h
theorem canonicalMapping_frozen : ∀ (items : List (Key × PyValue)) {frozen : List (Key × PyValue)},
    freezeItems fieldName items = .ok frozen → canonicalMapping isoformat frozen = canonicalMapping isoformat items
  | [], _, h => by
      cases h
      rfl
  | (key, value) :: items, _, h => by
      obtain ⟨-, value', hvalue, items', hitems, rfl⟩ := freezeItems_cons.mp h
      rw [canonicalMapping, canonicalMapping, toCanonicalData_frozen value hvalue, canonicalMapping_frozen items hitems]
theorem canonicalAll_frozen : ∀ (values : List PyValue) {frozen : List PyValue},
    freezeAll fieldName values = .ok frozen → canonicalAll isoformat frozen = canonicalAll isoformat values
  | [], _, h => by
      cases h
      rfl
  | value :: values, _, h => by
      obtain ⟨value', hvalue, values', hvalues, rfl⟩ := freezeAll_cons.mp h
      rw [canonicalAll, canonicalAll, toCanonicalData_frozen value hvalue, canonicalAll_frozen values hvalues]
end

mutual
/-- **Thawing keeps the canonical data.** -/
theorem toCanonicalData_thaw : ∀ value : PyValue,
    toCanonicalData isoformat (thawCanonicalValue value) = toCanonicalData isoformat value
  | .mapping _ items => by
      rw [thawCanonicalValue, toCanonicalData, toCanonicalData, canonicalMapping_thaw items]
  | .sequence _ values => by
      rw [thawCanonicalValue, toCanonicalData, toCanonicalData, canonicalAll_thaw values]
  | .datetime _ | .decimal _ | .enumeration _ | .model _ | .scalar _ | .set | .nonFiniteDecimal | .float | .bytes _
  | .other _ => rfl
theorem canonicalMapping_thaw : ∀ items : List (Key × PyValue),
    canonicalMapping isoformat (thawCanonicalMapping items) = canonicalMapping isoformat items
  | [] => rfl
  | (key, value) :: items => by
      rw [thawCanonicalMapping, canonicalMapping, canonicalMapping, toCanonicalData_thaw value,
          canonicalMapping_thaw items]
theorem canonicalAll_thaw : ∀ values : List PyValue,
    canonicalAll isoformat (thawAll values) = canonicalAll isoformat values
  | [] => rfl
  | value :: values => by
      rw [thawAll, canonicalAll, canonicalAll, toCanonicalData_thaw value, canonicalAll_thaw values]
end

/-! ## Items and data -/

/-- The canonical data of an item. -/
def ItemData (isoformat : UTCDateTime → String) (item : Key × PyValue) (member : Text × Json) : Prop :=
  item.1.text = some member.1 ∧ toCanonicalData isoformat item.2 = .ok member.2

theorem canonicalMapping_eq_ok {items : List (Key × PyValue)} {members : List (Text × Json)} :
    canonicalMapping isoformat items = .ok members ↔ List.Forall₂ (ItemData isoformat) items members := by
  induction items generalizing members with
  | nil =>
      rw [List.forall₂_nil_left_iff, canonicalMapping, pure_eq_ok]
      exact eq_comm
  | cons item items ih =>
      obtain ⟨key, value⟩ := item
      rw [List.forall₂_cons_left_iff, canonicalMapping]
      -- a key that is no text raises before its value is looked at
      cases htext : key.text with
      | none =>
          refine iff_of_false (by simp only [reduceCtorEq, not_false_eq_true]) ?_
          rintro ⟨member, members', ⟨hkey, -⟩, -⟩
          rw [htext] at hkey
          cases hkey
      | some text =>
          simp only [bind_eq_ok, pure_eq_ok]
          constructor
          · rintro ⟨data, hdata, members', hmembers, rfl⟩
            exact ⟨(text, data), members', ⟨htext, hdata⟩, ih.mp hmembers, rfl⟩
          · rintro ⟨⟨text', data⟩, members', ⟨hkey, hdata⟩, hmembers, rfl⟩
            rw [htext] at hkey
            cases hkey
            exact ⟨data, hdata, members', ih.mpr hmembers, rfl⟩

theorem canonicalAll_eq_ok {values : List PyValue} {items : List Json} : canonicalAll isoformat values = .ok items ↔
    List.Forall₂ (fun value data => toCanonicalData isoformat value = .ok data) values items := by
  induction values generalizing items with
  | nil =>
      rw [List.forall₂_nil_left_iff, canonicalAll, pure_eq_ok]
      exact eq_comm
  | cons value values ih =>
      simp only [List.forall₂_cons_left_iff, canonicalAll, bind_eq_ok, pure_eq_ok, ← ih]
      constructor
      · rintro ⟨data, hdata, items', hitems, rfl⟩
        exact ⟨data, items', hdata, hitems, rfl⟩
      · rintro ⟨data, items', hdata, hitems, rfl⟩
        exact ⟨data, hdata, items', hitems, rfl⟩

theorem toCanonicalData_mapping {kind : MappingKind} {items : List (Key × PyValue)} {data : Json} :
    toCanonicalData isoformat (.mapping kind items) = .ok data ↔
      ∃ members, List.Forall₂ (ItemData isoformat) items members ∧ .object members = data := by
  simp only [toCanonicalData, bind_eq_ok, pure_eq_ok, canonicalMapping_eq_ok]

theorem toCanonicalData_model {dump : List (Key × PyValue)} {data : Json} :
    toCanonicalData isoformat (.model dump) = .ok data ↔
      ∃ members, List.Forall₂ (ItemData isoformat) dump members ∧ .object members = data := by
  simp only [toCanonicalData, bind_eq_ok, pure_eq_ok, canonicalMapping_eq_ok]

theorem toCanonicalData_sequence {kind : SequenceKind} {values : List PyValue} {data : Json} :
    toCanonicalData isoformat (.sequence kind values) = .ok data ↔
      ∃ items, List.Forall₂ (fun value data => toCanonicalData isoformat value = .ok data) values items ∧
        .array items = data := by
  simp only [toCanonicalData, bind_eq_ok, pure_eq_ok, canonicalAll_eq_ok]

/-- Another element in one place of two lists that go together. -/
theorem forall₂_replace {α β : Type} {R : α → β → Prop} {front back : List α} {a : α} {bs : List β}
    (h : List.Forall₂ R (front ++ a :: back) bs) :
    ∃ front' b back', bs = front' ++ b :: back' ∧ R a b ∧
      ∀ a' b', R a' b' → List.Forall₂ R (front ++ a' :: back) (front' ++ b' :: back') := by
  induction front generalizing bs with
  | nil =>
      obtain ⟨b, back', hab, hback, rfl⟩ := List.forall₂_cons_left_iff.mp h
      exact ⟨[], b, back', rfl, hab, fun _ _ hab' => .cons hab' hback⟩
  | cons first front ih =>
      obtain ⟨b₁, bs, hfirst, hrest, rfl⟩ := List.forall₂_cons_left_iff.mp h
      obtain ⟨front', b, back', rfl, hab, hreplace⟩ := ih hrest
      exact ⟨b₁ :: front', b, back', rfl, hab, fun a' b' hab' => .cons hfirst (hreplace a' b' hab')⟩

/-! ## The order of insertion -/

theorem PyValue.Reordered.symm {value value' : PyValue} (h : value.Reordered value') : value'.Reordered value := by
  induction h with
  | refl value => exact .refl value
  | trans _ _ ihab ihbc => exact ihbc.trans ihab
  | items kind hperm => exact .items kind hperm.symm
  | dump hperm => exact .dump hperm.symm
  | inMapping kind front key back _ ih => exact .inMapping kind front key back ih
  | inModel front key back _ ih => exact .inModel front key back ih
  | inSequence kind front back _ ih => exact .inSequence kind front back ih

theorem itemData_perm {items items' : List (Key × PyValue)} {members : List (Text × Json)} (hperm : items.Perm items')
    (h : List.Forall₂ (ItemData isoformat) items members) :
    ∃ members', List.Forall₂ (ItemData isoformat) items' members' ∧ members'.Perm members :=
  List.perm_comp_forall₂ hperm.symm h

theorem itemData_replace {front back : List (Key × PyValue)} {key : Key} {value value' : PyValue}
    {members : List (Text × Json)}
    (ih : ∀ {data}, toCanonicalData isoformat value = .ok data →
      ∃ data', toCanonicalData isoformat value' = .ok data' ∧ data.Reordered data')
    (h : List.Forall₂ (ItemData isoformat) (front ++ (key, value) :: back) members) :
    ∃ members', List.Forall₂ (ItemData isoformat) (front ++ (key, value') :: back) members' ∧
      (Json.object members).Reordered (.object members') := by
  obtain ⟨front', ⟨text, data⟩, back', rfl, ⟨htext, hdata⟩, hreplace⟩ := forall₂_replace h
  obtain ⟨data', hdata', hreordered⟩ := ih hdata
  exact ⟨_, hreplace (key, value') (text, data') ⟨htext, hdata'⟩, .member front' text back' hreordered⟩

/-- **The order of insertion is that of the data's members, and nothing else.** -/
theorem toCanonicalData_reordered {value value' : PyValue} (h : value.Reordered value') {data : Json}
    (hdata : toCanonicalData isoformat value = .ok data) :
    ∃ data', toCanonicalData isoformat value' = .ok data' ∧ data.Reordered data' := by
  -- by induction on how the values are reordered
  induction h generalizing data with
  | refl value => exact ⟨data, hdata, .refl data⟩
  | trans _ _ ihab ihbc =>
      obtain ⟨data', hdata', hab⟩ := ihab hdata
      obtain ⟨data'', hdata'', hbc⟩ := ihbc hdata'
      exact ⟨data'', hdata'', hab.trans hbc⟩
  | items kind hperm =>
      obtain ⟨members, hmembers, rfl⟩ := toCanonicalData_mapping.mp hdata
      obtain ⟨members', hmembers', hpermuted⟩ := itemData_perm hperm hmembers
      exact ⟨_, toCanonicalData_mapping.mpr ⟨members', hmembers', rfl⟩, .members hpermuted.symm⟩
  | dump hperm =>
      obtain ⟨members, hmembers, rfl⟩ := toCanonicalData_model.mp hdata
      obtain ⟨members', hmembers', hpermuted⟩ := itemData_perm hperm hmembers
      exact ⟨_, toCanonicalData_model.mpr ⟨members', hmembers', rfl⟩, .members hpermuted.symm⟩
  | inMapping kind front key back _ ih =>
      obtain ⟨members, hmembers, rfl⟩ := toCanonicalData_mapping.mp hdata
      obtain ⟨members', hmembers', hreordered⟩ := itemData_replace ih hmembers
      exact ⟨_, toCanonicalData_mapping.mpr ⟨members', hmembers', rfl⟩, hreordered⟩
  | inModel front key back _ ih =>
      obtain ⟨members, hmembers, rfl⟩ := toCanonicalData_model.mp hdata
      obtain ⟨members', hmembers', hreordered⟩ := itemData_replace ih hmembers
      exact ⟨_, toCanonicalData_model.mpr ⟨members', hmembers', rfl⟩, hreordered⟩
  | inSequence kind front back _ ih =>
      obtain ⟨items, hitems, rfl⟩ := toCanonicalData_sequence.mp hdata
      obtain ⟨front', item, back', rfl, hitem, hreplace⟩ := forall₂_replace hitems
      obtain ⟨item', hitem', hreordered⟩ := ih hitem
      exact ⟨_, toCanonicalData_sequence.mpr ⟨_, hreplace _ item' hitem', rfl⟩, .item front' back' hreordered⟩

/-! ## Well-formed data -/

/-- A text without surrogates has no pairs. -/
theorem unpaired_codePoints (text : String) : Json.Unpaired (codePoints text) := by
  refine List.Pairwise.isChain (List.pairwise_map.mpr (List.pairwise_of_forall fun c d => ?_))
  rintro ⟨hhigh, -⟩
  -- a character is no surrogate
  obtain ⟨hlt, hnot, -⟩ := Json.not_surrogate c
  rw [CodePoint.val_ofNat hlt] at hhigh
  exact hnot hhigh

def wellFormed (data : Json) : Bool := Json.distinctKeys data && Json.noFloats data

theorem wellFormed_scalar (value : Scalar) : value.data.all wellFormed = true := by
  cases value <;> rfl

/-- The keys of the members are the texts of the items' keys. -/
theorem keys_of_itemData {items : List (Key × PyValue)} {members : List (Text × Json)}
    (h : List.Forall₂ (ItemData isoformat) items members) :
    members.map Prod.fst = items.filterMap fun item => item.1.text := by
  induction h with
  | nil => rfl
  | cons hitem _ ih => rw [List.map_cons, List.filterMap_cons, hitem.1, ih]

theorem wellFormed_object {items : List (Key × PyValue)} {members : List (Text × Json)} (hkeys : DistinctItems items)
    (h : List.Forall₂ (ItemData isoformat) items members) : wellFormed (.object members) = true := by
  rw [DistinctItems, ← keys_of_itemData h] at hkeys
  rw [wellFormed, Json.distinctKeys, decide_eq_true hkeys]
  rfl

mutual
/-- **Canonical data has distinct keys and no floats.** -/
theorem wellFormed_toCanonicalData : ∀ (value : PyValue) {data : Json}, value.DistinctKeys →
    toCanonicalData isoformat value = .ok data → data.all wellFormed = true
  | .mapping _ items, _, hkeys, h => by
      obtain ⟨members, hmembers, rfl⟩ := toCanonicalData_mapping.mp h
      exact Json.all_object.mpr ⟨wellFormed_object hkeys.1 hmembers, wellFormed_items items hkeys.2 hmembers⟩
  | .model dump, _, hkeys, h => by
      obtain ⟨members, hmembers, rfl⟩ := toCanonicalData_model.mp h
      exact Json.all_object.mpr ⟨wellFormed_object hkeys.1 hmembers, wellFormed_items dump hkeys.2 hmembers⟩
  | .sequence _ values, _, hkeys, h => by
      obtain ⟨items, hitems, rfl⟩ := toCanonicalData_sequence.mp h
      exact Json.all_array.mpr ⟨rfl, wellFormed_all values hkeys hitems⟩
  | .datetime value, _, _, h => by
      obtain ⟨text, -, h⟩ := bind_eq_ok.mp h
      cases h
      rfl
  | .decimal _, _, _, h => by
      cases h
      rfl
  | .enumeration value, _, _, h | .scalar value, _, _, h => by
      cases h
      exact wellFormed_scalar value
  | .set, _, _, h | .nonFiniteDecimal, _, _, h | .float, _, _, h | .bytes _, _, _, h | .other _, _, _, h => by cases h
theorem wellFormed_items : ∀ (items : List (Key × PyValue)) {members : List (Text × Json)}, distinctKeysOfItems items →
    List.Forall₂ (ItemData isoformat) items members → Json.allMembers wellFormed members = true
  | [], _, _, .nil => rfl
  | (_, value) :: items, _, hkeys, .cons hitem hitems =>
      Json.allMembers_cons.mpr
        ⟨wellFormed_toCanonicalData value hkeys.1 hitem.2, wellFormed_items items hkeys.2 hitems⟩
theorem wellFormed_all : ∀ (values : List PyValue) {items : List Json}, distinctKeysOfAll values →
    List.Forall₂ (fun value data => toCanonicalData isoformat value = .ok data) values items →
      Json.allItems wellFormed items = true
  | [], _, _, .nil => rfl
  | value :: values, _, hkeys, .cons hvalue hvalues =>
      Json.allItems_cons.mpr ⟨wellFormed_toCanonicalData value hkeys.1 hvalue, wellFormed_all values hkeys.2 hvalues⟩
end

mutual
/-- **A frozen value has canonical data when its models do.** -/
theorem toCanonicalData_of_frozen : ∀ (value : PyValue) {frozen : PyValue},
    freezeCanonicalValue fieldName value = .ok frozen → value.ModelsConvert isoformat →
      ∃ data, toCanonicalData isoformat value = .ok data
  | .mapping _ items, _, h, hmodels => by
      obtain ⟨items', hitems, -⟩ := bind_eq_ok.mp h
      obtain ⟨members, hmembers⟩ := canonicalMapping_of_frozen items hitems hmodels
      exact ⟨.object members, toCanonicalData_mapping.mpr ⟨members, hmembers, rfl⟩⟩
  | .sequence _ values, _, h, hmodels => by
      obtain ⟨values', hvalues, -⟩ := bind_eq_ok.mp h
      obtain ⟨items, hitems⟩ := canonicalAll_of_frozen values hvalues hmodels
      exact ⟨.array items, toCanonicalData_sequence.mpr ⟨items, hitems, rfl⟩⟩
  | .model dump, _, _, hmodels => by
      obtain ⟨members, hmembers⟩ := hmodels
      exact ⟨.object members, toCanonicalData_model.mpr ⟨members, canonicalMapping_eq_ok.mp hmembers, rfl⟩⟩
  | .datetime value, _, h, _ => by
      obtain ⟨u, hu, -⟩ := bind_eq_ok.mp h
      rw [toCanonicalData, formatUtcDatetime, hu]
      exact ⟨_, rfl⟩
  | .decimal _, _, _, _ | .enumeration _, _, _, _ | .scalar _, _, _, _ => ⟨_, rfl⟩
  | .set, _, h, _ | .nonFiniteDecimal, _, h, _ | .float, _, h, _ | .bytes _, _, h, _ | .other _, _, h, _ => by cases h
theorem canonicalMapping_of_frozen : ∀ (items : List (Key × PyValue)) {frozen : List (Key × PyValue)},
    freezeItems fieldName items = .ok frozen → modelsConvertInItems isoformat items →
      ∃ members, List.Forall₂ (ItemData isoformat) items members
  | [], _, _, _ => ⟨[], .nil⟩
  | (key, value) :: items, _, h, hmodels => by
      obtain ⟨⟨text, rfl, -⟩, value', hvalue, items', hitems, -⟩ := freezeItems_cons.mp h
      obtain ⟨data, hdata⟩ := toCanonicalData_of_frozen value hvalue hmodels.1
      obtain ⟨members, hmembers⟩ := canonicalMapping_of_frozen items hitems hmodels.2
      exact ⟨(text, data) :: members, .cons ⟨rfl, hdata⟩ hmembers⟩
theorem canonicalAll_of_frozen : ∀ (values : List PyValue) {frozen : List PyValue},
    freezeAll fieldName values = .ok frozen → modelsConvertInAll isoformat values →
      ∃ items, List.Forall₂ (fun value data => toCanonicalData isoformat value = .ok data) values items
  | [], _, _, _ => ⟨[], .nil⟩
  | value :: values, _, h, hmodels => by
      obtain ⟨value', hvalue, values', hvalues, -⟩ := freezeAll_cons.mp h
      obtain ⟨data, hdata⟩ := toCanonicalData_of_frozen value hvalue hmodels.1
      obtain ⟨items, hitems⟩ := canonicalAll_of_frozen values hvalues hmodels.2
      exact ⟨data :: items, .cons hdata hitems⟩
end

mutual
theorem modelsConvert_of_data : ∀ (value : PyValue) {data : Json},
    toCanonicalData isoformat value = .ok data → value.ModelsConvert isoformat
  | .mapping _ items, _, h => by
      obtain ⟨members, hmembers, -⟩ := toCanonicalData_mapping.mp h
      exact modelsConvertInItems_of_data items hmembers
  | .sequence _ values, _, h => by
      obtain ⟨items, hitems, -⟩ := toCanonicalData_sequence.mp h
      exact modelsConvertInAll_of_data values hitems
  | .model _, _, h => by
      obtain ⟨members, hmembers, -⟩ := toCanonicalData_model.mp h
      exact ⟨members, canonicalMapping_eq_ok.mpr hmembers⟩
  | .datetime _, _, _ | .decimal _, _, _ | .enumeration _, _, _ | .scalar _, _, _ | .set, _, _ | .nonFiniteDecimal, _, _
  | .float, _, _ | .bytes _, _, _ | .other _, _, _ => trivial
theorem modelsConvertInItems_of_data : ∀ (items : List (Key × PyValue)) {members : List (Text × Json)},
    List.Forall₂ (ItemData isoformat) items members → modelsConvertInItems isoformat items
  | [], _, _ => trivial
  | (_, value) :: items, _, .cons hitem hitems =>
      ⟨modelsConvert_of_data value hitem.2, modelsConvertInItems_of_data items hitems⟩
theorem modelsConvertInAll_of_data : ∀ (values : List PyValue) {items : List Json},
    List.Forall₂ (fun value data => toCanonicalData isoformat value = .ok data) values items →
      modelsConvertInAll isoformat values
  | [], _, _ => trivial
  | value :: values, _, .cons hvalue hvalues =>
      ⟨modelsConvert_of_data value hvalue, modelsConvertInAll_of_data values hvalues⟩
end

/-! ## Canonical JSON -/

theorem dumps_eq_ok {data : Json} {text : String} :
    dumps data = .ok text ↔ data.all Json.shortInts = true ∧ String.ofList data.sorted.encode = text := by
  unfold dumps
  split_ifs with hints
  · rw [pure_eq_ok, and_iff_right hints]
  · exact iff_of_false (by simp only [not_false_eq_true]) fun h => hints h.1

/-- **The order of members does not show in the JSON.** -/
theorem dumps_reordered {data data' : Json} (h : data.Reordered data') (hkeys : data.all Json.distinctKeys = true) :
    dumps data' = dumps data := by
  have hints : data'.all Json.shortInts = true ↔ data.all Json.shortInts = true :=
    ⟨h.symm.all Json.onKeys_shortInts, h.all Json.onKeys_shortInts⟩
  unfold dumps
  simp only [hints, h.sorted_eq hkeys]

theorem distinctKeys_of_wellFormed {data : Json} (h : data.all wellFormed = true) : data.all Json.distinctKeys = true :=
  Json.all_of_all (fun _ hself _ => (Bool.and_eq_true_iff.mp hself).1) data h h

/-- What is written of well-formed data is readable where its texts have no pairs. -/
theorem readable_of_wellFormed {data : Json} (hform : data.all wellFormed = true)
    (hints : data.all Json.shortInts = true) (htexts : data.all Json.unpairedTexts = true) :
    data.all Json.readable = true := by
  have hboth : data.all (fun data => Json.shortInts data && Json.unpairedTexts data) = true :=
    Json.all_of_all (fun _ hints htexts => Bool.and_eq_true_iff.mpr ⟨hints, htexts⟩) data hints htexts
  refine Json.all_of_all (fun value hform hboth => ?_) data hform hboth
  obtain ⟨hkeys, hfloats⟩ := Bool.and_eq_true_iff.mp hform
  obtain ⟨hints, htexts⟩ := Bool.and_eq_true_iff.mp hboth
  exact Json.readable_iff.mpr ⟨hkeys, hints, hfloats, htexts⟩

theorem canonicalJson_eq_ok {value : PyValue} {text : String} : canonicalJson isoformat value = .ok text ↔
    ∃ data, toCanonicalData isoformat value = .ok data ∧ data.all Json.shortInts = true ∧
      String.ofList data.sorted.encode = text := by
  simp only [canonicalJson, bind_eq_ok, dumps_eq_ok]

theorem canonicalJson_of_data {value value' : PyValue}
    (h : toCanonicalData isoformat value' = toCanonicalData isoformat value) :
    canonicalJson isoformat value' = canonicalJson isoformat value := by
  rw [canonicalJson, canonicalJson, h]

/-- **The order of insertion does not show in the JSON.** Where a call raises, the order may decide what it raises. -/
theorem canonicalJson_reordered {value value' : PyValue} (hkeys : value.DistinctKeys) (h : value.Reordered value') :
    (canonicalJson isoformat value').toOption = (canonicalJson isoformat value).toOption := by
  cases hdata : toCanonicalData isoformat value with
  | ok data =>
      obtain ⟨data', hdata', hreordered⟩ := toCanonicalData_reordered h hdata
      have hdistinct := distinctKeys_of_wellFormed (wellFormed_toCanonicalData value hkeys hdata)
      rw [canonicalJson, canonicalJson, hdata, hdata', ok_bind, ok_bind, dumps_reordered hreordered hdistinct]
  | error e =>
      cases hdata' : toCanonicalData isoformat value' with
      | ok data' =>
          -- the orders are symmetric, so neither raises alone
          obtain ⟨data, hok, -⟩ := toCanonicalData_reordered h.symm hdata'
          rw [hdata] at hok
          cases hok
      | error e' =>
          rw [canonicalJson, canonicalJson, hdata, hdata']
          rfl

/-- **What is read back.** -/
theorem decode_canonicalJson {value : PyValue} (hkeys : value.DistinctKeys) {text : String} {data : Json}
    (htext : canonicalJson isoformat value = .ok text) (hdata : toCanonicalData isoformat value = .ok data) :
    (∃ read, Json.decode text.toList = some read ∧ read.Reordered data) ↔ data.all Json.unpairedTexts = true := by
  obtain ⟨data', hdata', hints, rfl⟩ := canonicalJson_eq_ok.mp htext
  rw [hdata] at hdata'
  cases hdata'
  rw [String.toList_ofList]
  constructor
  · rintro ⟨read, hread, hreordered⟩
    exact hreordered.all Json.onKeys_unpairedTexts (Json.unpaired_of_decode hread)
  · intro htexts
    exact Json.decode_encode_sorted
      (readable_of_wellFormed (wellFormed_toCanonicalData value hkeys hdata) hints htexts)

/-! ## Values that are frozen -/

/-- `json.loads` of the canonical JSON is the canonical data. -/
def ReadsBack (isoformat : UTCDateTime → String) (value : PyValue) : Prop :=
  ∃ data text, toCanonicalData isoformat value = .ok data ∧ canonicalJson isoformat value = .ok text ∧
    ∃ read, Json.decode text.toList = some read ∧ read.Reordered data

/-- The data of the value holds no integer that `str` refuses, and no text with a high surrogate right before a low
    one. -/
def PlainData (isoformat : UTCDateTime → String) (value : PyValue) : Prop :=
  ∀ data, toCanonicalData isoformat value = .ok data →
    data.all Json.shortInts = true ∧ data.all Json.unpairedTexts = true

theorem readsBack_iff {value frozen : PyValue} (hkeys : value.DistinctKeys)
    (hfrozen : freezeCanonicalValue fieldName value = .ok frozen) :
    ReadsBack isoformat value ↔ value.ModelsConvert isoformat ∧ PlainData isoformat value := by
  constructor
  · rintro ⟨data, text, hdata, htext, hread⟩
    refine ⟨modelsConvert_of_data value hdata, fun data' hdata' => ?_⟩
    -- what was read has no pairs, and is the data but for the order
    have hunpaired := (decode_canonicalJson hkeys htext hdata).mp hread
    obtain ⟨data'', hdata'', hints, -⟩ := canonicalJson_eq_ok.mp htext
    rw [hdata] at hdata' hdata''
    cases hdata'
    cases hdata''
    exact ⟨hints, hunpaired⟩
  · rintro ⟨hmodels, hplain⟩
    obtain ⟨data, hdata⟩ := toCanonicalData_of_frozen value hfrozen hmodels
    obtain ⟨hints, hunpaired⟩ := hplain data hdata
    have htext := canonicalJson_eq_ok.mpr ⟨data, hdata, hints, rfl⟩
    exact ⟨data, _, hdata, htext, (decode_canonicalJson hkeys htext hdata).mpr hunpaired⟩

/-- **Freezing, thawing and reordering keep the canonical JSON of a value, and reading it gives the canonical data back
exactly when the models convert and the data is plain.** -/
theorem canonical_values_kept (isoformat : UTCDateTime → String) {fieldName : String} {value frozen : PyValue}
    (hkeys : value.DistinctKeys) (hfrozen : freezeCanonicalValue fieldName value = .ok frozen) :
    (∀ fieldName', freezeCanonicalValue fieldName' frozen = .ok frozen) ∧
      canonicalJson isoformat frozen = canonicalJson isoformat value ∧
      canonicalJson isoformat (thawCanonicalValue frozen) = canonicalJson isoformat value ∧
      canonicalJson isoformat (thawCanonicalValue value) = canonicalJson isoformat value ∧
      (∀ value', value.Reordered value' →
        (canonicalJson isoformat value').toOption = (canonicalJson isoformat value).toOption) ∧
      (ReadsBack isoformat value ↔ value.ModelsConvert isoformat ∧ PlainData isoformat value) := by
  have hdata : toCanonicalData isoformat frozen = toCanonicalData isoformat value :=
      toCanonicalData_frozen value hfrozen
  refine ⟨fun fieldName' => freeze_idempotent value fieldName' hfrozen, canonicalJson_of_data hdata, ?_, ?_, ?_, ?_⟩
  · exact canonicalJson_of_data ((toCanonicalData_thaw frozen).trans hdata)
  · exact canonicalJson_of_data (toCanonicalData_thaw value)
  · exact fun value' h => canonicalJson_reordered hkeys h
  · exact readsBack_iff hkeys hfrozen

/-- Midnight at the start of 2024-01-01, on a clock two hours ahead of UTC. -/
def newYear : IsoDatetime := ⟨63839664000000000, some 7200000000⟩

/-- A fill with a side, a price, a size and a time. -/
def fillAttributes : PyValue :=
  .mapping .dict [(.str (codePoints "side"), .enumeration (.str (codePoints "yes"))),
    (.str (codePoints "terms"), .sequence .list [.decimal ⟨false, 625, -3⟩, .scalar (.int 8)]),
    (.str (codePoints "at"), .datetime newYear)]

theorem distinctKeys_fillAttributes : fillAttributes.DistinctKeys := by
  refine ⟨?_, trivial, ⟨trivial, trivial, trivial⟩, trivial, trivial⟩
  show List.Nodup [codePoints "side", codePoints "terms", codePoints "at"]
  decide +kernel

/-- The text of its UTC time. -/
def newYearText (instant : UTCDateTime) : String :=
  if instant = 63839656800000000 then "2023-12-31T22:00:00+00:00" else ""

theorem unpaired_fillAttributes (time : String) :
    Json.all Json.unpairedTexts (.object [(codePoints "side", .str (codePoints "yes")),
      (codePoints "terms", .array [.str (codePoints (Decimal.toText ⟨false, 625, -3⟩)), .int 8]),
      (codePoints "at", .str (codePoints time))]) = true := by
  have htext : ∀ text, Json.all Json.unpairedTexts (.str (codePoints text)) = true :=
    fun text => decide_eq_true (unpaired_codePoints text)
  refine Json.all_unpaired_object.mpr (List.forall_mem_cons.mpr ⟨⟨unpaired_codePoints "side", htext "yes"⟩, ?_⟩)
  refine List.forall_mem_cons.mpr ⟨⟨unpaired_codePoints "terms", ?_⟩, ?_⟩
  · exact Json.all_array.mpr ⟨rfl, Json.allItems_cons.mpr ⟨htext (Decimal.toText ⟨false, 625, -3⟩), rfl⟩⟩
  · exact List.forall_mem_singleton.mpr ⟨unpaired_codePoints "at", htext _⟩

theorem canonical_values_kept_fill :
    ∃ frozen, freezeCanonicalValue "attributes" fillAttributes = .ok frozen ∧
      freezeCanonicalValue "payload" frozen = .ok frozen ∧
      canonicalJson newYearText frozen = canonicalJson newYearText fillAttributes ∧
      ReadsBack newYearText fillAttributes := by
  obtain ⟨frozen, hfrozen⟩ : ∃ frozen, freezeCanonicalValue "attributes" fillAttributes = .ok frozen := ⟨_, rfl⟩
  have hkept := canonical_values_kept newYearText distinctKeys_fillAttributes hfrozen
  refine ⟨frozen, hfrozen, hkept.1 "payload", hkept.2.1, hkept.2.2.2.2.2.mpr ⟨?_, ?_⟩⟩
  · exact ⟨trivial, ⟨trivial, trivial, trivial⟩, trivial, trivial⟩
  · intro data hdata
    cases hdata
    exact ⟨rfl, unpaired_fillAttributes _⟩

/-- Two surrogates that make a pair. -/
def surrogates : PyValue := .scalar (.str [CodePoint.ofNat 0xD83D, CodePoint.ofNat 0xDE00])

/-- **The pair is read as one character.** -/
theorem surrogates_are_read_as_one :
    surrogates.DistinctKeys ∧ freezeCanonicalValue "attributes" surrogates = .ok surrogates ∧
      toCanonicalData (fun _ => "") surrogates = .ok (.str [CodePoint.ofNat 0xD83D, CodePoint.ofNat 0xDE00]) ∧
      (∃ text, canonicalJson (fun _ => "") surrogates = .ok text ∧
        Json.decode text.toList = some (.str [CodePoint.ofNat 0x1F600])) ∧
      ¬ReadsBack (fun _ => "") surrogates := by
  refine ⟨trivial, rfl, rfl, ⟨_, rfl, ?_⟩, ?_⟩
  · rw [String.toList_ofList]
    rfl
  · intro hreads
    have hkeys : surrogates.DistinctKeys := trivial
    have hfrozen : freezeCanonicalValue "attributes" surrogates = .ok surrogates := rfl
    obtain ⟨-, hpairs⟩ := ((readsBack_iff hkeys hfrozen).mp hreads).2 _ rfl
    exact absurd hpairs (by decide)

end Freezing
end Pmrp
