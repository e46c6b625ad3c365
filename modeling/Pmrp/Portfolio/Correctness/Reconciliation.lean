import Pmrp.Portfolio.Reconciliation

/-!
# `Portfolio.Correctness.Reconciliation` — what a reconciliation reports

A comparison builds one mismatch for each difference of the two sides (`compareEntities_eq`), and raises when one of
them holds a text that its model does not accept.

- **Result.** `Reports` says everything about a result: its gate, its mismatches, their ids, and the results for
  exchanged and for reordered snapshots.
- **When there is one.** `reconciles_iff`: exactly when every differing value has a text of at most 512 characters.
-/

namespace Pmrp
namespace Reconciliation

open KeyedDiff (Difference Label)

variable (sha : Sha256)

/-! ## One mismatch for each difference -/

section Kind

variable {α : Type} (kind : EntityKind α) (reconciliationId : String)
  (localText externalText : String → String → ℚ → String)

abbrev EntityDifference (α : Type) := Difference String (ComparedField α) ComparedValue

def entityDifferences (localEntities externalEntities : List α) : List (EntityDifference α) :=
  KeyedDiff.differences kind.identity kind.fields (fun entity field => field.value entity) localEntities
    externalEntities

def categoryOf : Label (ComparedField α) → String
  | .missingLeft => kind.missingLocalCategory
  | .missingRight => kind.missingExternalCategory
  | .field f => f.category

def localValueOf : EntityDifference α → Option String
  | .missingLeft _ => none
  | .missingRight _ => some presentValue
  | .field k f value _ => value.format (localText k f.category)

def externalValueOf : EntityDifference α → Option String
  | .missingLeft _ => some presentValue
  | .missingRight _ => none
  | .field k f _ value => value.format (externalText k f.category)

def explanationOf : EntityDifference α → Option String
  | .missingLeft _ => some kind.missingLocalExplanation
  | .missingRight _ => some kind.missingExternalExplanation
  | .field _ _ _ _ => none

def dataOf (d : EntityDifference α) : CanonicalData :=
  mismatchIdData reconciliationId (categoryOf kind d.label.2) d.key (localValueOf localText d)
    (externalValueOf externalText d)

/-- The mismatch a difference is reported as. -/
def mismatchFor (d : EntityDifference α) : ReconciliationMismatch :=
  mismatchOf sha reconciliationId (categoryOf kind d.label.2) d.key (localValueOf localText d)
    (externalValueOf externalText d) (explanationOf kind d)

theorem compareEntity_eq (localEntities externalEntities : List α) (identity : String) :
    compareEntity sha kind reconciliationId localText externalText localEntities externalEntities identity
      = (KeyedDiff.differencesAt kind.identity kind.fields (fun entity field => field.value entity) localEntities
          externalEntities identity).mapM fun d =>
          (mismatchFor sha kind reconciliationId localText externalText d).validate := by
  unfold compareEntity KeyedDiff.differencesAt
  cases Dictionary.lookup kind.identity identity localEntities with
  | none =>
      cases Dictionary.lookup kind.identity identity externalEntities with
      | none => rfl
      | some b => rw [List.mapM_cons]; rfl
  | some a =>
      cases Dictionary.lookup kind.identity identity externalEntities with
      | none => rw [List.mapM_cons]; rfl
      | some b =>
          show compareFields _ _ _ _ _ _ _ _ = (KeyedDiff.fieldDifferences _ _ _ _ _).mapM _
          rw [compareFields, KeyedDiff.fieldDifferences, List.mapM_map]
          rfl

theorem compareEntities_eq (localEntities externalEntities : List α) :
    compareEntities sha kind reconciliationId localText externalText localEntities externalEntities
      = (entityDifferences kind localEntities externalEntities).mapM fun d =>
          (mismatchFor sha kind reconciliationId localText externalText d).validate := by
  rw [entityDifferences, KeyedDiff.differences, mapM_flatMap]
  simp only [← compareEntity_eq]
  rfl

/-- The texts of a kind pass the checks of a mismatch, and its categories differ. -/
structure Lawful : Prop where
  categories_within : ∀ c ∈ kind.categories, TextWithin categoryMaxLength c
  categories_nodup : kind.categories.Nodup
  local_within : TextWithin portfolioTextMaxLength kind.missingLocalExplanation
  external_within : TextWithin portfolioTextMaxLength kind.missingExternalExplanation

variable {kind reconciliationId localText externalText} {localEntities externalEntities : List α}

theorem Lawful.fields_nodup (h : Lawful kind) : kind.fields.Nodup :=
  List.Nodup.of_map _ (List.nodup_cons.mp (List.nodup_cons.mp h.categories_nodup).2).2

variable (kind) in
/-- The labels that differences of this kind can have. -/
def labels : List (Label (ComparedField α)) := .missingLeft :: .missingRight :: kind.fields.map .field

theorem categories_eq : kind.categories = (labels kind).map (categoryOf kind) := by
  rw [EntityKind.categories, labels, List.map_cons, List.map_cons, List.map_map]
  rfl

theorem label_mem {d : EntityDifference α} (h : d ∈ entityDifferences kind localEntities externalEntities) :
    d.label.2 ∈ labels kind := by
  obtain ⟨k, -, hd⟩ := List.mem_flatMap.mp h
  unfold KeyedDiff.differencesAt at hd
  split at hd
  · cases hd
  · rw [List.mem_singleton.mp hd]; exact List.mem_cons_self
  · rw [List.mem_singleton.mp hd]; exact List.mem_cons_of_mem _ List.mem_cons_self
  · obtain ⟨f, hf, rfl⟩ := List.mem_map.mp hd
    refine List.mem_cons_of_mem _ (List.mem_cons_of_mem _ ?_)
    exact List.mem_map.mpr ⟨f, (List.mem_filter.mp hf).1, rfl⟩

theorem categoryOf_mem {d : EntityDifference α} (h : d ∈ entityDifferences kind localEntities externalEntities) :
    categoryOf kind d.label.2 ∈ kind.categories :=
  categories_eq ▸ List.mem_map_of_mem (label_mem h)

theorem severityMismatch_within : TextWithin 64 reconciliationSeverityMismatch := by decide

/-- A mismatch is accepted exactly when the two values it reports are. -/
theorem mismatchFor_valid (hkind : Lawful kind) {d : EntityDifference α}
    (hd : d ∈ entityDifferences kind localEntities externalEntities) :
    (mismatchFor sha kind reconciliationId localText externalText d).Valid ↔
      (∀ s ∈ localValueOf localText d, TextWithin mismatchValueMaxLength s) ∧
      ∀ s ∈ externalValueOf externalText d, TextWithin mismatchValueMaxLength s := by
  refine ⟨fun h => ⟨h.localValue_within, h.externalValue_within⟩, fun h => ?_⟩
  have hid : "recon_mismatch_".length = 15 := rfl
  refine ⟨?_, hkind.categories_within _ (categoryOf_mem hd), h.1, h.2, severityMismatch_within, ?_⟩
  · show TextWithin portfolioIdMaxLength ("recon_mismatch_" ++ shortDigest sha _)
    rw [TextWithin, String.length_append, length_shortDigest, hid]
    decide
  · intro s hs
    cases d with
    | missingLeft k => cases hs; exact hkind.local_within
    | missingRight k => cases hs; exact hkind.external_within
    | field k f a b => cases hs

theorem mismatchIdData_inj {c c' i i' : String} {l l' e e' : Option String}
    (h : mismatchIdData reconciliationId c i l e = mismatchIdData reconciliationId c' i' l' e') :
    c = c' ∧ i = i' := by
  unfold mismatchIdData at h
  simp only [CanonicalData.mapping.injEq, List.cons.injEq, Prod.mk.injEq, CanonicalData.str.injEq, true_and] at h
  exact ⟨h.1, h.2.2.1⟩

/-- A digest is taken of different data for every difference: its label is in it. -/
theorem nodup_dataOf (hkind : Lawful kind) (localEntities externalEntities : List α) :
    ((entityDifferences kind localEntities externalEntities).map
      (dataOf kind reconciliationId localText externalText)).Nodup := by
  have hlabels : ((entityDifferences kind localEntities externalEntities).map Difference.label).Nodup :=
    KeyedDiff.nodup_labels hkind.fields_nodup localEntities externalEntities
  have hcategories := hkind.categories_nodup
  rw [categories_eq] at hcategories
  refine List.Nodup.map_on ?_ (List.Nodup.of_map _ hlabels)
  intro d hd d' hd' hdata
  obtain ⟨hcategory, hkey⟩ := mismatchIdData_inj hdata
  have hlabel := List.inj_on_of_nodup_map hcategories (label_mem hd) (label_mem hd') hcategory
  refine List.inj_on_of_nodup_map hlabels hd hd' (Prod.ext ?_ hlabel)
  rw [d.label_fst, d'.label_fst, hkey]

/-- **One comparison.** It returns when the values of all differences are accepted, and then the mismatch of each. -/
theorem compareEntities_eq_ok (hkind : Lawful kind) {mismatches : List ReconciliationMismatch} :
    compareEntities sha kind reconciliationId localText externalText localEntities externalEntities = .ok mismatches ↔
      (∀ d ∈ entityDifferences kind localEntities externalEntities,
        (∀ s ∈ localValueOf localText d, TextWithin mismatchValueMaxLength s) ∧
        ∀ s ∈ externalValueOf externalText d, TextWithin mismatchValueMaxLength s) ∧
      mismatches = (entityDifferences kind localEntities externalEntities).map
        (mismatchFor sha kind reconciliationId localText externalText) := by
  rw [compareEntities_eq]
  have hbuilt : ∀ d, ((mismatchFor sha kind reconciliationId localText externalText d).Valid) →
      (mismatchFor sha kind reconciliationId localText externalText d).validate
        = .ok (mismatchFor sha kind reconciliationId localText externalText d) := fun d h =>
    ReconciliationMismatch.validate_eq_ok.mpr ⟨h, rfl⟩
  constructor
  · intro h
    have hvalid : ∀ d ∈ entityDifferences kind localEntities externalEntities,
        (mismatchFor sha kind reconciliationId localText externalText d).Valid := by
      intro d hd
      obtain ⟨_, hm⟩ := ok_of_mapM h d hd
      exact (ReconciliationMismatch.validate_eq_ok.mp hm).1
    rw [mapM_ok fun d hd => hbuilt d (hvalid d hd)] at h
    exact ⟨fun d hd => (mismatchFor_valid sha hkind hd).mp (hvalid d hd), (Except.ok.inj h).symm⟩
  · rintro ⟨htexts, rfl⟩
    exact mapM_ok fun d hd => hbuilt d ((mismatchFor_valid sha hkind hd).mpr (htexts d hd))

/-- Every value that differs between entities of one identity is written with at most 512 characters. -/
def DifferingTextsWithin (kind : EntityKind α) (localText externalText : String → String → ℚ → String)
    (localEntities externalEntities : List α) : Prop :=
  ∀ a ∈ localEntities, ∀ b ∈ externalEntities, kind.identity b = kind.identity a →
    ∀ f ∈ kind.fields, f.value a ≠ f.value b →
      (∀ s ∈ (f.value a).format (localText (kind.identity a) f.category), TextWithin mismatchValueMaxLength s) ∧
      ∀ s ∈ (f.value b).format (externalText (kind.identity a) f.category), TextWithin mismatchValueMaxLength s

/-- The condition does not tell the sides apart. -/
theorem DifferingTextsWithin.swap
    (h : DifferingTextsWithin kind localText externalText localEntities externalEntities) :
    DifferingTextsWithin kind externalText localText externalEntities localEntities := by
  intro b hb a ha hkey f hf hne
  obtain ⟨hlocal, hexternal⟩ := h a ha b hb hkey.symm f hf hne.symm
  rw [hkey] at hlocal hexternal
  exact ⟨hexternal, hlocal⟩

theorem DifferingTextsWithin.perm {localEntities' externalEntities' : List α}
    (h : DifferingTextsWithin kind localText externalText localEntities externalEntities)
    (hlocal : localEntities.Perm localEntities') (hexternal : externalEntities.Perm externalEntities') :
    DifferingTextsWithin kind localText externalText localEntities' externalEntities' := by
  intro a ha b hb
  exact h a (hlocal.mem_iff.mpr ha) b (hexternal.mem_iff.mpr hb)

theorem presentValue_within : TextWithin mismatchValueMaxLength presentValue := by decide

theorem textsWithin_iff (hlocal : Dictionary.UniqueKeys kind.identity localEntities)
    (hexternal : Dictionary.UniqueKeys kind.identity externalEntities) :
    (∀ d ∈ entityDifferences kind localEntities externalEntities,
        (∀ s ∈ localValueOf localText d, TextWithin mismatchValueMaxLength s) ∧
        ∀ s ∈ externalValueOf externalText d, TextWithin mismatchValueMaxLength s) ↔
      DifferingTextsWithin kind localText externalText localEntities externalEntities := by
  simp only [entityDifferences, KeyedDiff.mem_differences hlocal hexternal]
  constructor
  · intro h a ha b hb hkey f hf hne
    exact h _ (.field ha hb hkey hf hne)
  · intro h d hd
    cases hd with
    | missingLeft hb hnone =>
        refine ⟨fun s hs => absurd hs (Option.not_mem_none s), fun s hs => ?_⟩
        cases hs
        exact presentValue_within
    | missingRight ha hnone =>
        refine ⟨fun s hs => ?_, fun s hs => absurd hs (Option.not_mem_none s)⟩
        cases hs
        exact presentValue_within
    | field ha hb hkey hf hne => exact h _ ha _ hb hkey _ hf hne

end Kind

/-! ## Positions and balances -/

theorem positionKind_lawful : Lawful positionKind where
  categories_within := by decide
  categories_nodup := by decide
  local_within := by decide
  external_within := by decide

theorem balanceKind_lawful : Lawful balanceKind where
  categories_within := by decide
  categories_nodup := by decide
  local_within := by decide
  external_within := by decide

theorem categories_disjoint : ∀ c ∈ positionKind.categories, c ∉ balanceKind.categories := by decide

section Snapshots

variable (reconciliationId exchange : String) (accountId : AccountId)
  (localSnapshot externalSnapshot : PortfolioSnapshot) (startedAt completedAt : UTCDateTime)

/-- What two snapshots differ in, positions first. -/
structure SnapshotDifferences where
  positions : List (EntityDifference Position)
  balances : List (EntityDifference CashBalance)

namespace SnapshotDifferences

variable (differences : SnapshotDifferences)

def mirror : SnapshotDifferences where
  positions := differences.positions.map Difference.mirror
  balances := differences.balances.map Difference.mirror

/-- Every difference of the snapshots once, and nothing else. -/
structure Exact : Prop where
  positions : ∀ d, d ∈ differences.positions ↔
    KeyedDiff.Differs positionKind.identity positionKind.fields (fun p f => f.value p) localSnapshot.positions
      externalSnapshot.positions d
  balances : ∀ d, d ∈ differences.balances ↔
    KeyedDiff.Differs balanceKind.identity balanceKind.fields (fun b f => f.value b) localSnapshot.balances
      externalSnapshot.balances d
  positions_once : (differences.positions.map Difference.label).Nodup
  balances_once : (differences.balances.map Difference.label).Nodup

def mismatches : List ReconciliationMismatch :=
  differences.positions.map (mismatchFor sha positionKind reconciliationId localSnapshot.decimalText
      externalSnapshot.decimalText) ++
    differences.balances.map (mismatchFor sha balanceKind reconciliationId localSnapshot.decimalText
      externalSnapshot.decimalText)

/-- What the ids of the mismatches are digests of. -/
def data : List CanonicalData :=
  differences.positions.map (dataOf positionKind reconciliationId localSnapshot.decimalText
      externalSnapshot.decimalText) ++
    differences.balances.map (dataOf balanceKind reconciliationId localSnapshot.decimalText
      externalSnapshot.decimalText)

end SnapshotDifferences

def snapshotDifferences : SnapshotDifferences where
  positions := entityDifferences positionKind localSnapshot.positions externalSnapshot.positions
  balances := entityDifferences balanceKind localSnapshot.balances externalSnapshot.balances

structure InScope (exchange : String) (accountId : AccountId) (snapshot : PortfolioSnapshot) : Prop where
  positions : ∀ p ∈ snapshot.positions, p.exchange = exchange ∧ p.accountId = accountId
  balances : ∀ b ∈ snapshot.balances, b.exchange = exchange ∧ b.accountId = accountId

/-- The same identities, and equal compared fields under each. -/
structure SnapshotsAgree : Prop where
  positions : KeyedDiff.Agree positionKind.identity positionKind.fields (fun p f => f.value p)
    localSnapshot.positions externalSnapshot.positions
  balances : KeyedDiff.Agree balanceKind.identity balanceKind.fields (fun b f => f.value b)
    localSnapshot.balances externalSnapshot.balances

/-- The same values in another order. -/
structure Reordered (snapshot reordered : PortfolioSnapshot) : Prop where
  positions : snapshot.positions.Perm reordered.positions
  balances : snapshot.balances.Perm reordered.balances
  texts : reordered.decimalText = snapshot.decimalText

structure TextsWithin : Prop where
  positions : DifferingTextsWithin positionKind localSnapshot.decimalText externalSnapshot.decimalText
    localSnapshot.positions externalSnapshot.positions
  balances : DifferingTextsWithin balanceKind localSnapshot.decimalText externalSnapshot.decimalText
    localSnapshot.balances externalSnapshot.balances

/-- What a result says about the snapshots, and what the comparison returns for exchanged and reordered ones. -/
structure Reports (result : ReconciliationResult) (differences : SnapshotDifferences) : Prop where
  gate : result.tradingGateReleased = true ↔ SnapshotsAgree localSnapshot externalSnapshot
  complete : differences.Exact localSnapshot externalSnapshot
  mismatches : result.mismatches = differences.mismatches sha reconciliationId localSnapshot externalSnapshot
  ids_distinct :
    Set.InjOn (shortDigest sha) {v | v ∈ differences.data reconciliationId localSnapshot externalSnapshot} →
      (result.mismatches.map ReconciliationMismatch.mismatchId).Nodup
  exchanged : reconcilePortfolioSnapshots sha reconciliationId exchange accountId externalSnapshot localSnapshot
    startedAt completedAt = .ok { result with
      mismatches := differences.mirror.mismatches sha reconciliationId externalSnapshot localSnapshot }
  reordered : ∀ {localSnapshot' externalSnapshot' : PortfolioSnapshot}, Reordered localSnapshot localSnapshot' →
    Reordered externalSnapshot externalSnapshot' →
    reconcilePortfolioSnapshots sha reconciliationId exchange accountId localSnapshot' externalSnapshot' startedAt
      completedAt = .ok result

/-- The reconciliation returns, and its result says what it should. -/
def Reconciles : Prop :=
  ∃ result differences,
    reconcilePortfolioSnapshots sha reconciliationId exchange accountId localSnapshot externalSnapshot startedAt
      completedAt = .ok result ∧
    Reports sha reconciliationId exchange accountId localSnapshot externalSnapshot startedAt completedAt result
      differences

variable {sha reconciliationId exchange accountId localSnapshot externalSnapshot startedAt completedAt}

theorem exact_snapshotDifferences :
    (snapshotDifferences localSnapshot externalSnapshot).Exact localSnapshot externalSnapshot where
  positions _ := KeyedDiff.mem_differences localSnapshot.positions_unique externalSnapshot.positions_unique
  balances _ := KeyedDiff.mem_differences localSnapshot.balances_unique externalSnapshot.balances_unique
  positions_once := KeyedDiff.nodup_labels positionKind_lawful.fields_nodup _ _
  balances_once := KeyedDiff.nodup_labels balanceKind_lawful.fields_nodup _ _

theorem snapshotDifferences_mirror :
    snapshotDifferences externalSnapshot localSnapshot =
      (snapshotDifferences localSnapshot externalSnapshot).mirror := by
  have hpositions : entityDifferences positionKind externalSnapshot.positions localSnapshot.positions = _ :=
    KeyedDiff.differences_swap _ _
  have hbalances : entityDifferences balanceKind externalSnapshot.balances localSnapshot.balances = _ :=
    KeyedDiff.differences_swap _ _
  rw [snapshotDifferences, hpositions, hbalances]
  rfl

theorem snapshotDifferences_reordered {localSnapshot' externalSnapshot' : PortfolioSnapshot}
    (hlocal : Reordered localSnapshot localSnapshot') (hexternal : Reordered externalSnapshot externalSnapshot') :
    snapshotDifferences localSnapshot' externalSnapshot' = snapshotDifferences localSnapshot externalSnapshot := by
  have hpositions : entityDifferences positionKind localSnapshot'.positions externalSnapshot'.positions = _ :=
    KeyedDiff.differences_perm localSnapshot.positions_unique externalSnapshot.positions_unique hlocal.positions
      hexternal.positions
  have hbalances : entityDifferences balanceKind localSnapshot'.balances externalSnapshot'.balances = _ :=
    KeyedDiff.differences_perm localSnapshot.balances_unique externalSnapshot.balances_unique hlocal.balances
      hexternal.balances
  rw [snapshotDifferences, hpositions, hbalances]
  rfl

theorem validateSnapshotScope_eq_ok {snapshot : PortfolioSnapshot} {label : String} {u : Unit} :
    validateSnapshotScope snapshot exchange accountId label = .ok u ↔ InScope exchange accountId snapshot := by
  simp only [validateSnapshotScope, bind_eq_ok, forM_eq_ok, raiseIf_eq_ok, exists_const, not_not]
  constructor
  · rintro ⟨hpositions, hbalances⟩
    exact ⟨hpositions, hbalances⟩
  · rintro ⟨hpositions, hbalances⟩
    exact ⟨hpositions, hbalances⟩

/-- Every built mismatch has the severity `mismatch`, so the status is never unknown. -/
theorem statusForMismatches_mismatches (differences : SnapshotDifferences) :
    statusForMismatches (differences.mismatches sha reconciliationId localSnapshot externalSnapshot) =
      if differences.mismatches sha reconciliationId localSnapshot externalSnapshot = [] then .healthy
      else .mismatch := by
  have hseverity : ¬(differences.mismatches sha reconciliationId localSnapshot externalSnapshot).any
      (fun mismatch => mismatch.severity = reconciliationSeverityUnknown) = true := by
    rw [List.any_eq_true]
    rintro ⟨m, hm, hunknown⟩
    have hsame : m.severity = reconciliationSeverityMismatch := by
      rcases List.mem_append.mp hm with hm | hm
      · obtain ⟨d, -, rfl⟩ := List.mem_map.mp hm; rfl
      · obtain ⟨d, -, rfl⟩ := List.mem_map.mp hm; rfl
    rw [hsame] at hunknown
    exact absurd hunknown (by decide)
  rw [statusForMismatches, if_neg hseverity]

theorem mismatches_eq_nil {differences : SnapshotDifferences} :
    differences.mismatches sha reconciliationId localSnapshot externalSnapshot = [] ↔
      differences.positions = [] ∧ differences.balances = [] := by
  rw [SnapshotDifferences.mismatches, List.append_eq_nil_iff, List.map_eq_nil_iff, List.map_eq_nil_iff]

theorem mirror_mismatches_eq_nil {differences : SnapshotDifferences} :
    differences.mirror.mismatches sha reconciliationId externalSnapshot localSnapshot = [] ↔
      differences.mismatches sha reconciliationId localSnapshot externalSnapshot = [] := by
  rw [mismatches_eq_nil, mismatches_eq_nil, SnapshotDifferences.mirror, List.map_eq_nil_iff, List.map_eq_nil_iff]

theorem InScope.reordered {snapshot reordered : PortfolioSnapshot} (h : InScope exchange accountId snapshot)
    (hreordered : Reordered snapshot reordered) : InScope exchange accountId reordered where
  positions p hp := h.positions p (hreordered.positions.mem_iff.mpr hp)
  balances b hb := h.balances b (hreordered.balances.mem_iff.mpr hb)

theorem snapshotsAgree_iff : SnapshotsAgree localSnapshot externalSnapshot ↔
    (snapshotDifferences localSnapshot externalSnapshot).mismatches sha reconciliationId localSnapshot
      externalSnapshot = [] := by
  have hpositions : (snapshotDifferences localSnapshot externalSnapshot).positions = [] ↔ _ :=
    KeyedDiff.differences_eq_nil localSnapshot.positions_unique externalSnapshot.positions_unique
  have hbalances : (snapshotDifferences localSnapshot externalSnapshot).balances = [] ↔ _ :=
    KeyedDiff.differences_eq_nil localSnapshot.balances_unique externalSnapshot.balances_unique
  rw [mismatches_eq_nil, hpositions, hbalances]
  exact ⟨fun h => ⟨h.positions, h.balances⟩, fun h => ⟨h.1, h.2⟩⟩

/-- The result for a list of mismatches that a comparison found. -/
def resultWith (reconciliationId exchange : String) (accountId : AccountId)
    (localSnapshot externalSnapshot : PortfolioSnapshot) (startedAt completedAt : UTCDateTime)
    (mismatches : List ReconciliationMismatch) : ReconciliationResult where
  reconciliationId := reconciliationId
  exchange := exchange
  accountId := accountId
  startedAt := startedAt
  completedAt := completedAt
  status := if mismatches = [] then .healthy else .mismatch
  mismatches := mismatches
  openOrdersChecked := 0
  positionsChecked := (KeyedDiff.keys positionKind.identity localSnapshot.positions externalSnapshot.positions).length
  balancesChecked := (KeyedDiff.keys balanceKind.identity localSnapshot.balances externalSnapshot.balances).length
  fillsChecked := 0
  tradingGateReleased := mismatches = []

section InScope

variable (hid : TextWithin portfolioIdMaxLength reconciliationId) (hexchange : TextWithin 64 exchange)
  (htimes : startedAt < completedAt)

include hid hexchange htimes

variable (sha accountId localSnapshot externalSnapshot) in
theorem buildReconciliationResult_ok (differences : SnapshotDifferences) :
    buildReconciliationResult reconciliationId exchange accountId startedAt completedAt
        (differences.mismatches sha reconciliationId localSnapshot externalSnapshot) 0
        (KeyedDiff.keys positionKind.identity localSnapshot.positions externalSnapshot.positions).length
        (KeyedDiff.keys balanceKind.identity localSnapshot.balances externalSnapshot.balances).length 0
      = .ok (resultWith reconciliationId exchange accountId localSnapshot externalSnapshot startedAt completedAt
          (differences.mismatches sha reconciliationId localSnapshot externalSnapshot)) := by
  rw [buildReconciliationResult, statusForMismatches_mismatches]
  refine ReconciliationResult.validate_eq_ok.mpr ⟨⟨hid, hexchange, htimes, ?_, ?_, ?_⟩, ?_⟩
  · rintro ⟨hhealthy, hne⟩
    rw [if_neg hne] at hhealthy
    cases hhealthy
  · rintro ⟨hmismatch, hnil⟩
    rw [if_pos hnil] at hmismatch
    cases hmismatch
  · rintro ⟨hnot, hreleased⟩
    exact hnot (of_decide_eq_true hreleased)
  · unfold resultWith
    congr 1
    refine decide_eq_decide.mpr ?_
    split_ifs with hnil
    · simp [hnil]
    · simp [hnil]

variable (hlocal : InScope exchange accountId localSnapshot) (hexternal : InScope exchange accountId externalSnapshot)

include hlocal hexternal

/-- **When a reconciliation returns**, and what: one mismatch for each difference. -/
theorem reconcilePortfolioSnapshots_eq_ok {result : ReconciliationResult} :
    reconcilePortfolioSnapshots sha reconciliationId exchange accountId localSnapshot externalSnapshot startedAt
        completedAt = .ok result ↔
      TextsWithin localSnapshot externalSnapshot ∧
      result = resultWith reconciliationId exchange accountId localSnapshot externalSnapshot startedAt completedAt
        ((snapshotDifferences localSnapshot externalSnapshot).mismatches sha reconciliationId localSnapshot
          externalSnapshot) := by
  have hbuild := buildReconciliationResult_ok sha accountId localSnapshot externalSnapshot hid hexchange htimes
    (snapshotDifferences localSnapshot externalSnapshot)
  simp only [reconcilePortfolioSnapshots, bind_eq_ok, validateSnapshotScope_eq_ok, comparePositions, compareBalances,
    compareEntities_eq_ok sha positionKind_lawful, compareEntities_eq_ok sha balanceKind_lawful, exists_const]
  constructor
  · rintro ⟨-, -, ps, ⟨hpositions, rfl⟩, bs, ⟨hbalances, rfl⟩, hresult⟩
    refine ⟨⟨(textsWithin_iff localSnapshot.positions_unique externalSnapshot.positions_unique).mp hpositions,
      (textsWithin_iff localSnapshot.balances_unique externalSnapshot.balances_unique).mp hbalances⟩, ?_⟩
    exact Except.ok.inj (hresult.symm.trans hbuild)
  · rintro ⟨htexts, rfl⟩
    exact ⟨hlocal, hexternal, _,
      ⟨(textsWithin_iff localSnapshot.positions_unique externalSnapshot.positions_unique).mpr htexts.positions, rfl⟩, _,
      ⟨(textsWithin_iff localSnapshot.balances_unique externalSnapshot.balances_unique).mpr htexts.balances, rfl⟩,
      hbuild⟩

variable (sha) in
/-- **What a result reports**, for every pair of snapshots for which there is one. -/
theorem reports_snapshotDifferences (htexts : TextsWithin localSnapshot externalSnapshot) :
    Reports sha reconciliationId exchange accountId localSnapshot externalSnapshot startedAt completedAt
      (resultWith reconciliationId exchange accountId localSnapshot externalSnapshot startedAt completedAt
        ((snapshotDifferences localSnapshot externalSnapshot).mismatches sha reconciliationId localSnapshot
          externalSnapshot))
      (snapshotDifferences localSnapshot externalSnapshot) where
  gate := by
    rw [@snapshotsAgree_iff sha reconciliationId]
    exact decide_eq_true_iff
  complete := exact_snapshotDifferences
  mismatches := rfl
  ids_distinct hinj := by
    have hdata : ((snapshotDifferences localSnapshot externalSnapshot).data reconciliationId localSnapshot
        externalSnapshot).Nodup := by
      refine (nodup_dataOf positionKind_lawful _ _).append (nodup_dataOf balanceKind_lawful _ _) ?_
      intro v hposition hbalance
      obtain ⟨d, hd, rfl⟩ := List.mem_map.mp hposition
      obtain ⟨d', hd', hsame⟩ := List.mem_map.mp hbalance
      -- a position and a balance are never reported under one category
      have hcategory := (mismatchIdData_inj hsame).1
      exact categories_disjoint _ (categoryOf_mem hd) (hcategory ▸ categoryOf_mem hd')
    have hids : (((snapshotDifferences localSnapshot externalSnapshot).data reconciliationId localSnapshot
        externalSnapshot).map fun v => "recon_mismatch_" ++ shortDigest sha v).Nodup := by
      refine hdata.map_on fun v hv v' hv' h => hinj hv hv' ?_
      exact String.append_right_inj _ |>.mp h
    have heq : ((snapshotDifferences localSnapshot externalSnapshot).mismatches sha reconciliationId localSnapshot
        externalSnapshot).map ReconciliationMismatch.mismatchId
        = ((snapshotDifferences localSnapshot externalSnapshot).data reconciliationId localSnapshot
          externalSnapshot).map fun v => "recon_mismatch_" ++ shortDigest sha v := by
      rw [SnapshotDifferences.mismatches, SnapshotDifferences.data, List.map_append, List.map_append, List.map_map,
        List.map_map, List.map_map, List.map_map]
      rfl
    exact heq ▸ hids
  exchanged := by
    have hswap : TextsWithin externalSnapshot localSnapshot := ⟨htexts.positions.swap, htexts.balances.swap⟩
    refine (reconcilePortfolioSnapshots_eq_ok hid hexchange htimes hexternal hlocal).mpr ⟨hswap, ?_⟩
    have hmirror := @snapshotDifferences_mirror localSnapshot externalSnapshot
    have hnil := @mirror_mismatches_eq_nil sha reconciliationId localSnapshot externalSnapshot
      (snapshotDifferences localSnapshot externalSnapshot)
    have hpositions := KeyedDiff.keys_swap positionKind.identity localSnapshot.positions externalSnapshot.positions
    have hbalances := KeyedDiff.keys_swap balanceKind.identity localSnapshot.balances externalSnapshot.balances
    unfold resultWith
    rw [hmirror, hpositions, hbalances]
    simp only [hnil]
  reordered := by
    intro localSnapshot' externalSnapshot' hlocal' hexternal'
    have htexts' : TextsWithin localSnapshot' externalSnapshot' := by
      constructor
      · rw [hlocal'.texts, hexternal'.texts]
        exact htexts.positions.perm hlocal'.positions hexternal'.positions
      · rw [hlocal'.texts, hexternal'.texts]
        exact htexts.balances.perm hlocal'.balances hexternal'.balances
    refine (reconcilePortfolioSnapshots_eq_ok hid hexchange htimes (hlocal.reordered hlocal')
      (hexternal.reordered hexternal')).mpr ⟨htexts', ?_⟩
    have hpositions := KeyedDiff.keys_perm positionKind.identity hlocal'.positions hexternal'.positions
    have hbalances := KeyedDiff.keys_perm balanceKind.identity hlocal'.balances hexternal'.balances
    unfold resultWith SnapshotDifferences.mismatches
    rw [snapshotDifferences_reordered hlocal' hexternal', hlocal'.texts, hexternal'.texts, hpositions, hbalances]

/-- **Reconciliation.** It returns a result that reports exactly the differences of the snapshots if and only if every
    differing value is written with at most 512 characters. -/
theorem reconciles_iff :
    Reconciles sha reconciliationId exchange accountId localSnapshot externalSnapshot startedAt completedAt ↔
      TextsWithin localSnapshot externalSnapshot := by
  constructor
  · rintro ⟨result, _, hresult, -⟩
    exact ((reconcilePortfolioSnapshots_eq_ok hid hexchange htimes hlocal hexternal).mp hresult).1
  · intro htexts
    exact ⟨_, _, (reconcilePortfolioSnapshots_eq_ok hid hexchange htimes hlocal hexternal).mpr ⟨htexts, rfl⟩,
      reports_snapshotDifferences sha hid hexchange htimes hlocal hexternal htexts⟩

end InScope

end Snapshots

/-! ## A long number -/

def eur : Currency := ⟨"EUR", by decide⟩

def reconAccount : AccountId := ⟨"acct_recon", by decide⟩

/-- A position without money in it. -/
def barePosition (quantity : ℚ) : Position where
  positionId := ⟨"pos_recon", by decide⟩
  exchange := "kalshi"
  accountId := reconAccount
  marketId := ⟨"mkt_recon", by decide⟩
  contractId := ⟨"ctr_recon", by decide⟩
  outcomeId := ⟨"out_recon", by decide⟩
  quantity := quantity
  averageEntryPrice := none
  realizedPnl := zeroMoney eur
  unrealizedPnl := zeroMoney eur
  feesPaid := zeroMoney eur
  rebatesReceived := zeroMoney eur
  openedAt := none
  lastUpdatedAt := 0
  aggregateVersion := 0

/-- 600 nines. -/
def longQuantity : ℚ := 10 ^ 600 - 1

/-- A snapshot of one position, in which only zero and 600 nines are written. -/
def onePosition (quantity : ℚ) : PortfolioSnapshot where
  positions := [barePosition quantity]
  balances := []
  decimalText _ _ value := if value = longQuantity then String.ofList (List.replicate 600 '9') else "0"
  positions_unique := List.pairwise_singleton _ _
  balances_unique := List.Pairwise.nil

theorem inScope_onePosition (quantity : ℚ) : InScope "kalshi" reconAccount (onePosition quantity) where
  positions p hp := by rw [List.mem_singleton.mp hp]; exact ⟨rfl, rfl⟩
  balances b hb := absurd hb List.not_mem_nil

theorem recon_within : TextWithin portfolioIdMaxLength "recon_1" := by decide

theorem kalshi_within : TextWithin 64 "kalshi" := by decide

theorem reconciles_iff_longQuantity :
    Reconciles Sha256.constant "recon_1" "kalshi" reconAccount (onePosition longQuantity) (onePosition 0) 0 1 ↔
      TextsWithin (onePosition longQuantity) (onePosition 0) :=
  reconciles_iff recon_within kalshi_within one_pos (inScope_onePosition _) (inScope_onePosition _)

/-- The quantities differ, and the mismatch does not hold the text of the longer one. -/
theorem longQuantity_not_reconciled :
    ¬Reconciles Sha256.constant "recon_1" "kalshi" reconAccount (onePosition longQuantity) (onePosition 0) 0 1 := by
  rintro ⟨result, _, hresult, -⟩
  have htexts := ((reconcilePortfolioSnapshots_eq_ok recon_within kalshi_within one_pos (inScope_onePosition _)
    (inScope_onePosition _)).mp hresult).1
  have hne : ComparedValue.decimal (some longQuantity) ≠ ComparedValue.decimal (some 0) := by
    intro h
    have hzero : longQuantity = 0 := Option.some.inj (ComparedValue.decimal.inj h)
    have hpow : (1 : ℚ) < 10 ^ 600 := one_lt_pow₀ (by norm_num) (by norm_num)
    exact absurd hzero (sub_pos.mpr hpow).ne'
  have hlong := (htexts.positions (barePosition longQuantity) (List.mem_singleton_self _) (barePosition 0)
    (List.mem_singleton_self _) rfl ⟨"position.quantity", fun p => .decimal (some p.quantity)⟩
    (by simp [positionKind]) hne).1 _ rfl
  have hlength : (if longQuantity = longQuantity then String.ofList (List.replicate 600 '9') else "0").length ≤ 512 :=
    hlong.2
  rw [if_pos rfl, String.length_ofList, List.length_replicate] at hlength
  exact absurd hlength (by decide)

end Reconciliation
end Pmrp
