import Pmrp.Portfolio.Projections

/-!
# `Portfolio.Correctness.FillBatches` — order, repetition and splitting of a batch

What `apply_fills_once` makes of a batch depends on its set of fills only (`batchLaws`). A validated batch has
one payload for each fill id, so the sort key is total on it; a fill that was applied is skipped, so of a
sorted batch only the first occurrences count.
-/

namespace Pmrp
namespace Projections

variable {ctx : DecimalContext} {sha : Sha256} {args : FillBatchArguments} {fills : List Fill}

/-! ## Validation -/

theorem validateFillPayloads_eq_ok {fillById : FillId → Option Fill} {u : Unit} :
    validateFillPayloads fillById fills = .ok u ↔
      (∀ f ∈ fills, ∀ g ∈ fillById f.fillId, g = f) ∧ ¬Conflicting fills := by
  induction fills generalizing fillById with
  | nil =>
      refine ⟨fun _ => ⟨fun f hf => absurd hf List.not_mem_nil, ?_⟩, fun _ => rfl⟩
      rintro ⟨f, hf, -⟩
      exact List.not_mem_nil hf
  | cons fill fills ih =>
      simp only [validateFillPayloads, bind_eq_ok, raiseIf_eq_ok, exists_const, ih]
      constructor
      · rintro ⟨hprevious, hrest, hconflict⟩
        -- the rest was checked with this fill in the map, so its copies agree with it
        have hsame : ∀ f ∈ fills, f.fillId = fill.fillId → f = fill := by
          intro f hf hid
          exact (hrest f hf fill (by rw [if_pos hid]; rfl)).symm
        have hfirst : ∀ g ∈ fillById fill.fillId, g = fill := by
          intro g hg
          by_contra hne
          exact hprevious ⟨g, hg, hne⟩
        constructor
        · intro f hf g hg
          rcases List.mem_cons.mp hf with rfl | hf
          · exact hfirst g hg
          · by_cases hid : f.fillId = fill.fillId
            · rw [hid] at hg
              exact (hfirst g hg).trans (hsame f hf hid).symm
            · exact hrest f hf g (by rw [if_neg hid]; exact hg)
        · rintro ⟨f, hf, g, hg, hid, hne⟩
          rcases List.mem_cons.mp hf with hf' | hf' <;> rcases List.mem_cons.mp hg with hg' | hg'
          · exact hne (hf'.trans hg'.symm)
          · exact hne (hf'.trans (hsame g hg' (hid.symm.trans (congrArg Fill.fillId hf'))).symm)
          · exact hne ((hsame f hf' (hid.trans (congrArg Fill.fillId hg'))).trans hg'.symm)
          · exact hconflict ⟨f, hf', g, hg', hid, hne⟩
      · rintro ⟨hprevious, hconflict⟩
        refine ⟨?_, fun f hf g hg => ?_, ?_⟩
        · rintro ⟨g, hg, hne⟩
          exact hne (hprevious fill List.mem_cons_self g hg)
        · by_cases hid : f.fillId = fill.fillId
          · rw [if_pos hid] at hg
            obtain rfl : fill = g := Option.some.inj hg
            by_contra hne
            exact hconflict ⟨f, List.mem_cons_of_mem _ hf, fill, List.mem_cons_self, hid, Ne.symm hne⟩
          · rw [if_neg hid] at hg
            exact hprevious f (List.mem_cons_of_mem _ hf) g hg
        · rintro ⟨f, hf, g, hg, hsame⟩
          exact hconflict ⟨f, List.mem_cons_of_mem _ hf, g, List.mem_cons_of_mem _ hg, hsame⟩

theorem validateFillPayloads_error {fillById : FillId → Option Fill} {e : PyError}
    (h : validateFillPayloads fillById fills = .error e) : e = conflictingPayload := by
  induction fills generalizing fillById with
  | nil => cases h
  | cons fill fills ih =>
      rw [validateFillPayloads, raiseIf] at h
      split_ifs at h
      · cases h
        rfl
      · exact ih h

theorem validateFillPayloads_start {u : Unit} :
    validateFillPayloads (fun _ => none) fills = .ok u ↔ ¬Conflicting fills := by
  rw [validateFillPayloads_eq_ok]
  exact ⟨fun h => h.2, fun h => ⟨fun _ _ _ hg => absurd hg (Option.not_mem_none _), h⟩⟩

theorem validateFillBatch_eq_ok {sourceEventIds : FillId → Option EventId} {u : Unit} :
    validateFillBatch fills sourceEventIds = .ok u ↔
      ¬Conflicting fills ∧ ¬MissingSource sourceEventIds fills := by
  simp only [validateFillBatch, bind_eq_ok, raiseIf_eq_ok, validateFillPayloads_start, exists_const]

theorem validateFillBatch_conflicting (sourceEventIds : FillId → Option EventId) (h : Conflicting fills) :
    validateFillBatch fills sourceEventIds = .error conflictingPayload := by
  rw [validateFillBatch]
  cases hpayloads : validateFillPayloads (fun _ => none) fills with
  | error e => rw [validateFillPayloads_error hpayloads, error_bind]
  | ok u => exact absurd h (validateFillPayloads_start.mp hpayloads)

theorem validateFillBatch_missing {sourceEventIds : FillId → Option EventId} (hconflict : ¬Conflicting fills)
    (h : MissingSource sourceEventIds fills) :
    validateFillBatch fills sourceEventIds = .error missingSourceEventId := by
  rw [validateFillBatch, (validateFillPayloads_start (u := ⟨⟩)).mpr hconflict, ok_bind, raiseIf, if_pos h]

theorem Conflicting.mono {other : List Fill} (h : Conflicting other) (hsub : ∀ f ∈ other, f ∈ fills) :
    Conflicting fills := by
  obtain ⟨f, hf, g, hg, hsame⟩ := h
  exact ⟨f, hsub f hf, g, hsub g hg, hsame⟩

theorem MissingSource.mono {sourceEventIds : FillId → Option EventId} {other : List Fill}
    (h : MissingSource sourceEventIds other) (hsub : ∀ f ∈ other, f ∈ fills) :
    MissingSource sourceEventIds fills := by
  obtain ⟨f, hf, hnone⟩ := h
  exact ⟨f, hsub f hf, hnone⟩

/-- The key ends in the fill id, and a validated batch has one fill for each id. -/
theorem tiesEqual_of_not_conflicting (h : ¬Conflicting fills) : TiesEqual fillOrderKey fills := by
  intro f hf g hg hkey
  by_contra hne
  have hid : f.fillId.val = g.fillId.val := congrArg (fun k : FillOrderKey => (ofLex (ofLex k).2).2) hkey
  exact h ⟨f, hf, g, hg, Identifier.ext hid, hne⟩

/-! ## The loop -/

/-- What the loop keeps, without the results of its calls. -/
def FillBatch.toRun (batch : FillBatch) : FillRun := ⟨batch.position, batch.appliedFillIds, batch.journals⟩

def runStep (ctx : DecimalContext) (sha : Sha256) (args : FillBatchArguments) (run : FillRun) (fill : Fill) :
    Result FillRun := do
  let eventId ← sourceEventId args fill
  FillRun.step ctx sha args.currency args.positionId run ⟨fill, eventId, args.createdAt⟩

variable (ctx sha args) in
theorem step_toRun (batch : FillBatch) (fill : Fill) :
    (FillBatch.step ctx sha args batch fill).map FillBatch.toRun = runStep ctx sha args batch.toRun fill := by
  unfold FillBatch.step runStep FillRun.step
  cases sourceEventId args fill with
  | error e => rfl
  | ok eventId =>
      rw [ok_bind, ok_bind]
      dsimp only [FillBatch.toRun]
      cases applyFillOnce ctx sha batch.position fill batch.appliedFillIds args.currency eventId args.createdAt
        args.positionId <;> rfl

/-- The fill is applied and its source event is known. -/
def Absorbed (args : FillBatchArguments) (run : FillRun) (fill : Fill) : Prop :=
  fill.fillId ∈ run.appliedFillIds ∧ ∃ eventId, args.sourceEventIds fill.fillId = some eventId

theorem applyFillOnce_appliedFillIds {position : Option Position} {fill : Fill} {ids : Finset FillId}
    {currency : String} {eventId : EventId} {createdAt : UTCDateTime} {positionId : Option PositionId}
    {result : FillApplicationResult}
    (h : applyFillOnce ctx sha position fill ids currency eventId createdAt positionId = .ok result) :
    result.appliedFillIds = insert fill.fillId ids := by
  unfold applyFillOnce at h
  split_ifs at h with hmem
  · cases h
    exact (Finset.insert_eq_of_mem hmem).symm
  · simp only [bind_eq_ok] at h
    obtain ⟨projection, -, journalEntry, -, hresult⟩ := h
    cases hresult
    rfl

theorem sourceEventId_eq_ok {fill : Fill} {eventId : EventId} :
    sourceEventId args fill = .ok eventId ↔ args.sourceEventIds fill.fillId = some eventId := by
  unfold sourceEventId
  cases args.sourceEventIds fill.fillId with
  | none => simp
  | some e => simp

theorem runStep_ids {run run' : FillRun} {fill : Fill} (h : runStep ctx sha args run fill = .ok run') :
    run'.appliedFillIds = insert fill.fillId run.appliedFillIds ∧
      ∃ eventId, args.sourceEventIds fill.fillId = some eventId := by
  rw [runStep, bind_eq_ok] at h
  obtain ⟨eventId, heventId, h⟩ := h
  rw [FillRun.step, bind_eq_ok] at h
  obtain ⟨result, hresult, h⟩ := h
  cases h
  exact ⟨applyFillOnce_appliedFillIds hresult, eventId, sourceEventId_eq_ok.mp heventId⟩

theorem runStep_absorbed {run : FillRun} {fill : Fill} (h : Absorbed args run fill) :
    runStep ctx sha args run fill = .ok run := by
  obtain ⟨hmem, eventId, heventId⟩ := h
  rw [runStep, sourceEventId_eq_ok.mpr heventId, ok_bind, FillRun.step, applyFillOnce, if_pos hmem]
  show Except.ok (FillRun.mk run.position run.appliedFillIds (run.journals ++ [])) = .ok run
  rw [List.append_nil]

/-- **Only first occurrences count.** -/
theorem foldlM_runStep_eraseDups (fills : List Fill) (run : FillRun) :
    fills.foldlM (runStep ctx sha args) run = fills.eraseDups.foldlM (runStep ctx sha args) run := by
  refine foldlM_eraseDups (Absorbed args) ?_ ?_ (fun _ _ => runStep_absorbed) fills run
  · intro run fill run' h
    obtain ⟨hids, hsource⟩ := runStep_ids h
    exact ⟨hids ▸ Finset.mem_insert_self _ _, hsource⟩
  · intro run fill other run' habsorbed h
    exact ⟨(runStep_ids h).1 ▸ Finset.mem_insert_of_mem habsorbed.1, habsorbed.2⟩

variable (ctx sha args) in
/-- The journals of a run come after the ones it starts with. -/
theorem foldlM_runStep_journals (fills : List Fill) (run : FillRun) (journals : List AccountingJournalEntry) :
    (fills.foldlM (runStep ctx sha args) run).map
        (fun r => { r with journals := journals ++ r.journals })
      = fills.foldlM (runStep ctx sha args) { run with journals := journals ++ run.journals } := by
  refine foldlM_map_state (fun r : FillRun => { r with journals := journals ++ r.journals }) ?_ fills run
  intro run fill
  unfold runStep FillRun.step
  cases sourceEventId args fill with
  | error e => rfl
  | ok eventId =>
      rw [ok_bind, ok_bind]
      dsimp only
      cases applyFillOnce ctx sha run.position fill run.appliedFillIds args.currency eventId args.createdAt
          args.positionId with
      | error e => rfl
      | ok result =>
          have hassoc := List.append_assoc journals run.journals result.journalEntry.toList
          rw [ok_bind, ok_bind, hassoc]
          rfl

/-! ## Counting -/

/-- Every result is an application with its journal, or a duplicate without one. -/
structure Counted (batch : FillBatch) : Prop where
  applied : batch.results.countP (·.applied) = batch.journals.length
  total : batch.results.countP (·.applied) + batch.results.countP (·.duplicateFill) = batch.results.length

theorem applyFillOnce_counts {position : Option Position} {fill : Fill} {ids : Finset FillId}
    {currency : String} {eventId : EventId} {createdAt : UTCDateTime} {positionId : Option PositionId}
    {result : FillApplicationResult}
    (h : applyFillOnce ctx sha position fill ids currency eventId createdAt positionId = .ok result) :
    (result.applied = true ∧ result.duplicateFill = false ∧ result.journalEntry.toList.length = 1) ∨
    (result.applied = false ∧ result.duplicateFill = true ∧ result.journalEntry.toList.length = 0) := by
  unfold applyFillOnce at h
  split_ifs at h with hmem
  · cases h
    exact Or.inr ⟨rfl, rfl, rfl⟩
  · simp only [bind_eq_ok] at h
    obtain ⟨projection, -, journalEntry, -, hresult⟩ := h
    cases hresult
    exact Or.inl ⟨rfl, rfl, rfl⟩

theorem step_counts {batch batch' : FillBatch} {fill : Fill}
    (h : FillBatch.step ctx sha args batch fill = .ok batch') :
    (Counted batch → Counted batch') ∧ batch'.results.length = batch.results.length + 1 := by
  simp only [FillBatch.step, bind_eq_ok] at h
  obtain ⟨eventId, -, result, hresult, hbatch⟩ := h
  cases hbatch
  refine ⟨fun hcounted => ?_, List.length_append⟩
  obtain ⟨happlied, htotal⟩ := hcounted
  rcases applyFillOnce_counts hresult with ⟨ha, hd, hj⟩ | ⟨ha, hd, hj⟩
  · constructor <;> simp only [List.countP_append, List.countP_singleton, List.length_append,
      List.length_singleton, ha, hd, hj] <;> simp <;> omega
  · constructor <;> simp only [List.countP_append, List.countP_singleton, List.length_append,
      List.length_singleton, ha, hd, hj] <;> simp <;> omega

theorem foldlM_step_counts {fills : List Fill} {batch batch' : FillBatch} (hcounted : Counted batch)
    (h : fills.foldlM (FillBatch.step ctx sha args) batch = .ok batch') :
    Counted batch' ∧ batch'.results.length = batch.results.length + fills.length := by
  induction fills generalizing batch with
  | nil =>
      cases h
      exact ⟨hcounted, rfl⟩
  | cons fill fills ih =>
      rw [List.foldlM_cons, bind_eq_ok] at h
      obtain ⟨next, hnext, hrest⟩ := h
      obtain ⟨hkept, hlength⟩ := step_counts hnext
      obtain ⟨hcounted', hlength'⟩ := ih (hkept hcounted) hrest
      refine ⟨hcounted', ?_⟩
      rw [hlength', hlength, List.length_cons]
      omega

/-! ## Batches -/

variable {position : Option Position} {appliedFillIds : Finset FillId} {result : FillBatchApplicationResult}

/-- **A batch as a run.** An accepted batch leaves what the run over its sorted distinct fills leaves. -/
theorem applyFillsOnce_eq_ok (h : applyFillsOnce ctx sha args position appliedFillIds fills = .ok result) :
    (¬Conflicting fills ∧ ¬MissingSource args.sourceEventIds fills) ∧
    (sortByKey fillOrderKey fills).eraseDups.foldlM (runStep ctx sha args) ⟨position, appliedFillIds, []⟩
      = .ok ⟨result.position, result.appliedFillIds, result.journalEntries⟩ ∧
    result.appliedCount = result.journalEntries.length ∧
    result.appliedCount + result.duplicateFillCount = fills.length := by
  simp only [applyFillsOnce, bind_eq_ok] at h
  obtain ⟨u, hvalid, batch, hbatch, hresult⟩ := h
  cases hresult
  have hrun := foldlM_map_state FillBatch.toRun (step_toRun ctx sha args)
    (sortByKey fillOrderKey fills) ⟨position, appliedFillIds, [], []⟩
  rw [hbatch, foldlM_runStep_eraseDups] at hrun
  have hstart : Counted ⟨position, appliedFillIds, [], []⟩ := ⟨rfl, rfl⟩
  obtain ⟨hcounted, hlength⟩ := foldlM_step_counts hstart hbatch
  refine ⟨validateFillBatch_eq_ok.mp hvalid, hrun.symm, hcounted.applied, ?_⟩
  rw [hcounted.total, hlength, (sortByKey_perm fillOrderKey fills).length_eq]
  exact Nat.zero_add _

/-- A validated batch whose distinct fills can be run is accepted. -/
theorem applyFillsOnce_of_run {run : FillRun}
    (hvalid : ¬Conflicting fills ∧ ¬MissingSource args.sourceEventIds fills)
    (hrun : (sortByKey fillOrderKey fills).eraseDups.foldlM (runStep ctx sha args) ⟨position, appliedFillIds, []⟩
      = .ok run) :
    ∃ result, applyFillsOnce ctx sha args position appliedFillIds fills = .ok result ∧
      run = ⟨result.position, result.appliedFillIds, result.journalEntries⟩ := by
  have hview := foldlM_map_state FillBatch.toRun (step_toRun ctx sha args)
    (sortByKey fillOrderKey fills) ⟨position, appliedFillIds, [], []⟩
  rw [foldlM_runStep_eraseDups, FillBatch.toRun, hrun, map_eq_ok] at hview
  obtain ⟨batch, hbatch, rfl⟩ := hview
  have happlied : applyFillsOnce ctx sha args position appliedFillIds fills =
      .ok ⟨batch.position, batch.results, batch.journals, batch.appliedFillIds,
        batch.results.countP (·.applied), batch.results.countP (·.duplicateFill)⟩ := by
    rw [applyFillsOnce, (validateFillBatch_eq_ok (u := ⟨⟩)).mpr hvalid, ok_bind, hbatch, ok_bind]
    rfl
  exact ⟨_, happlied, rfl⟩

/-- What a batch does, in whatever order and however often its fills are listed. -/
structure BatchLaws (ctx : DecimalContext) (sha : Sha256) (args : FillBatchArguments)
    (position : Option Position) (appliedFillIds : Finset FillId) (fills : List Fill) : Prop where
  permuted : ∀ other, other.Perm fills →
    applyFillsOnce ctx sha args position appliedFillIds other
      = applyFillsOnce ctx sha args position appliedFillIds fills
  /-- The same fills in any order and number. -/
  repeated : ∀ result, applyFillsOnce ctx sha args position appliedFillIds fills = .ok result →
    ∀ other, (∀ f, f ∈ other ↔ f ∈ fills) →
    ∃ result', applyFillsOnce ctx sha args position appliedFillIds other = .ok result' ∧
      result'.position = result.position ∧ result'.journalEntries = result.journalEntries ∧
      result'.appliedFillIds = result.appliedFillIds ∧ result'.appliedCount = result.appliedCount ∧
      result'.duplicateFillCount + fills.length = result.duplicateFillCount + other.length
  split : ∀ result, applyFillsOnce ctx sha args position appliedFillIds fills = .ok result →
    ∀ xs ys, fills = xs ++ ys → (∀ x ∈ xs, ∀ y ∈ ys, fillOrderKey x ≤ fillOrderKey y) →
    ∃ first second, applyFillsOnce ctx sha args position appliedFillIds xs = .ok first ∧
      applyFillsOnce ctx sha args first.position first.appliedFillIds ys = .ok second ∧
      second.position = result.position ∧ second.appliedFillIds = result.appliedFillIds ∧
      first.journalEntries ++ second.journalEntries = result.journalEntries
  /-- The validation, which comes before the loop, raises. -/
  conflicting : Conflicting fills →
    validateFillBatch fills args.sourceEventIds = .error conflictingPayload ∧
    applyFillsOnce ctx sha args position appliedFillIds fills = .error conflictingPayload
  missing : ¬Conflicting fills → MissingSource args.sourceEventIds fills →
    validateFillBatch fills args.sourceEventIds = .error missingSourceEventId ∧
    applyFillsOnce ctx sha args position appliedFillIds fills = .error missingSourceEventId

theorem applyFillsOnce_rejected {e : PyError} (h : validateFillBatch fills args.sourceEventIds = .error e) :
    applyFillsOnce ctx sha args position appliedFillIds fills = .error e := by
  rw [applyFillsOnce, h, error_bind]

theorem applyFillsOnce_permuted {other : List Fill} (hperm : other.Perm fills) :
    applyFillsOnce ctx sha args position appliedFillIds other
      = applyFillsOnce ctx sha args position appliedFillIds fills := by
  have hmem : ∀ f, f ∈ other ↔ f ∈ fills := fun f => hperm.mem_iff
  by_cases hconflict : Conflicting fills
  · have hother := hconflict.mono fun f hf => (hmem f).mpr hf
    rw [applyFillsOnce_rejected (validateFillBatch_conflicting _ hother),
      applyFillsOnce_rejected (validateFillBatch_conflicting _ hconflict)]
  have hconflict' : ¬Conflicting other := fun h => hconflict (h.mono fun f hf => (hmem f).mp hf)
  by_cases hmissing : MissingSource args.sourceEventIds fills
  · have hother := hmissing.mono fun f hf => (hmem f).mpr hf
    rw [applyFillsOnce_rejected (validateFillBatch_missing hconflict' hother),
      applyFillsOnce_rejected (validateFillBatch_missing hconflict hmissing)]
  have hmissing' : ¬MissingSource args.sourceEventIds other := fun h =>
    hmissing (h.mono fun f hf => (hmem f).mp hf)
  unfold applyFillsOnce
  rw [(validateFillBatch_eq_ok (u := ⟨⟩)).mpr ⟨hconflict', hmissing'⟩,
    (validateFillBatch_eq_ok (u := ⟨⟩)).mpr ⟨hconflict, hmissing⟩,
    sortByKey_eq_of_perm (tiesEqual_of_not_conflicting hconflict) hperm]

theorem applyFillsOnce_repeated (h : applyFillsOnce ctx sha args position appliedFillIds fills = .ok result)
    {other : List Fill} (hmem : ∀ f, f ∈ other ↔ f ∈ fills) :
    ∃ result', applyFillsOnce ctx sha args position appliedFillIds other = .ok result' ∧
      result'.position = result.position ∧ result'.journalEntries = result.journalEntries ∧
      result'.appliedFillIds = result.appliedFillIds ∧ result'.appliedCount = result.appliedCount ∧
      result'.duplicateFillCount + fills.length = result.duplicateFillCount + other.length := by
  obtain ⟨⟨hconflict, hmissing⟩, hrun, happlied, htotal⟩ := applyFillsOnce_eq_ok h
  have hvalid : ¬Conflicting other ∧ ¬MissingSource args.sourceEventIds other :=
    ⟨fun h => hconflict (h.mono fun f hf => (hmem f).mp hf),
      fun h => hmissing (h.mono fun f hf => (hmem f).mp hf)⟩
  rw [← eraseDups_sortByKey_eq (tiesEqual_of_not_conflicting hconflict) hmem] at hrun
  obtain ⟨result', hresult', hsame⟩ := applyFillsOnce_of_run hvalid hrun
  obtain ⟨-, -, happlied', htotal'⟩ := applyFillsOnce_eq_ok hresult'
  obtain ⟨hposition, hids, hjournals⟩ := FillRun.mk.inj hsame
  refine ⟨result', hresult', hposition.symm, hjournals.symm, hids.symm, ?_, ?_⟩
  · rw [happlied', happlied, hjournals]
  · rw [happlied'] at htotal'
    rw [happlied, hjournals] at htotal
    omega

theorem applyFillsOnce_split (h : applyFillsOnce ctx sha args position appliedFillIds fills = .ok result)
    {xs ys : List Fill} (hsplit : fills = xs ++ ys)
    (hkeys : ∀ x ∈ xs, ∀ y ∈ ys, fillOrderKey x ≤ fillOrderKey y) :
    ∃ first second, applyFillsOnce ctx sha args position appliedFillIds xs = .ok first ∧
      applyFillsOnce ctx sha args first.position first.appliedFillIds ys = .ok second ∧
      second.position = result.position ∧ second.appliedFillIds = result.appliedFillIds ∧
      first.journalEntries ++ second.journalEntries = result.journalEntries := by
  obtain ⟨⟨hconflict, hmissing⟩, hrun, -, -⟩ := applyFillsOnce_eq_ok h
  subst hsplit
  have hvalid : ∀ part : List Fill, (∀ f ∈ part, f ∈ xs ++ ys) →
      ¬Conflicting part ∧ ¬MissingSource args.sourceEventIds part := fun part hpart =>
    ⟨fun h => hconflict (h.mono hpart), fun h => hmissing (h.mono hpart)⟩
  -- the sorted batch is the sorted first part followed by the sorted second part
  rw [← foldlM_runStep_eraseDups, sortByKey_append (tiesEqual_of_not_conflicting hconflict) hkeys,
    List.foldlM_append, bind_eq_ok] at hrun
  obtain ⟨middle, hfirst, hsecond⟩ := hrun
  rw [foldlM_runStep_eraseDups] at hfirst
  obtain ⟨first, happlied, rfl⟩ := applyFillsOnce_of_run (hvalid xs fun f => List.mem_append_left ys) hfirst
  -- the second call starts without journals
  have hjournals := foldlM_runStep_journals ctx sha args
    (sortByKey fillOrderKey ys) ⟨first.position, first.appliedFillIds, []⟩ first.journalEntries
  dsimp only at hjournals
  rw [List.append_nil, hsecond, map_eq_ok] at hjournals
  obtain ⟨last, hlast, hresult⟩ := hjournals
  rw [foldlM_runStep_eraseDups] at hlast
  obtain ⟨second, happlied', rfl⟩ := applyFillsOnce_of_run (hvalid ys fun f => List.mem_append_right xs) hlast
  obtain ⟨hposition, hids, hentries⟩ := FillRun.mk.inj hresult
  exact ⟨first, second, happlied, happlied', hposition, hids, hentries⟩

/-- **Batch laws.** For every batch, state and arguments. -/
theorem batchLaws (ctx : DecimalContext) (sha : Sha256) (args : FillBatchArguments)
    (position : Option Position) (appliedFillIds : Finset FillId) (fills : List Fill) :
    BatchLaws ctx sha args position appliedFillIds fills where
  permuted _ hperm := applyFillsOnce_permuted hperm
  repeated _ h _ hmem := applyFillsOnce_repeated h hmem
  split _ h _ _ hsplit hkeys := applyFillsOnce_split h hsplit hkeys
  conflicting h :=
    ⟨validateFillBatch_conflicting _ h, applyFillsOnce_rejected (validateFillBatch_conflicting _ h)⟩
  missing hconflict h :=
    ⟨validateFillBatch_missing hconflict h, applyFillsOnce_rejected (validateFillBatch_missing hconflict h)⟩

end Projections
end Pmrp
