import Mathlib.Data.String.Basic
import Pmrp.Storage.ReconciliationResults

/-!
# `Storage.Correctness.ReconciliationRuns` — what was added is what is read

After any calls of `add`, of which some are refused, each accepted result is read back with its mismatches in the order
of the selection, whether it is selected alone or with others whose mismatches come in one batch.

## Contents
- **Sorting.** `sortByKey_map`, `filter_flatMap_of_unique`.
- **One result.** `resultFromRows_of_stored`.
- **Many results.** `mismatchRowsFor_eq`: the batch, grouped by run, is what each run would select alone.
- **Runs of calls.** `Stored.add`, `stored_run`, `reads_of_run`.
-/

namespace Pmrp
namespace ReconciliationResultRepository

/-! ## Sorting and grouping -/

section Lists

variable {α β κ : Type} [LinearOrder κ]

theorem sortByKey_map (f : α → β) (key : β → κ) (l : List α) :
    sortByKey key (l.map f) = (sortByKey (fun a => key (f a)) l).map f := by
  unfold sortByKey
  rw [List.map_mergeSort (r := fun a b => decide (key (f a) ≤ key (f b))) (s := fun a b => decide (key a ≤ key b))]
  exact fun _ _ _ _ => rfl

/-- Where one element of a list makes all the values with a property, they are the values it makes. -/
theorem filter_flatMap_of_unique {l : List α} {f : α → List β} {p : β → Bool} {a : α} (ha : a ∈ l) (hnodup : l.Nodup)
    (hall : ∀ b ∈ f a, p b = true) (hnone : ∀ a' ∈ l, a' ≠ a → ∀ b ∈ f a', p b = false) :
    (l.flatMap f).filter p = f a := by
  induction l with
  | nil => cases ha
  | cons first l ih =>
      obtain ⟨hfirst, hl⟩ := List.nodup_cons.mp hnodup
      rw [List.flatMap_cons, List.filter_append]
      by_cases heq : first = a
      · subst heq
        have hrest : (l.flatMap f).filter p = [] := by
          refine List.filter_eq_nil_iff.mpr fun b hb => ?_
          obtain ⟨a', ha', hb'⟩ := List.mem_flatMap.mp hb
          have hne : a' ≠ first := fun h => hfirst (h ▸ ha')
          rw [hnone a' (List.mem_cons_of_mem first ha') hne b hb']
          exact Bool.false_ne_true
        rw [hrest, List.append_nil, List.filter_eq_self.mpr hall]
      · have hhead : (f first).filter p = [] := by
          refine List.filter_eq_nil_iff.mpr fun b hb => ?_
          rw [hnone first List.mem_cons_self heq b hb]
          exact Bool.false_ne_true
        have ha' : a ∈ l := (List.mem_cons.mp ha).resolve_left fun h => heq h.symm
        rw [hhead, List.nil_append]
        exact ih ha' hl fun a' ha' => hnone a' (List.mem_cons_of_mem first ha')

end Lists

/-! ## Calls -/

/-- A call of `add`. A result is a model, so it has been validated. -/
structure AddCall where
  result : ReconciliationResult
  initiatedBy : String
  reason : Option String
  valid : result.Valid
  mismatches_valid : ∀ mismatch ∈ result.mismatches, mismatch.Valid

namespace AddCall

def id (call : AddCall) : String := call.result.reconciliationId

def run (call : AddCall) : ReconciliationRunRow := runRow call.result call.initiatedBy call.reason

def rows (call : AddCall) : List ReconciliationMismatchRow :=
  call.result.mismatches.map (mismatchRow call.result.reconciliationId)

end AddCall

/-- The tables and the accepted calls after these calls. -/
def runCalls (calls : List AddCall) : ReconciliationTables × List AddCall :=
  calls.foldl
    (fun state call =>
      match add state.1 call.result call.initiatedBy call.reason with
      | .ok tables => (tables, state.2 ++ [call])
      | .error _ => state)
    ({}, [])

variable {κ : Type} [LinearOrder κ] (collate : String → κ)

/-- The order of a result's mismatches when it is read. -/
def readKey (mismatch : ReconciliationMismatch) : κ ×ₗ κ :=
    toLex (collate mismatch.severity, collate mismatch.mismatchId)

/-- The result with its mismatches in the order in which they are read. -/
def AddCall.read (call : AddCall) : ReconciliationResult :=
  { call.result with mismatches := sortByKey (readKey collate) call.result.mismatches }

/-! ## One result -/

theorem parse_value (status : ReconciliationStatus) : ReconciliationStatus.parse status.value = .ok status := by
  cases status <;> rfl

theorem parse_accountId (accountId : AccountId) : Identifier.parse "AccountId" "acct_" accountId.val = .ok accountId :=
  Identifier.parse_of_valid "AccountId" accountId.valid

theorem read_valid (call : AddCall) : (call.read collate).Valid := by
  obtain ⟨h1, h2, h3, h4, h5, h6⟩ := call.valid
  have hnil : (call.read collate).mismatches = [] ↔ call.result.mismatches = [] := by
    rw [← List.length_eq_zero_iff, ← List.length_eq_zero_iff, AddCall.read, length_sortByKey]
  exact ⟨h1, h2, h3, fun h => h4 ⟨h.1, fun hn => h.2 (hnil.mpr hn)⟩, fun h => h5 ⟨h.1, hnil.mp h.2⟩, h6⟩

theorem mismatchFromRow_of_valid (call : AddCall) {mismatch : ReconciliationMismatch} (h : mismatch.Valid) :
    mismatchFromRow call.run (mismatchRow call.id mismatch) = .ok mismatch := by
  have hown : ¬(mismatchRow call.id mismatch).reconciliationId ≠ call.run.reconciliationId := not_not.mpr rfl
  rw [mismatchFromRow, raiseIf_bind_of_not hown]
  exact ReconciliationMismatch.validate_eq_ok.mpr ⟨h, rfl⟩

/-- **A run and its mismatches in the order of the selection are the result.** -/
theorem resultFromRows_of_stored (call : AddCall) :
    reconciliationResultFromRows call.run ((call.read collate).mismatches.map (mismatchRow call.id)) =
      .ok (call.read collate) := by
  have hmismatches : ((call.read collate).mismatches.map (mismatchRow call.id)).mapM (mismatchFromRow call.run) =
      .ok (call.read collate).mismatches := by
    rw [List.mapM_map]
    have hall : ∀ m ∈ (call.read collate).mismatches, mismatchFromRow call.run (mismatchRow call.id m) = .ok m :=
      fun m hm => mismatchFromRow_of_valid call (call.mismatches_valid m (mem_sortByKey.mp hm))
    exact (mapM_ok hall).trans (congrArg Except.ok (List.map_id' _))
  show (do
    let mismatches ← ((call.read collate).mismatches.map (mismatchRow call.id)).mapM (mismatchFromRow call.run)
    let accountId ← Identifier.parse "AccountId" "acct_" call.result.accountId.val
    let status ← ReconciliationStatus.parse call.result.status.value
    ReconciliationResult.validate
      { call.result with mismatches, accountId, status }) = _
  rw [hmismatches, ok_bind, parse_accountId, ok_bind, parse_value, ok_bind]
  exact ReconciliationResult.validate_eq_ok.mpr ⟨read_valid collate call, rfl⟩

/-! ## Tables of results -/

/-- The tables hold the rows of these calls, and no key stands twice. -/
structure Stored (tables : ReconciliationTables) (calls : List AddCall) : Prop where
  runs : tables.runs = calls.map AddCall.run
  mismatches : tables.mismatches = calls.flatMap AddCall.rows
  runIds : (calls.map AddCall.id).Nodup
  mismatchIds : (tables.mismatches.map ReconciliationMismatchRow.mismatchId).Nodup

variable {tables : ReconciliationTables} {calls : List AddCall}

theorem mem_rows {call : AddCall} {row : ReconciliationMismatchRow} (h : row ∈ call.rows) :
    row.reconciliationId = call.id := by
  obtain ⟨_, -, rfl⟩ := List.mem_map.mp h
  rfl

/-- The mismatches of a run that is stored. -/
theorem Stored.filter_mismatches (h : Stored tables calls) {call : AddCall} (hcall : call ∈ calls) :
    (tables.mismatches.filter fun row => row.reconciliationId = call.id) = call.rows := by
  rw [h.mismatches]
  refine filter_flatMap_of_unique hcall (List.Nodup.of_map _ h.runIds) (fun row hrow => decide_eq_true (mem_rows hrow))
      ?_
  intro call' hcall' hne row hrow
  -- runs with one identifier are one run
  refine decide_eq_false fun hid => hne ?_
  exact List.inj_on_of_nodup_map h.runIds hcall' hcall ((mem_rows hrow).symm.trans hid)

variable {collate} in
/-- **The batch, grouped by run, is what the run would select alone.** -/
theorem Stored.mismatchRowsFor_eq (h : Stored tables calls) (hcollate : Function.Injective collate) {call : AddCall}
    (hcall : call ∈ calls) {ids : List String} (hids : call.id ∈ ids) :
    ((mismatchRowsFor collate tables ids).filter fun row => row.reconciliationId = call.id) =
      (call.read collate).mismatches.map (mismatchRow call.id) := by
  have hne : ids ≠ [] := List.ne_nil_of_mem hids
  rw [mismatchRowsFor, if_neg hne]
  -- both sides are the rows of the run, and both are in the order of the selection
  have hleft : ((sortByKey (mismatchKey collate)
      (tables.mismatches.filter fun row => row.reconciliationId ∈ ids)).filter
        fun row => row.reconciliationId = call.id).Perm call.rows := by
    refine ((sortByKey_perm _ _).filter _).trans ?_
    rw [List.filter_filter, ← h.filter_mismatches hcall]
    refine List.Perm.of_eq (List.filter_congr fun row _ => ?_)
    by_cases hrow : row.reconciliationId = call.id
    · simp [hrow, hids]
    · simp [hrow]
  have hright : ((call.read collate).mismatches.map (mismatchRow call.id)).Perm call.rows :=
    (sortByKey_perm _ _).map _
  have hties : TiesEqual (mismatchKey collate) call.rows := by
    intro a ha b hb hab
    have hrest := (Prod.mk.inj (toLex.injective hab)).2
    have hid := hcollate (Prod.mk.inj (toLex.injective hrest)).2
    refine List.inj_on_of_nodup_map h.mismatchIds ?_ ?_ hid
    · rw [h.mismatches]
      exact List.mem_flatMap.mpr ⟨call, hcall, ha⟩
    · rw [h.mismatches]
      exact List.mem_flatMap.mpr ⟨call, hcall, hb⟩
  refine eq_of_perm_of_tiesEqual (hties.perm hleft) ?_ ?_ (hleft.trans hright.symm)
  · exact (pairwise_sortByKey _ _).filter _
  · refine List.pairwise_map.mpr ((pairwise_sortByKey (readKey collate) call.result.mismatches).imp fun hle => ?_)
    exact Prod.Lex.toLex_le_toLex.mpr (Or.inr ⟨rfl, hle⟩)

variable {collate} in
/-- A run is read from any batch that it is in. -/
theorem Stored.fromRows (h : Stored tables calls) (hcollate : Function.Injective collate) {call : AddCall}
    (hcall : call ∈ calls) {ids : List String} (hids : call.id ∈ ids) :
    reconciliationResultFromRows call.run
        ((mismatchRowsFor collate tables ids).filter fun row => row.reconciliationId = call.run.reconciliationId) =
      .ok (call.read collate) := by
  show reconciliationResultFromRows call.run
    ((mismatchRowsFor collate tables ids).filter fun row => row.reconciliationId = call.id) = _
  rw [h.mismatchRowsFor_eq hcollate hcall hids, resultFromRows_of_stored]

variable {collate} in
theorem Stored.oneOrNone_eq (h : Stored tables calls) (hcollate : Function.Injective collate) {call? : Option AddCall}
    (hcall : ∀ call ∈ call?, call ∈ calls) :
    oneOrNone collate tables (call?.map AddCall.run) = .ok (call?.map (AddCall.read collate)) := by
  cases call? with
  | none => rfl
  | some call =>
      have hids : call.id ∈ [call.run.reconciliationId] := List.mem_singleton.mpr rfl
      have hrows := h.fromRows hcollate (hcall call rfl) hids
      -- the selection of one run has no other rows
      have hself : (mismatchRowsFor collate tables [call.run.reconciliationId]).filter
          (fun row => row.reconciliationId = call.run.reconciliationId) =
            mismatchRowsFor collate tables [call.run.reconciliationId] := by
        refine List.filter_eq_self.mpr fun row hrow => ?_
        rw [mismatchRowsFor, if_neg (List.cons_ne_nil _ _), mem_sortByKey, List.mem_filter] at hrow
        have hmem := of_decide_eq_true hrow.2
        exact decide_eq_true (List.mem_singleton.mp hmem)
      rw [hself] at hrows
      show (do pure (some (← reconciliationResultFromRows call.run
        (mismatchRowsFor collate tables [call.run.reconciliationId])))) = _
      rw [hrows]
      rfl

variable {collate} in
theorem Stored.all_eq (h : Stored tables calls) (hcollate : Function.Injective collate) {selected : List AddCall}
    (hselected : ∀ call ∈ selected, call ∈ calls) :
    all collate tables (selected.map AddCall.run) = .ok (selected.map (AddCall.read collate)) := by
  unfold all
  split_ifs with hnil
  · rw [List.map_eq_nil_iff.mp hnil]
    rfl
  · rw [resultsFromRows, List.mapM_map]
    refine mapM_ok fun call hcall => h.fromRows hcollate (hselected call hcall) ?_
    exact List.mem_map.mpr ⟨call.run, List.mem_map_of_mem hcall, rfl⟩

/-! ## Runs of calls -/

theorem Stored.empty : Stored {} [] := ⟨rfl, rfl, List.nodup_nil, List.nodup_nil⟩

/-- An accepted call adds its rows, whose keys are new. -/
theorem Stored.add {tables' : ReconciliationTables} {call : AddCall} (h : Stored tables calls)
    (hadd : add tables call.result call.initiatedBy call.reason = .ok tables') : Stored tables' (calls ++ [call]) := by
  simp only [ReconciliationResultRepository.add, reconciliationResultToRows, bind_eq_ok, pure_eq_ok, raiseIf_eq_ok,
    exists_const, not_not] at hadd
  obtain ⟨_, ⟨_, -, _, -, rfl⟩, -, hruns, hmismatches, rfl⟩ := hadd
  refine ⟨?_, ?_, ?_, hmismatches⟩
  · rw [h.runs, List.map_append]
    rfl
  · rw [h.mismatches, List.flatMap_append, List.flatMap_singleton]
    rfl
  · rw [h.runs, List.map_append, List.map_map] at hruns
    rw [List.map_append]
    exact hruns

/-- **Whatever is refused, the tables hold the accepted calls.** -/
theorem stored_run (calls : List AddCall) : Stored (runCalls calls).1 (runCalls calls).2 := by
  -- by induction on the calls from the end, the last call is accepted or changes nothing
  induction calls using List.reverseRecOn with
  | nil => exact Stored.empty
  | append_singleton calls call ih =>
      rw [runCalls, List.foldl_append]
      show Stored (match add (runCalls calls).1 call.result call.initiatedBy call.reason with
        | .ok tables => (tables, (runCalls calls).2 ++ [call])
        | .error _ => runCalls calls).1 (match add (runCalls calls).1 call.result call.initiatedBy call.reason with
        | .ok tables => (tables, (runCalls calls).2 ++ [call])
        | .error _ => runCalls calls).2
      cases hadd : add (runCalls calls).1 call.result call.initiatedBy call.reason with
      | ok tables => exact ih.add hadd
      | error e => exact ih

/-- The calls from the newest run to the oldest. -/
def newest (calls : List AddCall) : List AddCall := sortByKey (fun call => newestKey collate call.run) calls

/-- What the queries return where these calls are stored. -/
structure Reads (tables : ReconciliationTables) (calls : List AddCall) : Prop where
  get : ∀ id, validateText "reconciliation_id" reconciliationIdMaxLength id = .ok ⟨⟩ →
    get collate tables id = .ok ((calls.find? fun call => call.id = id).map (AddCall.read collate))
  latest : ∀ exchange accountId, validateText "exchange" exchangeMaxLength exchange = .ok ⟨⟩ →
    latestForAccount collate tables exchange accountId =
      .ok ((newest collate (calls.filter fun call =>
        call.result.exchange = exchange ∧ call.result.accountId = accountId)).head?.map (AddCall.read collate))
  list : ∀ status limit, validateLimit limit = .ok ⟨⟩ →
    listByStatus collate tables status limit =
      .ok (((newest collate (calls.filter fun call => call.result.status = status)).take limit.toNat).map
        (AddCall.read collate))

theorem value_injective {status status' : ReconciliationStatus} (h : status.value = status'.value) :
    status = status' := by
  have hparse := parse_value status
  rw [h, parse_value] at hparse
  exact (Except.ok.inj hparse).symm

variable {collate} in
theorem Stored.reads (h : Stored tables calls) (hcollate : Function.Injective collate) :
    Reads collate tables calls where
  get id hid := by
    rw [ReconciliationResultRepository.get, hid, ok_bind, h.runs, List.find?_map]
    exact h.oneOrNone_eq hcollate fun call hcall => List.mem_of_find?_eq_some hcall
  latest exchange accountId hexchange := by
    have hfilter : (tables.runs.filter fun run =>
        run.exchange = exchange ∧ run.accountId = accountId.val ∧ run.completedAt.isSome = true) =
          (calls.filter fun call => call.result.exchange = exchange ∧ call.result.accountId = accountId).map
            AddCall.run := by
      rw [h.runs, List.filter_map]
      refine congrArg (List.map AddCall.run) (List.filter_congr fun call _ => decide_eq_decide.mpr ?_)
      show call.result.exchange = exchange ∧ call.result.accountId.val = accountId.val ∧ true = true ↔ _
      simp only [and_true]
      exact and_congr_right fun _ => ⟨Identifier.ext, congrArg Identifier.val⟩
    rw [latestForAccount, hexchange, ok_bind, hfilter]
    dsimp only
    rw [sortByKey_map, List.head?_map]
    refine h.oneOrNone_eq hcollate fun call hcall => ?_
    exact (List.mem_filter.mp (mem_sortByKey.mp (List.mem_of_mem_head? hcall))).1
  list status limit hlimit := by
    have hfilter : (tables.runs.filter fun run => run.status = status.value ∧ run.completedAt.isSome = true) =
        (calls.filter fun call => call.result.status = status).map AddCall.run := by
      rw [h.runs, List.filter_map]
      refine congrArg (List.map AddCall.run) (List.filter_congr fun call _ => decide_eq_decide.mpr ?_)
      show call.result.status.value = status.value ∧ true = true ↔ _
      simp only [and_true]
      exact ⟨value_injective, congrArg ReconciliationStatus.value⟩
    rw [listByStatus, hlimit, ok_bind, hfilter]
    dsimp only
    rw [sortByKey_map, ← List.map_take]
    refine h.all_eq hcollate fun call hcall => ?_
    exact (List.mem_filter.mp (mem_sortByKey.mp (List.mem_of_mem_take hcall))).1

/-- **Every query answers from the accepted calls.** A result comes back with its mismatches by severity and identifier,
    alone and in a list, and no refused call is seen. -/
theorem reads_of_run (hcollate : Function.Injective collate) (calls : List AddCall) :
    Reads collate (runCalls calls).1 (runCalls calls).2 :=
  (stored_run calls).reads hcollate

/-- A run with two mismatches, of which the second is read first. -/
def twoMismatches : AddCall where
  result :=
    { reconciliationId := "recon-1", exchange := "kalshi", accountId := ⟨"acct_main", by decide⟩, startedAt := 0,
      completedAt := 1, status := .mismatch
      mismatches := [⟨"mismatch-b", "cash", none, none, "high", none, true⟩,
        ⟨"mismatch-a", "cash", none, none, "high", none, true⟩]
      openOrdersChecked := 0, positionsChecked := 0, balancesChecked := 2, fillsChecked := 0
      tradingGateReleased := false }
  initiatedBy := "operator"
  reason := none
  valid := ⟨by decide, by decide, by decide, by decide, by decide, by decide⟩
  mismatches_valid := by
    have hcash : TextWithin categoryMaxLength "cash" := by decide
    have hhigh : TextWithin 64 "high" := by decide
    have hnone : ∀ bound, ∀ s ∈ (none : Option String), TextWithin bound s := by
      intro bound s hs
      cases hs
    have hvalid : ∀ id : String, TextWithin portfolioIdMaxLength id →
        ReconciliationMismatch.Valid ⟨id, "cash", none, none, "high", none, true⟩ := fun id hid =>
      ⟨hid, hcash, hnone _, hnone _, hhigh, hnone _⟩
    intro mismatch hmismatch
    rcases List.mem_cons.mp hmismatch with rfl | hmismatch
    · exact hvalid "mismatch-b" (by decide)
    · rw [List.mem_singleton.mp hmismatch]
      exact hvalid "mismatch-a" (by decide)

/-- The second of two equal calls is refused. -/
theorem reads_of_run_twice : Reads (fun text : String => text) (runCalls [twoMismatches, twoMismatches]).1
    (runCalls [twoMismatches, twoMismatches]).2 :=
  reads_of_run _ (fun _ _ h => h) [twoMismatches, twoMismatches]

end ReconciliationResultRepository
end Pmrp
