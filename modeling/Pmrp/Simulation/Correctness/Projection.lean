import Pmrp.Simulation.OrderBook

/-!
# `Simulation.Correctness.Projection` — a run of deltas on an order book

Which lists of deltas a snapshot accepts (`Accepts`), and the book they lead to (`Projects`). The step lemma is
`applyOrderBookDelta_spec`; the run follows by induction on the deltas, with the snapshot generalized.
-/

namespace Pmrp
namespace OrderBook

/-! ## What is accepted -/

/-- A `snapshot_reason` that `_validate_snapshot_reason` and the snapshot's own constraint let through. -/
structure ReasonValid (snapshotReason : String) : Prop where
  within : TextWithin 128 snapshotReason
  stripped : isStripped snapshotReason = true

theorem reasonValid_default : ReasonValid orderBookProjectionSnapshotReason where
  within := TextWithin.ofList (by decide)
  stripped := by decide

def SameLineage (snapshot : OrderBookSnapshot) (delta : OrderBookDelta) : Prop :=
  delta.marketId = snapshot.marketId ∧ delta.contractId = snapshot.contractId ∧
    delta.exchange = snapshot.exchange

/-- The sequence numbers of the delta that comes after `i` others. -/
def Follows (sequence : Option ℕ) (i : ℕ) (delta : OrderBookDelta) : Prop :=
  match sequence with
  | some s => delta.sequence = some (s + i + 1) ∧
      (delta.previousSequence = none ∨ delta.previousSequence = some (s + i))
  | none => delta.sequence = none ∧ delta.previousSequence = none

/-- Every delta has the lineage of the snapshot and its place in the sequence. -/
def Accepts (snapshot : OrderBookSnapshot) (deltas : List OrderBookDelta) : Prop :=
  ∀ i (h : i < deltas.length), SameLineage snapshot deltas[i] ∧ Follows snapshot.sequence i deltas[i]

theorem follows_succ (sequence : Option ℕ) (i : ℕ) (delta : OrderBookDelta) :
    Follows sequence (i + 1) delta ↔ Follows (sequence.map (· + 1)) i delta := by
  cases sequence with
  | none => exact Iff.rfl
  | some s =>
      have hindex : s + (i + 1) = s + 1 + i := by omega
      simp only [Follows, Option.map_some, hindex]

/-- The first delta is checked against the snapshot, the others against the snapshot it leads to. -/
theorem accepts_cons {snapshot next : OrderBookSnapshot} {delta : OrderBookDelta} {deltas : List OrderBookDelta}
    (hlineage : ∀ d, SameLineage next d ↔ SameLineage snapshot d)
    (hsequence : next.sequence = snapshot.sequence.map (· + 1)) :
    Accepts snapshot (delta :: deltas) ↔
      (SameLineage snapshot delta ∧ Follows snapshot.sequence 0 delta) ∧ Accepts next deltas := by
  constructor
  · intro h
    refine ⟨h 0 (Nat.zero_lt_succ _), fun i hi => ?_⟩
    obtain ⟨hl, hf⟩ := h (i + 1) (Nat.succ_lt_succ hi)
    rw [List.getElem_cons_succ] at hl hf
    exact ⟨(hlineage _).mpr hl, hsequence ▸ (follows_succ _ _ _).mp hf⟩
  · rintro ⟨hfirst, hrest⟩ i hi
    cases i with
    | zero => exact hfirst
    | succ i =>
        obtain ⟨hl, hf⟩ := hrest i (Nat.lt_of_succ_lt_succ hi)
        rw [List.getElem_cons_succ]
        exact ⟨(hlineage _).mp hl, (follows_succ _ _ _).mpr (hsequence ▸ hf)⟩

/-! ## The checks -/

variable {snapshot : OrderBookSnapshot} {delta : OrderBookDelta} {deltas : List OrderBookDelta}
  {snapshotReason : String}

theorem validateLineage_eq_ok {u : Unit} : validateLineage snapshot delta = .ok u ↔ SameLineage snapshot delta := by
  simp only [validateLineage, bind_eq_ok, raiseIf_eq_ok, exists_const, ne_eq, not_not]
  constructor
  · rintro ⟨hmarket, hcontract, hexchange⟩
    exact ⟨hmarket.symm, hcontract.symm, hexchange.symm⟩
  · rintro ⟨hmarket, hcontract, hexchange⟩
    exact ⟨hmarket.symm, hcontract.symm, hexchange.symm⟩

/-- The six comparisons leave one sequence number. -/
theorem validateSequence_eq_ok {u : Unit} :
    validateSequence snapshot delta = .ok u ↔ Follows snapshot.sequence 0 delta := by
  simp only [validateSequence, bind_eq_ok, raiseIf_eq_ok, exists_const]
  unfold Follows
  cases snapshot.sequence with
  | none =>
      constructor
      · rintro ⟨hambiguous, -⟩
        have h := fun hor => hambiguous ⟨rfl, hor⟩
        exact ⟨not_not.mp fun hs => h (Or.inr hs), not_not.mp fun hp => h (Or.inl hp)⟩
      · rintro ⟨hsequence, hprevious⟩
        rw [hsequence, hprevious]
        simp
  | some s =>
      constructor
      · rintro ⟨-, hrequired, hmatch, -, hgap, -⟩
        obtain ⟨d, hd⟩ := Option.ne_none_iff_exists'.mp fun hnone => hrequired ⟨Option.some_ne_none s, hnone⟩
        have hnext : d = s + 1 := by
          by_contra hne
          exact hgap ⟨s, rfl, d, hd, hne⟩
        refine ⟨by rw [hd, hnext, Nat.add_zero], ?_⟩
        by_cases hprevious : delta.previousSequence = none
        · exact Or.inl hprevious
        · have heq : some s = delta.previousSequence := by
            by_contra hne
            exact hmatch ⟨Option.some_ne_none s, hprevious, hne⟩
          exact Or.inr (heq.symm.trans (by rw [Nat.add_zero]))
      · rintro ⟨hsequence, hprevious⟩
        rw [hsequence]
        rcases hprevious with hprevious | hprevious <;> rw [hprevious] <;> simp

theorem validateSnapshotReason_of (h : ReasonValid snapshotReason) :
    validateSnapshotReason snapshotReason = .ok ⟨⟩ := by
  refine raiseIf_eq_ok.mpr ?_
  rintro (rfl | hstripped)
  · have hempty : 1 ≤ "".length := h.within.1
    exact absurd hempty (by decide)
  · rw [h.stripped] at hstripped
    cases hstripped

/-! ## One delta -/

/-- What a list of deltas makes of a snapshot. -/
structure Projects (snapshot : OrderBookSnapshot) (deltas : List OrderBookDelta) (result : OrderBookSnapshot) :
    Prop where
  /-- The last change that touches a price decides its level; a level that none touches is carried over. -/
  level_eq : ∀ side price, level result side price =
    levelAfterChanges side price (deltas.flatMap OrderBookDelta.changes) (level snapshot side price)
  bids_sorted : result.bids.Pairwise fun a b => b.price < a.price
  asks_sorted : result.asks.Pairwise fun a b => a.price < b.price
  sequence_eq : result.sequence = snapshot.sequence.map (· + deltas.length)
  same_lineage : ∀ delta, SameLineage result delta ↔ SameLineage snapshot delta
  valid : snapshot.isValid = true → result.isValid = true

/-- A delta whose lineage and sequence fit is projected; nothing fails after these checks. -/
theorem applyOrderBookDelta_of_accepted (hvalid : snapshot.isValid = true) (hreason : ReasonValid snapshotReason)
    (hlineage : SameLineage snapshot delta) (hfollows : Follows snapshot.sequence 0 delta) :
    ∃ result, applyOrderBookDelta snapshotReason snapshot delta = .ok result ∧
      Projects snapshot [delta] result := by
  have hunique := uniqueKeys_projectedSides snapshot delta
  have hcreate := snapshot.create_eq_ok (if delta.sequence ≠ none then delta.sequence else snapshot.sequence)
    delta.exchangeOccurredAt delta.receivedAt true hreason.within (sortedBids_descending (hunique .buy))
    (sortedAsks_ascending (hunique .sell))
  have hchecked : ¬snapshot.isValid = false := by rw [hvalid]; exact Bool.noConfusion
  refine ⟨_, Eq.trans ?_ hcreate, ?_⟩
  · rw [applyOrderBookDelta, validateSnapshot, raiseIf_bind_of_not hchecked,
      validateLineage_eq_ok (u := ⟨⟩).mpr hlineage, ok_bind, validateSequence_eq_ok (u := ⟨⟩).mpr hfollows, ok_bind,
      validateSnapshotReason_of hreason, ok_bind]
    rfl
  · refine ⟨fun side price => ?_, OrderBookSnapshot.bids_pairwise _, OrderBookSnapshot.asks_pairwise _, ?_,
      fun _ => Iff.rfl, fun _ => rfl⟩
    · rw [List.flatMap_singleton, ← lookup_projectedSides]
      cases side with
      | buy => exact (hunique .buy).lookup_perm (sortByKey_perm _ _).symm price
      | sell => exact (hunique .sell).lookup_perm (sortByKey_perm _ _).symm price
    · dsimp only
      unfold Follows at hfollows
      cases hs : snapshot.sequence with
      | none =>
          rw [hs] at hfollows
          rw [hfollows.1]
          rfl
      | some s =>
          rw [hs] at hfollows
          rw [hfollows.1]
          rfl

/-- **One delta.** It is accepted exactly when lineage and sequence fit. -/
theorem applyOrderBookDelta_spec (hvalid : snapshot.isValid = true) (hreason : ReasonValid snapshotReason)
    {result : OrderBookSnapshot} (h : applyOrderBookDelta snapshotReason snapshot delta = .ok result) :
    (SameLineage snapshot delta ∧ Follows snapshot.sequence 0 delta) ∧ Projects snapshot [delta] result := by
  have hchecks := h
  simp only [applyOrderBookDelta, bind_eq_ok] at hchecks
  obtain ⟨_, _, _, hlineage, _, hsequence, _⟩ := hchecks
  have hl := validateLineage_eq_ok.mp hlineage
  have hf := validateSequence_eq_ok.mp hsequence
  obtain ⟨result', hresult', hprojects⟩ := applyOrderBookDelta_of_accepted hvalid hreason hl hf
  rw [h] at hresult'
  cases hresult'
  exact ⟨⟨hl, hf⟩, hprojects⟩

/-! ## A run of deltas -/

theorem Projects.refl (snapshot : OrderBookSnapshot) : Projects snapshot [] snapshot where
  level_eq _ _ := rfl
  bids_sorted := snapshot.bids_pairwise
  asks_sorted := snapshot.asks_pairwise
  sequence_eq := by cases snapshot.sequence <;> rfl
  same_lineage _ := Iff.rfl
  valid h := h

theorem Projects.trans {next result : OrderBookSnapshot} {xs ys : List OrderBookDelta}
    (hx : Projects snapshot xs next) (hy : Projects next ys result) : Projects snapshot (xs ++ ys) result where
  level_eq side price := by
    rw [hy.level_eq, hx.level_eq, List.flatMap_append, levelAfterChanges_append]
  bids_sorted := hy.bids_sorted
  asks_sorted := hy.asks_sorted
  sequence_eq := by
    rw [hy.sequence_eq, hx.sequence_eq, List.length_append]
    cases snapshot.sequence with
    | none => rfl
    | some s => exact congrArg some (Nat.add_assoc s xs.length ys.length)
  same_lineage delta := (hy.same_lineage delta).trans (hx.same_lineage delta)
  valid h := hy.valid (hx.valid h)

/-- A run that returns was accepted and leads to the projected book. -/
theorem applyOrderBookDeltas_spec (hvalid : snapshot.isValid = true) (hreason : ReasonValid snapshotReason)
    {result : OrderBookSnapshot} (h : applyOrderBookDeltas snapshotReason snapshot deltas = .ok result) :
    Accepts snapshot deltas ∧ Projects snapshot deltas result := by
  induction deltas generalizing snapshot with
  | nil =>
      cases h
      exact ⟨fun i hi => absurd hi (Nat.not_lt_zero i), Projects.refl _⟩
  | cons delta deltas ih =>
      rw [applyOrderBookDeltas, List.foldlM_cons, bind_eq_ok] at h
      obtain ⟨next, hnext, hrest⟩ := h
      obtain ⟨hfirst, hprojects⟩ := applyOrderBookDelta_spec hvalid hreason hnext
      obtain ⟨haccepts, htail⟩ := ih (hprojects.valid hvalid) hrest
      exact ⟨(accepts_cons hprojects.same_lineage hprojects.sequence_eq).mpr ⟨hfirst, haccepts⟩,
        hprojects.trans htail⟩

/-- A list of deltas that is accepted is projected to its end. -/
theorem applyOrderBookDeltas_of_accepted (hvalid : snapshot.isValid = true)
    (hreason : ReasonValid snapshotReason) (h : Accepts snapshot deltas) :
    ∃ result, applyOrderBookDeltas snapshotReason snapshot deltas = .ok result := by
  induction deltas generalizing snapshot with
  | nil => exact ⟨snapshot, rfl⟩
  | cons delta deltas ih =>
      have hfirst : SameLineage snapshot delta ∧ Follows snapshot.sequence 0 delta := h 0 (Nat.zero_lt_succ _)
      obtain ⟨next, hnext, hprojects⟩ :=
        applyOrderBookDelta_of_accepted hvalid hreason hfirst.1 hfirst.2
      have hrest := ((accepts_cons hprojects.same_lineage hprojects.sequence_eq).mp h).2
      obtain ⟨result, hresult⟩ := ih (hprojects.valid hvalid) hrest
      exact ⟨result, by rw [applyOrderBookDeltas, List.foldlM_cons, hnext, ok_bind]; exact hresult⟩

/-- **Projecting a run of deltas.** A valid snapshot accepts exactly the lists of its lineage that continue its
    sequence. The book it leads to has at each price the level of the last change there, and a list may be
    applied in two parts. -/
theorem applyOrderBookDeltas_projects (hvalid : snapshot.isValid = true) (hreason : ReasonValid snapshotReason)
    (deltas : List OrderBookDelta) :
    ((∃ result, applyOrderBookDeltas snapshotReason snapshot deltas = .ok result) ↔ Accepts snapshot deltas) ∧
    (∀ result, applyOrderBookDeltas snapshotReason snapshot deltas = .ok result →
      Projects snapshot deltas result) ∧
    ∀ more, applyOrderBookDeltas snapshotReason snapshot (deltas ++ more) =
      applyOrderBookDeltas snapshotReason snapshot deltas >>= fun result =>
        applyOrderBookDeltas snapshotReason result more := by
  refine ⟨⟨?_, applyOrderBookDeltas_of_accepted hvalid hreason⟩, ?_, fun more => ?_⟩
  · rintro ⟨result, hresult⟩
    exact (applyOrderBookDeltas_spec hvalid hreason hresult).1
  · intro result hresult
    exact (applyOrderBookDeltas_spec hvalid hreason hresult).2
  · exact List.foldlM_append

/-! ## A concrete book -/

/-- An empty book at sequence number 7. -/
def emptySnapshot : OrderBookSnapshot where
  marketId := ⟨"mkt_empty", by decide⟩
  contractId := ⟨"ctr_empty", by decide⟩
  exchange := "exchange"
  sequence := some 7
  receivedAt := 0
  bids := []
  asks := []
  snapshotReason := "initial"
  exchange_within := TextWithin.ofList (by decide)
  snapshotReason_within := TextWithin.ofList (by decide)
  bids_descending := List.IsChain.nil
  asks_ascending := List.IsChain.nil

/-- Writes a bid at 0.41 and removes an ask at 0.59 that is not there. -/
def firstDelta : OrderBookDelta where
  marketId := emptySnapshot.marketId
  contractId := emptySnapshot.contractId
  exchange := emptySnapshot.exchange
  sequence := some 8
  previousSequence := some 7
  receivedAt := 1
  changes := [⟨.buy, 41 / 100, 230, .upsert, by norm_num, by norm_num⟩,
    ⟨.sell, 59 / 100, 290, .delete, by norm_num, by norm_num⟩]
  exchange_within := emptySnapshot.exchange_within

theorem accepts_firstDelta : Accepts emptySnapshot [firstDelta] := by
  intro i hi
  obtain rfl : i = 0 := Nat.lt_one_iff.mp hi
  exact ⟨⟨rfl, rfl, rfl⟩, rfl, Or.inr rfl⟩

theorem applyOrderBookDeltas_projects_first :
    ∃ result, applyOrderBookDeltas orderBookProjectionSnapshotReason emptySnapshot [firstDelta] = .ok result ∧
      Projects emptySnapshot [firstDelta] result := by
  obtain ⟨haccepts, hprojects, -⟩ := @applyOrderBookDeltas_projects emptySnapshot _ rfl
    reasonValid_default [firstDelta]
  obtain ⟨result, hresult⟩ := haccepts.mpr accepts_firstDelta
  exact ⟨result, hresult, hprojects result hresult⟩

end OrderBook
end Pmrp
