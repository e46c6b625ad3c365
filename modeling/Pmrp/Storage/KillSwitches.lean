import Mathlib.Data.List.Sort
import Pmrp.Lib.Transitions
import Pmrp.Schemas.Risk

/-!
# `Storage.KillSwitches` — the table of kill switches

`KillSwitchRepository` over the rows of `pmrp_risk.kill_switches`. A row holds the fields of a
`KillSwitchState` and is validated when it is read back. The table has a primary key and one unique index over
the active scopes; a row is added once and may later be released.

How the database orders text is a parameter of the listing.
-/

namespace Pmrp
namespace KillSwitchRepository

/-! ## Writing -/

/-- The two rows violate the primary key or `uq_kill_switches__active_scope`. -/
def Conflicts (r s : KillSwitchState) : Prop :=
  r.killSwitchId = s.killSwitchId ∨
    (r.active = true ∧ s.active = true ∧ r.scope = s.scope ∧ r.scopeId.getD "" = s.scopeId.getD "")

instance (r s : KillSwitchState) : Decidable (Conflicts r s) := inferInstanceAs (Decidable (_ ∨ _))

def add (rows : List KillSwitchState) (killSwitch : KillSwitchState) : Result (List KillSwitchState) := do
  raiseIf (∃ r ∈ rows, Conflicts r killSwitch) duplicateRecordError
  pure (rows ++ [killSwitch])

/-- `_validate_kill_switch_id`, `_validate_scope_id`, `_validate_audit_actor`, `_validate_audit_reason`. -/
def validateText (field : String) (bound : ℕ) (value : String) : Result Unit := do
  raiseIf (value = "") (valueError s!"kill switch {field} must not be empty")
  raiseIf (bound < value.length) (valueError s!"kill switch {field} must be at most {bound} characters")

/-- The row after the update statement of `release`. -/
def releaseRow (killSwitchId : String) (releasedAt : UTCDateTime) (releasedBy releaseReason : String)
    (r : KillSwitchState) : KillSwitchState :=
  if r.killSwitchId = killSwitchId ∧ r.active = true ∧ r.releasedAt = none then
    { r with
      active := false
      releasedAt := some releasedAt
      releasedBy := some releasedBy
      releaseReason := some releaseReason
      version := r.version + 1 }
  else r

def release (rows : List KillSwitchState) (killSwitchId : String) (releasedAt : UTCDateTime)
    (releasedBy releaseReason : String) : Result (List KillSwitchState) := do
  validateText "ID" riskIdMaxLength killSwitchId
  validateText "released_by" riskIdMaxLength releasedBy
  validateText "release_reason" riskTextMaxLength releaseReason
  pure (rows.map (releaseRow killSwitchId releasedAt releasedBy releaseReason))

/-! ## Listing -/

def defaultActiveLimit : ℤ := 100
def maxActiveLimit : ℤ := 1000

/-- `_validate_limit`. -/
def validateLimit (limit : ℤ) : Result Unit := do
  raiseIf (limit ≤ 0) (valueError "kill switch list limit must be positive")
  raiseIf (maxActiveLimit < limit) (valueError "kill switch list limit must be at most 1000")

/-- `order_by(scope, scope_id, kill_switch_id)` in ascending order, nulls last. -/
def orderedBefore (collate : String → String → Bool) (r s : KillSwitchState) : Bool :=
  if r.scope ≠ s.scope then collate r.scope.value s.scope.value
  else
    match r.scopeId, s.scopeId with
    | some a, some b => if a ≠ b then collate a b else collate r.killSwitchId s.killSwitchId
    | some _, none => true
    | none, some _ => false
    | none, none => collate r.killSwitchId s.killSwitchId

/-- The rows a listing selects, before its order and limit. -/
def selected (rows : List KillSwitchState) (scope : Option KillSwitchScope) (scopeId : Option String) :
    List KillSwitchState :=
  rows.filter fun r =>
    r.active && scope.all (fun s => r.scope == s) && scopeId.all (fun s => r.scopeId == some s)

def listActive (collate : String → String → Bool) (rows : List KillSwitchState)
    (scope : Option KillSwitchScope) (scopeId : Option String) (limit : ℤ) :
    Result (List KillSwitchState) := do
  validateLimit limit
  scopeId.elim (.ok ()) (validateText "scope_id" KillSwitchState.scopeIdMaxLength)
  (((selected rows scope scopeId).mergeSort (orderedBefore collate)).take limit.toNat).mapM
    KillSwitchState.validate

/-! ## Stored tables -/

inductive Operation
  | add (killSwitch : KillSwitchState)
  | release (killSwitchId : String) (releasedAt : UTCDateTime) (releasedBy releaseReason : String)

/-- One committed operation. What is added is a canonical model, hence valid. -/
def Step (rows : List KillSwitchState) : Operation → List KillSwitchState → Prop
  | .add killSwitch, rows' => killSwitch.Valid ∧ KillSwitchRepository.add rows killSwitch = .ok rows'
  | .release killSwitchId releasedAt releasedBy releaseReason, rows' =>
      KillSwitchRepository.release rows killSwitchId releasedAt releasedBy releaseReason = .ok rows'

/-- The table some operations leave, starting empty. -/
def Stored (rows : List KillSwitchState) : Prop := Reaches Step (fun _ _ => True) [] rows

/-- Every active row reads back as the state that was added. A released row may not: nothing keeps
    `released_at` after `activated_at`. -/
theorem Stored.active_valid {rows : List KillSwitchState} (h : Stored rows) :
    ∀ r ∈ rows, r.active = true → r.Valid := by
  refine Reaches.inv (fun rows => ∀ r ∈ rows, r.active = true → r.Valid) ?_ h (by simp)
  intro rows op rows' hrows _ hstep
  cases op with
  | add killSwitch =>
      obtain ⟨hvalid, hadd⟩ := hstep
      simp only [add, bind_eq_ok, pure_eq_ok] at hadd
      obtain ⟨-, -, rfl⟩ := hadd
      intro r hr hactive
      rcases List.mem_append.mp hr with hold | hnew
      · exact hrows r hold hactive
      · rw [List.mem_singleton.mp hnew]; exact hvalid
  | release killSwitchId releasedAt releasedBy releaseReason =>
      simp only [Step, release, bind_eq_ok, pure_eq_ok] at hstep
      obtain ⟨-, -, -, -, -, -, rfl⟩ := hstep
      intro r hr hactive
      obtain ⟨old, hold, rfl⟩ := List.mem_map.mp hr
      by_cases hreleased : old.killSwitchId = killSwitchId ∧ old.active = true ∧ old.releasedAt = none
      · -- a released row is no longer active
        rw [releaseRow, if_pos hreleased] at hactive
        cases hactive
      · rw [releaseRow, if_neg hreleased] at hactive ⊢
        exact hrows old hold hactive

theorem mem_selected_all {rows : List KillSwitchState} {r : KillSwitchState} :
    r ∈ selected rows none none ↔ r ∈ rows ∧ r.active = true := by
  simp [selected]

/-- An unfiltered listing returns active rows, the first ones in its order. -/
theorem listActive_ok {collate : String → String → Bool} {rows : List KillSwitchState} {limit : ℤ}
    (h : Stored rows) (hpos : 0 < limit) (hmax : limit ≤ maxActiveLimit) :
    listActive collate rows none none limit
      = .ok (((selected rows none none).mergeSort (orderedBefore collate)).take limit.toNat) := by
  have hlimit : validateLimit limit = .ok ⟨⟩ := by
    simp only [validateLimit, bind_eq_ok, raiseIf_eq_ok, not_le, not_lt, exists_const]
    exact ⟨hpos, hmax⟩
  have hvalid : ∀ r ∈ ((selected rows none none).mergeSort (orderedBefore collate)).take limit.toNat,
      r.validate = .ok (id r) := by
    intro r hr
    have hmem := mem_selected_all.mp (List.mem_mergeSort.mp (List.mem_of_mem_take hr))
    exact (h.active_valid r hmem.1 hmem.2).validate
  rw [listActive, hlimit, ok_bind, Option.elim_none, ok_bind, mapM_ok hvalid, List.map_id]

/-- A limit that no active row exceeds lists them all. -/
theorem listActive_complete (collate : String → String → Bool) {rows : List KillSwitchState} {limit : ℤ}
    (h : Stored rows) (hpos : 0 < limit) (hmax : limit ≤ maxActiveLimit)
    (hcount : ((rows.filter (·.active)).length : ℤ) ≤ limit) :
    ∃ switches, listActive collate rows none none limit = .ok switches ∧
      ∀ r, r ∈ switches ↔ r ∈ rows ∧ r.active = true := by
  refine ⟨_, listActive_ok h hpos hmax, fun r => ?_⟩
  have hlength : ((selected rows none none).mergeSort (orderedBefore collate)).length ≤ limit.toNat := by
    have hselected : selected rows none none = rows.filter (·.active) := by simp [selected]
    rw [List.length_mergeSort, hselected]
    omega
  rw [List.take_of_length_le hlength, List.mem_mergeSort, mem_selected_all]

end KillSwitchRepository
end Pmrp
