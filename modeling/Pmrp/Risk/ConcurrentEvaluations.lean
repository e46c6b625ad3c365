import Pmrp.Risk.Builtins
import Pmrp.Risk.Service
import Pmrp.Storage.CapitalReservations

/-!
# `Risk.ConcurrentEvaluations` — calls that reserve on one account

Any number of calls of `evaluate_and_persist_result` with a reservation request on one account and currency. A call
reads `active_notional_sum`, puts it into its context as the reserved balance, and runs the program of the service,
whose statements are kept apart from the tables until the call commits.
-/

namespace Pmrp

open CapitalReservationRepository

/-! ## Calls -/

/-- The reservations that statements insert. -/
def reservationsOf (ss : List RiskStatement) : List CapitalReservation :=
  ss.filterMap fun
    | .addReservation reservation => some reservation
    | _ => none

/-- A service whose engine has the available-balance rule, and the account and the currency that are reserved on. -/
structure ReservingService where
  ctx : DecimalContext
  column : NumericColumn
  service : RiskEvaluationService
  engine : RiskEngine
  maxStateAge : Timedelta
  maxStateAge_pos : 0 < maxStateAge
  accountId : AccountId
  currency : Currency
  availableBalance : ℚ
  service_engine : service.engine = engine.evaluate
  rule_mem : BuiltinRule.toRiskRule ctx ⟨.availableBalance, maxStateAge, maxStateAge_pos⟩ ∈ engine.rules

/-- A call of `evaluate_and_persist_result` with a reservation request. What its hook writes are no reservations. -/
structure ReservingCall where
  intent : OrderIntent
  context : RiskContext
  observedAt : UTCDateTime
  inputSnapshotId : String
  inputSnapshot : Option RiskInputSnapshot
  approvedOrderRequest : Option RiskApprovedOrderRequest
  exchange : ExchangeName
  beforeCommit : RiskEvaluationResult → Program RiskStatement PyError Unit
  beforeCommit_commitFree : ∀ result, (beforeCommit result).CommitFree
  beforeCommit_reserves : ∀ result ss u, (beforeCommit result).Runs ss u → reservationsOf ss = []

namespace ReservingCall

variable (setting : ReservingService) (call : ReservingCall) (reserved : ℚ)

/-- The context with the balance of the account and the sum that was read. -/
def contextWith : Result RiskContext :=
  if h : 0 ≤ reserved then
    .ok { call.context with availableBalance := some {
      availableBalance := setting.availableBalance
      observedAt := call.observedAt
      reservedBalance := reserved
      reserved_nonneg := h } }
  else .error (riskConfigurationError "reserved_balance must be nonnegative")

/-- What the call does after it has read the sum. -/
def program : Program RiskStatement PyError (RiskEvaluationResult × Unit) := do
  let context ← liftM (call.contextWith setting reserved)
  setting.service.evaluateAndPersistResult setting.ctx call.intent context call.inputSnapshotId call.inputSnapshot
    call.approvedOrderRequest (some ⟨call.exchange, setting.accountId, setting.currency⟩) call.beforeCommit

end ReservingCall

/-! ## Interleaved steps -/

/-- A call between two of its database steps: the sum it has read, what is left of it, and what it has flushed. -/
structure RunningCall where
  reserved : ℚ
  rest : Program RiskStatement PyError (RiskEvaluationResult × Unit)
  pending : List RiskStatement := []

/-- The committed tables, the time, and the calls that run. -/
structure ConcurrentEvaluations where
  tables : RiskTables
  now : UTCDateTime
  running : ℕ → Option RunningCall

inductive EvaluationAction
  | wait (now : UTCDateTime)
  | start (n : ℕ) (call : ReservingCall)
  | execute (n : ℕ)
  | commit (n : ℕ)
  | leave (n : ℕ)

namespace ConcurrentEvaluations

variable (setting : ReservingService) (s : ConcurrentEvaluations)

/-- The rows of the reservations, as the numeric columns keep them. -/
def reservationRows : List CapitalReservation :=
  s.tables.reservations.filterMap fun reservation => (storeRow setting.column reservation).toOption

/-- `active_notional_sum` now, of the account and the currency. -/
def activeSum : ℚ :=
  activeNotionalSum (s.reservationRows setting) s.now
    { accountId := some setting.accountId, currency := some setting.currency }

/-- What runs as call `n` from now on. -/
def set (n : ℕ) (running : Option RunningCall) : ConcurrentEvaluations :=
  { s with running := Function.update s.running n running }

/-- The steps of any number of calls in any order. Between two database steps a call only computes, so its evaluation
    needs no step of its own. A call leaves when it raises, which drops what it has flushed. -/
inductive Step : EvaluationAction → ConcurrentEvaluations → Prop
  | wait {now : UTCDateTime} (hnow : s.now ≤ now) : Step (.wait now) { s with now := now }
  | start {n : ℕ} (call : ReservingCall) (hidle : s.running n = none) :
      Step (.start n call)
        (s.set n (some { reserved := s.activeSum setting, rest := call.program setting (s.activeSum setting) }))
  | execute {n : ℕ} {c : RunningCall} {statement : RiskStatement}
      {next : Program RiskStatement PyError (RiskEvaluationResult × Unit)} (hrunning : s.running n = some c)
      (hrest : c.rest = .exec statement next) :
      Step (.execute n) (s.set n (some { c with rest := next, pending := c.pending ++ [statement] }))
  | commit {n : ℕ} {c : RunningCall} {next : Program RiskStatement PyError (RiskEvaluationResult × Unit)}
      (hrunning : s.running n = some c) (hrest : c.rest = .commit next) :
      Step (.commit n) ({ s with tables := c.pending.foldl RiskTables.insert s.tables }.set n none)
  | leave {n : ℕ} : Step (.leave n) (s.set n none)

/-- No reservation is above what the account has. -/
def Covered : Prop := s.activeSum setting ≤ setting.availableBalance

/-- The call commits on the sum that it has read: no more is reserved now, and no amount was rounded up. -/
structure Unhurried (c : RunningCall) : Prop where
  current : s.activeSum setting ≤ c.reserved
  exact : setting.ctx.sub setting.availableBalance c.reserved ≤ setting.availableBalance - c.reserved
  kept : ∀ reservation ∈ reservationsOf c.pending, setting.column.Keeps reservation.notional

/-- The condition on a step: a call that commits a reservation does so on the sum that it has read. -/
def CommitsUnhurried : EvaluationAction → Prop
  | .commit n => ∀ c ∈ s.running n, reservationsOf c.pending ≠ [] → s.Unhurried setting c
  | _ => True

end ConcurrentEvaluations

end Pmrp
