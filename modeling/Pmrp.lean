import Pmrp.Adapters.Correctness.FixtureGaps
import Pmrp.Adapters.Correctness.KalshiFrames
import Pmrp.Adapters.Correctness.MappedBooks
import Pmrp.Adapters.Correctness.OrderAnswers
import Pmrp.Adapters.Correctness.PolymarketDispatch
import Pmrp.Adapters.Correctness.PolymarketTotality
import Pmrp.Adapters.Correctness.Pongs
import Pmrp.Adapters.Correctness.RestTargets
import Pmrp.Adapters.Correctness.TokenUpdates
import Pmrp.Adapters.Correctness.TradeIds
import Pmrp.Bus.Correctness.Delivery
import Pmrp.Commands.Correctness.Dispatches
import Pmrp.Events.Correctness.Ulids
import Pmrp.Portfolio.Correctness.AttributionPeriods
import Pmrp.Portfolio.Correctness.CashConservation
import Pmrp.Portfolio.Correctness.CashReplay
import Pmrp.Portfolio.Correctness.Corrections
import Pmrp.Portfolio.Correctness.EventDelivery
import Pmrp.Portfolio.Correctness.FillBatches
import Pmrp.Portfolio.Correctness.Ledger
import Pmrp.Portfolio.Correctness.Reconciliation
import Pmrp.Portfolio.Correctness.Reinvocations
import Pmrp.Portfolio.Correctness.SettlementJournals
import Pmrp.Replay.Correctness.Completion
import Pmrp.Replay.Correctness.LayoutFree
import Pmrp.Replay.Correctness.LoadErrors
import Pmrp.Risk.Correctness.ConcurrentReservations
import Pmrp.Risk.Correctness.ExecutableApprovals
import Pmrp.Risk.Correctness.FailingRules
import Pmrp.Risk.Correctness.KillSwitchCover
import Pmrp.Risk.Correctness.PendingFills
import Pmrp.Risk.Correctness.StepGrids
import Pmrp.Schemas.Correctness.CanonicalValues
import Pmrp.Simulation.Correctness.CancelAssignment
import Pmrp.Simulation.Correctness.DeclarationOrder
import Pmrp.Simulation.Correctness.Disconnects
import Pmrp.Simulation.Correctness.ExactCosts
import Pmrp.Simulation.Correctness.FaithfulMetrics
import Pmrp.Simulation.Correctness.OrderTerms
import Pmrp.Simulation.Correctness.Projection
import Pmrp.Simulation.Correctness.QueuePositions
import Pmrp.Simulation.Correctness.RequiredBalance
import Pmrp.Simulation.Correctness.RestingFills
import Pmrp.Storage.Correctness.AccountingValues
import Pmrp.Storage.Correctness.NoLostUpdates
import Pmrp.Storage.Correctness.ReconciliationRuns
import Pmrp.Storage.Correctness.RiskRows
import Pmrp.Storage.UnitOfWork
import Pmrp.Strategies.Correctness.Checkpoints
import Pmrp.Strategies.Correctness.Gate
import Pmrp.Strategies.Correctness.Registrations
import Pmrp.Strategies.Correctness.Restarts
import Pmrp.Strategies.Correctness.Shutdown
