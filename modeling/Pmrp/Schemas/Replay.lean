import Pmrp.Schemas.Primitives

/-!
# `Schemas.Replay` — replay manifests and sessions

`ReplayManifest` and `ReplaySession` of `schemas/replay.py`. A manifest reaches the modelled code validated;
a session is built by the replay engine and validated there.
-/

namespace Pmrp

structure ReplayManifest where
  replaySessionId : ReplaySessionId
  datasetId : String
  datasetChecksum : String
  startsAt : UTCDateTime
  endsAt : UTCDateTime
  speed : ℚ
  deterministic : Bool
  randomSeed : ℕ
  eventOrderingPolicyVersion : String
  strategyVersions : List (String × String) := []
  modelVersions : List (String × String) := []
  configurationHash : String
  codeCommit : String
  dependencyLockHash : String
  createdAt : UTCDateTime
  createdBy : String
  starts_before_ends : startsAt < endsAt

inductive ReplayState
  | created
  | loading
  | ready
  | running
  | paused
  | completed
  | failed
  | cancelled
  deriving DecidableEq, Repr

structure ReplaySession where
  replaySessionId : ReplaySessionId
  manifest : ReplayManifest
  state : ReplayState
  currentTime : Option UTCDateTime := none
  processedEvents : ℕ := 0
  rejectedEvents : ℕ := 0
  startedAt : Option UTCDateTime := none
  completedAt : Option UTCDateTime := none
  resultChecksum : Option String := none
  failureMessage : Option String := none

namespace ReplaySession

variable (s : ReplaySession)

def IsActive : Prop := s.state = .running ∨ s.state = .paused
def IsTerminal : Prop := s.state = .completed ∨ s.state = .failed ∨ s.state = .cancelled

instance : Decidable s.IsActive := inferInstanceAs (Decidable (_ ∨ _))
instance : Decidable s.IsTerminal := inferInstanceAs (Decidable (_ ∨ _ ∨ _))

/-- The times of the session against its manifest and each other. -/
def validateTimes : Result Unit := do
  raiseIf (s.replaySessionId ≠ s.manifest.replaySessionId)
    (valueError "replay_session_id must match manifest replay_session_id")
  raiseIf (∃ t ∈ s.currentTime, t < s.manifest.startsAt ∨ s.manifest.endsAt < t)
    (valueError "current_time must be within the manifest replay window")
  raiseIf (∃ t ∈ s.startedAt, t < s.manifest.createdAt)
    (valueError "started_at must not be before manifest created_at")
  raiseIf (∃ t ∈ s.completedAt, t < s.manifest.createdAt)
    (valueError "completed_at must not be before manifest created_at")
  raiseIf (∃ t ∈ s.startedAt, ∃ u ∈ s.completedAt, u < t)
    (valueError "completed_at must not be before started_at")

/-- What each state has to have and may not have. -/
def validateState : Result Unit := do
  raiseIf (s.IsActive ∧ s.startedAt = none) (valueError "active replay session requires started_at")
  raiseIf (s.IsActive ∧ s.currentTime = none) (valueError "active replay session requires current_time")
  raiseIf (s.IsActive ∧ (s.completedAt ≠ none ∨ s.resultChecksum ≠ none))
    (valueError "active replay session cannot contain terminal result fields")
  raiseIf (s.IsTerminal ∧ s.completedAt = none) (valueError "terminal replay session requires completed_at")
  raiseIf (s.state = .completed ∧ s.startedAt = none)
    (valueError "completed replay session requires started_at")
  raiseIf (s.state = .completed ∧ s.resultChecksum = none)
    (valueError "completed replay session requires result_checksum")
  raiseIf (s.state = .completed ∧ s.failureMessage ≠ none)
    (valueError "completed replay session cannot contain failure_message")
  raiseIf (s.state = .failed ∧ s.failureMessage = none)
    (valueError "failed replay session requires failure_message")
  raiseIf (s.state = .failed ∧ s.resultChecksum ≠ none)
    (valueError "failed replay session cannot contain result_checksum")
  raiseIf (s.state ≠ .completed ∧ s.state ≠ .failed ∧ s.resultChecksum ≠ none)
    (valueError "non-completed replay session cannot contain result_checksum")
  raiseIf (s.state ≠ .failed ∧ s.failureMessage ≠ none)
    (valueError "non-failed replay session cannot contain failure_message")

/-- Field constraints, then `validate_session_lifecycle`. -/
def validate : Result ReplaySession := do
  checkOptionalText "result_checksum" 256 s.resultChecksum
  checkOptionalText "failure_message" 1024 s.failureMessage
  s.validateTimes
  s.validateState
  pure s

variable {s}

theorem validate_eq_ok {t : ReplaySession} : s.validate = .ok t ↔
    (∀ c ∈ s.resultChecksum, TextWithin 256 c) ∧ (∀ c ∈ s.failureMessage, TextWithin 1024 c) ∧
    s.validateTimes = .ok ⟨⟩ ∧ s.validateState = .ok ⟨⟩ ∧ t = s := by
  simp only [validate, bind_eq_ok, checkOptionalText_eq_ok, exists_const, pure_eq_ok, eq_comm (a := s)]
  constructor
  · rintro ⟨h1, h2, ⟨⟩, h3, ⟨⟩, h4, rfl⟩; exact ⟨h1, h2, h3, h4, rfl⟩
  · rintro ⟨h1, h2, h3, h4, rfl⟩; exact ⟨h1, h2, ⟨⟩, h3, ⟨⟩, h4, rfl⟩

end ReplaySession
end Pmrp
