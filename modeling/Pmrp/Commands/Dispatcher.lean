import Pmrp.Commands.Idempotency

/-!
# `Commands.Dispatcher` — dispatching commands to their handlers

`CommandDispatcher.dispatch` of `commands/dispatcher.py` with the in-memory hook. The handler is the only thing that
it waits for, so a dispatch is two steps: `startDispatch` up to the call of the handler, and `finishDispatch` from
the handler's end on. A `CancelledError` in the handler is no `Exception` and passes through: nothing follows it.
-/

namespace Pmrp

inductive CommandDispatchStatus
  | completed
  | duplicate
  | rejected
  | failed
  deriving DecidableEq, Repr

structure CommandDispatchResult (R : Type) where
  commandId : String
  commandType : String
  correlationId : String
  status : CommandDispatchStatus
  result : Option R := none
  failure : Option CommandFailure := none
  deriving DecidableEq

/-- `CommandHandlerRegistry`: the schema version of the handler of each registered type. A type that does not have
the dotted form is never registered, so `get` raises for it as for the others. -/
abbrev CommandHandlerRegistry := String → Option ℕ

/-- How a handler ends, other than by a `BaseException` that is no `Exception`. -/
inductive HandlerOutcome (R : Type)
  | returned (result : Option R)
  | commandRejected (safeMessage : String) (retryable : Bool)
  | commandHandlerError (safeMessage : String) (kind : CommandFailureKind) (retryable : Bool)
  | exception (typeName : String)
  deriving DecidableEq

variable {R : Type} (sha : Sha256) (registry : CommandHandlerRegistry)

/-- `_result_for_failure`. -/
def resultForFailure (command : CommandEnvelope) (failure : CommandFailure) (status : CommandDispatchStatus) :
    CommandDispatchResult R :=
  { commandId := command.commandId, commandType := command.commandType, correlationId := command.correlationId
    status, failure := some failure }

/-- `_idempotency_hook_error`. -/
def idempotencyHookError (command : CommandEnvelope) : CommandDispatchResult R :=
  resultForFailure command ⟨.idempotencyHookError, "command idempotency hook raised an exception", true⟩ .failed

/-- `_result_for_idempotency_decision`. -/
def resultForIdempotencyDecision (command : CommandEnvelope) :
    CommandIdempotencyDecision R → Option (CommandDispatchResult R)
  | .claimed => none
  | .duplicateCompleted result =>
      some { commandId := command.commandId, commandType := command.commandType
             correlationId := command.correlationId, status := .duplicate, result }
  | .duplicateFailed failure => some (resultForFailure command failure .duplicate)
  | .duplicateInProgress reason =>
      some (resultForFailure command ⟨.duplicateInProgress, reason, true⟩ .rejected)
  | .conflict reason => some (resultForFailure command ⟨.idempotencyConflict, reason, false⟩ .rejected)
  | .rejected reason => some (resultForFailure command ⟨.idempotencyRejected, reason, true⟩ .rejected)

/-- `_record_failure`. -/
def recordFailure (hook : InMemoryCommandIdempotencyHook R) (command : CommandEnvelope) (failure : CommandFailure)
    (status : CommandDispatchStatus) : CommandDispatchResult R × InMemoryCommandIdempotencyHook R :=
  match hook.recordFailure sha command failure with
  | none => (idempotencyHookError command, hook)
  | some hook => (resultForFailure command failure status, hook)

def deadlineExceeded : CommandFailure := ⟨.deadlineExceeded, "command deadline has expired", false⟩

/-- `self._clock.now() > command.deadline_at`. -/
def Expired (now : UTCDateTime) (command : CommandEnvelope) : Prop := ∃ deadline ∈ command.deadlineAt, deadline < now

instance (now : UTCDateTime) (command : CommandEnvelope) : Decidable (Expired now command) :=
  inferInstanceAs (Decidable (∃ deadline ∈ command.deadlineAt, deadline < now))

/-- `dispatch` up to the call of the handler; none where it comes to that. -/
def startDispatch (hook : InMemoryCommandIdempotencyHook R) (command : CommandEnvelope) (now : UTCDateTime) :
    Option (CommandDispatchResult R) × InMemoryCommandIdempotencyHook R :=
  match registry command.commandType with
  | none =>
      (some (resultForFailure command ⟨.unknownCommandType, "command type is not registered", false⟩ .rejected), hook)
  | some schemaVersion =>
      if schemaVersion ≠ command.schemaVersion then
        (some (resultForFailure command
          ⟨.schemaVersionMismatch, "command schema version does not match registered handler", false⟩ .rejected), hook)
      else
        match hook.beforeDispatch sha command with
        | (none, hook) => (some (idempotencyHookError command), hook)
        | (some decision, hook) =>
            match resultForIdempotencyDecision command decision with
            | some result => (some result, hook)
            | none =>
                if Expired now command then
                  let rejected := recordFailure sha hook command deadlineExceeded .rejected
                  (some rejected.1, rejected.2)
                else (none, hook)

/-- `dispatch` from the end of the handler on. -/
def finishDispatch (hook : InMemoryCommandIdempotencyHook R) (command : CommandEnvelope) (outcome : HandlerOutcome R) :
    CommandDispatchResult R × InMemoryCommandIdempotencyHook R :=
  match outcome with
  | .returned result =>
      match hook.recordSuccess sha command result with
      | none => (idempotencyHookError command, hook)
      | some hook =>
          ({ commandId := command.commandId, commandType := command.commandType
             correlationId := command.correlationId, status := .completed, result }, hook)
  | .commandRejected safeMessage retryable =>
      recordFailure sha hook command ⟨.handlerRejected, safeMessage, retryable⟩ .rejected
  | .commandHandlerError safeMessage kind retryable =>
      recordFailure sha hook command ⟨kind, safeMessage, retryable⟩ .failed
  | .exception typeName =>
      recordFailure sha hook command ⟨.handlerError, typeName ++ " raised by command handler", false⟩ .failed

end Pmrp
