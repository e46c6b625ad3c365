import Pmrp.Schemas.Primitives

/-!
# `Adapters.PolymarketWebSocket` — the token subscription of a market stream

The subscription half of `adapters/polymarket/websocket.py`. A connection records the tokens it is subscribed to, so
that `resubscribe` can replay them. `update_tokens` computes the new record from the recorded one, awaits the send of
the update frame, and then records what it has computed; `Step` interleaves any number of such calls at that await.
-/

namespace Pmrp
namespace PolymarketWebSocket

def textMaxLength : ℕ := 4096

/-- `_validate_text_tuple` accepts the texts, and there is one. -/
structure TokenIds (tokenIds : List String) : Prop where
  ne_nil : tokenIds ≠ []
  nodup : tokenIds.Nodup
  text : ∀ tokenId ∈ tokenIds, tokenId ≠ "" ∧ isStripped tokenId = true ∧ tokenId.length ≤ textMaxLength

inductive TokenOperation
  | subscribe
  | unsubscribe
  deriving DecidableEq, Repr

/-- `PolymarketWebSocketTokenUpdatePlan`. -/
structure TokenUpdatePlan where
  operation : TokenOperation
  tokenIds : List String
  valid : TokenIds tokenIds
  deriving DecidableEq

/-- `PolymarketWebSocketSubscriptionState`. -/
structure SubscriptionState where
  tokenIds : List String
  customFeatureEnabled : Bool := false
  valid : TokenIds tokenIds
  deriving DecidableEq

/-! ## `apply_update` -/

/-- `_append_unique`. -/
def appendUnique (existingValues newValues : List String) : List String :=
  newValues.foldl (fun values value => if value ∈ values then values else values ++ [value]) existingValues

/-- The tokens an unsubscription leaves. -/
def retain (existingValues removedValues : List String) : List String :=
  existingValues.filter fun tokenId => tokenId ∉ removedValues

theorem mem_appendUnique {existing new : List String} {t : String} :
    t ∈ appendUnique existing new ↔ t ∈ existing ∨ t ∈ new := by
  unfold appendUnique
  induction new generalizing existing with
  | nil => simp
  | cons value new ih =>
      rw [List.foldl_cons, ih]
      by_cases hmem : value ∈ existing
      · rw [if_pos hmem, List.mem_cons]
        constructor
        · rintro (h | h)
          · exact .inl h
          · exact .inr (.inr h)
        · rintro (h | rfl | h)
          · exact .inl h
          · exact .inl hmem
          · exact .inr h
      · rw [if_neg hmem, List.mem_append, List.mem_singleton, List.mem_cons, or_assoc]

theorem nodup_appendUnique {existing new : List String} (h : existing.Nodup) :
    (appendUnique existing new).Nodup := by
  unfold appendUnique
  induction new generalizing existing with
  | nil => exact h
  | cons value new ih =>
      rw [List.foldl_cons]
      apply ih
      by_cases hmem : value ∈ existing
      · rwa [if_pos hmem]
      · rw [if_neg hmem]
        refine h.append (List.nodup_singleton value) ?_
        intro t ht hvalue
        obtain rfl := List.mem_singleton.mp hvalue
        exact hmem ht

theorem tokenIds_appendUnique {existing new : List String} (hexisting : TokenIds existing) (hnew : TokenIds new) :
    TokenIds (appendUnique existing new) where
  ne_nil := by
    obtain ⟨t, ht⟩ := List.exists_mem_of_ne_nil existing hexisting.ne_nil
    exact List.ne_nil_of_mem (mem_appendUnique.mpr (.inl ht))
  nodup := nodup_appendUnique hexisting.nodup
  text t ht := (mem_appendUnique.mp ht).elim (hexisting.text t) (hnew.text t)

theorem tokenIds_retain {existing removed : List String} (hexisting : TokenIds existing)
    (hne : retain existing removed ≠ []) : TokenIds (retain existing removed) where
  ne_nil := hne
  nodup := hexisting.nodup.filter _
  text t ht := hexisting.text t (List.mem_of_mem_filter ht)

def SubscriptionState.applyUpdate (state : SubscriptionState) (plan : TokenUpdatePlan) : Result SubscriptionState :=
  match plan.operation with
  | .subscribe =>
      .ok { state with
        tokenIds := appendUnique state.tokenIds plan.tokenIds
        valid := tokenIds_appendUnique state.valid plan.valid }
  | .unsubscribe =>
      if hne : retain state.tokenIds plan.tokenIds ≠ [] then
        .ok { state with
          tokenIds := retain state.tokenIds plan.tokenIds
          valid := tokenIds_retain state.valid hne }
      else .error (valueError "Polymarket WebSocket subscription state must retain at least one token")

/-! ## Interleaved calls of `update_tokens` -/

/-- A call that waits for its send: the record it has read, and what it will record. -/
structure UpdateCall where
  plan : TokenUpdatePlan
  read : SubscriptionState
  updated : SubscriptionState
  computed : read.applyUpdate plan = .ok updated

/-- The connection, the calls that wait for their send, those of them whose send has succeeded, and the plans of all
    successful sends, the last two in send order. -/
structure Connection where
  subscription : Option SubscriptionState
  calls : ℕ → Option UpdateCall := fun _ => none
  unresumed : List ℕ := []
  sends : List TokenUpdatePlan := []

inductive UpdateAction
  | start (n : ℕ) (plan : TokenUpdatePlan)
  | refuse (n : ℕ) (plan : TokenUpdatePlan)
  | send (n : ℕ)
  | fail (n : ℕ)
  | resume (n : ℕ)

/-- The call ends with an exception. -/
def UpdateAction.Raises : UpdateAction → Prop
  | .refuse _ _ => True
  | .fail _ => True
  | _ => False

namespace Connection

variable (s : Connection)

/-- A connection that is subscribed, with no call on it. -/
def subscribed (initial : SubscriptionState) : Connection := { subscription := some initial }

/-- Any number of calls in any order. A call starts by computing the new record, and is refused before `subscribe` or
    when the update would leave no token. The send of a waiting call succeeds or raises; some time after it has
    succeeded the call resumes and records what it has computed. -/
inductive Step : UpdateAction → Connection → Prop
  | start {n : ℕ} (call : UpdateCall) (hidle : s.calls n = none) (hread : s.subscription = some call.read) :
      Step (.start n call.plan) { s with calls := Function.update s.calls n (some call) }
  | refuse {n : ℕ} {plan : TokenUpdatePlan} (hidle : s.calls n = none)
      (hrefused : ∀ recorded ∈ s.subscription, ∃ e, recorded.applyUpdate plan = .error e) :
      Step (.refuse n plan) s
  | send {n : ℕ} {call : UpdateCall} (hcall : s.calls n = some call) (hwaiting : n ∉ s.unresumed) :
      Step (.send n) { s with unresumed := s.unresumed ++ [n], sends := s.sends ++ [call.plan] }
  | fail {n : ℕ} {call : UpdateCall} (hcall : s.calls n = some call) (hwaiting : n ∉ s.unresumed) :
      Step (.fail n) { s with calls := Function.update s.calls n none }
  | resume {n : ℕ} {call : UpdateCall} (hcall : s.calls n = some call) (hsent : n ∈ s.unresumed) :
      Step (.resume n)
        { s with
          subscription := some call.updated
          calls := Function.update s.calls n none
          unresumed := s.unresumed.erase n }

/-- No call waits. -/
def Ended : Prop := ∀ n, s.calls n = none

/-- The record is the fold of the plans that were sent, in send order. -/
def RecordsSends (initial : SubscriptionState) : Prop :=
  ∃ recorded, s.subscription = some recorded ∧ s.sends.foldlM SubscriptionState.applyUpdate initial = .ok recorded

end Connection
end PolymarketWebSocket
end Pmrp
