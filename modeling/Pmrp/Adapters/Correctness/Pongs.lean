import Pmrp.Adapters.KalshiConnection

/-!
# `Adapters.Correctness.Pongs` — every ping is answered once

A ping is answered by the call that receives it, whatever that call was waiting for and whatever it raises. Over any run
of calls, what a connection hands to its transport is what its subscriptions ask for and one answer for each ping
(`Transcript`), in the order in which they were received.
-/

namespace Pmrp
namespace KalshiWebSocket
namespace Connection

open StreamFrames

variable {runtime : Runtime} {transport : Transport} {s t u : Connection}

/-- The payload is the answer to a ping. -/
def isPong (payload : JsonObject) : Bool :=
  match payload.get "type" with
  | .string "pong" => true
  | _ => false

theorem isPong_pongPayload (ping : Ping) : isPong ping.pongPayload = true := rfl

theorem isPong_toPayload (plan : SubscribePlan) : isPong plan.toPayload = false := rfl

/-- The answer to a text, if it is a ping. -/
def pongOf (runtime : Runtime) (received : Result String) : Option JsonObject :=
  match received with
  | .error _ => none
  | .ok frameText =>
      match KalshiWebSocket.receiveNextFrame runtime frameText with
      | .ok (.ping ping) => some ping.pongPayload
      | _ => none

def subscribePayload : Call → Option JsonObject
  | .subscribe plan => some plan.toPayload
  | _ => none

def isClose : Call → Bool
  | .close => true
  | _ => false

/-- The answers to what was received between two counts. -/
def pongsBetween (runtime : Runtime) (transport : Transport) (first count : ℕ) : List JsonObject :=
  (List.range' first count).filterMap fun n => pongOf runtime (transport.receiveText n)

/-- What the calls between two moments of a connection have done. -/
structure Transcript (runtime : Runtime) (transport : Transport) (calls : List Call) (s t : Connection) : Prop where
  sent : ∃ payloads, t.sent = s.sent ++ payloads ∧ s.received ≤ t.received ∧
    payloads.filter isPong = pongsBetween runtime transport s.received (t.received - s.received) ∧
    payloads.filter (fun payload => !isPong payload) = calls.filterMap subscribePayload
  closed : t.closed = (s.closed || calls.any isClose)
  closes : s.closes + (if s.closed then 0 else 1) = t.closes + (if t.closed then 0 else 1)

theorem Transcript.refl (s : Connection) : Transcript runtime transport [] s s where
  sent := ⟨[], (List.append_nil _).symm, le_refl _, by rw [Nat.sub_self]; rfl, rfl⟩
  closed := (Bool.or_false _).symm
  closes := rfl

theorem Transcript.trans {calls calls' : List Call} (h : Transcript runtime transport calls s t)
    (h' : Transcript runtime transport calls' t u) : Transcript runtime transport (calls ++ calls') s u where
  sent := by
    obtain ⟨payloads, hsent, hle, hpongs, hplans⟩ := h.sent
    obtain ⟨payloads', hsent', hle', hpongs', hplans'⟩ := h'.sent
    refine ⟨payloads ++ payloads', ?_, hle.trans hle', ?_, ?_⟩
    · rw [hsent', hsent, List.append_assoc]
    · have hcount : u.received - s.received = (t.received - s.received) + (u.received - t.received) := by omega
      have hfirst : t.received = s.received + (t.received - s.received) := by omega
      rw [List.filter_append, hpongs, hpongs', hcount]
      unfold pongsBetween
      rw [← List.range'_append_1, List.filterMap_append, ← hfirst]
    · rw [List.filter_append, hplans, hplans', List.filterMap_append]
  closed := by rw [h'.closed, h.closed, List.any_append, Bool.or_assoc]
  closes := h.closes.trans h'.closes

/-! ## One call -/

/-- The connection after a text was received. -/
theorem receiveNextFrame_transcript (s : Connection) :
    ∃ payloads, (s.receiveNextFrame runtime transport).2 =
        { s with received := s.received + 1, sent := s.sent ++ payloads } ∧
      payloads = (pongOf runtime (transport.receiveText s.received)).toList := by
  unfold receiveNextFrame pongOf
  cases transport.receiveText s.received with
  | error e => exact ⟨[], by simp, rfl⟩
  | ok frameText =>
      dsimp only
      -- Only a ping is answered; every other frame, and every refusal, leaves what was sent alone.
      cases KalshiWebSocket.receiveNextFrame runtime frameText with
      | error e => exact ⟨[], by simp, rfl⟩
      | ok frame =>
          cases frame with
          | ping ping => exact ⟨[ping.pongPayload], rfl, rfl⟩
          | _ => exact ⟨[], by simp, rfl⟩

theorem filter_pongOf (received : Result String) :
    (pongOf runtime received).toList.filter isPong = (pongOf runtime received).toList ∧
      (pongOf runtime received).toList.filter (fun payload => !isPong payload) = [] := by
  cases hpong : pongOf runtime received with
  | none => exact ⟨rfl, rfl⟩
  | some payload =>
      have htrue : isPong payload = true := by
        unfold pongOf at hpong
        split at hpong
        · cases hpong
        · split at hpong
          · cases hpong
            exact isPong_pongPayload _
          · cases hpong
      simp [htrue]

theorem pongsBetween_one (first : ℕ) :
    pongsBetween runtime transport first 1 = (pongOf runtime (transport.receiveText first)).toList := by
  cases h : pongOf runtime (transport.receiveText first) <;> simp [pongsBetween, h]

theorem transcript_receive (s : Connection) :
    Transcript runtime transport [.receiveNextFrame] s (s.receiveNextFrame runtime transport).2 := by
  obtain ⟨payloads, hafter, rfl⟩ := @receiveNextFrame_transcript runtime transport s
  obtain ⟨hpongs, hplans⟩ := @filter_pongOf runtime (transport.receiveText s.received)
  rw [hafter]
  refine ⟨⟨_, rfl, Nat.le_succ _, ?_, hplans⟩, (Bool.or_false _).symm, rfl⟩
  have hone : s.received + 1 - s.received = 1 := by omega
  rw [hpongs, hone, pongsBetween_one]

/-- The frame of a subscription is handed over before anything is received. -/
theorem transcript_send (plan : SubscribePlan) (s : Connection) :
    Transcript runtime transport [.subscribe plan] s (s.sendJson transport plan.toPayload).2 := by
  refine ⟨⟨[plan.toPayload], rfl, le_refl _, ?_, ?_⟩, (Bool.or_false _).symm, rfl⟩
  · change [plan.toPayload].filter isPong = pongsBetween runtime transport s.received (s.received - s.received)
    rw [Nat.sub_self, List.filter_cons_of_neg (by rw [isPong_toPayload]; exact Bool.false_ne_true)]
    rfl
  · rw [List.filter_cons_of_pos (by rw [isPong_toPayload]; rfl)]
    rfl

theorem transcript_subscribe (plan : SubscribePlan) (s : Connection) :
    Transcript runtime transport [.subscribe plan] s (s.subscribe runtime transport plan).2 := by
  have hsend := @transcript_send runtime transport plan s
  unfold subscribe
  split
  next e s' heq =>
      rw [heq] at hsend
      exact hsend
  next v s' heq =>
      rw [heq] at hsend
      have hboth := hsend.trans (@transcript_receive runtime transport s')
      exact ⟨hboth.sent, hboth.closed, hboth.closes⟩

theorem transcript_close (s : Connection) : Transcript runtime transport [.close] s (s.close transport).2 := by
  unfold close
  have hnone : ([] : List JsonObject).filter isPong =
      pongsBetween runtime transport s.received (s.received - s.received) := by
    rw [Nat.sub_self]
    rfl
  split_ifs with hclosed
  · exact ⟨⟨[], (List.append_nil _).symm, le_refl _, hnone, rfl⟩, by simp [hclosed, isClose], rfl⟩
  · exact ⟨⟨[], (List.append_nil _).symm, le_refl _, hnone, rfl⟩, by simp [isClose], by simp [hclosed]⟩

/-- One call. -/
theorem transcript_call (c : Call) (s : Connection) :
    Transcript runtime transport [c] s (s.call runtime transport c).2 := by
  cases c with
  | receiveHello =>
      have hreceive := @transcript_receive runtime transport s
      exact ⟨hreceive.sent, hreceive.closed, hreceive.closes⟩
  | subscribe plan => exact transcript_subscribe plan s
  | receiveNextFrame => exact s.transcript_receive
  | close => exact s.transcript_close

theorem transcript_run (calls : List Call) (s : Connection) :
    Transcript runtime transport calls s (s.run runtime transport calls).2 := by
  induction calls generalizing s with
  | nil => exact .refl s
  | cons c calls ih => exact (transcript_call c s).trans (ih (s.call runtime transport c).2)

/-! ## Acknowledgements -/

theorem subscribe_requestId {plan : SubscribePlan} {ack : SubscriptionAck}
    (h : (s.subscribe runtime transport plan).1 = .ok ack) : ack.requestId = plan.requestId := by
  unfold subscribe at h
  split at h
  · cases h
  · dsimp only at h
    split at h
    · split_ifs at h with hsame
      cases h
      exact hsame
    · cases h
    · cases h

theorem run_requestId (calls : List Call) (s : Connection) {plan : SubscribePlan} {ack : SubscriptionAck}
    (h : (.subscribe plan, .ack (.ok ack)) ∈ (s.run runtime transport calls).1) : ack.requestId = plan.requestId := by
  induction calls generalizing s with
  | nil => cases h
  | cons c calls ih =>
      rcases List.mem_cons.mp h with heq | hrest
      · obtain ⟨rfl, hanswer⟩ := Prod.mk.inj heq
        exact subscribe_requestId (Answer.ack.inj hanswer).symm
      · exact ih _ hrest

/-- Over any calls on a new connection, whatever the transport returns or raises: the answers to pings that are handed
    to it are one for each ping that was received, in that order and with the ping's own time; the other payloads are
    those of the subscriptions; the transport is closed once if `close` was called, and never otherwise; and every
    acknowledgement that `subscribe` returns is for its own request. -/
theorem pings_answered_once (runtime : Runtime) (transport : Transport) (calls : List Call) :
    (run runtime transport {} calls).2.sent.filter isPong =
        (List.range (run runtime transport {} calls).2.received).filterMap
          (fun n => pongOf runtime (transport.receiveText n)) ∧
      (run runtime transport {} calls).2.sent.filter (fun payload => !isPong payload) =
        calls.filterMap subscribePayload ∧
      (run runtime transport {} calls).2.closes = (if calls.any isClose then 1 else 0) ∧
      ∀ plan ack, (.subscribe plan, .ack (.ok ack)) ∈ (run runtime transport {} calls).1 →
        ack.requestId = plan.requestId := by
  have htranscript := @transcript_run runtime transport calls {}
  obtain ⟨payloads, hsent, -, hpongs, hplans⟩ := htranscript.sent
  have hclosed := htranscript.closed
  have hcloses := htranscript.closes
  rw [List.nil_append] at hsent
  rw [← hsent] at hpongs hplans
  refine ⟨?_, hplans, ?_, fun plan ack => run_requestId calls {}⟩
  · rw [hpongs, List.range_eq_range']
    rfl
  · change (0 : ℕ) + 1 = _ at hcloses
    rw [hclosed, Bool.false_or] at hcloses
    split_ifs at hcloses ⊢ with hany
    · omega
    · omega

end Connection
end KalshiWebSocket
end Pmrp
