import Mathlib.Data.Finset.Card
import Pmrp.Commands.Correctness.Entries
import Pmrp.Lib.Transitions

/-!
# `Commands.Correctness.Dispatches` — one run of the handler for each key

Any number of dispatches with one hook. A switch between them is possible only while a handler runs, so a dispatch is
a start and, when it has called its handler, an end: the handler's, or a cancellation.

- **Invariant.** `Inv`: every claim whose handler has not ended with a record has its entry in progress, no two such
  claims share a key, and every entry is the entry of a claim. As long as no more keys were dispatched than the hook has
  entries, every claim has its entry, and no two claims share a key.
- **Results.** `at_most_once` and `none_in_progress`.
-/

namespace Pmrp
namespace Dispatches

open InMemoryCommandIdempotencyHook

variable {R : Type}

/-! ## Dispatches that have claimed their key -/

inductive Record (R : Type)
  | completed (result : Option R)
  | failed (failure : CommandFailure)
  deriving DecidableEq

inductive Phase (R : Type)
  | handling
  | recorded (record : Record R)
  | cancelled
  deriving DecidableEq

structure Claim (R : Type) where
  command : CommandEnvelope
  /-- The handler was called. -/
  ran : Bool
  phase : Phase R

def outcomeRecord : HandlerOutcome R → Record R
  | .returned result => .completed result
  | .commandRejected safeMessage retryable => .failed ⟨.handlerRejected, safeMessage, retryable⟩
  | .commandHandlerError safeMessage kind retryable => .failed ⟨kind, safeMessage, retryable⟩
  | .exception typeName => .failed ⟨.handlerError, typeName ++ " raised by command handler", false⟩

/-- The claim that the start of a dispatch has made: it calls the handler, or refuses the command for its deadline. -/
def claimOf (command : CommandEnvelope) : Option (CommandDispatchResult R) → Option (Claim R)
  | none => some { command, ran := true, phase := .handling }
  | some result =>
      if result.status = .rejected ∧ result.failure = some deadlineExceeded then
        some { command, ran := false, phase := .recorded (.failed deadlineExceeded) }
      else none

/-- The hook, the claims by number, and the keys dispatched to registered command types. -/
structure World (R : Type) where
  hook : InMemoryCommandIdempotencyHook R
  claims : ℕ → Option (Claim R) := fun _ => none
  started : ℕ := 0
  keys : Finset String := ∅

inductive Action (R : Type)
  | start (command : CommandEnvelope) (now : UTCDateTime)
  | finish (n : ℕ) (outcome : HandlerOutcome R)
  | cancel (n : ℕ)

variable (sha : Sha256) (registry : CommandHandlerRegistry)

def World.addKey (w : World R) (command : CommandEnvelope) : Finset String :=
  if (registry command.commandType).isSome then insert command.idempotencyKey w.keys else w.keys

def World.start (w : World R) (command : CommandEnvelope) (now : UTCDateTime) : World R :=
  let result := startDispatch sha registry w.hook command now
  match claimOf command result.1 with
  | none => { w with hook := result.2, keys := w.addKey registry command }
  | some claim => { hook := result.2, claims := Function.update w.claims w.started (some claim)
                    started := w.started + 1, keys := w.addKey registry command }

def World.setPhase (w : World R) (n : ℕ) (claim : Claim R) (phase : Phase R) : World R :=
  { w with claims := Function.update w.claims n (some { claim with phase }) }

inductive Step : World R → Action R → World R → Prop
  | start {w : World R} (command : CommandEnvelope) (now : UTCDateTime) :
      Step w (.start command now) (w.start sha registry command now)
  | finish {w : World R} {n : ℕ} {claim : Claim R} (outcome : HandlerOutcome R) :
      w.claims n = some claim → claim.phase = .handling →
      Step w (.finish n outcome)
        { w.setPhase n claim (.recorded (outcomeRecord outcome)) with
          hook := (finishDispatch sha w.hook claim.command outcome).2 }
  | cancel {w : World R} {n : ℕ} {claim : Claim R} :
      w.claims n = some claim → claim.phase = .handling → Step w (.cancel n) (w.setPhase n claim .cancelled)

/-! ## The invariant -/

namespace Claim

def key (claim : Claim R) : String := claim.command.idempotencyKey

/-- The entry that stands for the claim. -/
def entry (claim : Claim R) : InMemoryIdempotencyEntry R :=
  let fingerprint := (commandIdempotencyFingerprint sha claim.command).getD ""
  match claim.phase with
  | .handling => { key := claim.key, fingerprint, status := .inProgress }
  | .cancelled => { key := claim.key, fingerprint, status := .inProgress }
  | .recorded (.completed result) => { key := claim.key, fingerprint, status := .completed, result }
  | .recorded (.failed failure) => { key := claim.key, fingerprint, status := .failed, failure := some failure }

/-- Nothing is recorded for the claim. -/
def Open (claim : Claim R) : Prop := (claim.entry sha).status = .inProgress

@[simp] theorem key_entry (claim : Claim R) : (claim.entry sha).key = claim.key := by
  rw [entry]
  split <;> rfl

theorem fingerprint_entry (claim : Claim R) :
    (claim.entry sha).fingerprint = (commandIdempotencyFingerprint sha claim.command).getD "" := by
  rw [entry]
  split <;> rfl

theorem open_of_handling {claim : Claim R} (h : claim.phase = .handling) : claim.Open sha := by
  rw [Open, entry, h]

end Claim

structure Inv (w : World R) : Prop where
  unique : UniqueEntries w.hook.entries
  size : w.hook.entries.length ≤ w.hook.maxEntries
  fresh : ∀ n, w.started ≤ n → w.claims n = none
  hashed : ∀ n claim, w.claims n = some claim → ∃ f, commandIdempotencyFingerprint sha claim.command = some f
  ofOpen : ∀ n claim, w.claims n = some claim → claim.Open sha → claim.entry sha ∈ w.hook.entries
  openUnique : ∀ m n claim claim', w.claims m = some claim → w.claims n = some claim' → claim.Open sha →
    claim'.Open sha → claim.key = claim'.key → m = n
  ofEntry : ∀ e ∈ w.hook.entries, ∃ n claim, w.claims n = some claim ∧ claim.entry sha = e
  entryKeys : ∀ e ∈ w.hook.entries, e.key ∈ w.keys
  claimKeys : ∀ n claim, w.claims n = some claim → claim.key ∈ w.keys
  few : w.keys.card ≤ w.hook.maxEntries →
    (∀ n claim, w.claims n = some claim → claim.entry sha ∈ w.hook.entries) ∧
    ∀ m n claim claim', w.claims m = some claim → w.claims n = some claim' → claim.key = claim'.key → m = n

variable {sha registry} {w : World R}

/-- A key that is in none of the entries leaves room for one, while there are no more keys than entries. -/
theorem Inv.length_lt (h : Inv sha w) {keys : Finset String} {key : String} (hkeys : w.keys ⊆ keys)
    (hkey : key ∈ keys) (hcard : keys.card ≤ w.hook.maxEntries) (hget : w.hook.get key = none) :
    w.hook.entries.length < w.hook.maxEntries := by
  have hnodup : (w.hook.entries.map (·.key)).Nodup := List.pairwise_map.mpr h.unique
  have hsub : (w.hook.entries.map (·.key)).toFinset ⊆ keys.erase key := by
    intro k hk
    obtain ⟨e, he, rfl⟩ := List.mem_map.mp (List.mem_toFinset.mp hk)
    exact Finset.mem_erase.mpr ⟨Dictionary.lookup_eq_none.mp hget e he, hkeys (h.entryKeys e he)⟩
  have hle := Finset.card_le_card hsub
  rw [List.toFinset_card_of_nodup hnodup, List.length_map, Finset.card_erase_of_mem hkey] at hle
  have hpos := Finset.card_pos.mpr ⟨key, hkey⟩
  omega

/-- A claim in the table after one was put at `n` is the one put there, or was there before. -/
theorem put_or_kept {claims : ℕ → Option (Claim R)} {m n : ℕ} {claim claim' : Claim R}
    (h : Function.update claims n (some claim) m = some claim') :
    (m = n ∧ claim' = claim) ∨ (m ≠ n ∧ claims m = some claim') := by
  by_cases hmn : m = n
  · subst hmn
    rw [Function.update_self] at h
    exact Or.inl ⟨rfl, (Option.some.inj h).symm⟩
  · rw [Function.update_of_ne hmn] at h
    exact Or.inr ⟨hmn, h⟩

/-- Claims with keys of their own keep them when one more is put whose key none of them has. -/
theorem distinct_put {claims : ℕ → Option (Claim R)} {k : ℕ} {claim : Claim R} {p : Claim R → Prop}
    (hdistinct : ∀ m n claim₁ claim₂, claims m = some claim₁ → claims n = some claim₂ → p claim₁ → p claim₂ →
      claim₁.key = claim₂.key → m = n)
    (hnew : ∀ n claim', claims n = some claim' → p claim' → claim'.key ≠ claim.key) {m n : ℕ} {claim₁ claim₂ : Claim R}
    (hm : Function.update claims k (some claim) m = some claim₁)
    (hn : Function.update claims k (some claim) n = some claim₂) (hp₁ : p claim₁) (hp₂ : p claim₂)
    (hsame : claim₁.key = claim₂.key) : m = n := by
  obtain ⟨rfl, rfl⟩ | ⟨_, hold₁⟩ := put_or_kept hm
  · obtain ⟨rfl, _⟩ | ⟨_, hold₂⟩ := put_or_kept hn
    · rfl
    · exact absurd hsame.symm (hnew n claim₂ hold₂ hp₂)
  · obtain ⟨rfl, rfl⟩ | ⟨_, hold₂⟩ := put_or_kept hn
    · exact absurd hsame (hnew m claim₁ hold₁ hp₁)
    · exact hdistinct m n claim₁ claim₂ hold₁ hold₂ hp₁ hp₂ hsame

/-! ## The start of a dispatch -/

/-- What the start of a dispatch does to the hook when it claims nothing. -/
structure Refused (registry : CommandHandlerRegistry) (hook : InMemoryCommandIdempotencyHook R)
    (command : CommandEnvelope) (entries : List (InMemoryIdempotencyEntry R)) : Prop where
  sub : ∀ e ∈ entries, e ∈ hook.entries
  progress : ∀ e ∈ hook.entries, e.status = .inProgress → e ∈ entries
  unique : UniqueEntries entries
  size : entries.length ≤ hook.maxEntries
  full : entries.Perm hook.entries ∨ (hook.get command.idempotencyKey = none ∧
    (registry command.commandType).isSome ∧ hook.maxEntries ≤ hook.entries.length)

/-- No answer from the hook looks like a claim. -/
theorem claimOf_decision {command : CommandEnvelope} {decision : CommandIdempotencyDecision R}
    {result : CommandDispatchResult R} (h : resultForIdempotencyDecision command decision = some result) :
    claimOf command (some result) = none := by
  cases decision <;> cases h <;> rfl

theorem duplicate_ne_claimed (entry : InMemoryIdempotencyEntry R) : duplicate entry ≠ .claimed := by
  rw [duplicate]
  split
  · intro h
    cases h
  · intro h
    cases h
  · split <;> intro h <;> cases h

theorem exists_result (command : CommandEnvelope) {decision : CommandIdempotencyDecision R}
    (h : decision ≠ .claimed) : ∃ result, resultForIdempotencyDecision command decision = some result := by
  cases decision
  case claimed => exact absurd rfl h
  all_goals exact ⟨_, rfl⟩

theorem start_spec (command : CommandEnvelope) (now : UTCDateTime) {hook : InMemoryCommandIdempotencyHook R}
    (hunique : UniqueEntries hook.entries) (hsize : hook.entries.length ≤ hook.maxEntries) :
    (∃ entries, (startDispatch sha registry hook command now).2 = { hook with entries := entries } ∧
      claimOf command (startDispatch sha registry hook command now).1 = none ∧ Refused registry hook command entries) ∨
    (∃ claim, claimOf command (startDispatch sha registry hook command now).1 = some claim ∧
      (startDispatch sha registry hook command now).2 = { hook with entries := hook.makeRoom ++ [claim.entry sha] } ∧
      claim.command = command ∧ hook.get command.idempotencyKey = none ∧
      (∃ f, commandIdempotencyFingerprint sha command = some f) ∧ hook.makeRoom.length < hook.maxEntries ∧
      (registry command.commandType).isSome) := by
  have hsame : Refused registry hook command hook.entries :=
    ⟨fun _ he => he, fun _ he _ => he, hunique, hsize, Or.inl (List.Perm.refl _)⟩
  -- the branches of the source in their order: only the last one claims the key
  unfold startDispatch
  cases hregistry : registry command.commandType with
  | none => exact Or.inl ⟨_, rfl, rfl, hsame⟩
  | some schemaVersion =>
      dsimp only
      split
      · exact Or.inl ⟨_, rfl, rfl, hsame⟩
      · cases hf : commandIdempotencyFingerprint sha command with
        | none =>
            simp only [beforeDispatch, hf]
            exact Or.inl ⟨_, rfl, rfl, hsame⟩
        | some f =>
            cases hget : hook.get command.idempotencyKey with
            | some existing =>
                -- the key is taken: a conflict, or the answer that is there
                refine Or.inl ⟨putLast existing hook.entries, ?_⟩
                have hmem := mem_of_get hget
                have hperm := putLast_perm hunique hmem
                have hkept : Refused registry hook command (putLast existing hook.entries) :=
                  ⟨fun _ => hperm.mem_iff.mp, fun _ he _ => hperm.mem_iff.mpr he, unique_putLast hunique existing,
                    hperm.length_eq.trans_le hsize, Or.inl hperm⟩
                have hdecision : (if existing.fingerprint ≠ f then CommandIdempotencyDecision.conflict
                    "command idempotency key conflicts with a different command request" else duplicate existing) ≠
                    .claimed := by
                  split
                  · intro hcontra
                    cases hcontra
                  · exact duplicate_ne_claimed existing
                obtain ⟨result, hresult⟩ := exists_result command hdecision
                rw [beforeDispatch_existing hf hget]
                dsimp only
                rw [hresult]
                exact ⟨rfl, claimOf_decision hresult, hkept⟩
            | none =>
                by_cases hroom : hook.maxEntries ≤ hook.makeRoom.length
                -- nothing can be evicted, and the hook refuses
                · rw [beforeDispatch_full hf hget hroom]
                  obtain ⟨hsub, hprogress⟩ := makeRoom_spec hunique
                  refine Or.inl ⟨hook.makeRoom, rfl, rfl, fun _ he => hsub.subset he, hprogress, hunique.sublist hsub,
                    hsub.length_le.trans hsize, Or.inr ⟨hget, by rw [hregistry]; rfl, ?_⟩⟩
                  exact hroom.trans hsub.length_le
                · have hlt : hook.makeRoom.length < hook.maxEntries := by omega
                  have hnew : ∀ e ∈ hook.makeRoom, e.key ≠ command.idempotencyKey := by
                    intro e he
                    exact Dictionary.lookup_eq_none.mp hget e ((makeRoom_spec hunique).1.subset he)
                  rw [beforeDispatch_claimed hunique hf hget hlt]
                  dsimp only [resultForIdempotencyDecision]
                  split
                  · -- the deadline has passed: the entry in progress becomes a failure at once
                    rw [recordFailure_eq hf]
                    · refine Or.inr ⟨{ command, ran := false, phase := .recorded (.failed deadlineExceeded) }, rfl, ?_,
                        rfl, rfl, ⟨f, rfl⟩, hlt, rfl⟩
                      dsimp only
                      rw [putLast_append]
                      · simp [Claim.entry, Claim.key, hf]
                      · rfl
                      · exact hnew
                    · rw [List.length_append, List.length_singleton]
                      exact hlt
                    · exact ⟨_, List.mem_append_right _ List.mem_cons_self, rfl⟩
                  · refine Or.inr ⟨{ command, ran := true, phase := .handling }, rfl, ?_, rfl, rfl, ⟨f, rfl⟩, hlt, rfl⟩
                    simp [Claim.entry, Claim.key, hf]

theorem addKey_subset (w : World R) (command : CommandEnvelope) : w.keys ⊆ w.addKey registry command := by
  rw [World.addKey]
  split
  · exact Finset.subset_insert _ _
  · exact Finset.Subset.refl _

theorem Inv.start (h : Inv sha w) (command : CommandEnvelope) (now : UTCDateTime) :
    Inv sha (w.start sha registry command now) := by
  have hkeys : w.keys ⊆ w.addKey registry command := addKey_subset w command
  obtain ⟨entries, hhook, hclaim, hrefused⟩ | ⟨claim, hclaim, hhook, hcommand, hget, hf, hroom, hregistered⟩ :=
    start_spec command now h.unique h.size
  · have hstart : w.start sha registry command now =
        { w with hook := { w.hook with entries := entries }, keys := w.addKey registry command } := by
      rw [World.start]
      dsimp only
      rw [hclaim, hhook]
    rw [hstart]
    refine { unique := hrefused.unique, size := hrefused.size, fresh := h.fresh, hashed := h.hashed, ofOpen := ?ofOpen
             openUnique := h.openUnique, ofEntry := ?ofEntry, entryKeys := ?entryKeys, claimKeys := ?claimKeys
             few := ?few }
    case ofOpen =>
      intro n claim hn hopen
      exact hrefused.progress _ (h.ofOpen n claim hn hopen) hopen
    case ofEntry =>
      intro e he
      exact h.ofEntry e (hrefused.sub e he)
    case entryKeys =>
      intro e he
      exact hkeys (h.entryKeys e (hrefused.sub e he))
    case claimKeys =>
      intro n claim hn
      exact hkeys (h.claimKeys n claim hn)
    case few =>
      -- an entry can be lost only for a key without one, and for that key there is room
      intro hcard
      obtain ⟨hentries, hunique⟩ := h.few ((Finset.card_le_card hkeys).trans hcard)
      refine ⟨fun n claim hn => ?_, hunique⟩
      obtain hperm | ⟨hget, hregistered, hfull⟩ := hrefused.full
      · exact hperm.mem_iff.mpr (hentries n claim hn)
      · have hkey : command.idempotencyKey ∈ w.addKey registry command := by
          rw [World.addKey, if_pos hregistered]
          exact Finset.mem_insert_self _ _
        have hlt := h.length_lt hkeys hkey hcard hget
        omega
  · have hstart : w.start sha registry command now =
        { hook := { w.hook with entries := w.hook.makeRoom ++ [claim.entry sha] }
          claims := Function.update w.claims w.started (some claim)
          started := w.started + 1, keys := w.addKey registry command } := by
      rw [World.start]
      dsimp only
      rw [hclaim, hhook]
    have hkey : claim.key = command.idempotencyKey := congrArg CommandEnvelope.idempotencyKey hcommand
    have hnew : ∀ e ∈ w.hook.entries, e.key ≠ claim.key := by
      rw [hkey]
      exact Dictionary.lookup_eq_none.mp hget
    have hcommandKey : claim.key ∈ w.addKey registry command := by
      rw [World.addKey, if_pos hregistered, hkey]
      exact Finset.mem_insert_self _ _
    obtain ⟨hsub, hprogress⟩ := makeRoom_spec h.unique
    have hunknown : ∀ claim' : Claim R, claim'.entry sha ∈ w.hook.entries → claim'.key ≠ claim.key := by
      intro claim' hmem
      rw [← Claim.key_entry sha claim']
      exact hnew _ hmem
    rw [hstart]
    refine { unique := ?unique, size := ?size, fresh := ?fresh, hashed := ?hashed, ofOpen := ?ofOpen
             openUnique := ?openUnique, ofEntry := ?ofEntry, entryKeys := ?entryKeys, claimKeys := ?claimKeys
             few := ?few }
    case unique =>
      refine List.pairwise_append.mpr ⟨h.unique.sublist hsub, List.pairwise_singleton _ _, ?_⟩
      intro e he e' he'
      rw [List.mem_singleton.mp he']
      show e.key ≠ (claim.entry sha).key
      rw [Claim.key_entry]
      exact hnew e (hsub.subset he)
    case size =>
      rw [List.length_append, List.length_singleton]
      exact hroom
    case fresh =>
      intro n hn
      have hlt : w.started < n := hn
      exact (Function.update_of_ne (by omega) _ _).trans (h.fresh n (by omega))
    case hashed =>
      intro n claim' hn
      obtain ⟨_, rfl⟩ | ⟨_, hold⟩ := put_or_kept hn
      · rw [hcommand]
        exact hf
      · exact h.hashed n claim' hold
    case ofOpen =>
      -- making room drops entries that are recorded only
      intro n claim' hn hopen
      obtain ⟨_, rfl⟩ | ⟨_, hold⟩ := put_or_kept hn
      · exact List.mem_append_right _ List.mem_cons_self
      · exact List.mem_append_left _ (hprogress _ (h.ofOpen n claim' hold hopen) hopen)
    case openUnique =>
      intro m n claim₁ claim₂ hm hn hopen₁ hopen₂ hsame
      exact distinct_put h.openUnique (fun n claim' hold hopen => hunknown claim' (h.ofOpen n claim' hold hopen))
        hm hn hopen₁ hopen₂ hsame
    case ofEntry =>
      intro e he
      obtain he | he := List.mem_append.mp he
      · obtain ⟨n, claim', hn, hentry⟩ := h.ofEntry e (hsub.subset he)
        have hne : n ≠ w.started := by
          rintro rfl
          rw [h.fresh _ le_rfl] at hn
          cases hn
        exact ⟨n, claim', (Function.update_of_ne hne _ _).trans hn, hentry⟩
      · exact ⟨w.started, claim, Function.update_self _ _ _, (List.mem_singleton.mp he).symm⟩
    case entryKeys =>
      intro e he
      obtain he | he := List.mem_append.mp he
      · exact hkeys (h.entryKeys e (hsub.subset he))
      · rw [List.mem_singleton.mp he, Claim.key_entry]
        exact hcommandKey
    case claimKeys =>
      intro n claim' hn
      obtain ⟨_, rfl⟩ | ⟨_, hold⟩ := put_or_kept hn
      · exact hcommandKey
      · exact hkeys (h.claimKeys n claim' hold)
    case few =>
      -- the new key had no entry, so the others are fewer than the hook holds and none is dropped
      intro hcard
      obtain ⟨hentries, hunique⟩ := h.few ((Finset.card_le_card hkeys).trans hcard)
      have hlt := h.length_lt hkeys (hkey ▸ hcommandKey) hcard hget
      constructor
      · intro n claim' hn
        show _ ∈ w.hook.makeRoom ++ _
        rw [makeRoom_of_lt hlt]
        obtain ⟨_, rfl⟩ | ⟨_, hold⟩ := put_or_kept hn
        · exact List.mem_append_right _ List.mem_cons_self
        · exact List.mem_append_left _ (hentries n claim' hold)
      · intro m n claim₁ claim₂ hm hn hsame
        have hdistinct : ∀ m n claim₁ claim₂, w.claims m = some claim₁ → w.claims n = some claim₂ → True → True →
            claim₁.key = claim₂.key → m = n := fun m n claim₁ claim₂ hm hn _ _ => hunique m n claim₁ claim₂ hm hn
        exact distinct_put hdistinct (fun n claim' hold _ => hunknown claim' (hentries n claim' hold)) hm hn
          trivial trivial hsame

/-! ## The end of a dispatch -/

/-- A claim moves on, and the entry of its key with it. -/
theorem Inv.setPhase (h : Inv sha w) {n : ℕ} {claim : Claim R} {phase : Phase R}
    {entries : List (InMemoryIdempotencyEntry R)} (hn : w.claims n = some claim) (hopen : claim.Open sha)
    (hunique : UniqueEntries entries) (hsize : entries.length ≤ w.hook.maxEntries)
    (hmem : ∀ e, e ∈ entries ↔ (e ∈ w.hook.entries ∧ e.key ≠ claim.key) ∨ e = Claim.entry sha { claim with phase }) :
    Inv sha { w.setPhase n claim phase with hook := { w.hook with entries := entries } } := by
  have hentry := h.ofOpen n claim hn hopen
  -- what the claims were before, with the same keys
  have hbefore : ∀ m claim', (w.setPhase n claim phase).claims m = some claim' →
      ∃ claim₀, w.claims m = some claim₀ ∧ claim₀.key = claim'.key ∧ (claim'.Open sha → claim₀.Open sha) := by
    intro m claim' hm
    obtain ⟨rfl, rfl⟩ | ⟨_, hold⟩ := put_or_kept hm
    · exact ⟨claim, hn, rfl, fun _ => hopen⟩
    · exact ⟨claim', hold, rfl, id⟩
  refine { unique := hunique, size := hsize, fresh := ?fresh, hashed := ?hashed, ofOpen := ?ofOpen
           openUnique := ?openUnique, ofEntry := ?ofEntry, entryKeys := ?entryKeys, claimKeys := ?claimKeys
           few := ?few }
  case fresh =>
    intro m hm
    have hne : m ≠ n := by
      rintro rfl
      rw [h.fresh m hm] at hn
      cases hn
    exact (Function.update_of_ne hne _ _).trans (h.fresh m hm)
  case hashed =>
    intro m claim' hm
    obtain ⟨_, rfl⟩ | ⟨_, hold⟩ := put_or_kept hm
    · exact h.hashed n claim hn
    · exact h.hashed m claim' hold
  case ofOpen =>
    intro m claim' hm hopen'
    obtain ⟨_, rfl⟩ | ⟨hmn, hold⟩ := put_or_kept hm
    · exact (hmem _).mpr (Or.inr rfl)
    · refine (hmem _).mpr (Or.inl ⟨h.ofOpen m claim' hold hopen', fun hkey => hmn ?_⟩)
      rw [Claim.key_entry] at hkey
      exact h.openUnique m n claim' claim hold hn hopen' hopen hkey
  case openUnique =>
    intro m₁ m₂ claim₁ claim₂ hm₁ hm₂ hopen₁ hopen₂ hsame
    obtain ⟨before₁, hold₁, hkey₁, hopened₁⟩ := hbefore m₁ claim₁ hm₁
    obtain ⟨before₂, hold₂, hkey₂, hopened₂⟩ := hbefore m₂ claim₂ hm₂
    exact h.openUnique m₁ m₂ before₁ before₂ hold₁ hold₂ (hopened₁ hopen₁) (hopened₂ hopen₂)
      (hkey₁.trans (hsame.trans hkey₂.symm))
  case ofEntry =>
    intro e he
    obtain ⟨he, hkey⟩ | rfl := (hmem e).mp he
    · obtain ⟨m, claim', hm, hentry'⟩ := h.ofEntry e he
      have hne : m ≠ n := by
        rintro rfl
        have hsame : claim' = claim := Option.some.inj (hm.symm.trans hn)
        refine hkey ?_
        rw [← hentry', hsame, Claim.key_entry]
      exact ⟨m, claim', (Function.update_of_ne hne _ _).trans hm, hentry'⟩
    · exact ⟨n, _, Function.update_self _ _ _, rfl⟩
  case entryKeys =>
    intro e he
    obtain ⟨he, _⟩ | rfl := (hmem e).mp he
    · exact h.entryKeys e he
    · rw [Claim.key_entry]
      exact h.claimKeys n claim hn
  case claimKeys =>
    intro m claim' hm
    obtain ⟨before, hold, hkey, _⟩ := hbefore m claim' hm
    exact hkey ▸ h.claimKeys m before hold
  case few =>
    intro hcard
    obtain ⟨hentries, hclaims⟩ := h.few hcard
    constructor
    · intro m claim' hm
      obtain ⟨_, rfl⟩ | ⟨hmn, hold⟩ := put_or_kept hm
      · exact (hmem _).mpr (Or.inr rfl)
      · refine (hmem _).mpr (Or.inl ⟨hentries m claim' hold, fun hkey => hmn ?_⟩)
        rw [Claim.key_entry] at hkey
        exact hclaims m n claim' claim hold hn hkey
    · intro m₁ m₂ claim₁ claim₂ hm₁ hm₂ hsame
      obtain ⟨before₁, hold₁, hkey₁, _⟩ := hbefore m₁ claim₁ hm₁
      obtain ⟨before₂, hold₂, hkey₂, _⟩ := hbefore m₂ claim₂ hm₂
      exact hclaims m₁ m₂ before₁ before₂ hold₁ hold₂ (hkey₁.trans (hsame.trans hkey₂.symm))

theorem finish_spec {hook : InMemoryCommandIdempotencyHook R} {claim : Claim R} {fingerprint : String}
    (hf : commandIdempotencyFingerprint sha claim.command = some fingerprint)
    (hsize : hook.entries.length ≤ hook.maxEntries) (hmem : claim.entry sha ∈ hook.entries)
    (outcome : HandlerOutcome R) :
    (finishDispatch sha hook claim.command outcome).2 = { hook with
      entries := putLast (Claim.entry sha { claim with phase := .recorded (outcomeRecord outcome) })
        hook.entries } := by
  have hkey : ∃ e ∈ hook.entries, e.key = claim.command.idempotencyKey := ⟨_, hmem, Claim.key_entry sha claim⟩
  cases outcome with
  | returned result =>
      rw [finishDispatch, recordSuccess, record_eq hf hsize hkey fun _ => rfl]
      simp [Claim.entry, Claim.key, outcomeRecord, hf]
  | commandRejected safeMessage retryable =>
      rw [finishDispatch, recordFailure_eq hf hsize hkey]
      simp [Claim.entry, Claim.key, outcomeRecord, hf]
  | commandHandlerError safeMessage kind retryable =>
      rw [finishDispatch, recordFailure_eq hf hsize hkey]
      simp [Claim.entry, Claim.key, outcomeRecord, hf]
  | exception typeName =>
      rw [finishDispatch, recordFailure_eq hf hsize hkey]
      simp [Claim.entry, Claim.key, outcomeRecord, hf]

/-! ## Runs -/

theorem Inv.step (h : Inv sha w) {action : Action R} {w' : World R} (hstep : Step sha registry w action w') :
    Inv sha w' := by
  cases hstep with
  | start command now => exact h.start command now
  | finish outcome hn hphase =>
      rename_i n claim
      have hopen := Claim.open_of_handling sha hphase
      obtain ⟨fingerprint, hf⟩ := h.hashed n claim hn
      have hmem := h.ofOpen n claim hn hopen
      rw [finish_spec hf h.size hmem]
      refine h.setPhase hn hopen (unique_putLast h.unique _) ?_ ?_
      · refine (length_putLast ⟨_, hmem, ?_⟩).trans h.size
        rw [Claim.key_entry, Claim.key_entry]
        rfl
      · intro e
        rw [mem_putLast, Claim.key_entry]
        rfl
  | cancel hn hphase =>
      rename_i n claim
      have hopen := Claim.open_of_handling sha hphase
      have hmem := h.ofOpen n claim hn hopen
      -- a cancelled handler leaves its entry in progress, so the entries stay as they are
      have hentry : Claim.entry sha { claim with phase := .cancelled } = claim.entry sha := by
        rw [Claim.entry, Claim.entry, hphase]
        rfl
      have hsame : ∀ e, e ∈ w.hook.entries ↔ (e ∈ w.hook.entries ∧ e.key ≠ claim.key) ∨
          e = Claim.entry sha { claim with phase := .cancelled } := by
        intro e
        rw [hentry]
        constructor
        · intro he
          by_cases hkey : e.key = claim.key
          · exact Or.inr (eq_of_key h.unique he hmem (hkey.trans (Claim.key_entry sha claim).symm))
          · exact Or.inl ⟨he, hkey⟩
        · rintro (⟨he, _⟩ | rfl)
          · exact he
          · exact hmem
      exact h.setPhase hn hopen h.unique h.size hsame

def initial (maxEntries : ℕ) (hpos : 1 ≤ maxEntries) : World R := { hook := { maxEntries, maxEntries_pos := hpos } }

theorem initial_inv (maxEntries : ℕ) (hpos : 1 ≤ maxEntries) : Inv sha (initial maxEntries hpos : World R) := by
  have hnone : ∀ n claim, (initial maxEntries hpos : World R).claims n = some claim → False := by
    intro n claim hn
    cases hn
  have hnil : ∀ e, e ∈ (initial maxEntries hpos : World R).hook.entries → False := by
    intro e he
    cases he
  refine ⟨List.Pairwise.nil, Nat.zero_le _, fun _ _ => rfl, ?_, ?_, ?_, ?_, ?_, ?_, ?_⟩
  · exact fun n claim hn => (hnone n claim hn).elim
  · exact fun n claim hn => (hnone n claim hn).elim
  · exact fun m _ claim _ hm => (hnone m claim hm).elim
  · exact fun e he => (hnil e he).elim
  · exact fun e he => (hnil e he).elim
  · exact fun n claim hn => (hnone n claim hn).elim
  · exact fun _ => ⟨fun n claim hn => (hnone n claim hn).elim, fun m _ claim _ hm => (hnone m claim hm).elim⟩

theorem step_maxEntries (h : Inv sha w) {action : Action R} {w' : World R}
    (hstep : Step sha registry w action w') : w'.hook.maxEntries = w.hook.maxEntries := by
  cases hstep with
  | start command now =>
      have hstart : ((startDispatch sha registry w.hook command now).2).maxEntries = w.hook.maxEntries := by
        obtain ⟨entries, hhook, _⟩ | ⟨claim, _, hhook, _⟩ :=
          @start_spec R sha registry command now w.hook h.unique h.size
        · rw [hhook]
        · rw [hhook]
      rw [World.start]
      split
      · exact hstart
      · exact hstart
  | finish outcome hn hphase =>
      rename_i n claim
      obtain ⟨fingerprint, hf⟩ := h.hashed n claim hn
      rw [finish_spec hf h.size (h.ofOpen n claim hn (Claim.open_of_handling sha hphase))]
  | cancel hn hphase => rfl

/-- The invariant holds in every state, whatever the handlers do. -/
theorem inv_of_reaches {P : World R → Action R → Prop} {maxEntries : ℕ} {hpos : 1 ≤ maxEntries}
    (hreach : Reaches (Step sha registry) P (initial maxEntries hpos) w) :
    Inv sha w ∧ w.hook.maxEntries = maxEntries := by
  refine Reaches.inv (fun w => Inv sha w ∧ w.hook.maxEntries = maxEntries) ?_ hreach ⟨initial_inv maxEntries hpos, rfl⟩
  rintro t action u ⟨ht, hmax⟩ _ hstep
  exact ⟨ht.step hstep, (step_maxEntries ht hstep).trans hmax⟩

/-! ## At most one execution for each key -/

theorem Claim.open_iff {claim : Claim R} : claim.Open sha ↔ ∀ record, claim.phase ≠ .recorded record := by
  rw [Claim.Open, Claim.entry]
  cases hphase : claim.phase with
  | handling => simp
  | cancelled => simp
  | recorded record => cases record <;> simp

/-- What a later dispatch gets to hear about the first. -/
def Claim.answer (claim : Claim R) (command : CommandEnvelope) : CommandDispatchResult R :=
  match claim.phase with
  | .recorded (.completed result) =>
      { commandId := command.commandId, commandType := command.commandType, correlationId := command.correlationId
        status := .duplicate, result }
  | .recorded (.failed failure) => resultForFailure command failure .duplicate
  | _ => resultForFailure command
      ⟨.duplicateInProgress, "command idempotency key is already in progress", true⟩ .rejected

def conflictResult (command : CommandEnvelope) : CommandDispatchResult R :=
  resultForFailure command
    ⟨.idempotencyConflict, "command idempotency key conflicts with a different command request", false⟩ .rejected

theorem duplicate_entry (claim : Claim R) (command : CommandEnvelope) :
    resultForIdempotencyDecision command (duplicate (claim.entry sha)) = some (claim.answer command) := by
  rw [Claim.answer, Claim.entry]
  cases hphase : claim.phase with
  | handling => rfl
  | cancelled => rfl
  | recorded record => cases record <;> rfl

/-- A later dispatch of a key whose claim still has its entry. -/
theorem start_again {hook : InMemoryCommandIdempotencyHook R} {claim : Claim R} {command : CommandEnvelope}
    {fingerprint : String} (hregistry : registry command.commandType = some command.schemaVersion)
    (hget : hook.get command.idempotencyKey = some (claim.entry sha))
    (hf : commandIdempotencyFingerprint sha command = some fingerprint) (now : UTCDateTime) :
    startDispatch sha registry hook command now =
      (some (if (claim.entry sha).fingerprint = fingerprint then claim.answer command else conflictResult command),
        { hook with entries := putLast (claim.entry sha) hook.entries }) := by
  unfold startDispatch
  rw [hregistry]
  dsimp only
  rw [if_neg (not_not_intro rfl), beforeDispatch_existing hf hget]
  by_cases hsame : (claim.entry sha).fingerprint = fingerprint
  · rw [if_neg (not_not_intro hsame), if_pos hsame]
    dsimp only
    rw [duplicate_entry]
  · rw [if_pos hsame, if_neg hsame]
    rfl

/-- **At most one execution for each key.** -/
theorem at_most_once (maxEntries : ℕ) (hpos : 1 ≤ maxEntries)
    (hreach : Reaches (Step sha registry) (fun _ _ => True) (initial maxEntries hpos) w) :
    w.hook.entries.length ≤ maxEntries ∧
      (∀ n claim, w.claims n = some claim → (∀ record, claim.phase ≠ .recorded record) →
        ∃ e, w.hook.get claim.key = some e ∧ e.status = .inProgress) ∧
      (w.keys.card ≤ maxEntries →
        (∀ m n claim claim', w.claims m = some claim → w.claims n = some claim' → claim.ran = true →
          claim'.ran = true → claim.key = claim'.key → m = n) ∧
        ∀ n claim command now, w.claims n = some claim → command.idempotencyKey = claim.key →
          registry command.commandType = some command.schemaVersion →
          let next := startDispatch sha registry w.hook command now
          (commandIdempotencyFingerprint sha command = commandIdempotencyFingerprint sha claim.command →
            next.1 = some (claim.answer command)) ∧
          (∀ fingerprint, commandIdempotencyFingerprint sha command = some fingerprint →
            commandIdempotencyFingerprint sha claim.command ≠ some fingerprint →
            next.1 = some (conflictResult command) ∧
              next.2.entries = putLast (claim.entry sha) w.hook.entries)) := by
  obtain ⟨h, hmax⟩ := inv_of_reaches hreach
  subst hmax
  refine ⟨h.size, ?_, ?_⟩
  · intro n claim hn hopen
    have hmem := h.ofOpen n claim hn (Claim.open_iff.mpr hopen)
    exact ⟨claim.entry sha, h.unique.lookup_eq_some.mpr ⟨hmem, Claim.key_entry sha claim⟩, Claim.open_iff.mpr hopen⟩
  · intro hcard
    -- with no more keys than entries nothing is evicted, so every claim still has its entry
    obtain ⟨hentries, hunique⟩ := h.few hcard
    refine ⟨fun m n claim claim' hm hn _ _ hsame => hunique m n claim claim' hm hn hsame, ?_⟩
    intro n claim command now hn hkey hregistry next
    have hmem := hentries n claim hn
    have hget : w.hook.get command.idempotencyKey = some (claim.entry sha) :=
      h.unique.lookup_eq_some.mpr ⟨hmem, (Claim.key_entry sha claim).trans hkey.symm⟩
    obtain ⟨f, hf⟩ := h.hashed n claim hn
    have hfingerprint : (claim.entry sha).fingerprint = f := by rw [Claim.fingerprint_entry, hf, Option.getD_some]
    constructor
    · intro hsame
      show (startDispatch sha registry w.hook command now).1 = _
      rw [start_again hregistry hget (hsame.trans hf), if_pos hfingerprint]
    · intro fingerprint hcommand hdiffer
      have hne : (claim.entry sha).fingerprint ≠ fingerprint := by
        rintro rfl
        exact hdiffer (hf.trans (congrArg some hfingerprint.symm))
      show (startDispatch sha registry w.hook command now).1 = _ ∧
        (startDispatch sha registry w.hook command now).2.entries = _
      rw [start_again hregistry hget hcommand, if_neg hne]
      exact ⟨rfl, rfl⟩

/-- A digest function that tells two priorities apart. -/
def prioritySha : Sha256 where
  hexdigest
    | .mapping [_, _, _, _, (_, .int 7), _] => "7777777777777777777777777777777777777777777777777777777777777777"
    | _ => "0000000000000000000000000000000000000000000000000000000000000000"
  length_hexdigest v := by split <;> decide
  hex_hexdigest v := by split <;> decide

def placeOrder (key : String) (priority : ℤ) : CommandEnvelope :=
  { commandId := "cmd_place", commandType := "orders.place", schemaVersion := 1, correlationId := "corr_place"
    issuer := "strategy", idempotencyKey := key, priority }

def orderRegistry : CommandHandlerRegistry := fun commandType => if commandType = "orders.place" then some 1 else none

/-- Two handlers are running. -/
def twoRunning : World ℕ :=
  ((initial 2 (Nat.le_succ 1)).start prioritySha orderRegistry (placeOrder "first" 0) 0).start prioritySha orderRegistry
    (placeOrder "second" 0) 0

theorem reaches_twoRunning : Reaches (Step prioritySha orderRegistry) (fun _ _ => True) (initial 2 (Nat.le_succ 1))
    twoRunning := .tail (.tail .refl trivial (.start _ _)) trivial (.start _ _)

theorem at_most_once_twoRunning : twoRunning.hook.entries.length ≤ 2 :=
    (at_most_once 2 (Nat.le_succ 1) reaches_twoRunning).1

/-- A conflict moves its key behind the others, in the order in which entries are evicted. -/
theorem conflict_moves_key :
    Reaches (Step prioritySha orderRegistry) (fun _ _ => True) (initial 2 (Nat.le_succ 1)) twoRunning ∧
      twoRunning.keys.card ≤ 2 ∧
      (startDispatch prioritySha orderRegistry twoRunning.hook (placeOrder "first" 7) 0).1 =
        some (conflictResult (placeOrder "first" 7)) ∧
      twoRunning.hook.entries.map (·.key) = ["first", "second"] ∧
      (startDispatch prioritySha orderRegistry twoRunning.hook (placeOrder "first" 7) 0).2.entries.map (·.key) =
        ["second", "first"] :=
  ⟨reaches_twoRunning, by decide +kernel, by decide +kernel, by decide +kernel, by decide +kernel⟩

/-! ## Nothing is left in progress -/

def NotCancelled (_ : World R) (action : Action R) : Prop := ∀ n, action ≠ .cancel n

theorem not_cancelled {maxEntries : ℕ} {hpos : 1 ≤ maxEntries}
    (hreach : Reaches (Step sha registry) NotCancelled (initial maxEntries hpos) w) :
    ∀ n claim, w.claims n = some claim → claim.phase ≠ .cancelled := by
  have hupdate : ∀ {claims : ℕ → Option (Claim R)} {m : ℕ} {new : Claim R},
      (∀ n claim, claims n = some claim → claim.phase ≠ .cancelled) → new.phase ≠ .cancelled →
      ∀ n claim, Function.update claims m (some new) n = some claim → claim.phase ≠ .cancelled := by
    intro claims m new hclaims hnew n claim hn
    by_cases hmn : n = m
    · subst hmn
      rw [Function.update_self] at hn
      exact Option.some.inj hn ▸ hnew
    · rw [Function.update_of_ne hmn] at hn
      exact hclaims n claim hn
  -- by induction on the run: no step but a cancel sets the phase
  refine Reaches.inv (fun w => ∀ n claim, w.claims n = some claim → claim.phase ≠ .cancelled) ?_ hreach ?_
  · intro t action u ht hcancel hstep
    cases hstep with
    | start command now =>
        rw [World.start]
        split
        · exact ht
        · rename_i claim hclaim
          refine hupdate ht ?_
          revert hclaim
          generalize (startDispatch sha registry t.hook command now).1 = result
          intro hclaim
          cases result with
          | none =>
              cases hclaim
              intro hcontra
              cases hcontra
          | some result =>
              rw [claimOf] at hclaim
              split at hclaim
              · cases hclaim
                intro hcontra
                cases hcontra
              · cases hclaim
    | finish outcome hn hphase =>
        refine hupdate ht ?_
        intro hcontra
        cases hcontra
    | cancel hn hphase => exact absurd rfl (hcancel _)
  · intro n claim hn
    cases hn

/-- **Nothing is left in progress** once every handler has ended and none was cancelled. -/
theorem none_in_progress (maxEntries : ℕ) (hpos : 1 ≤ maxEntries)
    (hreach : Reaches (Step sha registry) NotCancelled (initial maxEntries hpos) w)
    (hended : ∀ n claim, w.claims n = some claim → claim.phase ≠ .handling) :
    (∀ e ∈ w.hook.entries, e.status ≠ .inProgress) ∧
      ∀ command fingerprint, commandIdempotencyFingerprint sha command = some fingerprint →
        (w.hook.get command.idempotencyKey = none → (w.hook.beforeDispatch sha command).1 = some .claimed) ∧
        ∀ reason, (w.hook.beforeDispatch sha command).1 ≠ some (.duplicateInProgress reason) ∧
          (w.hook.beforeDispatch sha command).1 ≠ some (.rejected reason) := by
  obtain ⟨h, _⟩ := inv_of_reaches hreach
  -- an entry is that of a claim, and each claim has its record
  have hrecorded : ∀ e ∈ w.hook.entries, ∃ (claim : Claim R) (record : Record R),
      claim.entry sha = e ∧ claim.phase = .recorded record := by
    intro e he
    obtain ⟨n, claim, hn, hentry⟩ := h.ofEntry e he
    cases hphase : claim.phase with
    | handling => exact absurd hphase (hended n claim hn)
    | cancelled => exact absurd hphase (not_cancelled hreach n claim hn)
    | recorded record => exact ⟨claim, record, hentry, hphase⟩
  have hdone : ∀ e ∈ w.hook.entries, e.status ≠ .inProgress := by
    intro e he hstatus
    obtain ⟨claim, record, rfl, hphase⟩ := hrecorded e he
    exact Claim.open_iff.mp hstatus record hphase
  refine ⟨hdone, ?_⟩
  intro command fingerprint hf
  cases hget : w.hook.get command.idempotencyKey with
  | none =>
      have hclaimed := beforeDispatch_claimed h.unique hf hget (makeRoom_length h.size hdone)
      rw [hclaimed]
      refine ⟨fun _ => rfl, fun reason => ?_⟩
      constructor <;> intro hcontra <;> cases hcontra
  | some entry =>
      obtain ⟨claim, record, rfl, hphase⟩ := hrecorded entry (mem_of_get hget)
      rw [beforeDispatch_existing hf hget]
      refine ⟨fun hcontra => (Option.some_ne_none _ hcontra).elim, fun reason => ?_⟩
      dsimp only
      split
      · constructor <;> intro hcontra <;> cases hcontra
      · rw [duplicate, Claim.entry, hphase]
        cases record <;> constructor <;> intro hcontra <;> cases hcontra

/-- One handler is running, and the hook has no second entry. -/
def oneRunning : World ℕ := (initial 1 le_rfl).start Sha256.constant orderRegistry (placeOrder "first" 0) 0

/-- The claim of the running handler. -/
def firstClaim : Claim ℕ := { command := placeOrder "first" 0, ran := true, phase := .handling }

theorem oneRunning_claims : oneRunning.claims = Function.update (fun _ => none) 0 (some firstClaim) := by
  have hresult : (startDispatch Sha256.constant orderRegistry (initial 1 le_rfl : World ℕ).hook
      (placeOrder "first" 0) 0).1 = none := by decide +kernel
  rw [oneRunning, World.start, hresult]
  rfl

theorem oneRunning_claim : oneRunning.claims 0 = some firstClaim := by rw [oneRunning_claims, Function.update_self]

/-- After the handler's end or its cancellation no handler is running. -/
theorem ended_setPhase {phase : Phase ℕ} (hphase : phase ≠ .handling) :
    ∀ n claim, (oneRunning.setPhase 0 firstClaim phase).claims n = some claim → claim.phase ≠ .handling := by
  intro n claim hn
  have hclaims : (oneRunning.setPhase 0 firstClaim phase).claims =
      Function.update (fun _ => none) 0 (some { firstClaim with phase }) := by
    rw [World.setPhase, oneRunning_claims, Function.update_idem]
  rw [hclaims] at hn
  by_cases hzero : n = 0
  · subst hzero
    rw [Function.update_self] at hn
    cases hn
    exact hphase
  · rw [Function.update_of_ne hzero] at hn
    cases hn

theorem none_in_progress_returned :
    oneRunning.hook.entries.length = 1 ∧
      ∀ e ∈ (finishDispatch Sha256.constant oneRunning.hook (placeOrder "first" 0) (.returned none)).2.entries,
        e.status ≠ .inProgress := by
  have hreach : Reaches (Step Sha256.constant orderRegistry) NotCancelled (initial 1 le_rfl) _ :=
    .tail (.tail .refl (fun _ hcontra => by cases hcontra) (.start (placeOrder "first" 0) 0))
      (fun _ hcontra => by cases hcontra) (.finish (.returned none) oneRunning_claim rfl)
  refine ⟨by decide +kernel, ?_⟩
  exact (none_in_progress 1 le_rfl hreach (ended_setPhase fun hcontra => by cases hcontra)).1

/-- A handler that was cancelled leaves its entry in progress, and a hook full of such entries refuses every key. -/
theorem cancelled_leaves_in_progress :
    ∃ w : World ℕ, Reaches (Step Sha256.constant orderRegistry) (fun _ _ => True) (initial 1 le_rfl) w ∧
      (∀ n claim, w.claims n = some claim → claim.phase ≠ .handling) ∧
      (∃ e ∈ w.hook.entries, e.status = .inProgress) ∧
      (w.hook.beforeDispatch Sha256.constant (placeOrder "second" 0)).1 =
        some (.rejected "command idempotency hook capacity is exhausted") := by
  refine ⟨oneRunning.setPhase 0 firstClaim .cancelled, ?_, ended_setPhase (by intro hcontra; cases hcontra), ?_, ?_⟩
  · exact .tail (.tail .refl trivial (.start (placeOrder "first" 0) 0)) trivial (.cancel oneRunning_claim rfl)
  · show ∃ e ∈ oneRunning.hook.entries, e.status = .inProgress
    decide +kernel
  · show (oneRunning.hook.beforeDispatch _ _).1 = _
    decide +kernel

end Dispatches
end Pmrp
