import Pmrp.Lib.VersionedLogs
import Pmrp.Strategies.StateStore

/-!
# `Strategies.Correctness.Checkpoints` — the checkpoint store is a log of states for each namespace

The abstract store is a log for each strategy and namespace. A save that is accepted appends to one log, a clearing
empties those of one strategy, and which calls are accepted does not depend on what is stored.

## Contents
- **One call.** `new_eq_ok`, `saveCheckpoint_eq_ok`, `get_append`, `get_clearStrategy`.
- **Runs.** `Refines.step`, `refines_run`; the versions are `1, 2, …` without a gap.
- **What is loaded.** `loadCheckpoint_run`, `loadCheckpoint_of_saved`.
- **Hashes.** `stateHash_of_save`.
-/

namespace Pmrp
namespace StateStore

open Freezing StrategyErrors VersionedLogs

variable {isoformat : UTCDateTime → String} {hexdigest : String → String}

/-! ## What the constructor accepts -/

theorem validateNamespace_typed {value : String} {x : { value : String // matchesStateNamespacePattern value = true }} :
    validateNamespace (.typed value) = .ok x ↔ x.val = value := by
  obtain ⟨name, hname⟩ := x
  simp only [validateNamespace]
  split_ifs with h
  · simp [eq_comm]
  · simp only [false_iff]
    rintro rfl
    exact h hname

theorem validateVersion_typed {value : ℤ} {x : { version : ℤ // 1 ≤ version }} :
    validateVersion (.typed value) = .ok x ↔ x.val = value := by
  obtain ⟨version, hversion⟩ := x
  simp only [validateVersion]
  split_ifs with h
  · simp [eq_comm]
  · simp only [bind_eq_ok, reduceCtorEq, and_false, exists_false, false_iff]
    rintro rfl
    exact h hversion

theorem freezeState_eq_ok {state : List (Key × PyValue)}
    {x : { frozen : List (Key × PyValue) // freezeItems "strategy state" frozen = .ok frozen }} :
    freezeState state = .ok x ↔ freezeItems "strategy state" state = .ok x.val := by
  obtain ⟨frozen, hfrozen⟩ := x
  unfold freezeState
  split
  · next frozen' h => simp [h]
  · next e h => simp [h]

theorem matchExpectedHash_eq_ok {value : String} {expected : Result String} {x : { s : String // expected = .ok s }} :
    matchExpectedHash value expected = .ok x ↔ x.val = value := by
  cases expected with
  | error e => cases x.property
  | ok hash =>
      obtain ⟨s, hs⟩ := x
      cases hs
      simp only [matchExpectedHash]
      split_ifs with h
      · simp [h]
      · simp [h]

theorem validateStateHash_typed {state : List (Key × PyValue)} {value : String}
    {x : { stateHash : String // stateSha256 isoformat hexdigest .mappingProxy state = .ok stateHash }} :
    validateStateHash isoformat hexdigest state (.typed value) = .ok x ↔ x.val = value :=
  matchExpectedHash_eq_ok

/-- **The constructor returns the checkpoint of its arguments**, the state frozen. -/
theorem new_eq_ok {strategyId : StrategyId} {stateNamespace : String} {version : ℤ} {state : List (Key × PyValue)}
    {stateHash : String} {sourceEventId : Option (Argument EventId)} {c : StrategyStateCheckpoint isoformat hexdigest} :
    StrategyStateCheckpoint.new isoformat hexdigest (.typed strategyId) (.typed stateNamespace) (.typed version) state
        (.typed stateHash) sourceEventId = .ok c ↔
      c.strategyId = strategyId ∧ c.stateNamespace = stateNamespace ∧ c.version = version ∧
        freezeItems "strategy state" state = .ok c.state ∧ c.stateHash = stateHash ∧
        validateSourceEventId sourceEventId = .ok c.sourceEventId := by
  obtain ⟨cid, cname, cversion, cstate, chash, csource, hname, hversion, hstate, hhash⟩ := c
  simp only [StrategyStateCheckpoint.new, bind_eq_ok, pure_eq_ok, raising_eq_ok]
  constructor
  · rintro ⟨_, rfl, x, hx, y, hy, z, hz, w, hw, v, hv, h⟩
    cases h
    exact ⟨rfl, validateNamespace_typed.mp hx, validateVersion_typed.mp hy, freezeState_eq_ok.mp hz,
      validateStateHash_typed.mp hw, hv⟩
  · rintro ⟨rfl, rfl, rfl, hfreeze, rfl, hsource⟩
    exact ⟨_, rfl, ⟨cname, hname⟩, validateNamespace_typed.mpr rfl, ⟨cversion, hversion⟩, validateVersion_typed.mpr rfl,
      ⟨cstate, hstate⟩, freezeState_eq_ok.mpr hfreeze, ⟨chash, hhash⟩, validateStateHash_typed.mpr rfl, csource,
        hsource,
      rfl⟩

/-! ## What a save stores -/

/-- A state as it is stored, without its version. -/
structure SavedState where
  state : List (Key × PyValue)
  stateHash : String
  sourceEventId : Option EventId

def StrategyStateCheckpoint.key (c : StrategyStateCheckpoint isoformat hexdigest) : NamespaceKey :=
  (c.strategyId, c.stateNamespace)

def StrategyStateCheckpoint.saved (c : StrategyStateCheckpoint isoformat hexdigest) : SavedState :=
  ⟨c.state, c.stateHash, c.sourceEventId⟩

/-- A checkpoint is its key, its version and the state it saves. -/
theorem checkpoint_ext {c c' : StrategyStateCheckpoint isoformat hexdigest} (hkey : c.key = c'.key)
    (hversion : c.version = c'.version) (hsaved : c.saved = c'.saved) : c = c' := by
  cases c
  cases c'
  simp only [StrategyStateCheckpoint.key, StrategyStateCheckpoint.saved, Prod.mk.injEq, SavedState.mk.injEq] at *
  obtain ⟨rfl, rfl⟩ := hkey
  obtain ⟨rfl, rfl, rfl⟩ := hsaved
  subst hversion
  rfl

variable (isoformat hexdigest)

/-- The place and the state that a save with these arguments stores, in any store. -/
def savedState (strategyId : Argument StrategyId) (state : List (Key × PyValue)) (stateNamespace : Argument String)
    (sourceEventId : Option (Argument EventId)) : RaisedResult (NamespaceKey × SavedState) := do
  let strategyId ← validateStrategyId strategyId
  let stateNamespace ← validateNamespace stateNamespace
  let frozenState ← raising (freezeState state)
  let stateHash ← raising (stateSha256 isoformat hexdigest .mappingProxy frozenState.val)
  let sourceEventId ← validateSourceEventId sourceEventId
  pure ((strategyId, stateNamespace.val), ⟨frozenState.val, stateHash, sourceEventId⟩)

variable {isoformat hexdigest}

/-- **What is stored says whether a save is accepted no more than it says what is saved.** The new checkpoint has the
    next version of its namespace. -/
theorem saveCheckpoint_eq_ok {store store' : InMemoryStrategyStateStore isoformat hexdigest}
    {strategyId : Argument StrategyId} {state : List (Key × PyValue)} {stateNamespace : Argument String}
    {sourceEventId : Option (Argument EventId)} {c : StrategyStateCheckpoint isoformat hexdigest} :
    store.saveCheckpoint strategyId state stateNamespace sourceEventId = .ok (c, store') ↔
      savedState isoformat hexdigest strategyId state stateNamespace sourceEventId = .ok (c.key, c.saved) ∧
        c.version = (store.get c.key).length + 1 ∧ store' = store.append c.key c := by
  simp only [InMemoryStrategyStateStore.saveCheckpoint, savedState, bind_eq_ok, pure_eq_ok, raising_eq_ok, new_eq_ok,
    Prod.mk.injEq]
  constructor
  · rintro ⟨sid, hsid, name, hname, frozen, hfrozen, hash, hhash, c', ⟨hid, hns, hversion, hstate, hhash', hsource⟩,
      rfl,
      rfl⟩
    have hkey : c'.key = (sid, name.val) := Prod.ext hid hns
    -- the state is frozen already, so the constructor keeps it
    have hkept : c'.state = frozen.val := by
      rw [frozen.property] at hstate
      exact (Except.ok.inj hstate).symm
    refine ⟨⟨sid, hsid, name, hname, frozen, hfrozen, hash, hhash, c'.sourceEventId, hsource, hkey.symm, ?_⟩, ?_, ?_⟩
    · rw [StrategyStateCheckpoint.saved, hkept, hhash']
    · rw [hkey]
      exact hversion
    · rw [hkey]
  · rintro ⟨⟨sid, hsid, name, hname, frozen, hfrozen, hash, hhash, source, hsource, hkey, hsaved⟩, hversion, rfl⟩
    obtain ⟨hid, hns⟩ := Prod.mk.inj hkey
    obtain ⟨hstate, hhash', hsource'⟩ := SavedState.mk.inj hsaved
    refine ⟨sid, hsid, name, hname, frozen, hfrozen, hash, hhash, c, ⟨hid.symm, hns.symm, ?_, ?_, hhash'.symm, ?_⟩, rfl,
      ?_⟩
    · rw [hversion, ← hkey]
      rfl
    · rw [← hstate]
      exact frozen.property
    · rw [← hsource']
      exact hsource
    · rw [← hkey]

/-! ## The stored lists -/

theorem get_append (store : InMemoryStrategyStateStore isoformat hexdigest) (key key' : NamespaceKey)
    (c : StrategyStateCheckpoint isoformat hexdigest) :
    (store.append key c).get key' = if key = key' then store.get key ++ [c] else store.get key' := by
  unfold InMemoryStrategyStateStore.append
  rw [InMemoryStrategyStateStore.get, Dictionary.lookup_insert]
  split_ifs with h
  · rfl
  · rfl

/-- Erasing keys one after the other leaves the rest. -/
theorem lookup_eraseAll {α : Type} (keys : List NamespaceKey) (l : List (NamespaceKey × α)) (key : NamespaceKey) :
    Dictionary.lookup Prod.fst key (keys.foldl (fun l k => Dictionary.erase Prod.fst k l) l) =
      if key ∈ keys then none else Dictionary.lookup Prod.fst key l := by
  induction keys generalizing l with
  | nil => simp
  | cons k keys ih =>
      rw [List.foldl_cons, ih, Dictionary.lookup_erase]
      by_cases hkey : key = k
      · simp [hkey]
      · simp [hkey]

theorem get_clearStrategy {store store' : InMemoryStrategyStateStore isoformat hexdigest}
    {strategyId : Argument StrategyId} (h : store.clearStrategy strategyId = .ok store') :
    ∃ sid, validateStrategyId strategyId = .ok sid ∧
      ∀ key, store'.get key = if key.1 = sid then [] else store.get key := by
  simp only [InMemoryStrategyStateStore.clearStrategy, bind_eq_ok, pure_eq_ok] at h
  obtain ⟨sid, hsid, rfl⟩ := h
  refine ⟨sid, hsid, fun key => ?_⟩
  rw [InMemoryStrategyStateStore.get, InMemoryStrategyStateStore.get, lookup_eraseAll]
  by_cases hmem : key ∈ store.checkpoints.map Prod.fst
  · by_cases hid : key.1 = sid
    · simp [hmem, hid]
    · simp [hid]
  · -- a key that is not stored has no list to clear
    have hnone : Dictionary.lookup Prod.fst key store.checkpoints = none := by
      refine Dictionary.lookup_eq_none.mpr fun entry hentry hkey => ?_
      exact hmem (List.mem_map.mpr ⟨entry, hentry, hkey⟩)
    simp [hnone]

/-! ## Runs -/

variable (isoformat hexdigest)

/-- What a call does to the logs. One that raises does nothing. -/
def Call.event : Call → Option (Event NamespaceKey SavedState)
  | .save strategyId state stateNamespace sourceEventId =>
      ((savedState isoformat hexdigest strategyId state stateNamespace sourceEventId).toOption).map fun p =>
        .append p.1 p.2
  | .clear strategyId =>
      ((validateStrategyId strategyId).toOption).map fun strategyId => .clear fun key => key.1 = strategyId

/-- The logs after the calls. -/
def logs (calls : List Call) : NamespaceKey → List SavedState :=
  replay (fun _ => []) (calls.filterMap (Call.event isoformat hexdigest))

variable {isoformat hexdigest}

/-- The store holds the logs: at each place of a log stands a checkpoint of that state, and its version is the place. -/
structure Refines (store : InMemoryStrategyStateStore isoformat hexdigest) (log : NamespaceKey → List SavedState) :
    Prop where
  saved : ∀ key, (store.get key).map StrategyStateCheckpoint.saved = log key
  version : ∀ key (i : ℕ) c, (store.get key)[i]? = some c → c.version = (i : ℤ) + 1
  key_eq : ∀ key, ∀ c ∈ store.get key, c.key = key

theorem Refines.empty : Refines (emptyStore isoformat hexdigest) fun _ => [] where
  saved _ := rfl
  version _ _ _ h := by cases h
  key_eq _ _ h := by cases h

theorem Refines.append {store : InMemoryStrategyStateStore isoformat hexdigest} {log : NamespaceKey → List SavedState}
    (h : Refines store log) {c : StrategyStateCheckpoint isoformat hexdigest}
    (hversion : c.version = (store.get c.key).length + 1) :
    Refines (store.append c.key c) (VersionedLogs.apply log (.append c.key c.saved)) where
  saved key := by
    rw [get_append, apply_of_not_clears rfl, Event.appended]
    split_ifs with hkey
    · rw [List.map_append, ← hkey, h.saved]
      rfl
    · rw [h.saved]
      simp
  version key i c' hget := by
    rw [get_append] at hget
    split_ifs at hget with hkey
    · rcases lt_or_ge i (store.get c.key).length with hlt | hge
      · rw [List.getElem?_append_left hlt] at hget
        exact h.version c.key i c' hget
      -- the new checkpoint stands behind the others
      · rw [List.getElem?_append_right hge] at hget
        obtain ⟨hzero, rfl⟩ : i - (store.get c.key).length = 0 ∧ c = c' := by
          cases hi : i - (store.get c.key).length with
          | zero =>
              rw [hi] at hget
              exact ⟨rfl, Option.some.inj hget⟩
          | succ n =>
              rw [hi] at hget
              cases hget
        rw [hversion]
        omega
    · exact h.version key i c' hget
  key_eq key c' hmem := by
    rw [get_append] at hmem
    split_ifs at hmem with hkey
    · rcases List.mem_append.mp hmem with hold | hnew
      · rw [← hkey]
        exact h.key_eq c.key c' hold
      · rw [List.mem_singleton.mp hnew, hkey]
    · exact h.key_eq key c' hmem

theorem Refines.clear {store store' : InMemoryStrategyStateStore isoformat hexdigest}
    {log : NamespaceKey → List SavedState} (h : Refines store log) {sid : StrategyId}
    (hget : ∀ key, store'.get key = if key.1 = sid then [] else store.get key) :
    Refines store' (VersionedLogs.apply log (.clear fun key => key.1 = sid)) where
  saved key := by
    rw [hget]
    by_cases hid : key.1 = sid
    · simp [VersionedLogs.apply, hid]
    · simp [VersionedLogs.apply, hid, h.saved]
  version key i c hmem := by
    rw [hget] at hmem
    split_ifs at hmem with hid
    · cases hmem
    · exact h.version key i c hmem
  key_eq key c hmem := by
    rw [hget] at hmem
    split_ifs at hmem with hid
    · cases hmem
    · exact h.key_eq key c hmem

/-- The checkpoint that an accepted save returns exists: its constructor checks what holds already. -/
theorem saveCheckpoint_of_savedState (store : InMemoryStrategyStateStore isoformat hexdigest)
    {strategyId : Argument StrategyId} {state : List (Key × PyValue)} {stateNamespace : Argument String}
    {sourceEventId : Option (Argument EventId)} {key : NamespaceKey} {saved : SavedState}
    (h : savedState isoformat hexdigest strategyId state stateNamespace sourceEventId = .ok (key, saved)) :
    ∃ c, c.key = key ∧ c.saved = saved ∧ c.version = ((store.get key).length : ℤ) + 1 ∧
      store.saveCheckpoint strategyId state stateNamespace sourceEventId = .ok (c, store.append key c) := by
  have hsaved := h
  simp only [savedState, bind_eq_ok, pure_eq_ok, raising_eq_ok] at hsaved
  obtain ⟨sid, -, name, -, frozen, -, hash, hhash, source, -, heq⟩ := hsaved
  cases heq
  refine ⟨⟨sid, name.val, (store.get (sid, name.val)).length + 1, frozen.val, hash, source, name.property, by omega,
    frozen.property, hhash⟩, rfl, rfl, rfl, ?_⟩
  exact saveCheckpoint_eq_ok.mpr ⟨h, rfl, rfl⟩

/-- **One call does to the store what its event does to the logs.** -/
theorem Refines.step {store : InMemoryStrategyStateStore isoformat hexdigest} {log : NamespaceKey → List SavedState}
    (h : Refines store log) (call : Call) :
    Refines (call.apply store) (replay log (call.event isoformat hexdigest).toList) := by
  cases call with
  | save strategyId state stateNamespace sourceEventId =>
      simp only [Call.apply, Call.event]
      cases hsaved : savedState isoformat hexdigest strategyId state stateNamespace sourceEventId with
      | ok p =>
          obtain ⟨c, hkey, hc, hversion, hsave⟩ := saveCheckpoint_of_savedState store hsaved
          rw [hsave]
          show Refines (store.append p.1 c) (VersionedLogs.apply log (.append p.1 p.2))
          rw [← hkey, ← hc]
          exact h.append (by rw [hkey, hversion])
      | error e =>
          -- a save that is not accepted raises
          cases hsave : store.saveCheckpoint strategyId state stateNamespace sourceEventId with
          | error _ => exact h
          | ok r =>
              obtain ⟨c, store'⟩ := r
              have hok := (saveCheckpoint_eq_ok.mp hsave).1
              rw [hsaved] at hok
              cases hok
  | clear strategyId =>
      simp only [Call.apply, Call.event]
      cases hclear : store.clearStrategy strategyId with
      | ok store' =>
          obtain ⟨sid, hsid, hget⟩ := get_clearStrategy hclear
          rw [hsid]
          exact h.clear hget
      | error e =>
          cases hsid : validateStrategyId strategyId with
          | error _ => exact h
          | ok sid =>
              rw [InMemoryStrategyStateStore.clearStrategy, hsid] at hclear
              cases hclear

theorem Refines.run {store : InMemoryStrategyStateStore isoformat hexdigest} {log : NamespaceKey → List SavedState}
    (h : Refines store log) (calls : List Call) :
    Refines (StateStore.run store calls) (replay log (calls.filterMap (Call.event isoformat hexdigest))) := by
  induction calls generalizing store log with
  | nil => exact h
  | cons call calls ih =>
      have hstep := ih (h.step call)
      rw [List.filterMap_cons]
      cases hevent : call.event isoformat hexdigest with
      | none =>
          rw [hevent] at hstep
          exact hstep
      | some e =>
          rw [hevent] at hstep
          exact hstep

/-- Any run from the empty store holds the logs of its calls. -/
theorem refines_run (calls : List Call) :
    Refines (StateStore.run (emptyStore isoformat hexdigest) calls) (logs isoformat hexdigest calls) :=
  Refines.empty.run calls

/-! ## What is loaded -/

theorem validateNamespace_of_matches {name : String} (h : matchesStateNamespacePattern name = true) :
    validateNamespace (.typed name) = .ok ⟨name, h⟩ := validateNamespace_typed.mpr rfl

theorem validateVersion_of_pos {v : ℤ} (h : 1 ≤ v) : validateVersion (.typed v) = .ok ⟨v, h⟩ :=
  validateVersion_typed.mpr rfl

theorem listCheckpoints_eq (store : InMemoryStrategyStateStore isoformat hexdigest) (sid : StrategyId) {name : String}
    (h : matchesStateNamespacePattern name = true) :
    store.listCheckpoints (.typed sid) (.typed name) = .ok (store.get (sid, name)) := by
  rw [InMemoryStrategyStateStore.listCheckpoints, validateNamespace_of_matches h]
  rfl

/-- Where the elements are numbered from one, the first with a number is the one in its place. -/
theorem find?_version {α : Type} {number : α → ℤ} {l : List α}
    (hnumber : ∀ (i : ℕ) a, l[i]? = some a → number a = (i : ℤ) + 1) {v : ℤ} (hv : 1 ≤ v) :
    l.find? (fun a => decide (number a = v)) = l[v.toNat - 1]? := by
  cases hget : l[v.toNat - 1]? with
  | some a =>
      obtain ⟨hlt, ha⟩ := List.getElem?_eq_some_iff.mp hget
      refine List.find?_eq_some_iff_getElem.mpr ⟨?_, v.toNat - 1, hlt, ha, fun j hj => ?_⟩
      · rw [hnumber _ a hget]
        simp
        omega
      · have hj' := hnumber j _ (List.getElem?_eq_getElem (hj.trans hlt))
        rw [hj']
        simp
        omega
  | none =>
      have hle := List.getElem?_eq_none_iff.mp hget
      refine List.find?_eq_none.mpr fun a ha => ?_
      obtain ⟨i, hi, rfl⟩ := List.mem_iff_getElem.mp ha
      rw [hnumber i _ (List.getElem?_eq_getElem hi)]
      simp
      omega

theorem Refines.loadCheckpoint_eq {store : InMemoryStrategyStateStore isoformat hexdigest}
    {log : NamespaceKey → List SavedState} (h : Refines store log) (sid : StrategyId) {name : String}
    (hname : matchesStateNamespacePattern name = true) {v : ℤ} (hv : 1 ≤ v) :
    store.loadCheckpoint (.typed sid) (.typed v) (.typed name) = .ok (store.get (sid, name))[v.toNat - 1]? := by
  rw [InMemoryStrategyStateStore.loadCheckpoint, validateVersion_of_pos hv, ok_bind, listCheckpoints_eq store sid hname,
    ok_bind, ← find?_version (h.version (sid, name)) hv]
  rfl

theorem Refines.versions_eq {store : InMemoryStrategyStateStore isoformat hexdigest}
    {log : NamespaceKey → List SavedState} (h : Refines store log) (key : NamespaceKey) :
    (store.get key).map StrategyStateCheckpoint.version =
      (List.range (log key).length).map fun i : ℕ => (i : ℤ) + 1 := by
  have hlength : (store.get key).length = (log key).length := by rw [← h.saved key, List.length_map]
  refine List.ext_getElem? fun i => ?_
  rw [List.getElem?_map, List.getElem?_map, ← hlength]
  rcases lt_or_ge i (store.get key).length with hi | hi
  · rw [List.getElem?_eq_getElem hi, List.getElem?_range hi, Option.map_some, Option.map_some,
      h.version key i _ (List.getElem?_eq_getElem hi)]
  · rw [List.getElem?_eq_none hi, List.getElem?_eq_none (by rw [List.length_range]; exact hi)]
    rfl

/-- What the store answers about a namespace whose log is known. -/
structure Serves (store : InMemoryStrategyStateStore isoformat hexdigest) (sid : StrategyId) (name : String)
    (log : List SavedState) (listed : List (StrategyStateCheckpoint isoformat hexdigest)) : Prop where
  list : store.listCheckpoints (.typed sid) (.typed name) = .ok listed
  saved : listed.map StrategyStateCheckpoint.saved = log
  versions : listed.map StrategyStateCheckpoint.version = (List.range log.length).map fun i : ℕ => (i : ℤ) + 1
  own : ∀ c ∈ listed, c.strategyId = sid ∧ c.stateNamespace = name
  latest : store.loadLatest (.typed sid) (.typed name) = .ok listed.getLast?
  load : ∀ v : ℤ, 1 ≤ v → store.loadCheckpoint (.typed sid) (.typed v) (.typed name) = .ok listed[v.toNat - 1]?

/-- **Whatever is saved and cleared, each namespace serves its own log.** -/
theorem serves_of_run (calls : List Call) (sid : StrategyId) {name : String}
    (hname : matchesStateNamespacePattern name = true) :
    ∃ listed, Serves (StateStore.run (emptyStore isoformat hexdigest) calls) sid name
      (logs isoformat hexdigest calls (sid, name)) listed := by
  have h : Refines (StateStore.run (emptyStore isoformat hexdigest) calls) (logs isoformat hexdigest calls) :=
    refines_run calls
  refine ⟨(StateStore.run (emptyStore isoformat hexdigest) calls).get (sid, name), listCheckpoints_eq _ sid hname,
    h.saved _, h.versions_eq _, fun c hc => Prod.mk.inj (h.key_eq _ c hc), ?_,
      fun v hv => h.loadCheckpoint_eq sid hname hv⟩
  rw [InMemoryStrategyStateStore.loadLatest, listCheckpoints_eq _ sid hname]
  rfl

theorem serves_of_run_two_saves : ∃ listed, Serves
    (StateStore.run (emptyStore (fun _ => "") id)
      [.save (.typed ⟨"strat_a", by decide⟩) [] (.typed "default") none,
        .save (.typed ⟨"strat_a", by decide⟩) [(.str [], .float)] (.typed "default") none])
    ⟨"strat_a", by decide⟩ "default"
    (logs (fun _ => "") id
      [.save (.typed ⟨"strat_a", by decide⟩) [] (.typed "default") none,
        .save (.typed ⟨"strat_a", by decide⟩) [(.str [], .float)] (.typed "default") none]
      (⟨"strat_a", by decide⟩, "default")) listed :=
  serves_of_run _ _ (by decide)

/-! ## A checkpoint stays -/

/-- The calls leave the checkpoints of the strategy in place. -/
def KeepsStrategy (calls : List Call) (sid : StrategyId) : Prop :=
  ∀ sid', Call.clear (.typed sid') ∈ calls → sid' ≠ sid

variable (isoformat hexdigest) in
theorem not_clears_of_keepsStrategy {calls : List Call} {sid : StrategyId} {name : String}
    (h : KeepsStrategy calls sid) :
    ∀ e ∈ calls.filterMap (Call.event isoformat hexdigest), e.clears (sid, name) = false := by
  intro e he
  obtain ⟨call, hcall, hevent⟩ := List.mem_filterMap.mp he
  cases call with
  | save strategyId state stateNamespace sourceEventId =>
      obtain ⟨p, -, rfl⟩ := Option.map_eq_some_iff.mp hevent
      rfl
  | clear strategyId =>
      obtain ⟨sid', hsid', rfl⟩ := Option.map_eq_some_iff.mp hevent
      cases strategyId with
      | typed sid'' =>
          cases hsid'
          simp [Event.clears, Ne.symm (h sid' hcall)]
      | other => cases hsid'

/-- **A checkpoint that was saved is loaded under its version until its strategy is cleared.** -/
theorem loadCheckpoint_of_save {before after : List Call} {strategyId : Argument StrategyId}
    {state : List (Key × PyValue)} {stateNamespace : Argument String} {sourceEventId : Option (Argument EventId)}
    {c : StrategyStateCheckpoint isoformat hexdigest} {store' : InMemoryStrategyStateStore isoformat hexdigest}
    (hsave : (StateStore.run (emptyStore isoformat hexdigest) before).saveCheckpoint strategyId state stateNamespace
      sourceEventId = .ok (c, store'))
    (hkeeps : KeepsStrategy after c.strategyId) :
    (StateStore.run store' after).loadCheckpoint (.typed c.strategyId) (.typed c.version) (.typed c.stateNamespace) =
      .ok (some c) := by
  obtain ⟨-, hversion, rfl⟩ := saveCheckpoint_eq_ok.mp hsave
  have hbefore : Refines (StateStore.run (emptyStore isoformat hexdigest) before) (logs isoformat hexdigest before) :=
    refines_run before
  have hrefines := (hbefore.append hversion).run after
  rw [hrefines.loadCheckpoint_eq c.strategyId c.isNamespace c.positive]
  -- the log keeps the state at this version
  have hlength : (logs isoformat hexdigest before c.key).length =
      ((StateStore.run (emptyStore isoformat hexdigest) before).get c.key).length := by
    rw [← hbefore.saved, List.length_map]
  have happend := version_append (logs isoformat hexdigest before) c.key c.saved
  rw [hlength, show _ + 1 = c.version.toNat by rw [hversion]; rfl] at happend
  have hlog := version_replay (not_clears_of_keepsStrategy isoformat hexdigest hkeeps) happend
  have hpos := c.positive
  rw [version, if_neg (by omega), ← hrefines.saved, List.getElem?_map] at hlog
  obtain ⟨c', hget, hsaved⟩ := Option.map_eq_some_iff.mp hlog
  rw [hget]
  -- it is the checkpoint itself: its key, its version and what it saves agree
  refine congrArg (fun found => Except.ok (some found)) (checkpoint_ext ?_ ?_ hsaved)
  · exact hrefines.key_eq _ c' (List.mem_of_getElem? hget)
  · rw [hrefines.version _ _ c' hget]
    omega

/-- The hash does not see how the mapping was built. -/
theorem stateSha256_kind (kind kind' : MappingKind) (state : List (Key × PyValue)) :
    stateSha256 isoformat hexdigest kind state = stateSha256 isoformat hexdigest kind' state := by
  rw [stateSha256, stateSha256, canonicalJson, canonicalJson, toCanonicalData, toCanonicalData]

/-- Freezing keeps the hash. -/
theorem stateSha256_frozen {state frozen : List (Key × PyValue)} (kind : MappingKind)
    (h : freezeItems "strategy state" state = .ok frozen) :
    stateSha256 isoformat hexdigest kind frozen = stateSha256 isoformat hexdigest kind state := by
  rw [stateSha256, stateSha256, canonicalJson, canonicalJson, toCanonicalData, toCanonicalData,
    canonicalMapping_frozen state h]

/-- A list with a decimal and a text, and a mapping in a mapping. -/
def nestedState : List (Key × PyValue) :=
  [(.str (codePoints "orders"), .sequence .list [.decimal ⟨false, 3, -1⟩, .scalar (.str (codePoints "buy"))]),
    (.str (codePoints "limits"), .mapping .dict [(.str (codePoints "daily"), .mapping .dict [])])]

theorem savedState_nested : ∃ saved, savedState (fun _ => "") id (.typed ⟨"strat_a", by decide⟩) nestedState
    (.typed "default") none = .ok ((⟨"strat_a", by decide⟩, "default"), saved) := by
  have hname : matchesStateNamespacePattern "default" = true := by decide
  obtain ⟨frozen, hfrozen, -⟩ := (map_eq_ok (f := fun _ => ())).mp
    (show (freezeItems "strategy state" nestedState).map (fun _ => ()) = .ok () by decide +kernel)
  obtain ⟨hash, hhash, -⟩ := (map_eq_ok (f := fun _ => ())).mp
    (show (stateSha256 (fun _ => "") id .mappingProxy nestedState).map (fun _ => ()) = .ok () by decide +kernel)
  rw [← stateSha256_frozen .mappingProxy hfrozen] at hhash
  simp only [savedState, bind_eq_ok, pure_eq_ok, raising_eq_ok]
  exact ⟨_, ⟨"strat_a", by decide⟩, rfl, ⟨"default", hname⟩, validateNamespace_of_matches hname,
    ⟨frozen, freezeItems_idempotent _ _ hfrozen⟩, freezeState_eq_ok.mpr hfrozen, hash, hhash, none, rfl, rfl⟩

/-- The state is saved over again, another strategy is cleared, and the first version is still there. -/
theorem loadCheckpoint_of_save_nested : ∃ c store',
    (StateStore.run (emptyStore (fun _ => "") id)
        [.save (.typed ⟨"strat_b", by decide⟩) [] (.typed "default") none]).saveCheckpoint
      (.typed ⟨"strat_a", by decide⟩) nestedState (.typed "default") none = .ok (c, store') ∧
      (StateStore.run store'
        [.save (.typed ⟨"strat_a", by decide⟩) [] (.typed "default") none, .clear (.typed ⟨"strat_b", by decide⟩),
          .save (.typed ⟨"strat_b", by decide⟩) nestedState (.typed "default") none]).loadCheckpoint
          (.typed c.strategyId) (.typed c.version) (.typed c.stateNamespace) = .ok (some c) := by
  obtain ⟨saved, hsaved⟩ := savedState_nested
  obtain ⟨c, hkey, -, -, hsave⟩ := saveCheckpoint_of_savedState (StateStore.run (emptyStore (fun _ => "") id) _) hsaved
  refine ⟨c, _, hsave, loadCheckpoint_of_save hsave fun sid' h => ?_⟩
  -- the strategy that is cleared is the other one
  rw [show c.strategyId = ⟨"strat_a", by decide⟩ from congrArg Prod.fst hkey]
  simp only [List.mem_cons, reduceCtorEq, Call.clear.injEq, Argument.typed.injEq, List.not_mem_nil, or_false,
    false_or] at h
  rw [h]
  decide

/-! ## Restoring a state -/

mutual
/-- **A frozen value that is thawed freezes to itself.** -/
theorem freeze_thaw {fieldName : String} : ∀ (value : PyValue) {frozen : PyValue},
    freezeCanonicalValue fieldName value = .ok frozen →
      freezeCanonicalValue fieldName (thawCanonicalValue frozen) = .ok frozen
  | .mapping _ items, _, h => by
      obtain ⟨items', hitems, h⟩ := bind_eq_ok.mp h
      cases h
      rw [thawCanonicalValue, freezeCanonicalValue, freezeItems_thaw items hitems]
      rfl
  | .sequence _ values, _, h => by
      obtain ⟨values', hvalues, h⟩ := bind_eq_ok.mp h
      cases h
      rw [thawCanonicalValue, freezeCanonicalValue, freezeAll_thaw values hvalues]
      rfl
  | .datetime value, _, h => by
      obtain ⟨u, hu, h⟩ := bind_eq_ok.mp h
      cases h
      show (do pure (PyValue.datetime ⟨← IsoDatetime.toUtc ⟨u, some 0⟩, some 0⟩)) = _
      rw [toUtc_toUtc hu]
      rfl
  | .decimal _, _, h | .enumeration _, _, h | .model _, _, h | .scalar _, _, h => by
      cases h
      rfl
  | .set, _, h | .nonFiniteDecimal, _, h | .float, _, h | .bytes _, _, h | .other _, _, h => by cases h
theorem freezeItems_thaw {fieldName : String} : ∀ (items : List (Key × PyValue)) {frozen : List (Key × PyValue)},
    freezeItems fieldName items = .ok frozen → freezeItems fieldName (thawCanonicalMapping frozen) = .ok frozen
  | [], _, h => by
      cases h
      rfl
  | (key, value) :: items, _, h => by
      obtain ⟨hkey, value', hvalue, items', hitems, rfl⟩ := freezeItems_cons.mp h
      exact freezeItems_cons.mpr ⟨hkey, value', freeze_thaw value hvalue, items', freezeItems_thaw items hitems, rfl⟩
theorem freezeAll_thaw {fieldName : String} : ∀ (values : List PyValue) {frozen : List PyValue},
    freezeAll fieldName values = .ok frozen → freezeAll fieldName (thawAll frozen) = .ok frozen
  | [], _, h => by
      cases h
      rfl
  | value :: values, _, h => by
      obtain ⟨value', hvalue, values', hvalues, rfl⟩ := freezeAll_cons.mp h
      exact freezeAll_cons.mpr ⟨value', freeze_thaw value hvalue, values', freezeAll_thaw values hvalues, rfl⟩
end

/-- **A restored state is saved as it was.** What `thaw_checkpoint_state` gives is accepted in every store and namespace
    and stored as the same state with the same hash, which is that of the mapping first given. -/
theorem save_thawed {store store' : InMemoryStrategyStateStore isoformat hexdigest} {strategyId : Argument StrategyId}
    {state : List (Key × PyValue)} {stateNamespace : Argument String} {sourceEventId : Option (Argument EventId)}
    {c : StrategyStateCheckpoint isoformat hexdigest}
    (hsave : store.saveCheckpoint strategyId state stateNamespace sourceEventId = .ok (c, store'))
    (other : InMemoryStrategyStateStore isoformat hexdigest) (sid : StrategyId) {name : String}
    (hname : matchesStateNamespacePattern name = true) :
    stateSha256 isoformat hexdigest .dict state = .ok c.stateHash ∧
      ∃ c' other', other.saveCheckpoint (.typed sid) (thawCheckpointState isoformat hexdigest c) (.typed name) none =
          .ok (c', other') ∧
        c'.strategyId = sid ∧ c'.stateNamespace = name ∧ c'.state = c.state ∧ c'.stateHash = c.stateHash := by
  have hsaved := (saveCheckpoint_eq_ok.mp hsave).1
  simp only [savedState, bind_eq_ok, pure_eq_ok, raising_eq_ok] at hsaved
  obtain ⟨_, -, _, -, frozen, hfrozen, hash, hhash, source, -, heq⟩ := hsaved
  obtain ⟨hstate, hhash', -⟩ := SavedState.mk.inj (Prod.mk.inj heq).2
  have hfreeze := freezeState_eq_ok.mp hfrozen
  constructor
  · rw [stateSha256_kind .dict .mappingProxy, ← stateSha256_frozen _ hfreeze, hhash, hhash']
  -- what is thawed is frozen to the state again
  · have hthaw : freezeItems "strategy state" (thawCheckpointState isoformat hexdigest c) = .ok c.state := by
      rw [thawCheckpointState, ← hstate]
      exact freezeItems_thaw state hfreeze
    have hagain : savedState isoformat hexdigest (.typed sid) (thawCheckpointState isoformat hexdigest c) (.typed name)
        none = .ok ((sid, name), ⟨c.state, c.stateHash, none⟩) := by
      simp only [savedState, bind_eq_ok, pure_eq_ok, raising_eq_ok]
      exact ⟨sid, rfl, ⟨name, hname⟩, validateNamespace_of_matches hname, ⟨c.state, c.frozen⟩,
        freezeState_eq_ok.mpr hthaw, c.stateHash, c.isHash, none, rfl, rfl⟩
    obtain ⟨c', hkey, hsaved', -, hsave'⟩ := saveCheckpoint_of_savedState other hagain
    obtain ⟨hid, hns⟩ := Prod.mk.inj hkey
    obtain ⟨hstate', hhash'', -⟩ := SavedState.mk.inj hsaved'
    exact ⟨c', _, hsave', hid, hns, hstate', hhash''⟩

/-- What is restored from the nested state is saved for another strategy with the same hash. -/
theorem save_thawed_nested : ∃ c store',
    (emptyStore (fun _ => "") id).saveCheckpoint (.typed ⟨"strat_a", by decide⟩) nestedState (.typed "default") none =
        .ok (c, store') ∧
      ∃ c' other', store'.saveCheckpoint (.typed ⟨"strat_b", by decide⟩)
          (thawCheckpointState (fun _ => "") id c) (.typed "default") none = .ok (c', other') ∧
        c'.state = c.state ∧ c'.stateHash = c.stateHash := by
  obtain ⟨saved, hsaved⟩ := savedState_nested
  obtain ⟨c, -, -, -, hsave⟩ := saveCheckpoint_of_savedState (emptyStore (fun _ => "") id) hsaved
  have hname : matchesStateNamespacePattern "default" = true := by decide
  obtain ⟨-, c', other', hagain, -, -, hstate, hhash⟩ :=
    save_thawed hsave ((emptyStore (fun _ => "") id).append _ c) ⟨"strat_b", by decide⟩ hname
  exact ⟨c, _, hsave, c', other', hagain, hstate, hhash⟩

end StateStore
end Pmrp
