import Pmrp.Commands.Dispatcher

/-!
# `Commands.Correctness.Entries` — what one call does to the entries

One lookup equation for each operation on the ordered dictionary, and from them what the start and the end of a
dispatch leave. An eviction takes one entry, and never one that is in progress.
-/

namespace Pmrp
namespace InMemoryCommandIdempotencyHook

variable {R : Type} {entries entries' : List (InMemoryIdempotencyEntry R)} {entry : InMemoryIdempotencyEntry R}
  {key : String}

abbrev UniqueEntries (entries : List (InMemoryIdempotencyEntry R)) : Prop :=
  Dictionary.UniqueKeys (fun entry : InMemoryIdempotencyEntry R => entry.key) entries

abbrev lookup (key : String) (entries : List (InMemoryIdempotencyEntry R)) : Option (InMemoryIdempotencyEntry R) :=
  Dictionary.lookup (fun entry : InMemoryIdempotencyEntry R => entry.key) key entries

theorem eq_of_key {e e' : InMemoryIdempotencyEntry R} (h : UniqueEntries entries) (he : e ∈ entries)
    (he' : e' ∈ entries) (hkey : e.key = e'.key) : e = e' := by
  have hlookup := h.lookup_eq_some.mpr ⟨he, hkey⟩
  exact Option.some.inj (hlookup.symm.trans (h.lookup_eq_some.mpr ⟨he', rfl⟩))

/-! ## Putting an entry last -/

theorem mem_erase {e : InMemoryIdempotencyEntry R} :
    e ∈ Dictionary.erase (fun entry : InMemoryIdempotencyEntry R => entry.key) key entries ↔
      e ∈ entries ∧ e.key ≠ key := by
  rw [Dictionary.erase, List.mem_filter, decide_eq_true_iff]

theorem mem_putLast {e : InMemoryIdempotencyEntry R} :
    e ∈ putLast entry entries ↔ (e ∈ entries ∧ e.key ≠ entry.key) ∨ e = entry := by
  rw [putLast, List.mem_append, List.mem_singleton, mem_erase]

theorem unique_putLast (h : UniqueEntries entries) (entry : InMemoryIdempotencyEntry R) :
    UniqueEntries (putLast entry entries) := by
  refine List.pairwise_append.mpr ⟨h.erase entry.key, List.pairwise_singleton _ _, ?_⟩
  intro e he e' he'
  rw [List.mem_singleton.mp he']
  exact (mem_erase.mp he).2

/-- Putting an entry last that stands for one already there. -/
theorem putLast_perm (h : UniqueEntries entries) (hmem : entry ∈ entries) : (putLast entry entries).Perm entries := by
  have hnodup : ∀ {l : List (InMemoryIdempotencyEntry R)}, UniqueEntries l → l.Nodup := by
    intro l hl
    exact hl.imp fun hne heq => hne (congrArg _ heq)
  refine (List.perm_ext_iff_of_nodup (hnodup (unique_putLast h entry)) (hnodup h)).mpr ?_
  intro e
  rw [mem_putLast]
  constructor
  · rintro (⟨he, _⟩ | rfl)
    · exact he
    · exact hmem
  · intro he
    by_cases hkey : e.key = entry.key
    · exact Or.inr (eq_of_key h he hmem hkey)
    · exact Or.inl ⟨he, hkey⟩

theorem length_putLast (hkey : ∃ e ∈ entries, e.key = entry.key) : (putLast entry entries).length ≤ entries.length := by
  obtain ⟨e, he, hsame⟩ := hkey
  have hlt : (Dictionary.erase (fun entry : InMemoryIdempotencyEntry R => entry.key) entry.key entries).length <
      entries.length := by
    refine List.length_filter_lt_length_iff_exists.mpr ⟨e, he, ?_⟩
    exact fun hne => of_decide_eq_true hne hsame
  rw [putLast, List.length_append, List.length_singleton]
  omega

/-- An entry takes the place of the last one when they share the key. -/
theorem putLast_append {last : InMemoryIdempotencyEntry R} (hlast : last.key = entry.key)
    (h : ∀ e ∈ entries, e.key ≠ entry.key) : putLast entry (entries ++ [last]) = entries ++ [entry] := by
  have herase : Dictionary.erase (fun entry : InMemoryIdempotencyEntry R => entry.key) entry.key (entries ++ [last]) =
      entries := by
    rw [Dictionary.erase, List.filter_append, List.filter_eq_self.mpr fun e he => decide_eq_true (h e he),
      List.filter_cons_of_neg (by simp [hlast]), List.filter_nil, List.append_nil]
  rw [putLast, herase]

theorem trimToCapacity_eq (maxEntries : ℕ) (key : String) (h : entries.length ≤ maxEntries) :
    trimToCapacity maxEntries key entries = entries := by
  rw [trimToCapacity, if_neg (by omega)]

/-! ## Evicting -/

/-- An eviction takes entries away, and none that is in progress. -/
theorem evict_spec {protectedKey : Option String} (h : UniqueEntries entries)
    (hevict : evictOldestTerminalEntry protectedKey entries = some entries') :
    List.Sublist entries' entries ∧ ∀ e ∈ entries, e.status = .inProgress → e ∈ entries' := by
  obtain ⟨evicted, hfind, rfl⟩ := Option.map_eq_some_iff.mp hevict
  refine ⟨List.filter_sublist, ?_⟩
  intro e he hprogress
  refine mem_erase.mpr ⟨he, fun hkey => ?_⟩
  have hsame : e = evicted := eq_of_key h he (List.mem_of_find?_eq_some hfind) hkey
  have hevictable : Evictable protectedKey evicted = true := List.find?_some hfind
  exact (of_decide_eq_true hevictable).2 (hsame ▸ hprogress)

variable {hook : InMemoryCommandIdempotencyHook R}

theorem makeRoom_of_lt (h : hook.entries.length < hook.maxEntries) : hook.makeRoom = hook.entries := by
  rw [makeRoom, if_neg (by omega)]

/-- Making room adds nothing and keeps what is in progress. -/
theorem makeRoom_spec (h : UniqueEntries hook.entries) :
    List.Sublist hook.makeRoom hook.entries ∧ ∀ e ∈ hook.entries, e.status = .inProgress → e ∈ hook.makeRoom := by
  rw [makeRoom]
  split
  · cases hevict : evictOldestTerminalEntry none hook.entries with
    | none => exact ⟨List.Sublist.refl _, fun _ he _ => he⟩
    | some entries' => exact evict_spec h hevict
  · exact ⟨List.Sublist.refl _, fun _ he _ => he⟩

/-- There is room for a new key unless every entry is in progress. -/
theorem makeRoom_length (h : hook.entries.length ≤ hook.maxEntries)
    (hdone : ∀ e ∈ hook.entries, e.status ≠ .inProgress) : hook.makeRoom.length < hook.maxEntries := by
  rw [makeRoom]
  split
  · have hpos := hook.maxEntries_pos
    cases hentries : hook.entries with
    | nil =>
        rw [evictOldestTerminalEntry, List.find?_nil]
        exact hpos
    | cons e rest =>
        have hevictable : Evictable none e = true :=
          decide_eq_true ⟨Option.some_ne_none _, hdone e (by rw [hentries]; exact List.mem_cons_self)⟩
        have hevict : evictOldestTerminalEntry none (e :: rest) =
            some (Dictionary.erase (·.key) e.key (e :: rest)) := by
          rw [evictOldestTerminalEntry, List.find?_cons_of_pos hevictable, Option.map_some]
        rw [hevict, Option.getD_some]
        have hlt := length_evict hevict
        rw [← hentries] at hlt
        rw [← hentries]
        omega
  · omega

/-! ## The decision about a command -/

variable {sha : Sha256} {command : CommandEnvelope} {fingerprint : String}

theorem mem_of_get (h : hook.get key = some entry) : entry ∈ hook.entries := Dictionary.mem_of_lookup h

theorem beforeDispatch_existing (hf : commandIdempotencyFingerprint sha command = some fingerprint)
    (hget : hook.get command.idempotencyKey = some entry) :
    hook.beforeDispatch sha command =
      (some (if entry.fingerprint ≠ fingerprint then
        .conflict "command idempotency key conflicts with a different command request" else duplicate entry),
        { hook with entries := putLast entry hook.entries }) := by
  rw [beforeDispatch, hf]
  dsimp only
  rw [hget]

theorem beforeDispatch_full (hf : commandIdempotencyFingerprint sha command = some fingerprint)
    (hget : hook.get command.idempotencyKey = none) (hroom : hook.maxEntries ≤ hook.makeRoom.length) :
    hook.beforeDispatch sha command =
      (some (.rejected "command idempotency hook capacity is exhausted"), { hook with entries := hook.makeRoom }) := by
  rw [beforeDispatch, hf]
  dsimp only
  rw [hget]
  exact if_pos hroom

theorem beforeDispatch_claimed (hunique : UniqueEntries hook.entries)
    (hf : commandIdempotencyFingerprint sha command = some fingerprint)
    (hget : hook.get command.idempotencyKey = none) (hroom : hook.makeRoom.length < hook.maxEntries) :
    hook.beforeDispatch sha command = (some .claimed, { hook with
      entries := hook.makeRoom ++ [{ key := command.idempotencyKey, fingerprint, status := .inProgress }] }) := by
  rw [beforeDispatch, hf]
  dsimp only
  rw [hget]
  refine (if_neg (by omega)).trans ?_
  rw [Dictionary.insert_eq_append]
  intro e he
  exact Dictionary.lookup_eq_none.mp hget e ((makeRoom_spec hunique).1.subset he)

end InMemoryCommandIdempotencyHook

/-! ## The record of a failure -/

open InMemoryCommandIdempotencyHook

variable {R : Type} {sha : Sha256} {hook : InMemoryCommandIdempotencyHook R} {command : CommandEnvelope}
  {fingerprint : String}

/-- The record takes the place of the entry that the command has. -/
theorem record_eq (hf : commandIdempotencyFingerprint sha command = some fingerprint)
    (hsize : hook.entries.length ≤ hook.maxEntries) (hkey : ∃ e ∈ hook.entries, e.key = command.idempotencyKey)
    {entry : String → InMemoryIdempotencyEntry R} (hentry : ∀ f, (entry f).key = command.idempotencyKey) :
    hook.record sha command entry = some { hook with entries := putLast (entry fingerprint) hook.entries } := by
  have hlength : (putLast (entry fingerprint) hook.entries).length ≤ hook.entries.length :=
    length_putLast (by rw [hentry]; exact hkey)
  rw [record, hf, Option.map_some, trimToCapacity_eq _ _ (by omega)]

theorem recordFailure_eq (hf : commandIdempotencyFingerprint sha command = some fingerprint)
    (hsize : hook.entries.length ≤ hook.maxEntries) (hkey : ∃ e ∈ hook.entries, e.key = command.idempotencyKey)
    (failure : CommandFailure) (status : CommandDispatchStatus) :
    recordFailure sha hook command failure status = (resultForFailure command failure status, { hook with
      entries := putLast { key := command.idempotencyKey, fingerprint, status := .failed, failure := some failure }
        hook.entries }) := by
  rw [recordFailure, InMemoryCommandIdempotencyHook.recordFailure, record_eq hf hsize hkey fun _ => rfl]

end Pmrp
