import Mathlib.Algebra.BigOperators.Group.List.Basic
import Mathlib.Logic.Function.Basic
import Pmrp.Lib.Outcome
import Pmrp.Lib.Transitions

/-!
# `Lib.OptimisticSaves` — many clients saving under an expected version

A table of versioned rows and any number of clients. A client reads a row, computes what to save from the value
read, and saves it where the row still has the version it read; these are separate steps, interleaved in any
order, and a client may repeat or abandon any of them.

- **Invariant.** A row that a client has read is the stored one, or the stored one is newer (`Behind`).
- **Result.** Every stored row is the initial one with exactly the successful saves added (`conserved`).
-/

namespace Pmrp

variable {ι κ R V P α Δ ε : Type}

/-- Rows by primary key. -/
structure Table (key : R → κ) where
  lookup : κ → Option R
  keyed : ∀ k row, lookup k = some row → key row = k

namespace Table

variable {key : R → κ}

theorem keyed_empty : ∀ (k : κ) (row : R), (none : Option R) = some row → key row = k :=
  fun _ _ h => absurd h.symm (Option.some_ne_none _)

/-- The table without rows. -/
def empty : Table key := ⟨fun _ => none, keyed_empty⟩

variable [DecidableEq κ]

def put (table : Table key) (row : R) : Table key where
  lookup := Function.update table.lookup (key row) (some row)
  keyed k other h := by
    by_cases hk : k = key row
    · subst hk
      rw [Function.update_self] at h
      cases h
      rfl
    · rw [Function.update_of_ne hk] at h
      exact table.keyed k other h

/-- Putting a row that is already there changes nothing. -/
theorem put_self {table : Table key} {row : R} (h : table.lookup (key row) = some row) : table.put row = table := by
  cases table with
  | mk lookup keyed =>
      have hlookup : Function.update lookup (key row) (some row) = lookup := by
        rw [← show lookup (key row) = some row from h]
        exact Function.update_eq_self _ _
      simp only [put, hlookup]

/-- `UPDATE … SET row WHERE` the key is that of `row` and the stored row meets the condition, with the number of
    rows matched. `store` is what the columns make of the values. -/
def updateWhere (table : Table key) (store : R → Except ε R) (condition : R → Bool) (row : R) :
    Except ε (Table key × ℕ) :=
  if (table.lookup (key row)).any condition then (store row).map fun stored => (table.put stored, 1)
  else .ok (table, 0)

/-- An update that matched one row has replaced it. -/
theorem updateWhere_one {table updated : Table key} {store : R → Except ε R} {condition : R → Bool} {row : R}
    (h : table.updateWhere store condition row = .ok (updated, 1)) :
    (table.lookup (key row)).any condition = true ∧ ∃ stored, store row = .ok stored ∧ updated = table.put stored := by
  unfold updateWhere at h
  split_ifs at h with hmatch
  · obtain ⟨stored, hstore, hpair⟩ := map_eq_ok.mp h
    exact ⟨hmatch, stored, hstore, (Prod.mk.inj hpair).1.symm⟩
  · have hcount : (0 : ℕ) = 1 := (Prod.mk.inj (Except.ok.inj h)).2
    omega

end Table

/-- What a client calls: the projection it computes and the repository's two mappings. -/
structure OptimisticClient (κ R V P α Δ ε : Type) where
  key : R → κ
  version : R → ℕ
  /-- The value a stored row is read as. -/
  read : R → Except ε V
  readVersion : V → ℕ
  /-- What is saved for an input, and the change it makes. -/
  project : V → α → Except ε (P × Δ)
  /-- The checks of a save before its statement, and the row it writes. -/
  write : P → ℕ → Except ε R
  store : R → Except ε R
  conflict : P → ε

namespace OptimisticClient

variable [DecidableEq ι] [DecidableEq κ] (c : OptimisticClient κ R V P α Δ ε)

def get (table : Table c.key) (k : κ) : Except ε (Option V) :=
  match table.lookup k with
  | none => .ok none
  | some row => (c.read row).map some

/-- A save returns or raises, and leaves a table. -/
def save (table : Table c.key) (p : P) (expected : ℕ) : Except ε Unit × Table c.key :=
  match c.write p expected with
  | .error e => (.error e, table)
  | .ok row =>
      match table.updateWhere c.store (fun stored => c.version stored = expected) row with
      | .error e => (.error e, table)
      | .ok (table', rowCount) => (raiseIf (rowCount ≠ 1) (c.conflict p), table')

/-- What makes the saves of a client add up. `amounts` are the stored amounts that a save changes. -/
structure Lawful (amounts : R → Δ) [Add Δ] : Prop where
  version_read : ∀ {row v}, c.read row = .ok v → c.readVersion v = c.version row
  /-- The key of a written row is that of the row read, also as stored. -/
  key_stored : ∀ {row stored}, c.store row = .ok stored → c.key stored = c.key row
  key_written : ∀ {row v input p delta written}, c.read row = .ok v → c.project v input = .ok (p, delta) →
    c.write p (c.readVersion v) = .ok written → c.key written = c.key row
  stored : ∀ {row v input p delta written row'}, c.read row = .ok v → c.project v input = .ok (p, delta) →
    c.write p (c.readVersion v) = .ok written → c.store written = .ok row' →
    c.version row' = c.version row + 1 ∧ amounts row' = amounts row + delta

/-! ## One save -/

variable {c}

/-- **A save that raises leaves the table.** -/
theorem save_error {table table' : Table c.key} {p : P} {expected : ℕ} {e : ε}
    (h : c.save table p expected = (.error e, table')) : table' = table := by
  unfold save Table.updateWhere at h
  split at h
  · cases h
    rfl
  · split_ifs at h with hmatch
    · split at h
      · cases h
        rfl
      · rename_i hstore
        obtain ⟨stored, -, hstored⟩ := map_eq_ok.mp hstore
        cases hstored
        have hraise : (raiseIf (1 ≠ 1) (c.conflict p) : Except ε Unit) = .ok ⟨⟩ :=
          raiseIf_eq_ok.mpr (not_not.mpr rfl)
        rw [hraise] at h
        cases (Prod.mk.inj h).1
    · cases (Prod.mk.inj h).2
      rfl

/-- A save that returns has replaced the row with the expected version. -/
theorem save_ok {table table' : Table c.key} {p : P} {expected : ℕ} {row : R}
    (hrow : c.write p expected = .ok row) (h : c.save table p expected = (.ok ⟨⟩, table')) :
    ∃ now stored, table.lookup (c.key row) = some now ∧ c.version now = expected ∧ c.store row = .ok stored ∧
      table' = table.put stored := by
  unfold save at h
  rw [hrow] at h
  dsimp only at h
  split at h
  · cases (Prod.mk.inj h).1
  · rename_i updated rowCount hupdate
    obtain ⟨hraise, rfl⟩ := Prod.mk.inj h
    obtain rfl : rowCount = 1 := not_not.mp (raiseIf_eq_ok.mp hraise)
    obtain ⟨hmatch, stored, hstore, htable⟩ := Table.updateWhere_one hupdate
    obtain ⟨now, hnow, hversion⟩ := (Option.any_eq_true _ _).mp hmatch
    exact ⟨now, stored, hnow, of_decide_eq_true hversion, hstore, htable⟩

/-! ## Steps -/

variable (c)

/-- What a client is doing. -/
inductive Phase (V P Δ : Type)
  | idle
  | holding (value : V)
  | projected (p : P) (expected : ℕ) (delta : Δ)

/-- The table, the clients, and the successful saves so far with the change each one made. -/
structure State (ι : Type) where
  table : Table c.key
  phase : ι → Phase V P Δ
  saved : List (κ × Δ)

inductive Action (κ α : Type)
  | read (k : κ)
  | project (input : α)
  | save
  | abandon

variable {c}

inductive Step : c.State ι → ι × Action κ α → c.State ι → Prop
  | read {s : c.State ι} {i : ι} {k : κ} {v : V} (h : c.get s.table k = .ok (some v)) :
      Step s (i, .read k) { s with phase := Function.update s.phase i (.holding v) }
  | project {s : c.State ι} {i : ι} {input : α} {v : V} {p : P} {delta : Δ} (hphase : s.phase i = .holding v)
      (h : c.project v input = .ok (p, delta)) :
      Step s (i, .project input) { s with phase := Function.update s.phase i (.projected p (c.readVersion v) delta) }
  | saved {s : c.State ι} {i : ι} {p : P} {expected : ℕ} {delta : Δ} {table : Table c.key} {row : R}
      (hphase : s.phase i = .projected p expected delta) (hrow : c.write p expected = .ok row)
      (h : c.save s.table p expected = (.ok ⟨⟩, table)) :
      Step s (i, .save) { s with table := table, saved := s.saved ++ [(c.key row, delta)] }
  | saveFailed {s : c.State ι} {i : ι} {p : P} {expected : ℕ} {delta : Δ} {table : Table c.key} {e : ε}
      (hphase : s.phase i = .projected p expected delta) (h : c.save s.table p expected = (.error e, table)) :
      Step s (i, .save) { s with table := table }
  | abandon {s : c.State ι} {i : ι} : Step s (i, .abandon) { s with phase := Function.update s.phase i .idle }

/-! ## The invariant -/

/-- The stored row is this one or a newer one. -/
def Behind (table : Table c.key) (row : R) : Prop :=
  ∃ now, table.lookup (c.key row) = some now ∧ (now = row ∨ c.version row < c.version now)

/-- A client that is busy works on a row that is stored or was stored before. -/
def Traced (table : Table c.key) : Phase V P Δ → Prop
  | .idle => True
  | .holding v => ∃ row, c.read row = .ok v ∧ Behind table row
  | .projected p expected delta => ∃ row v input, c.read row = .ok v ∧ c.project v input = .ok (p, delta) ∧
      expected = c.readVersion v ∧ Behind table row

omit [DecidableEq κ] in
theorem Traced.mono {table table' : Table c.key} (h : ∀ row, Behind table row → Behind table' row)
    {phase : Phase V P Δ} (htraced : Traced table phase) : Traced table' phase := by
  cases phase with
  | idle => trivial
  | holding v =>
      obtain ⟨row, hread, hbehind⟩ := htraced
      exact ⟨row, hread, h row hbehind⟩
  | projected p expected delta =>
      obtain ⟨row, v, input, hread, hproject, hexpected, hbehind⟩ := htraced
      exact ⟨row, v, input, hread, hproject, hexpected, h row hbehind⟩

omit [DecidableEq κ] in
theorem behind_of_lookup {table : Table c.key} {k : κ} {row : R} (h : table.lookup k = some row) :
    Behind table row := by
  refine ⟨row, ?_, Or.inl rfl⟩
  rw [table.keyed k row h]
  exact h

/-- A newer version in its place leaves every row behind that was behind. -/
theorem behind_put {table : Table c.key} {now stored : R} (hnow : table.lookup (c.key stored) = some now)
    (hnewer : c.version now < c.version stored) {row : R} (h : Behind table row) : Behind (table.put stored) row := by
  obtain ⟨old, hold, hcase⟩ := h
  by_cases hk : c.key row = c.key stored
  · refine ⟨stored, ?_, Or.inr ?_⟩
    · show Function.update table.lookup (c.key stored) (some stored) (c.key row) = some stored
      rw [hk, Function.update_self]
    · rw [hk, hnow] at hold
      cases hold
      rcases hcase with rfl | hlt
      · exact hnewer
      · exact Nat.lt_trans hlt hnewer
  · refine ⟨old, ?_, hcase⟩
    show Function.update table.lookup (c.key stored) (some stored) (c.key row) = some old
    rw [Function.update_of_ne hk]
    exact hold

/-! ## The result -/

variable [AddCommMonoid Δ] (amounts : R → Δ)

/-- The changes saved at one key. -/
def changesAt (saved : List (κ × Δ)) (k : κ) : List Δ :=
  (saved.filter fun change => change.1 = k).map Prod.snd

/-- Every row has the version and the amounts of the initial one plus one, and the change, for each save. -/
def Conserved (s₀ s : c.State ι) : Prop :=
  ∀ k row₀, s₀.table.lookup k = some row₀ → ∃ row, s.table.lookup k = some row ∧
    c.version row = c.version row₀ + (changesAt s.saved k).length ∧
    amounts row = amounts row₀ + (changesAt s.saved k).sum

/-- Nothing was read and nothing saved. -/
structure Initial (s : c.State ι) : Prop where
  idle : ∀ i, s.phase i = .idle
  saved : s.saved = []

omit [AddCommMonoid Δ] in
theorem changesAt_append (saved : List (κ × Δ)) (k k' : κ) (delta : Δ) :
    changesAt (saved ++ [(k', delta)]) k = changesAt saved k ++ (if k' = k then [delta] else []) := by
  unfold changesAt
  rw [List.filter_append, List.map_append, List.filter_singleton]
  by_cases h : k' = k
  · rw [if_pos h, decide_eq_true h]
    rfl
  · rw [if_neg h, decide_eq_false h]
    rfl

variable {amounts}

/-- **One step.** Tracing and conservation survive it. -/
theorem step_inv (hlawful : c.Lawful amounts) {s₀ s s' : c.State ι} {a : ι × Action κ α} (hstep : Step s a s')
    (htraced : ∀ i, Traced s.table (s.phase i)) (hconserved : Conserved amounts s₀ s) :
    (∀ i, Traced s'.table (s'.phase i)) ∧ Conserved amounts s₀ s' := by
  -- a client that changes its phase does not disturb the others
  have hphases : ∀ {i : ι} {phase : Phase V P Δ}, Traced s.table phase →
      ∀ j, Traced s.table (Function.update s.phase i phase j) := by
    intro i phase hphase j
    by_cases hj : j = i
    · subst hj
      rwa [Function.update_self]
    · rw [Function.update_of_ne hj]
      exact htraced j
  cases hstep with
  | @read i k v h =>
      refine ⟨hphases ?_, hconserved⟩
      unfold get at h
      cases hrow : s.table.lookup k with
      | none =>
          rw [hrow] at h
          cases h
      | some row =>
          rw [hrow] at h
          obtain ⟨w, hw, hwv⟩ := map_eq_ok.mp h
          cases hwv
          exact ⟨row, hw, behind_of_lookup hrow⟩
  | @project i input v p delta hphase h =>
      refine ⟨hphases ?_, hconserved⟩
      have hholding := htraced i
      rw [hphase] at hholding
      obtain ⟨row, hread, hbehind⟩ := hholding
      exact ⟨row, v, input, hread, h, rfl, hbehind⟩
  | @saved i p expected delta table written hphase hrow h =>
      have hprojected := htraced i
      rw [hphase] at hprojected
      obtain ⟨row, v, input, hread, hproject, rfl, old, hold, hcase⟩ := hprojected
      obtain ⟨now, stored, hnow, hversion, hstore, rfl⟩ := save_ok hrow h
      have hkey := hlawful.key_written hread hproject hrow
      have hkey' := hlawful.key_stored hstore
      obtain ⟨hnext, hamounts⟩ := hlawful.stored hread hproject hrow hstore
      rw [hlawful.version_read hread] at hversion
      -- the expected version singles out the row that was read
      rw [hkey, hold] at hnow
      cases hnow
      obtain rfl : old = row := by
        rcases hcase with h | hlt
        · exact h
        · omega
      have hstored : s.table.lookup (c.key stored) = some old := by
        rw [hkey', hkey]
        exact hold
      refine ⟨fun j => (htraced j).mono fun r => behind_put hstored (by omega), ?_⟩
      intro k row₀ hrow₀
      obtain ⟨current, hcurrent, hv, ha⟩ := hconserved k row₀ hrow₀
      rw [changesAt_append, hkey]
      by_cases hk : c.key old = k
      · subst hk
        rw [hold] at hcurrent
        cases hcurrent
        refine ⟨stored, ?_, ?_, ?_⟩
        · show Function.update s.table.lookup (c.key stored) (some stored) (c.key old) = some stored
          rw [hkey', hkey, Function.update_self]
        · rw [if_pos rfl, List.length_append, List.length_singleton, hnext, hv]
          omega
        · rw [if_pos rfl, List.sum_append, List.sum_singleton, hamounts, ha, add_assoc]
      · refine ⟨current, ?_, ?_, ?_⟩
        · show Function.update s.table.lookup (c.key stored) (some stored) k = some current
          rw [hkey', hkey, Function.update_of_ne (Ne.symm hk)]
          exact hcurrent
        · rw [if_neg hk, List.append_nil]
          exact hv
        · rw [if_neg hk, List.append_nil]
          exact ha
  | saveFailed hphase h =>
      have htable := save_error h
      subst htable
      exact ⟨htraced, hconserved⟩
  | abandon => exact ⟨hphases trivial, hconserved⟩

/-- **No lost update.** In every state that any interleaving reaches. -/
theorem conserved (hlawful : c.Lawful amounts) {s₀ s : c.State ι} (hinitial : Initial s₀)
    (h : Reaches Step (fun _ _ => True) s₀ s) : Conserved amounts s₀ s := by
  have hstart : (∀ i, Traced s₀.table (s₀.phase i)) ∧ Conserved amounts s₀ s₀ := by
    refine ⟨fun i => ?_, fun k row₀ hrow₀ => ⟨row₀, hrow₀, ?_, ?_⟩⟩
    · rw [hinitial.idle i]
      trivial
    · rw [hinitial.saved]
      rfl
    · rw [hinitial.saved]
      exact (add_zero _).symm
  exact (h.inv (fun t => (∀ i, Traced t.table (t.phase i)) ∧ Conserved amounts s₀ t)
    (fun _ _ _ hinv _ hstep => step_inv hlawful hstep hinv.1 hinv.2) hstart).2

end OptimisticClient
end Pmrp
