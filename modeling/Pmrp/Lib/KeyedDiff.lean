import Mathlib.Data.Finset.Sort
import Mathlib.Data.List.Nodup
import Pmrp.Lib.Dictionary

/-!
# `Lib.KeyedDiff` — comparing two keyed collections field by field

Two collections hold at most one value for each key. `differences` goes through the keys of both in order and lists
the keys that one side lacks and the fields in which the two values of a key differ.

- **Meaning.** `Differs` says what a difference is; the list has exactly these (`mem_differences`), each once
  (`nodup_labels`), and is empty when the collections agree (`differences_eq_nil`).
- **Symmetries.** Exchanging the collections mirrors the list (`differences_swap`); the order of the values in
  either does not matter (`differences_perm`).
-/

namespace Pmrp
namespace KeyedDiff

variable {α κ φ υ : Type}

inductive Difference (κ φ υ : Type)
  | missingLeft (k : κ)
  | missingRight (k : κ)
  | field (k : κ) (f : φ) (left right : υ)

inductive Label (φ : Type)
  | missingLeft
  | missingRight
  | field (f : φ)

namespace Difference

def key : Difference κ φ υ → κ
  | .missingLeft k => k
  | .missingRight k => k
  | .field k _ _ _ => k

def label : Difference κ φ υ → κ × Label φ
  | .missingLeft k => (k, .missingLeft)
  | .missingRight k => (k, .missingRight)
  | .field k f _ _ => (k, .field f)

/-- The difference with the two sides exchanged. -/
def mirror : Difference κ φ υ → Difference κ φ υ
  | .missingLeft k => .missingRight k
  | .missingRight k => .missingLeft k
  | .field k f left right => .field k f right left

theorem label_fst (d : Difference κ φ υ) : d.label.1 = d.key := by cases d <;> rfl

end Difference

variable [LinearOrder κ] [DecidableEq υ] (key : α → κ) (fields : List φ) (read : α → φ → υ)

/-- The keys of both collections, in order. -/
def keys (left right : List α) : List κ := ((left.map key).toFinset ∪ (right.map key).toFinset).sort (· ≤ ·)

def fieldDifferences (k : κ) (a b : α) : List (Difference κ φ υ) :=
  (fields.filter fun f => decide (read a f ≠ read b f)).map fun f => .field k f (read a f) (read b f)

def differencesAt (left right : List α) (k : κ) : List (Difference κ φ υ) :=
  match Dictionary.lookup key k left, Dictionary.lookup key k right with
  | none, none => []
  | none, some _ => [.missingLeft k]
  | some _, none => [.missingRight k]
  | some a, some b => fieldDifferences fields read k a b

def differences (left right : List α) : List (Difference κ φ υ) :=
  (keys key left right).flatMap (differencesAt key fields read left right)

/-- What a difference is. -/
inductive Differs (left right : List α) : Difference κ φ υ → Prop where
  | missingLeft {b : α} (hb : b ∈ right) (h : ∀ a ∈ left, key a ≠ key b) : Differs left right (.missingLeft (key b))
  | missingRight {a : α} (ha : a ∈ left) (h : ∀ b ∈ right, key b ≠ key a) :
      Differs left right (.missingRight (key a))
  | field {a b : α} {f : φ} (ha : a ∈ left) (hb : b ∈ right) (hkey : key b = key a) (hf : f ∈ fields)
      (h : read a f ≠ read b f) : Differs left right (.field (key a) f (read a f) (read b f))

/-- Both collections have the same keys, and the same fields under each. -/
structure Agree (left right : List α) : Prop where
  left_sub : ∀ a ∈ left, ∃ b ∈ right, key b = key a
  right_sub : ∀ b ∈ right, ∃ a ∈ left, key a = key b
  fields_eq : ∀ a ∈ left, ∀ b ∈ right, key b = key a → ∀ f ∈ fields, read a f = read b f

variable {key fields read} {left right : List α}

theorem mem_keys {k : κ} : k ∈ keys key left right ↔ (∃ a ∈ left, key a = k) ∨ ∃ b ∈ right, key b = k := by
  rw [keys, Finset.mem_sort, Finset.mem_union, List.mem_toFinset, List.mem_toFinset, List.mem_map, List.mem_map]

theorem nodup_keys (left right : List α) : (keys key left right).Nodup := Finset.sort_nodup _ _

theorem key_of_mem_differencesAt {k : κ} {d : Difference κ φ υ}
    (h : d ∈ differencesAt key fields read left right k) : d.key = k := by
  unfold differencesAt at h
  split at h
  · cases h
  · rw [List.mem_singleton.mp h]; rfl
  · rw [List.mem_singleton.mp h]; rfl
  · obtain ⟨f, -, rfl⟩ := List.mem_map.mp h; rfl

theorem mem_differencesAt (hleft : Dictionary.UniqueKeys key left) (hright : Dictionary.UniqueKeys key right)
    {d : Difference κ φ υ} :
    d ∈ differencesAt key fields read left right d.key ↔ Differs key fields read left right d := by
  constructor
  · intro h
    -- by which of the two collections have the key
    unfold differencesAt at h
    split at h
    · cases h
    · rename_i b ha hb
      have hd := List.mem_singleton.mp h
      obtain ⟨hb, hk⟩ := hright.lookup_eq_some.mp hb
      rw [hd, ← hk]
      exact .missingLeft hb fun a hmem => hk ▸ Dictionary.lookup_eq_none.mp ha a hmem
    · rename_i a ha hb
      have hd := List.mem_singleton.mp h
      obtain ⟨ha, hk⟩ := hleft.lookup_eq_some.mp ha
      rw [hd, ← hk]
      exact .missingRight ha fun b hmem => hk ▸ Dictionary.lookup_eq_none.mp hb b hmem
    · rename_i a b ha hb
      obtain ⟨ha, hka⟩ := hleft.lookup_eq_some.mp ha
      obtain ⟨hb, hkb⟩ := hright.lookup_eq_some.mp hb
      obtain ⟨f, hf, hd⟩ := List.mem_map.mp h
      obtain ⟨hf, hne⟩ := List.mem_filter.mp hf
      rw [← hd, ← hka]
      exact .field ha hb (hkb.trans hka.symm) hf (of_decide_eq_true hne)
  · intro h
    cases h with
    | @missingLeft b hb hnone =>
        have hl : Dictionary.lookup key (key b) left = none := Dictionary.lookup_eq_none.mpr hnone
        have hr : Dictionary.lookup key (key b) right = some b := hright.lookup_eq_some.mpr ⟨hb, rfl⟩
        simp only [Difference.key, differencesAt, hl, hr, List.mem_singleton]
    | @missingRight a ha hnone =>
        have hl : Dictionary.lookup key (key a) left = some a := hleft.lookup_eq_some.mpr ⟨ha, rfl⟩
        have hr : Dictionary.lookup key (key a) right = none := Dictionary.lookup_eq_none.mpr hnone
        simp only [Difference.key, differencesAt, hl, hr, List.mem_singleton]
    | @field a b f ha hb hkey hf hne =>
        have hl : Dictionary.lookup key (key a) left = some a := hleft.lookup_eq_some.mpr ⟨ha, rfl⟩
        have hr : Dictionary.lookup key (key a) right = some b := hright.lookup_eq_some.mpr ⟨hb, hkey⟩
        simp only [Difference.key, differencesAt, hl, hr]
        exact List.mem_map.mpr ⟨f, List.mem_filter.mpr ⟨hf, decide_eq_true hne⟩, rfl⟩

omit [DecidableEq υ] in
/-- The key of a difference occurs in one of the collections. -/
theorem Differs.key_mem {d : Difference κ φ υ} (h : Differs key fields read left right d) :
    d.key ∈ keys key left right := by
  cases h with
  | missingLeft hb _ => exact mem_keys.mpr (Or.inr ⟨_, hb, rfl⟩)
  | missingRight ha _ => exact mem_keys.mpr (Or.inl ⟨_, ha, rfl⟩)
  | field ha _ _ _ _ => exact mem_keys.mpr (Or.inl ⟨_, ha, rfl⟩)

/-- **Soundness and completeness.** -/
theorem mem_differences (hleft : Dictionary.UniqueKeys key left) (hright : Dictionary.UniqueKeys key right)
    {d : Difference κ φ υ} : d ∈ differences key fields read left right ↔ Differs key fields read left right d := by
  rw [differences, List.mem_flatMap]
  constructor
  · rintro ⟨k, -, hd⟩
    exact (mem_differencesAt hleft hright).mp (key_of_mem_differencesAt hd ▸ hd)
  · intro h
    exact ⟨d.key, h.key_mem, (mem_differencesAt hleft hright).mpr h⟩

/-- **Each difference once.** -/
theorem nodup_labels (hfields : fields.Nodup) (left right : List α) :
    ((differences key fields read left right).map Difference.label).Nodup := by
  rw [differences, List.map_flatMap, List.nodup_flatMap]
  refine ⟨fun k _ => ?_, (nodup_keys left right).imp ?_⟩
  · unfold differencesAt
    split
    · exact List.nodup_nil
    · exact List.nodup_singleton _
    · exact List.nodup_singleton _
    · rw [fieldDifferences, List.map_map]
      refine (hfields.filter _).map ?_
      intro f g h
      exact Label.field.inj (Prod.mk.inj h).2
  · intro k k' hne label hk hk'
    obtain ⟨d, hd, rfl⟩ := List.mem_map.mp hk
    obtain ⟨d', hd', hlabel⟩ := List.mem_map.mp hk'
    refine hne ?_
    rw [← key_of_mem_differencesAt hd, ← key_of_mem_differencesAt hd', ← d.label_fst, ← d'.label_fst, hlabel]

theorem differences_eq_nil (hleft : Dictionary.UniqueKeys key left) (hright : Dictionary.UniqueKeys key right) :
    differences key fields read left right = [] ↔ Agree key fields read left right := by
  rw [List.eq_nil_iff_forall_not_mem]
  simp only [mem_differences hleft hright]
  constructor
  · intro h
    refine ⟨fun a ha => ?_, fun b hb => ?_, fun a ha b hb hkey f hf => ?_⟩
    · by_contra hnone
      exact h _ (.missingRight ha fun b hb hk => hnone ⟨b, hb, hk⟩)
    · by_contra hnone
      exact h _ (.missingLeft hb fun a ha hk => hnone ⟨a, ha, hk⟩)
    · by_contra hne
      exact h _ (.field ha hb hkey hf hne)
  · intro hagree d hd
    cases hd with
    | missingLeft hb h => obtain ⟨a, ha, hk⟩ := hagree.right_sub _ hb; exact h a ha hk
    | missingRight ha h => obtain ⟨b, hb, hk⟩ := hagree.left_sub _ ha; exact h b hb hk
    | field ha hb hkey hf hne => exact hne (hagree.fields_eq _ ha _ hb hkey _ hf)

/-! ## Symmetries -/

omit [LinearOrder κ] in
theorem fieldDifferences_swap (k : κ) (a b : α) :
    fieldDifferences fields read k b a = (fieldDifferences fields read k a b).map Difference.mirror := by
  unfold fieldDifferences
  rw [List.map_map]
  have hfilter : (fields.filter fun f => decide (read b f ≠ read a f))
      = fields.filter fun f => decide (read a f ≠ read b f) := by
    exact List.filter_congr fun f _ => decide_eq_decide.mpr ne_comm
  rw [hfilter]
  rfl

variable (key) in
theorem keys_swap (left right : List α) : keys key right left = keys key left right := by
  rw [keys, keys, Finset.union_comm]

variable (key) in
theorem keys_perm {left' right' : List α} (hleft : left.Perm left') (hright : right.Perm right') :
    keys key left' right' = keys key left right := by
  rw [keys, keys, List.toFinset_eq_of_perm _ _ (hleft.map key), List.toFinset_eq_of_perm _ _ (hright.map key)]

theorem differences_swap (left right : List α) :
    differences key fields read right left = (differences key fields read left right).map Difference.mirror := by
  unfold differences
  rw [keys_swap key, List.map_flatMap]
  refine List.flatMap_congr fun k _ => ?_
  unfold differencesAt
  cases Dictionary.lookup key k left with
  | none => cases Dictionary.lookup key k right <;> rfl
  | some a =>
      cases Dictionary.lookup key k right with
      | none => rfl
      | some b => exact fieldDifferences_swap k a b

theorem differences_perm {left' right' : List α} (hleft : Dictionary.UniqueKeys key left)
    (hright : Dictionary.UniqueKeys key right) (hpermLeft : left.Perm left') (hpermRight : right.Perm right') :
    differences key fields read left' right' = differences key fields read left right := by
  unfold differences
  rw [keys_perm key hpermLeft hpermRight]
  refine List.flatMap_congr fun k _ => ?_
  rw [differencesAt, hleft.lookup_perm hpermLeft, hright.lookup_perm hpermRight]
  rfl

end KeyedDiff
end Pmrp
