import Mathlib.Data.List.Sort
import Mathlib.Data.Prod.Lex

/-!
# `Lib.StableSort` — sorting by a key

`sortByKey` is a stable sort. Elements with equal keys keep the order of the input (`filter_sortByKey`), so the
result depends on the input's order exactly when different elements tie (`sortByKey_eq_iff_tiesEqual`).
-/

namespace Pmrp

variable {α κ : Type*} [LinearOrder κ] {key : α → κ} {l l' xs ys : List α}

def sortByKey (key : α → κ) (l : List α) : List α := l.mergeSort fun a b => decide (key a ≤ key b)

/-- Elements with equal keys are equal. -/
def TiesEqual (key : α → κ) (l : List α) : Prop := ∀ a ∈ l, ∀ b ∈ l, key a = key b → a = b

theorem sortByKey_perm (key : α → κ) (l : List α) : (sortByKey key l).Perm l := List.mergeSort_perm l _

@[simp] theorem mem_sortByKey {a : α} : a ∈ sortByKey key l ↔ a ∈ l := (sortByKey_perm key l).mem_iff

@[simp] theorem length_sortByKey : (sortByKey key l).length = l.length := (sortByKey_perm key l).length_eq

theorem pairwise_sortByKey (key : α → κ) (l : List α) :
    (sortByKey key l).Pairwise fun a b => key a ≤ key b := by
  have h := @List.pairwise_mergeSort _ (fun a b => decide (key a ≤ key b))
    (fun a b c hab hbc => decide_eq_true ((of_decide_eq_true hab).trans (of_decide_eq_true hbc)))
    (fun a b => by simpa using le_total (key a) (key b)) l
  exact h.imp of_decide_eq_true

theorem sortByKey_of_pairwise (h : l.Pairwise fun a b => key a ≤ key b) : sortByKey key l = l :=
  List.mergeSort_of_pairwise (h.imp decide_eq_true)

/-- The elements with one key keep their order. -/
theorem filter_sortByKey (key : α → κ) (l : List α) (k : κ) :
    (sortByKey key l).filter (fun a => decide (key a = k)) = l.filter fun a => decide (key a = k) := by
  have hkey : ∀ a ∈ l.filter (fun a => decide (key a = k)), key a = k := by
    intro a ha
    exact of_decide_eq_true (List.mem_filter.mp ha).2
  have hsub : List.Sublist (l.filter fun a => decide (key a = k)) (sortByKey key l) := by
    refine List.sublist_mergeSort ?_ ?_ ?_ List.filter_sublist
    · exact fun a b c hab hbc => decide_eq_true ((of_decide_eq_true hab).trans (of_decide_eq_true hbc))
    · exact fun a b => by simpa using le_total (key a) (key b)
    · refine List.Pairwise.imp_of_mem (R := fun _ _ => True) ?_ (List.pairwise_of_forall fun _ _ => trivial)
      intro a b ha hb _
      exact decide_eq_true (le_of_eq ((hkey a ha).trans (hkey b hb).symm))
  -- the sublist has the key throughout, so it survives the filter; the lengths leave no room for more
  have hfiltered := hsub.filter fun a => decide (key a = k)
  rw [List.filter_filter] at hfiltered
  simp only [Bool.and_self] at hfiltered
  exact (hfiltered.eq_of_length ((sortByKey_perm key l).filter _).length_eq.symm).symm

/-- Two sorted lists with the same elements are equal when ties are. -/
theorem eq_of_perm_of_tiesEqual (hties : TiesEqual key l) (hl : l.Pairwise fun a b => key a ≤ key b)
    (hl' : l'.Pairwise fun a b => key a ≤ key b) (h : l.Perm l') : l = l' :=
  h.eq_of_pairwise (fun a b ha hb hab hba => hties a ha b (h.mem_iff.mpr hb) (le_antisymm hab hba)) hl hl'

omit [LinearOrder κ] in
theorem TiesEqual.perm (hties : TiesEqual key l) (h : l'.Perm l) : TiesEqual key l' :=
  fun a ha b hb => hties a (h.mem_iff.mp ha) b (h.mem_iff.mp hb)

theorem sortByKey_eq_of_perm (hties : TiesEqual key l) (h : l'.Perm l) : sortByKey key l' = sortByKey key l := by
  have hperm : (sortByKey key l').Perm (sortByKey key l) :=
    ((sortByKey_perm key l').trans h).trans (sortByKey_perm key l).symm
  refine eq_of_perm_of_tiesEqual ?_ (pairwise_sortByKey key l') (pairwise_sortByKey key l) hperm
  exact hties.perm ((sortByKey_perm key l').trans h)

omit [LinearOrder κ] in
/-- No key stands twice in a list whose keys rise. -/
theorem tiesEqual_of_pairwise_lt [Preorder κ] (h : l.Pairwise fun a b => key a < key b) : TiesEqual key l := by
  have hnodup : (l.map key).Nodup := List.pairwise_map.mpr (h.imp fun hlt => ne_of_lt hlt)
  intro a ha b hb hkey
  exact List.inj_on_of_nodup_map hnodup ha hb hkey

omit [LinearOrder κ] in
/-- A list whose keys rise is known by its elements. -/
theorem eq_of_pairwise_lt [Preorder κ] (hl : l.Pairwise fun a b => key a < key b)
    (hl' : l'.Pairwise fun a b => key a < key b) (h : ∀ a, a ∈ l ↔ a ∈ l') : l = l' := by
  have hnodup : ∀ {l : List α}, (l.Pairwise fun a b => key a < key b) → l.Nodup := by
    intro l hl
    refine hl.imp ?_
    rintro a b hlt rfl
    exact lt_irrefl _ hlt
  have hperm : l.Perm l' := (List.perm_ext_iff_of_nodup (hnodup hl) (hnodup hl')).mpr h
  exact hperm.eq_of_pairwise (fun a b _ _ hab hba => absurd (hab.trans hba) (lt_irrefl _)) hl hl'

/-- A batch whose first part comes first in the order can be sorted part by part. -/
theorem sortByKey_append (hties : TiesEqual key (xs ++ ys)) (h : ∀ x ∈ xs, ∀ y ∈ ys, key x ≤ key y) :
    sortByKey key (xs ++ ys) = sortByKey key xs ++ sortByKey key ys := by
  have hperm : (sortByKey key (xs ++ ys)).Perm (sortByKey key xs ++ sortByKey key ys) :=
    (sortByKey_perm key _).trans ((sortByKey_perm key xs).append (sortByKey_perm key ys)).symm
  refine eq_of_perm_of_tiesEqual ?_ (pairwise_sortByKey key _) ?_ hperm
  · exact hties.perm (sortByKey_perm key _)
  · refine List.pairwise_append.mpr ⟨pairwise_sortByKey key xs, pairwise_sortByKey key ys, ?_⟩
    intro x hx y hy
    exact h x (mem_sortByKey.mp hx) y (mem_sortByKey.mp hy)

/-- **When the order of the input does not matter.** -/
theorem sortByKey_eq_iff_tiesEqual :
    (∀ l', l'.Perm l → sortByKey key l' = sortByKey key l) ↔ TiesEqual key l := by
  refine ⟨fun h a ha b hb hkey => ?_, fun hties l' hl' => sortByKey_eq_of_perm hties hl'⟩
  by_contra hne
  -- put `a` and `b` in front, in either order: the sort keeps that order among the elements with their key
  obtain ⟨l₁, hl₁⟩ : ∃ l₁, l.Perm (a :: l₁) := by
    obtain ⟨s, t, rfl⟩ := List.append_of_mem ha
    exact ⟨s ++ t, List.perm_middle⟩
  obtain ⟨l₂, hl₂⟩ : ∃ l₂, l₁.Perm (b :: l₂) := by
    have hb₁ : b ∈ l₁ := (List.mem_cons.mp (hl₁.mem_iff.mp hb)).resolve_left fun h => hne h.symm
    obtain ⟨s, t, rfl⟩ := List.append_of_mem hb₁
    exact ⟨s ++ t, List.perm_middle⟩
  have hab : (a :: b :: l₂).Perm l := (hl₁.trans (hl₂.cons a)).symm
  have hba : (b :: a :: l₂).Perm l := (List.Perm.swap a b l₂).trans hab
  have hsame := congrArg (List.filter fun x => decide (key x = key a)) ((h _ hab).trans (h _ hba).symm)
  rw [filter_sortByKey, filter_sortByKey] at hsame
  simp only [List.filter_cons, hkey, decide_true, if_true, List.cons.injEq] at hsame
  exact hne hsame.1

/-! ## The first minimum -/

/-- `min(l, key=key)`: the first element with the least key. -/
def firstMinimum (key : α → κ) (l : List α) : Option α := (sortByKey key l).head?

theorem mem_of_firstMinimum {a : α} (h : firstMinimum key l = some a) : a ∈ l :=
  mem_sortByKey.mp (List.mem_of_head? h)

theorem key_le_of_firstMinimum {a b : α} (h : firstMinimum key l = some a) (hb : b ∈ l) : key a ≤ key b := by
  obtain ⟨rest, hrest⟩ := List.head?_eq_some_iff.mp h
  have hsorted := pairwise_sortByKey key l
  rw [hrest] at hsorted
  have hmem : b ∈ a :: rest := hrest ▸ mem_sortByKey.mpr hb
  rcases List.mem_cons.mp hmem with rfl | hmem
  · exact le_refl _
  · exact List.rel_of_pairwise_cons hsorted hmem

theorem exists_firstMinimum {a : α} (ha : a ∈ l) : ∃ b, firstMinimum key l = some b := by
  refine Option.ne_none_iff_exists'.mp fun hnone => ?_
  have hnil : sortByKey key l = [] := List.head?_eq_none_iff.mp hnone
  exact List.not_mem_nil (hnil ▸ mem_sortByKey.mpr ha)

/-! ## Without repetitions -/

section Duplicates

variable {β : Type*} [DecidableEq β]

omit [LinearOrder κ] in
theorem eraseDups_sublist (l : List β) : l.eraseDups.Sublist l := by
  induction hn : l.length using Nat.strongRecOn generalizing l with
  | _ n ih =>
      cases l with
      | nil => exact List.Sublist.refl _
      | cons a l =>
          rw [List.eraseDups_cons]
          have hfilter := List.length_filter_le (fun b => !b == a) l
          rw [List.length_cons] at hn
          exact ((ih _ (by omega) _ rfl).trans List.filter_sublist).cons_cons a

omit [LinearOrder κ] in
theorem nodup_eraseDups (l : List β) : l.eraseDups.Nodup := by
  induction hn : l.length using Nat.strongRecOn generalizing l with
  | _ n ih =>
      cases l with
      | nil => exact List.nodup_nil
      | cons a l =>
          rw [List.eraseDups_cons]
          have hfilter := List.length_filter_le (fun b => !b == a) l
          rw [List.length_cons] at hn
          refine List.nodup_cons.mpr ⟨fun ha => ?_, ih _ (by omega) _ rfl⟩
          have hkept := (List.mem_filter.mp (List.mem_eraseDups.mp ha)).2
          simp at hkept

/-- Batches with the same elements, in any order and number, are sorted into the same distinct elements. -/
theorem eraseDups_sortByKey_eq {key : β → κ} {l l' : List β} (hties : TiesEqual key l)
    (hmem : ∀ a, a ∈ l' ↔ a ∈ l) : (sortByKey key l').eraseDups = (sortByKey key l).eraseDups := by
  have hperm : (sortByKey key l').eraseDups.Perm (sortByKey key l).eraseDups := by
    refine (List.perm_ext_iff_of_nodup (nodup_eraseDups _) (nodup_eraseDups _)).mpr fun a => ?_
    rw [List.mem_eraseDups, List.mem_eraseDups, mem_sortByKey, mem_sortByKey, hmem a]
  have hsorted : ∀ l : List β, (sortByKey key l).eraseDups.Pairwise fun a b => key a ≤ key b :=
    fun l => (pairwise_sortByKey key l).sublist (eraseDups_sublist _)
  refine eq_of_perm_of_tiesEqual ?_ (hsorted l') (hsorted l) hperm
  intro a ha b hb
  rw [List.mem_eraseDups, mem_sortByKey, hmem] at ha hb
  exact hties a ha b hb

end Duplicates

end Pmrp
