import Pmrp.Lib.Outcome
import Pmrp.Lib.StableSort

/-!
# `Lib.CanonicalOrder` — sorting by a key that must not repeat

`sortUnique` sorts and then refuses a key that stands twice. No two elements of an accepted list tie, so the result
is a function of the elements, and a refused list is refused in every order: `sortUnique_perm`.
-/

namespace Pmrp

variable {ε α κ : Type} [LinearOrder κ] {key : α → κ} {duplicate : ε} {items other sorted : List α}

def sortUnique (key : α → κ) (duplicate : ε) (items : List α) : Except ε (List α) := do
  let sortedItems := sortByKey key items
  raiseIf (¬(sortedItems.map key).Nodup) duplicate
  pure sortedItems

theorem sortUnique_eq_ok : sortUnique key duplicate items = .ok sorted
    ↔ (items.map key).Nodup ∧ sorted = sortByKey key items := by
  have hnodup : ((sortByKey key items).map key).Nodup ↔ (items.map key).Nodup :=
    ((sortByKey_perm key items).map key).nodup_iff
  simp only [sortUnique, bind_eq_ok, raiseIf_eq_ok, not_not, pure_eq_ok, exists_const, hnodup]
  constructor
  · rintro ⟨h, rfl⟩
    exact ⟨h, rfl⟩
  · rintro ⟨h, rfl⟩
    exact ⟨h, rfl⟩

/-- The keys of an accepted list rise. -/
theorem pairwise_of_sortUnique (h : sortUnique key duplicate items = .ok sorted) :
    sorted.Pairwise fun a b => key a < key b := by
  obtain ⟨hnodup, rfl⟩ := sortUnique_eq_ok.mp h
  have hdistinct : ((sortByKey key items).map key).Nodup := ((sortByKey_perm key items).map key).nodup_iff.mpr hnodup
  have hne := List.pairwise_map.mp hdistinct
  exact (pairwise_sortByKey key items).imp₂ (fun _ _ hle hne => lt_of_le_of_ne hle hne) hne

/-- A list whose keys rise is left as it is. -/
theorem sortUnique_of_pairwise (h : items.Pairwise fun a b => key a < key b) :
    sortUnique key duplicate items = .ok items := by
  refine sortUnique_eq_ok.mpr ⟨?_, (sortByKey_of_pairwise (h.imp fun hlt => hlt.le)).symm⟩
  exact List.pairwise_map.mpr (h.imp fun hlt => hlt.ne)

/-- **Order.** The order of the elements matters neither to the list nor to the error. -/
theorem sortUnique_perm (h : other.Perm items) : sortUnique key duplicate other = sortUnique key duplicate items := by
  have hkeys : ((sortByKey key other).map key).Nodup ↔ ((sortByKey key items).map key).Nodup := by
    have hperm := ((sortByKey_perm key other).trans h).trans (sortByKey_perm key items).symm
    exact (hperm.map key).nodup_iff
  by_cases hnodup : ((sortByKey key items).map key).Nodup
  · have hties : TiesEqual key items := by
      have hitems : (items.map key).Nodup := ((sortByKey_perm key items).map key).nodup_iff.mp hnodup
      intro a ha b hb hkey
      exact List.inj_on_of_nodup_map hitems ha hb hkey
    rw [sortUnique, sortUnique, sortByKey_eq_of_perm hties h]
  · rw [sortUnique, sortUnique, raiseIf_bind_of hnodup, raiseIf_bind_of (hkeys.not.mpr hnodup)]

end Pmrp
