import Pmrp.Lib.StableSort

/-!
# `Lib.Dictionary` — a dictionary whose values hold their own keys

A list of values, at most one for each key (`UniqueKeys`), in insertion order. Every operation has one lookup
equation; a lookup does not depend on the order of the list.
-/

namespace Pmrp
namespace Dictionary

variable {α κ : Type*} [DecidableEq κ] {key : α → κ}

def lookup (key : α → κ) (k : κ) (l : List α) : Option α := l.find? fun a => decide (key a = k)

/-- A key that is present keeps its place. -/
def insert (key : α → κ) (a : α) : List α → List α
  | [] => [a]
  | b :: l => if key b = key a then a :: l else b :: insert key a l

def erase (key : α → κ) (k : κ) (l : List α) : List α := l.filter fun a => decide (key a ≠ k)

def ofList (key : α → κ) (l : List α) : List α := l.foldl (fun d a => insert key a d) []

def UniqueKeys (key : α → κ) (l : List α) : Prop := l.Pairwise fun a b => key a ≠ key b

/-! ## Lookups -/

theorem lookup_cons (k : κ) (a : α) (l : List α) :
    lookup key k (a :: l) = if key a = k then some a else lookup key k l := by
  unfold lookup
  rw [List.find?_cons]
  by_cases h : key a = k
  · rw [if_pos h, decide_eq_true h]
  · rw [if_neg h, decide_eq_false h]

theorem key_of_lookup {k : κ} {l : List α} {a : α} (h : lookup key k l = some a) : key a = k :=
  of_decide_eq_true (List.find?_some (p := fun a => decide (key a = k)) h)

theorem mem_of_lookup {k : κ} {l : List α} {a : α} (h : lookup key k l = some a) : a ∈ l :=
  List.mem_of_find?_eq_some h

theorem lookup_eq_none {k : κ} {l : List α} : lookup key k l = none ↔ ∀ a ∈ l, key a ≠ k := by
  simp [lookup, List.find?_eq_none]

theorem lookup_insert (k : κ) (a : α) (l : List α) :
    lookup key k (insert key a l) = if key a = k then some a else lookup key k l := by
  induction l with
  | nil => exact lookup_cons k a []
  | cons b l ih =>
      by_cases hba : key b = key a
      · rw [insert, if_pos hba, lookup_cons, lookup_cons, hba]
        split_ifs <;> rfl
      · rw [insert, if_neg hba, lookup_cons, lookup_cons, ih]
        by_cases hak : key a = k
        · rw [if_neg (hak ▸ hba), if_pos hak, if_pos hak]
        · rw [if_neg hak, if_neg hak]

theorem lookup_erase (k k' : κ) (l : List α) :
    lookup key k' (erase key k l) = if k' = k then none else lookup key k' l := by
  induction l with
  | nil => split_ifs <;> rfl
  | cons b l ih =>
      rw [erase, List.filter_cons]
      by_cases hbk : key b = k
      · rw [if_neg (by simp [hbk])]
        change lookup key k' (erase key k l) = _
        rw [ih, lookup_cons, hbk]
        by_cases hk : k' = k
        · rw [if_pos hk, if_pos hk]
        · rw [if_neg hk, if_neg hk, if_neg (Ne.symm hk)]
      · rw [if_pos (by simp [hbk]), lookup_cons, lookup_cons]
        change (if key b = k' then some b else lookup key k' (erase key k l)) = _
        rw [ih]
        by_cases hk : k' = k
        · rw [if_neg (hk ▸ hbk), if_pos hk, if_pos hk]
        · rw [if_neg hk, if_neg hk]

/-! ## Unique keys -/

theorem mem_insert {a b : α} {l : List α} (h : b ∈ insert key a l) : b = a ∨ b ∈ l := by
  induction l with
  | nil => exact Or.inl (List.mem_singleton.mp h)
  | cons c l ih =>
      rw [insert] at h
      split_ifs at h with hca
      · exact (List.mem_cons.mp h).imp_right (List.mem_cons_of_mem c)
      · rcases List.mem_cons.mp h with rfl | h
        · exact Or.inr List.mem_cons_self
        · exact (ih h).imp_right (List.mem_cons_of_mem c)

theorem UniqueKeys.insert {l : List α} (h : UniqueKeys key l) (a : α) : UniqueKeys key (insert key a l) := by
  induction l with
  | nil => exact List.pairwise_singleton _ _
  | cons b l ih =>
      obtain ⟨hb, hl⟩ := List.pairwise_cons.mp h
      rw [Dictionary.insert]
      split_ifs with hba
      · exact List.pairwise_cons.mpr ⟨fun c hc => hba ▸ hb c hc, hl⟩
      · refine List.pairwise_cons.mpr ⟨fun c hc => ?_, ih hl⟩
        rcases mem_insert hc with rfl | hc
        · exact hba
        · exact hb c hc

theorem UniqueKeys.erase {l : List α} (h : UniqueKeys key l) (k : κ) : UniqueKeys key (erase key k l) :=
  h.sublist List.filter_sublist

omit [DecidableEq κ] in
theorem UniqueKeys.perm {l l' : List α} (h : UniqueKeys key l) (hperm : l.Perm l') : UniqueKeys key l' :=
  hperm.pairwise h Ne.symm

theorem UniqueKeys.lookup_eq_some {l : List α} (h : UniqueKeys key l) {a : α} {k : κ} :
    lookup key k l = some a ↔ a ∈ l ∧ key a = k := by
  refine ⟨fun hl => ⟨mem_of_lookup hl, key_of_lookup hl⟩, fun hmem => ?_⟩
  obtain ⟨ha, hk⟩ := hmem
  induction l with
  | nil => cases ha
  | cons b l ih =>
      obtain ⟨hb, hl⟩ := List.pairwise_cons.mp h
      rw [lookup_cons]
      rcases List.mem_cons.mp ha with rfl | ha
      · rw [if_pos hk]
      · rw [if_neg (hk ▸ hb a ha), ih hl ha]

/-- A lookup does not depend on the order of the values. -/
theorem UniqueKeys.lookup_perm {l l' : List α} (h : UniqueKeys key l) (hperm : l.Perm l') (k : κ) :
    lookup key k l' = lookup key k l := by
  refine Option.ext fun a => ?_
  rw [(h.perm hperm).lookup_eq_some, h.lookup_eq_some, hperm.mem_iff]

/-- A new key goes behind the others. -/
theorem insert_eq_append {a : α} {l : List α} (h : ∀ b ∈ l, key b ≠ key a) : insert key a l = l ++ [a] := by
  induction l with
  | nil => rfl
  | cons b l ih =>
      rw [insert, if_neg (h b List.mem_cons_self), ih fun c hc => h c (List.mem_cons_of_mem b hc), List.cons_append]

/-- A list without repeated keys is its own dictionary. -/
theorem ofList_eq {l : List α} (h : UniqueKeys key l) : ofList key l = l := by
  -- the values are added one after the other, each behind the ones already there
  have hfold : ∀ (l d : List α), UniqueKeys key (d ++ l) →
      l.foldl (fun d a => Dictionary.insert key a d) d = d ++ l := by
    intro l
    induction l with
    | nil => intro d _; exact (List.append_nil d).symm
    | cons a l ih =>
        intro d hd
        have hbefore : ∀ b ∈ d, key b ≠ key a := fun b hb =>
          (List.pairwise_append.mp hd).2.2 b hb a List.mem_cons_self
        rw [List.foldl_cons, insert_eq_append hbefore, ih (d ++ [a]) (by rwa [List.append_assoc]), List.append_assoc]
        rfl
  exact hfold l [] h

end Dictionary
end Pmrp
