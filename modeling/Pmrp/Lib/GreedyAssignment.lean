import Mathlib.Data.Finset.Card
import Mathlib.Order.Defs.LinearOrder

/-!
# `Lib.GreedyAssignment` — taking the earliest free slot is optimal

Tasks take slots, each the first slot that fits it and is free. When a slot that fits a task also lets later slots fit
it, this wastes nothing: if a slot stays free, no assignment whatsoever fills all slots with distinct tasks
(`not_fills_of_greedy`). The order in which the tasks choose does not matter.

## Contents
- **Filling.** `Fills fits tasks slots f` says that `f` gives every slot a task of its own that fits.
- **Optimality.** The tasks that fit a free slot all sit in earlier slots; counting does the rest.
-/

namespace Pmrp

variable {Task Slot Key : Type*} [LinearOrder Key]

/-- Every slot has a task that fits, and no two slots have the same. -/
structure Fills (fits : Task → Slot → Prop) (tasks : List Task) (slots : List Slot) (f : Slot → Task) : Prop where
  mem : ∀ c ∈ slots, f c ∈ tasks
  fits : ∀ c ∈ slots, fits (f c) c
  inj : ∀ c ∈ slots, ∀ d ∈ slots, f c = f d → c = d

variable {key : Slot → Key} {fits : Task → Slot → Prop} {tasks : List Task} {slots : List Slot}

/-- **Greedy is optimal.** The slot `c` is free while every task that fits it took an earlier slot, a slot of its own.
    A task that fits an earlier slot among those fits `c`. Then the slots cannot all be filled. -/
theorem not_fills_of_greedy {c : Slot} {g : Task → Slot} (hc : c ∈ slots)
    (hearlier : ∀ a ∈ tasks, fits a c → g a ∈ slots ∧ fits a (g a) ∧ key (g a) < key c)
    (hinj : ∀ a ∈ tasks, ∀ b ∈ tasks, fits a c → fits b c → g a = g b → a = b)
    (hlater : ∀ a b d, fits b d → fits b c → fits a d → key d < key c → fits a c) (f : Slot → Task) :
    ¬Fills fits tasks slots f := by
  classical
  intro hf
  -- the slots before `c` that a task could trade for `c`, and the tasks that fit `c`
  let before := slots.toFinset.filter fun d => key d < key c ∧ ∃ b, fits b d ∧ fits b c
  let fitting := tasks.toFinset.filter fun a => fits a c
  have hgreedy : fitting.card ≤ before.card := by
    apply Finset.card_le_card_of_injOn g
    · intro a ha
      obtain ⟨hmem, hfit⟩ := Finset.mem_filter.mp ha
      obtain ⟨hslot, hfits, hlt⟩ := hearlier a (List.mem_toFinset.mp hmem) hfit
      exact Finset.mem_filter.mpr ⟨List.mem_toFinset.mpr hslot, hlt, a, hfits, hfit⟩
    · intro a ha b hb heq
      obtain ⟨hmemA, hfitA⟩ := Finset.mem_filter.mp ha
      obtain ⟨hmemB, hfitB⟩ := Finset.mem_filter.mp hb
      exact hinj a (List.mem_toFinset.mp hmemA) b (List.mem_toFinset.mp hmemB) hfitA hfitB heq
  have hfree : c ∉ before := by
    intro hmem
    exact lt_irrefl _ (Finset.mem_filter.mp hmem).2.1
  have hslots : ∀ d ∈ insert c before, d ∈ slots := by
    intro d hd
    rcases Finset.mem_insert.mp hd with rfl | hd
    · exact hc
    · exact List.mem_toFinset.mp (Finset.mem_filter.mp hd).1
  have hfill : (insert c before).card ≤ fitting.card := by
    apply Finset.card_le_card_of_injOn f
    · intro d hd
      have hslot := hslots d hd
      refine Finset.mem_filter.mpr ⟨List.mem_toFinset.mpr (hf.mem d hslot), ?_⟩
      rcases Finset.mem_insert.mp hd with rfl | hd
      · exact hf.fits _ hc
      · obtain ⟨-, hlt, b, hbd, hbc⟩ := Finset.mem_filter.mp hd
        exact hlater _ b d hbd hbc (hf.fits d hslot) hlt
    · intro d hd e he heq
      exact hf.inj d (hslots d hd) e (hslots e he) heq
  rw [Finset.card_insert_of_notMem hfree] at hfill
  omega

end Pmrp
