import Mathlib.Data.List.Basic
import Mathlib.Logic.Function.Basic

/-!
# `Lib.VersionedLogs` — logs that are appended to and cleared

One log for each key. An event appends a value to one of them or clears those of the keys it names; a version of a key
is a place in its log, counted from one.

## Contents
- **A run without a clearing.** `replay_of_not_clears`: a log grows by what is appended to it.
- **What is in a log stays in it.** `version_replay`: a version is kept until its key is cleared.
-/

namespace Pmrp
namespace VersionedLogs

variable {κ α : Type} [DecidableEq κ]

inductive Event (κ α : Type)
  | append (key : κ) (value : α)
  | clear (gone : κ → Bool)

/-- The value that the event appends to the log of the key. -/
def Event.appended (k : κ) : Event κ α → Option α
  | .append key value => if key = k then some value else none
  | .clear _ => none

/-- The event clears the log of the key. -/
def Event.clears (k : κ) : Event κ α → Bool
  | .append _ _ => false
  | .clear gone => gone k

def apply (log : κ → List α) : Event κ α → κ → List α
  | .append key value => Function.update log key (log key ++ [value])
  | .clear gone => fun k => if gone k then [] else log k

def replay (log : κ → List α) (events : List (Event κ α)) : κ → List α := events.foldl apply log

/-- The value at a version, which are counted from one. -/
def version (log : κ → List α) (k : κ) (n : ℕ) : Option α := if n = 0 then none else (log k)[n - 1]?

/-! ## One event -/

/-- One equation for an event that does not clear the key. -/
theorem apply_of_not_clears {e : Event κ α} {k : κ} (h : e.clears k = false) (log : κ → List α) :
    apply log e k = log k ++ (e.appended k).toList := by
  cases e with
  | append key value =>
      rw [apply, Event.appended]
      by_cases hkey : key = k
      · subst hkey
        simp
      · simp [hkey, Function.update_of_ne (Ne.symm hkey)]
  | clear gone =>
      rw [Event.clears] at h
      simp [apply, Event.appended, h]

/-! ## A run -/

/-- Without a clearing, a log grows by what is appended to it. -/
theorem replay_of_not_clears {events : List (Event κ α)} {k : κ} (h : ∀ e ∈ events, e.clears k = false)
    (log : κ → List α) : replay log events k = log k ++ events.filterMap (Event.appended k) := by
  induction events generalizing log with
  | nil => simp [replay]
  | cons e events ih =>
      have hhead := h e List.mem_cons_self
      have htail : ∀ e' ∈ events, e'.clears k = false := fun e' he' => h e' (List.mem_cons_of_mem e he')
      show replay (apply log e) events k = _
      rw [ih htail, apply_of_not_clears hhead, List.append_assoc, List.filterMap_cons]
      cases e.appended k <;> rfl

/-- **A version that exists stays what it is until its key is cleared.** -/
theorem version_replay {events : List (Event κ α)} {k : κ} {log : κ → List α} {n : ℕ} {a : α}
    (h : ∀ e ∈ events, e.clears k = false) (hversion : version log k n = some a) :
    version (replay log events) k n = some a := by
  unfold version at hversion ⊢
  split_ifs at hversion with hn
  rw [if_neg hn, replay_of_not_clears h]
  -- the place is inside the log that was there before
  exact List.getElem?_append_left (List.getElem?_eq_some_iff.mp hversion).1 ▸ hversion

/-- An append is the newest version of its key. -/
theorem version_append (log : κ → List α) (k : κ) (a : α) :
    version (apply log (.append k a)) k ((log k).length + 1) = some a := by
  rw [version, if_neg (Nat.succ_ne_zero _), apply_of_not_clears rfl]
  simp [Event.appended]

end VersionedLogs
end Pmrp
