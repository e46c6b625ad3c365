import Pmrp.Schemas.Texts

/-!
# `Strategies.Errors` — an error and the texts of its context

The constructor of `StrategyError` in `strategies/errors.py` checks the texts it is given: a context value that is empty
or padded makes it raise a `ValueError` in place of the error that was meant.
-/

namespace Pmrp
namespace StrategyErrors

/-- The class of `StrategyError` that a module raises, or something else that is raised. -/
inductive Raised
  | strategyError (safeMessage reasonCode : String) (context : List (String × String))
  | raised (error : PyError)
  deriving DecidableEq

abbrev RaisedResult := Except Raised

/-- The exception passes through. -/
def raising {α : Type} : Result α → RaisedResult α
  | .ok a => .ok a
  | .error e => .error (.raised e)

theorem raising_eq_ok {α : Type} {r : Result α} {a : α} : raising r = .ok a ↔ r = .ok a := by
  cases r <;> simp [raising]

/-- The constructor, for a message, a reason code and context keys that are constants of the code. -/
def construct (safeMessage reasonCode : String) (context : List (String × String)) : Raised :=
  match context.find? fun item => ¬IsStrippedText item.2 with
  | some item =>
      .raised (valueError s!"context value for {item.1} must be nonempty without surrounding whitespace")
  | none => .strategyError safeMessage reasonCode context

theorem construct_of_required {safeMessage reasonCode : String} {context : List (String × String)}
    (h : ∀ item ∈ context, IsStrippedText item.2) :
    construct safeMessage reasonCode context = .strategyError safeMessage reasonCode context := by
  have hnone : (context.find? fun item => ¬IsStrippedText item.2) = none := by
    refine List.find?_eq_none.mpr fun item hitem => ?_
    simpa using h item hitem
  rw [construct, hnone]

/-- One text that is not accepted is enough. -/
theorem construct_of_not_required {safeMessage reasonCode : String} {context : List (String × String)}
    {item : String × String} (hitem : item ∈ context) (h : ¬IsStrippedText item.2) :
    ∃ key : String, construct safeMessage reasonCode context =
      .raised (valueError s!"context value for {key} must be nonempty without surrounding whitespace") := by
  cases hfind : context.find? fun item => ¬IsStrippedText item.2 with
  | some found => exact ⟨found.1, by rw [construct, hfind]⟩
  | none =>
      have hnot := List.find?_eq_none.mp hfind item hitem
      exact absurd (decide_eq_true h) hnot

end StrategyErrors
end Pmrp
