import Pmrp.Lib.Json
import Pmrp.Schemas.Primitives

/-!
# `Schemas.Texts` — texts that every check of required text accepts

A check of required text refuses the empty text and a text that `strip` changes. Decimal numbers and identifiers have
neither fault.
-/

namespace Pmrp

theorem isSpace_of_visible {c : Char} (h : 32 < c.toNat ∧ c.toNat < 133) : isSpace c = false := by
  have hne : ∀ d : Char, (d.toNat ≤ 32 ∨ 133 ≤ d.toNat) → (c == d) = false := by
    intro d hd
    refine beq_eq_false_iff_ne.mpr fun hcd => ?_
    rw [hcd] at h
    omega
  have hrange : ∀ lo hi : Char, (hi.toNat ≤ 32 ∨ 133 ≤ lo.toNat) → inRange lo hi c = false := by
    intro lo hi hd
    refine decide_eq_false fun hin => ?_
    omega
  unfold isSpace
  rw [hrange '\t' '\r' (Or.inl (by decide)), hrange '\x1c' ' ' (Or.inl (by decide)),
    hrange '\u2000' '\u200a' (Or.inr (by decide)), hne '\x85' (Or.inr (by decide)), hne '\u00a0' (Or.inr (by decide)),
    hne '\u1680' (Or.inr (by decide)), hne '\u2028' (Or.inr (by decide)), hne '\u2029' (Or.inr (by decide)),
    hne '\u202f' (Or.inr (by decide)), hne '\u205f' (Or.inr (by decide)), hne '\u3000' (Or.inr (by decide))]
  rfl

/-- `strip` takes nothing from a text without spaces. -/
theorem isStripped_of_no_space {value : String} (h : ∀ c ∈ value.toList, isSpace c = false) :
    isStripped value = true := by
  have hhead : value.toList.head?.any isSpace = false := by
    cases hc : value.toList.head? with
    | none => rfl
    | some c => exact h c (List.mem_of_mem_head? hc)
  have hlast : value.toList.getLast?.any isSpace = false := by
    cases hc : value.toList.getLast? with
    | none => rfl
    | some c => exact h c (List.mem_of_getLast? hc)
  rw [isStripped, hhead, hlast]
  rfl

/-! ## Decimal numbers -/

theorem toList_toString_nat (n : ℕ) : (toString n).toList = Nat.toDigits 10 n := Nat.toList_repr

theorem isSpace_toString_nat {n : ℕ} {c : Char} (h : c ∈ (toString n).toList) : isSpace c = false := by
  rw [toList_toString_nat] at h
  have hdigit := Json.isDigit_toDigits n c h
  simp only [Char.isDigit, Bool.and_eq_true, decide_eq_true_eq] at hdigit
  obtain ⟨hlo, hhi⟩ := hdigit
  have hlo' : 48 ≤ c.toNat := hlo
  have hhi' : c.toNat ≤ 57 := hhi
  exact isSpace_of_visible ⟨by omega, by omega⟩

theorem toString_nat_ne_empty (n : ℕ) : toString n ≠ "" := by
  intro h
  have hnil := toList_toString_nat n
  rw [h] at hnil
  exact Nat.toDigits_ne_nil hnil.symm

theorem required_toString_nat (n : ℕ) : toString n ≠ "" ∧ isStripped (toString n) = true :=
  ⟨toString_nat_ne_empty n, isStripped_of_no_space fun _ h => isSpace_toString_nat h⟩

theorem required_toString_int (z : ℤ) : toString z ≠ "" ∧ isStripped (toString z) = true := by
  cases z with
  | ofNat n => exact required_toString_nat n
  | negSucc n =>
      have htext : toString (Int.negSucc n) = "-" ++ toString (n + 1) := rfl
      have hlist : (toString (Int.negSucc n)).toList = '-' :: (toString (n + 1)).toList := by
        rw [htext, String.toList_append]
        rfl
      constructor
      · intro h
        rw [h] at hlist
        cases hlist
      · refine isStripped_of_no_space fun c hc => ?_
        rw [hlist] at hc
        rcases List.mem_cons.mp hc with rfl | hc
        · decide
        · exact isSpace_toString_nat hc

/-- `str` of an integer, which refuses too many digits. -/
def intText (value : ℤ) : Result String :=
  if (Nat.toDigits 10 value.natAbs).length ≤ Json.digitLimit then pure (toString value)
  else
    .error (valueError
      "Exceeds the limit (4300 digits) for integer string conversion; use sys.set_int_max_str_digits() to increase the limit")

/-! ## Identifiers -/

theorem isSpace_of_isLowerOrDigit {c : Char} (h : isLowerOrDigit c = true) : isSpace c = false := by
  simp only [isLowerOrDigit, isLower, inRange, Bool.or_eq_true, decide_eq_true_eq] at h
  have hz : 'a'.toNat = 97 ∧ 'z'.toNat = 122 ∧ '0'.toNat = 48 ∧ '9'.toNat = 57 := by decide
  refine isSpace_of_visible ?_
  omega

theorem isSpace_of_matches_body {cs : List Char} (h : matchesIdentifierBody cs = true) :
    ∀ c ∈ cs, isSpace c = false := by
  unfold matchesIdentifierBody at h
  split at h
  case h_2 => cases h
  case h_1 d ds =>
      simp only [Bool.and_eq_true, List.all_eq_true, Bool.or_eq_true, beq_iff_eq] at h
      obtain ⟨hd, hds⟩ := h
      intro c hc
      rcases List.mem_cons.mp hc with rfl | hc
      · decide
      rcases List.mem_cons.mp hc with rfl | hc
      · exact isSpace_of_isLowerOrDigit hd
      · rcases hds c hc with (hlower | rfl) | rfl
        · exact isSpace_of_isLowerOrDigit hlower
        · decide
        · decide

theorem Identifier.required {pre : String} (i : Identifier pre) : i.val ≠ "" ∧ isStripped i.val = true := by
  refine ⟨i.valid.1, isStripped_of_no_space ?_⟩
  have hpattern := i.valid.2.2.2
  unfold matchesIdentifierPattern at hpattern
  cases hlist : i.val.toList with
  | nil => intro c hc; cases hc
  | cons c cs =>
      rw [hlist] at hpattern
      simp only [Bool.and_eq_true] at hpattern
      obtain ⟨hfirst, hbody⟩ := hpattern
      intro d hd
      rcases List.mem_cons.mp hd with rfl | hd
      · exact isSpace_of_isLowerOrDigit (by rw [isLowerOrDigit, hfirst, Bool.true_or])
      · -- a character of the first run, or one of the rest
        rw [← List.takeWhile_append_dropWhile (p := isLowerOrDigit) (l := cs)] at hd
        rcases List.mem_append.mp hd with hd | hd
        · exact isSpace_of_isLowerOrDigit (List.mem_takeWhile_imp hd)
        · exact isSpace_of_matches_body hbody d hd

end Pmrp
