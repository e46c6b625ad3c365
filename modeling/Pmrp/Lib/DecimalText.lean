import Pmrp.Lib.DecimalSpan

/-!
# `Lib.DecimalText` — decimals as text

`str` of a finite `Decimal`: a sign, digits with a point among them, and an exponent where the point would be far away.
The digits are the coefficient's, and the exponent is that of the text less the places after the point, so a text is of
one decimal only.
-/

namespace Pmrp
namespace Decimal

/-! ## `str` -/

/-- `str` of the coefficient. -/
def coefficientDigits (d : Decimal) : List Char := Nat.toDigits 10 d.coefficient

/-- The digits before the point, if it stood where the exponent says. -/
def leftDigits (d : Decimal) : ℤ := d.exponent + d.coefficientDigits.length

/-- The digits before the point in the text. -/
def dotPlace (d : Decimal) : ℤ := if d.exponent ≤ 0 ∧ -6 < d.leftDigits then d.leftDigits else 1

/-- The digits and the point. -/
def mantissaText (d : Decimal) : List Char :=
  if d.dotPlace ≤ 0 then '0' :: '.' :: (List.replicate (-d.dotPlace).toNat '0' ++ d.coefficientDigits)
  else if (d.coefficientDigits.length : ℤ) ≤ d.dotPlace then
    d.coefficientDigits ++ List.replicate (d.dotPlace - d.coefficientDigits.length).toNat '0'
  else d.coefficientDigits.take d.dotPlace.toNat ++ '.' :: d.coefficientDigits.drop d.dotPlace.toNat

/-- `E%+d`, and nothing for zero. -/
def exponentText (shift : ℤ) : List Char :=
  if shift = 0 then []
  else 'E' :: (if shift < 0 then '-' else '+') :: Nat.toDigits 10 shift.natAbs

def toText (d : Decimal) : String :=
  String.ofList ((if d.negative then ['-'] else []) ++ d.mantissaText ++ exponentText (d.leftDigits - d.dotPlace))

/-! ## Characters -/

theorem coefficientDigits_isDigit (d : Decimal) : ∀ c ∈ d.coefficientDigits, c.isDigit = true :=
  fun _ hc => Nat.isDigit_of_mem_toDigits (by decide) (by decide) hc

theorem length_coefficientDigits_pos (d : Decimal) : 0 < d.coefficientDigits.length := Nat.length_toDigits_pos

theorem mantissaText_chars (d : Decimal) : ∀ c ∈ d.mantissaText, c.isDigit = true ∨ c = '.' := by
  have hdigits := d.coefficientDigits_isDigit
  have hzeros : ∀ (n : ℕ), ∀ c ∈ List.replicate n '0', c.isDigit = true := by
    intro n c hc
    rw [List.eq_of_mem_replicate hc]
    rfl
  intro c hc
  unfold mantissaText at hc
  split_ifs at hc
  · rcases List.mem_cons.mp hc with rfl | hc
    · exact Or.inl rfl
    · rcases List.mem_cons.mp hc with rfl | hc
      · exact Or.inr rfl
      · rcases List.mem_append.mp hc with hc | hc
        · exact Or.inl (hzeros _ c hc)
        · exact Or.inl (hdigits c hc)
  · rcases List.mem_append.mp hc with hc | hc
    · exact Or.inl (hdigits c hc)
    · exact Or.inl (hzeros _ c hc)
  · rcases List.mem_append.mp hc with hc | hc
    · exact Or.inl (hdigits c (List.mem_of_mem_take hc))
    · rcases List.mem_cons.mp hc with rfl | hc
      · exact Or.inr rfl
      · exact Or.inl (hdigits c (List.mem_of_mem_drop hc))

theorem mantissaText_ne {c : Char} (d : Decimal) (hdigit : c.isDigit = false) (hpoint : c ≠ '.') :
    c ∉ d.mantissaText := by
  intro hc
  rcases d.mantissaText_chars c hc with h | h
  · rw [hdigit] at h
    cases h
  · exact hpoint h

theorem mantissaText_ne_nil (d : Decimal) : d.mantissaText ≠ [] := by
  unfold mantissaText
  split_ifs
  · exact List.cons_ne_nil _ _
  · exact List.append_ne_nil_of_left_ne_nil (List.ne_nil_of_length_pos d.length_coefficientDigits_pos) _
  · exact List.append_ne_nil_of_right_ne_nil _ (List.cons_ne_nil _ _)

/-- The characters of a text. -/
theorem toText_chars (d : Decimal) :
    ∀ c ∈ d.toText.toList, c.isDigit = true ∨ c = '.' ∨ c = '-' ∨ c = '+' ∨ c = 'E' := by
  intro c hc
  rw [toText, String.toList_ofList, List.append_assoc] at hc
  rcases List.mem_append.mp hc with hc | hc
  · split_ifs at hc
    · exact Or.inr (Or.inr (Or.inl (List.mem_singleton.mp hc)))
    · cases hc
  · rcases List.mem_append.mp hc with hc | hc
    · exact (d.mantissaText_chars c hc).imp_right Or.inl
    · unfold exponentText at hc
      split_ifs at hc
      · cases hc
      all_goals
        rcases List.mem_cons.mp hc with rfl | hc
        · simp only [or_true]
        rcases List.mem_cons.mp hc with rfl | hc
        · simp only [or_true, true_or]
        exact Or.inl (Nat.isDigit_of_mem_toDigits (by decide) (by decide) hc)

/-! ## Reading a text back -/

/-- The number of the digits. -/
def readDigits (mantissa : List Char) : ℕ := Nat.ofDigitChars 10 (mantissa.filter fun c => c != '.') 0

/-- The places after the point. -/
def readPlaces (mantissa : List Char) : ℕ := ((mantissa.dropWhile fun c => c != '.').drop 1).length

theorem filter_digits {cs : List Char} (h : ∀ c ∈ cs, c.isDigit = true) : (cs.filter fun c => c != '.') = cs := by
  rw [List.filter_eq_self]
  intro c hc
  have hdigit := h c hc
  rw [bne_iff_ne]
  rintro rfl
  cases hdigit

theorem dropWhile_digits {cs rest : List Char} (h : ∀ c ∈ cs, c.isDigit = true) :
    ((cs ++ rest).dropWhile fun c => c != '.') = rest.dropWhile fun c => c != '.' := by
  refine List.dropWhile_append_of_pos fun c hc => ?_
  have hdigit := h c hc
  rw [bne_iff_ne]
  rintro rfl
  cases hdigit

theorem readDigits_mantissaText (d : Decimal) : readDigits d.mantissaText = d.coefficient := by
  have hdigits := filter_digits d.coefficientDigits_isDigit
  have hnumber : Nat.ofDigitChars 10 d.coefficientDigits 0 = d.coefficient := Nat.ofDigitChars_ten_toDigits
  have hpos := d.length_coefficientDigits_pos
  unfold readDigits mantissaText
  split_ifs with hzero hlong
  · have hzeros : ∀ c ∈ List.replicate (-d.dotPlace).toNat '0', c.isDigit = true := by
      intro c hc
      rw [List.eq_of_mem_replicate hc]
      rfl
    have hfilter : ('0' :: '.' :: (List.replicate (-d.dotPlace).toNat '0' ++ d.coefficientDigits)).filter
        (fun c => c != '.') = List.replicate ((-d.dotPlace).toNat + 1) '0' ++ d.coefficientDigits := by
      rw [List.filter_cons_of_pos (by decide), List.filter_cons_of_neg (by decide), List.filter_append,
        filter_digits hzeros, hdigits, List.replicate_succ, List.cons_append]
    rw [hfilter, Nat.ofDigitChars_append, Nat.ofDigitChars_replicate_zero, Nat.mul_zero]
    exact hnumber
  · -- the point is never past the digits
    have hshort : (d.dotPlace - d.coefficientDigits.length).toNat = 0 := by
      unfold dotPlace leftDigits at *
      split_ifs at * with hplain
      · omega
      · omega
    rw [hshort, List.replicate_zero, List.append_nil, hdigits]
    exact hnumber
  · have hfilter : (d.coefficientDigits.take d.dotPlace.toNat ++
      '.' :: d.coefficientDigits.drop d.dotPlace.toNat).filter
        (fun c => c != '.') = d.coefficientDigits := by
      rw [List.filter_append, List.filter_cons_of_neg (by decide), ← List.filter_append, List.take_append_drop, hdigits]
    rw [hfilter]
    exact hnumber

theorem readPlaces_mantissaText (d : Decimal) :
    (readPlaces d.mantissaText : ℤ) = d.leftDigits - d.dotPlace - d.exponent := by
  have hpos := d.length_coefficientDigits_pos
  have hleft : d.leftDigits = d.exponent + d.coefficientDigits.length := rfl
  have hdot : d.dotPlace = d.leftDigits ∧ d.exponent ≤ 0 ∨ d.dotPlace = 1 := by
    unfold dotPlace
    split_ifs with hplain
    · exact Or.inl ⟨rfl, hplain.1⟩
    · exact Or.inr rfl
  unfold readPlaces mantissaText
  split_ifs with hzero hlong
  · rw [List.dropWhile_cons_of_pos (by decide), List.dropWhile_cons_of_neg (by decide), List.drop_succ_cons,
      List.drop_zero, List.length_append, List.length_replicate]
    omega
  · have hshort : (d.dotPlace - d.coefficientDigits.length).toNat = 0 := by omega
    have hdrop := @dropWhile_digits d.coefficientDigits [] d.coefficientDigits_isDigit
    rw [hshort, List.replicate_zero, hdrop]
    show ((0 : ℕ) : ℤ) = _
    omega
  · rw [dropWhile_digits fun c hc => d.coefficientDigits_isDigit c (List.mem_of_mem_take hc),
      List.dropWhile_cons_of_neg (by decide), List.drop_succ_cons, List.drop_zero, List.length_drop]
    omega

theorem exponentText_injective {s t : ℤ} (h : exponentText s = exponentText t) : s = t := by
  have hnumber : ∀ m n : ℕ, Nat.toDigits 10 m = Nat.toDigits 10 n → m = n := by
    intro m n hdigits
    rw [← @Nat.ofDigitChars_ten_toDigits m, hdigits, Nat.ofDigitChars_ten_toDigits]
  unfold exponentText at h
  split_ifs at h
  all_goals first
    | omega
    | (simp only [List.cons.injEq, true_and] at h
       have habs := hnumber _ _ h
       omega)
    | (simp only [List.cons.injEq, true_and] at h
       exact absurd h.1 (by decide))

/-- A text starts with its mantissa, which has no `E`. -/
theorem takeWhile_mantissaText (d : Decimal) (shift : ℤ) :
    ((d.mantissaText ++ exponentText shift).takeWhile fun c => c != 'E') = d.mantissaText := by
  have hall : ∀ c ∈ d.mantissaText, (c != 'E') = true := by
    intro c hc
    rw [bne_iff_ne]
    rintro rfl
    exact d.mantissaText_ne (by decide) (by decide) hc
  rw [List.takeWhile_append_of_pos hall]
  have hnone : ((exponentText shift).takeWhile fun c => c != 'E') = [] := by
    unfold exponentText
    split_ifs
    · rfl
    all_goals exact List.takeWhile_cons_of_neg (by decide)
  rw [hnone, List.append_nil]

/-- **A text is of one decimal.** -/
theorem toText_injective : Function.Injective toText := by
  intro d e h
  have hlist := congrArg String.toList h
  simp only [toText, String.toList_ofList, List.append_assoc] at hlist
  have hnot : ∀ (f : Decimal) (rest cs : List Char), f.mantissaText ++ rest ≠ ['-'] ++ cs := by
    intro f rest cs heq
    cases hmantissa : f.mantissaText with
    | nil => exact f.mantissaText_ne_nil hmantissa
    | cons c tail =>
        rw [hmantissa] at heq
        have hc := (List.cons.inj heq).1
        refine f.mantissaText_ne (c := '-') (by decide) (by decide) ?_
        rw [hmantissa, ← hc]
        exact List.mem_cons_self
  -- only a negative text starts with a minus
  have hsign : d.negative = e.negative := by
    cases hd : d.negative with
    | false =>
        cases he : e.negative with
        | false => rfl
        | true =>
            rw [hd, he] at hlist
            exact absurd hlist (hnot d _ _)
    | true =>
        cases he : e.negative with
        | false =>
            rw [hd, he] at hlist
            exact absurd hlist.symm (hnot e _ _)
        | true => rfl
  rw [hsign] at hlist
  have hbody := List.append_cancel_left hlist
  -- the mantissa ends where the exponent starts, and gives digits and places back
  have hmantissa : d.mantissaText = e.mantissaText := by
    rw [← d.takeWhile_mantissaText, hbody, e.takeWhile_mantissaText]
  rw [hmantissa] at hbody
  have hshift := exponentText_injective (List.append_cancel_left hbody)
  have hcoefficient : d.coefficient = e.coefficient := by
    rw [← readDigits_mantissaText, hmantissa, readDigits_mantissaText]
  have hplaces := d.readPlaces_mantissaText
  rw [hmantissa, e.readPlaces_mantissaText] at hplaces
  have hexponent : d.exponent = e.exponent := by omega
  cases d
  cases e
  cases hsign
  cases hcoefficient
  cases hexponent
  rfl

example : (Decimal.toText ⟨false, 50, -2⟩, Decimal.toText ⟨true, 123, 4⟩, Decimal.toText ⟨false, 0, -7⟩) =
    ("0.50", "-1.23E+6", "0E-7") := by decide

end Decimal
end Pmrp
