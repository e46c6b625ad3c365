import Mathlib.Data.List.Basic
import Mathlib.Data.UInt
import Mathlib.Tactic.Common

/-!
# `Lib.PercentEncoding` — the `application/x-www-form-urlencoded` form

A text is its UTF-8 bytes. An unreserved byte stands for itself, a space is `+`, and any other byte is `%` and two
hexadecimal digits. Neither `&` nor `=` is written for a byte, so a list of pairs is read back from its encoding.

## Contents
- **One byte.** `unquotePlus_encodeByte`, `separator_not_mem_encodeByte`.
- **Pairs.** `parseQuery_urlencode`, `urlencode_injective`.
- **Texts.** `utf8_injective`, `urlencodeText_injective`.
-/

namespace Pmrp
namespace PercentEncoding

abbrev Bytes := List UInt8

/-! ## Bytes -/

/-- `A-Z`, `a-z`, `0-9` and `_.-~`. -/
def isUnreserved (b : UInt8) : Bool :=
  let n := b.toNat
  decide (48 ≤ n ∧ n ≤ 57 ∨ 65 ≤ n ∧ n ≤ 90 ∨ 97 ≤ n ∧ n ≤ 122 ∨ n = 95 ∨ n = 46 ∨ n = 45 ∨ n = 126)

/-- An upper-case hexadecimal digit. -/
def hexUpper (n : ℕ) : Char := Char.ofNat (if n < 10 then 48 + n else 55 + n)

def hexUpperValue (c : Char) : ℕ := if c.toNat < 58 then c.toNat - 48 else c.toNat - 55

def encodeByte (b : UInt8) : List Char :=
  if b.toNat = 32 then ['+']
  else if isUnreserved b = true then [Char.ofNat b.toNat]
  else ['%', hexUpper (b.toNat / 16), hexUpper (b.toNat % 16)]

/-- `quote_plus` of the text with these bytes. -/
def quotePlus (bytes : Bytes) : List Char := bytes.flatMap encodeByte

def unquotePlus : List Char → Bytes
  | [] => []
  | '%' :: high :: low :: rest => UInt8.ofNat (hexUpperValue high * 16 + hexUpperValue low) :: unquotePlus rest
  | '+' :: rest => UInt8.ofNat 32 :: unquotePlus rest
  | c :: rest => UInt8.ofNat c.toNat :: unquotePlus rest

theorem toNat_ofNat_of_lt {n : ℕ} (h : n < 256) : (Char.ofNat n).toNat = n := by
  have hvalid : n.isValidChar := Or.inl (by omega)
  rw [Char.ofNat, dif_pos hvalid]
  rfl

theorem toNat_hexUpper {n : ℕ} (h : n < 16) : (hexUpper n).toNat = if n < 10 then 48 + n else 55 + n := by
  rw [hexUpper, toNat_ofNat_of_lt]
  split_ifs <;> omega

theorem hexUpperValue_hexUpper {n : ℕ} (h : n < 16) : hexUpperValue (hexUpper n) = n := by
  rw [hexUpperValue, toNat_hexUpper h]
  split_ifs <;> omega

/-- The code points that an encoded byte is written with. -/
theorem toNat_of_mem_encodeByte {b : UInt8} {c : Char} (h : c ∈ encodeByte b) :
    c.toNat = 43 ∨ c.toNat = 37 ∨ 48 ≤ c.toNat ∧ c.toNat ≤ 57 ∨ 65 ≤ c.toNat ∧ c.toNat ≤ 90 ∨
      97 ≤ c.toNat ∧ c.toNat ≤ 122 ∨ c.toNat = 95 ∨ c.toNat = 46 ∨ c.toNat = 45 ∨ c.toNat = 126 := by
  have hb : b.toNat < 256 := b.toNat_lt
  unfold encodeByte at h
  split_ifs at h with hspace hfree
  · rw [List.mem_singleton.mp h]
    exact Or.inl rfl
  · rw [List.mem_singleton.mp h, toNat_ofNat_of_lt hb]
    have hrange := of_decide_eq_true hfree
    omega
  -- two digits after the percent sign
  · have hdigit : ∀ n < 16, c = hexUpper n → 48 ≤ c.toNat ∧ c.toNat ≤ 57 ∨ 65 ≤ c.toNat ∧ c.toNat ≤ 90 := by
      rintro n hn rfl
      rw [toNat_hexUpper hn]
      split_ifs <;> omega
    simp only [List.mem_cons, List.not_mem_nil, or_false] at h
    rcases h with rfl | hc | hc
    · exact Or.inr (Or.inl rfl)
    · have := hdigit _ (by omega) hc
      omega
    · have := hdigit _ (by omega) hc
      omega

/-- No separator of a query is written for a byte. -/
theorem separator_not_mem_quotePlus {separator : Char} (h : separator = '&' ∨ separator = '=') (bytes : Bytes) :
    separator ∉ quotePlus bytes := by
  intro hmem
  obtain ⟨b, -, hb⟩ := List.mem_flatMap.mp hmem
  have hrange := toNat_of_mem_encodeByte hb
  rcases h with rfl | rfl
  · have : ('&' : Char).toNat = 38 := rfl
    omega
  · have : ('=' : Char).toNat = 61 := rfl
    omega

/-- A character that opens no escape is its own byte. -/
theorem unquotePlus_cons {c : Char} (hpercent : c ≠ '%') (hplus : c ≠ '+') (rest : List Char) :
    unquotePlus (c :: rest) = UInt8.ofNat c.toNat :: unquotePlus rest := by
  rw [unquotePlus.eq_def]
  split
  · next h => cases h
  · next h => exact absurd (List.cons.inj h).1 hpercent
  · next h => exact absurd (List.cons.inj h).1 hplus
  · next h =>
      obtain ⟨rfl, rfl⟩ := List.cons.inj h
      rfl

/-- **An encoded byte is read back**, whatever follows it. -/
theorem unquotePlus_encodeByte (b : UInt8) (rest : List Char) :
    unquotePlus (encodeByte b ++ rest) = b :: unquotePlus rest := by
  have hb : b.toNat < 256 := b.toNat_lt
  unfold encodeByte
  split_ifs with hspace hfree
  · show UInt8.ofNat 32 :: unquotePlus rest = _
    rw [← hspace, UInt8.ofNat_toNat]
  · have hrange := of_decide_eq_true hfree
    have hchar : (Char.ofNat b.toNat).toNat = b.toNat := toNat_ofNat_of_lt hb
    rw [List.singleton_append, unquotePlus_cons, hchar, UInt8.ofNat_toNat]
    · intro h
      rw [h] at hchar
      have : ('%' : Char).toNat = 37 := rfl
      omega
    · intro h
      rw [h] at hchar
      have : ('+' : Char).toNat = 43 := rfl
      omega
  · show UInt8.ofNat (hexUpperValue (hexUpper (b.toNat / 16)) * 16 + hexUpperValue (hexUpper (b.toNat % 16))) ::
      unquotePlus rest = _
    rw [hexUpperValue_hexUpper (by omega), hexUpperValue_hexUpper (by omega), Nat.div_add_mod', UInt8.ofNat_toNat]

theorem unquotePlus_quotePlus (bytes : Bytes) : unquotePlus (quotePlus bytes) = bytes := by
  induction bytes with
  | nil => rfl
  | cons b bytes ih =>
      rw [quotePlus, List.flatMap_cons, unquotePlus_encodeByte]
      exact congrArg (b :: ·) ih

/-! ## Pairs -/

def encodePair (pair : Bytes × Bytes) : List Char := quotePlus pair.1 ++ '=' :: quotePlus pair.2

/-- `urlencode` of the pairs. -/
def urlencode (pairs : List (Bytes × Bytes)) : List Char := ['&'].intercalate (pairs.map encodePair)

def parsePair (piece : List Char) : Bytes × Bytes :=
  (unquotePlus (piece.takeWhile fun c => c != '='), unquotePlus ((piece.dropWhile fun c => c != '=').drop 1))

def parseQuery (query : List Char) : List (Bytes × Bytes) := (query.splitOn '&').map parsePair

theorem parsePair_encodePair (pair : Bytes × Bytes) : parsePair (encodePair pair) = pair := by
  have hkey : ∀ c ∈ quotePlus pair.1, (c != '=') = true := by
    intro c hc
    refine bne_iff_ne.mpr fun h => ?_
    exact separator_not_mem_quotePlus (Or.inr rfl) pair.1 (h ▸ hc)
  -- the first `=` is the one between the key and the value
  rw [parsePair, encodePair, List.takeWhile_append_of_pos hkey, List.dropWhile_append_of_pos hkey]
  simp [unquotePlus_quotePlus]

theorem separator_not_mem_encodePair (pair : Bytes × Bytes) : '&' ∉ encodePair pair := by
  rw [encodePair, List.mem_append, List.mem_cons]
  rintro (h | h | h)
  · exact separator_not_mem_quotePlus (Or.inl rfl) pair.1 h
  · cases h
  · exact separator_not_mem_quotePlus (Or.inl rfl) pair.2 h

/-- **The pairs are read back from their encoding.** -/
theorem parseQuery_urlencode {pairs : List (Bytes × Bytes)} (h : pairs ≠ []) :
    parseQuery (urlencode pairs) = pairs := by
  rw [parseQuery, urlencode, List.splitOn_intercalate, List.map_map]
  · exact List.map_id'' (fun pair => parsePair_encodePair pair) pairs
  · intro piece hpiece
    obtain ⟨pair, -, rfl⟩ := List.mem_map.mp hpiece
    exact separator_not_mem_encodePair pair
  · exact fun hnil => h (List.map_eq_nil_iff.mp hnil)

/-! ## Texts -/

def utf8 (text : String) : Bytes := text.toByteArray.data.toList

theorem utf8_injective : Function.Injective utf8 := by
  intro s t h
  refine String.toByteArray_inj.mp (ByteArray.ext (Array.toList_inj.mp h))

def textPair (pair : String × String) : Bytes × Bytes := (utf8 pair.1, utf8 pair.2)

theorem textPair_injective : Function.Injective textPair := by
  rintro ⟨k, v⟩ ⟨k', v'⟩ h
  obtain ⟨hk, hv⟩ := Prod.mk.inj h
  exact Prod.ext (utf8_injective hk) (utf8_injective hv)

/-- `urlencode` of pairs of texts. -/
def urlencodeText (pairs : List (String × String)) : String := String.ofList (urlencode (pairs.map textPair))

theorem parseQuery_urlencodeText {pairs : List (String × String)} (h : pairs ≠ []) :
    parseQuery (urlencodeText pairs).toList = pairs.map textPair := by
  rw [urlencodeText, String.toList_ofList, parseQuery_urlencode fun hnil => h (List.map_eq_nil_iff.mp hnil)]

/-- **Different pairs of texts have different encodings.** -/
theorem urlencodeText_injective {pairs pairs' : List (String × String)} (h : pairs ≠ []) (h' : pairs' ≠ [])
    (heq : urlencodeText pairs = urlencodeText pairs') : pairs = pairs' := by
  have hparse := parseQuery_urlencodeText h
  rw [heq, parseQuery_urlencodeText h'] at hparse
  exact (List.map_injective_iff.mpr textPair_injective hparse).symm

end PercentEncoding
end Pmrp
