import Mathlib.Data.List.GetD
import Pmrp.Lib.Numerals
import Pmrp.Schemas.Parsing

/-!
# `Events.Factory` — identifiers of events

`PrefixedUlidIdentifierGenerator` of `events/factory.py`. The random part is a number that the generator draws.
-/

namespace Pmrp
namespace EventIdentifiers

open Numerals

def crockfordBase32 : List Char :=
  ['0', '1', '2', '3', '4', '5', '6', '7', '8', '9', 'a', 'b', 'c', 'd', 'e', 'f', 'g', 'h', 'j', 'k', 'm', 'n', 'p',
    'q',
    'r', 's', 't', 'v', 'w', 'x', 'y', 'z']

/-- `_CROCKFORD_BASE32[digit]`: what is looked up has five bits. -/
def crockfordDigit (digit : ℕ) : Char := crockfordBase32.getD digit '0'

/-- `range((length - 1) * 5, -1, -5)`. -/
def shifts (length : ℕ) : List ℕ := (List.range length).reverse.map fun i => i * 5

def encodeCrockfordBase32 (value length : ℕ) : String :=
  String.ofList ((shifts length).map fun shift => crockfordDigit ((value >>> shift) &&& 31))

def unixEpoch : UTCDateTime := 719162 * 86400000000

/-- `_timestamp_milliseconds`. -/
def timestampMilliseconds (timestamp : IsoDatetime) : Result ℕ :=
  match timestamp.utcoffset with
  | none => .error (valueError "identifier timestamp must be timezone-aware")
  | some _ => do
      let utc ← timestamp.toUtc
      let timestampMs := (utc - unixEpoch) / 1000
      raiseIf (timestampMs < 0 ∨ 2 ^ 48 ≤ timestampMs)
        (valueError "identifier timestamp is outside ULID timestamp range")
      pure timestampMs.toNat

/-- The suffix of a time in milliseconds. -/
def encodeUlid (timestampMs randomPart : ℕ) : String :=
  encodeCrockfordBase32 (timestampMs <<< 80 ||| randomPart) 26

/-- `_ulid_suffix`. -/
def ulidSuffix (timestamp : IsoDatetime) (randomPart : ℕ) : Result String := do
  pure (encodeUlid (← timestampMilliseconds timestamp) randomPart)

/-- `EventId` of a suffix. -/
def prefixedEventId (suffix : String) : Result EventId := Identifier.parse "EventId" "evt_" ("evt_" ++ suffix)

def eventId (timestamp : IsoDatetime) (randomPart : ℕ) : Result EventId := do
  prefixedEventId (← ulidSuffix timestamp randomPart)

def correlationId (timestamp : IsoDatetime) (randomPart : ℕ) : Result CorrelationId := do
  Identifier.parse "CorrelationId" "corr_" ("corr_" ++ (← ulidSuffix timestamp randomPart))

/-! ## Digits -/

theorem length_crockfordBase32 : crockfordBase32.length = 32 := rfl

/-- The characters are letters and digits of identifiers. -/
theorem isLowerOrDigit_crockfordDigit {digit : ℕ} (h : digit < 32) : isLowerOrDigit (crockfordDigit digit) = true := by
  have hall : (crockfordBase32.all isLowerOrDigit) = true := by decide
  have hmem : crockfordDigit digit ∈ crockfordBase32 := by
    rw [crockfordDigit, List.getD_eq_getElem _ _ (length_crockfordBase32 ▸ h)]
    exact List.getElem_mem _
  exact List.all_eq_true.mp hall _ hmem

/-- They are in the order of their digits. -/
theorem crockfordDigit_lt {d e : ℕ} (hlt : d < e) (he : e < 32) : crockfordDigit d < crockfordDigit e := by
  have hsorted : crockfordBase32.Pairwise (· < ·) := by decide
  rw [crockfordDigit, crockfordDigit, List.getD_eq_getElem _ _ (length_crockfordBase32 ▸ hlt.trans he),
    List.getD_eq_getElem _ _ (length_crockfordBase32 ▸ he)]
  exact List.pairwise_iff_getElem.mp hsorted d e _ _ hlt

/-- Shifting and masking read off the digits in base 32. -/
theorem encodeCrockfordBase32_eq (value length : ℕ) :
    encodeCrockfordBase32 value length = String.ofList ((digits 32 length value).map crockfordDigit) := by
  have hdigit : ∀ i, (value >>> (i * 5)) &&& 31 = value / 32 ^ i % 32 := by
    intro i
    have hpow : (2 : ℕ) ^ (i * 5) = 32 ^ i := by
      rw [mul_comm, pow_mul]
      rfl
    rw [Nat.shiftRight_eq_div_pow, hpow]
    exact Nat.and_two_pow_sub_one_eq_mod _ 5
  have hdigits : (shifts length).map (fun shift => (value >>> shift) &&& 31) = digits 32 length value := by
    induction length with
    | zero => rfl
    | succ length ih =>
        rw [digits, ← ih, ← hdigit, shifts, List.range_succ, List.reverse_append]
        rfl
  unfold encodeCrockfordBase32
  rw [← hdigits, List.map_map]
  rfl

end EventIdentifiers
end Pmrp
