import Mathlib.Data.String.Basic
import Pmrp.Events.Factory

/-!
# `Events.Correctness.Ulids` — what an event id says

The suffix of an event id has the digits in base 32 of one number, the time above the random part. The number fits the
digits, so decoding gives it back, and ids are in the order of their numbers.
-/

namespace Pmrp
namespace EventIdentifiers

open Numerals

/-- The digit of a character in Crockford's base 32. -/
def crockfordValue (c : Char) : Option ℕ := crockfordBase32.idxOf? c

/-- The number with these digits. -/
def decodeCrockfordBase32 (text : String) : Option ℕ :=
  text.toList.foldlM (fun number c => (crockfordValue c).map fun digit => number * 32 + digit) 0

theorem crockfordValue_crockfordDigit {digit : ℕ} (h : digit < 32) :
    crockfordValue (crockfordDigit digit) = some digit := by
  have hall : ((List.range 32).all fun d => crockfordValue (crockfordDigit d) == some d) = true := by decide
  exact eq_of_beq (List.all_eq_true.mp hall digit (List.mem_range.mpr h))

/-- Decoding what spells digits reads the digits. -/
theorem foldlM_crockfordDigit {ds : List ℕ} (h : ∀ d ∈ ds, d < 32) (start : ℕ) :
    (ds.map crockfordDigit).foldlM
        (fun number c => (crockfordValue c).map fun digit => number * 32 + digit) start =
      some (ds.foldl (fun number digit => number * 32 + digit) start) := by
  induction ds generalizing start with
  | nil => rfl
  | cons d ds ih =>
      rw [List.forall_mem_cons] at h
      rw [List.map_cons, List.foldlM_cons, crockfordValue_crockfordDigit h.1]
      exact ih h.2 _

theorem decode_encode {value length : ℕ} (h : value < 32 ^ length) :
    decodeCrockfordBase32 (encodeCrockfordBase32 value length) = some value := by
  rw [decodeCrockfordBase32, encodeCrockfordBase32_eq, String.toList_ofList,
    foldlM_crockfordDigit fun d => lt_of_mem_digits (by decide), foldl_digits, Nat.zero_mul, Nat.zero_add,
    Nat.mod_eq_of_lt h]

theorem encode_lt {value other length : ℕ} (hlt : value < other) (h : other < 32 ^ length) :
    encodeCrockfordBase32 value length < encodeCrockfordBase32 other length := by
  rw [String.lt_iff_toList_lt, encodeCrockfordBase32_eq, encodeCrockfordBase32_eq, String.toList_ofList,
    String.toList_ofList]
  refine map_digits_lt (fun d e => crockfordDigit_lt) (by decide) ?_
  rw [Nat.mod_eq_of_lt (hlt.trans h), Nat.mod_eq_of_lt h]
  exact hlt

/-! ## Suffixes -/

variable {timestampMs randomPart timestampMs' randomPart' : ℕ}

/-- The number that a suffix spells. -/
def ulidNumber (timestampMs randomPart : ℕ) : ℕ := timestampMs * 2 ^ 80 + randomPart

theorem encodeUlid_eq (hrandom : randomPart < 2 ^ 80) :
    encodeUlid timestampMs randomPart = encodeCrockfordBase32 (ulidNumber timestampMs randomPart) 26 := by
  rw [encodeUlid, ← Nat.shiftLeft_add_eq_or_of_lt hrandom, Nat.shiftLeft_eq]
  rfl

/-- A 128-bit number fits 26 digits, two bits to spare. -/
theorem ulidNumber_lt (htimestamp : timestampMs < 2 ^ 48) (hrandom : randomPart < 2 ^ 80) :
    ulidNumber timestampMs randomPart < 32 ^ 26 := by
  unfold ulidNumber
  omega

theorem ulidNumber_injective (hrandom : randomPart < 2 ^ 80) (hrandom' : randomPart' < 2 ^ 80)
    (h : ulidNumber timestampMs randomPart = ulidNumber timestampMs' randomPart') :
    timestampMs = timestampMs' ∧ randomPart = randomPart' := by
  unfold ulidNumber at h
  omega

theorem ulidNumber_lt_of_timestamp (hrandom : randomPart < 2 ^ 80) (h : timestampMs < timestampMs') :
    ulidNumber timestampMs randomPart < ulidNumber timestampMs' randomPart' := by
  unfold ulidNumber
  omega

theorem decode_encodeUlid (htimestamp : timestampMs < 2 ^ 48) (hrandom : randomPart < 2 ^ 80) :
    decodeCrockfordBase32 (encodeUlid timestampMs randomPart) = some (ulidNumber timestampMs randomPart) := by
  rw [encodeUlid_eq hrandom]
  exact decode_encode (ulidNumber_lt htimestamp hrandom)

theorem toList_encodeUlid (timestampMs randomPart : ℕ) : (encodeUlid timestampMs randomPart).toList =
    (digits 32 26 (timestampMs <<< 80 ||| randomPart)).map crockfordDigit := by
  rw [encodeUlid, encodeCrockfordBase32_eq, String.toList_ofList]

theorem length_encodeUlid (timestampMs randomPart : ℕ) : (encodeUlid timestampMs randomPart).length = 26 := by
  rw [← String.length_toList, toList_encodeUlid, List.length_map, length_digits]

theorem isLowerOrDigit_encodeUlid {c : Char} (h : c ∈ (encodeUlid timestampMs randomPart).toList) :
    isLowerOrDigit c = true := by
  rw [toList_encodeUlid] at h
  obtain ⟨digit, hdigit, rfl⟩ := List.mem_map.mp h
  exact isLowerOrDigit_crockfordDigit (lt_of_mem_digits (by decide) hdigit)

/-! ## Event ids -/

/-- A suffix makes an identifier with the prefix of events. -/
theorem isIdentifier_encodeUlid (timestampMs randomPart : ℕ) :
    IsIdentifier "evt_" ("evt_" ++ encodeUlid timestampMs randomPart) := by
  have hlist : ("evt_" ++ encodeUlid timestampMs randomPart).toList =
      'e' :: 'v' :: 't' :: '_' :: (encodeUlid timestampMs randomPart).toList := by
    rw [String.toList_append, show "evt_".toList = ['e', 'v', 't', '_'] from rfl]
    rfl
  have hlength : ("evt_" ++ encodeUlid timestampMs randomPart).length = 30 := by
    rw [← String.length_toList, hlist]
    simp only [List.length_cons, String.length_toList, length_encodeUlid]
  refine ⟨?_, ?_, ⟨_, (String.toList_append).symm⟩, ?_⟩
  · intro hempty
    rw [hempty] at hlength
    exact absurd hlength (by decide)
  · rw [hlength]
    decide
  · unfold matchesIdentifierPattern
    rw [hlist]
    show (isLower 'e' && matchesIdentifierBody ('_' :: (encodeUlid timestampMs randomPart).toList)) = true
    cases hsuffix : (encodeUlid timestampMs randomPart).toList with
    | nil =>
        have hempty := length_encodeUlid timestampMs randomPart
        rw [← String.length_toList, hsuffix] at hempty
        exact absurd hempty (by decide)
    | cons d ds =>
        have hall : ∀ c ∈ d :: ds, isLowerOrDigit c = true := by
          intro c hc
          rw [← hsuffix] at hc
          exact isLowerOrDigit_encodeUlid hc
        rw [List.forall_mem_cons] at hall
        have hrest : (ds.all fun x => isLowerOrDigit x || x == '_' || x == '-') = true := by
          refine List.all_eq_true.mpr fun c hc => ?_
          rw [hall.2 c hc]
          rfl
        rw [matchesIdentifierBody, hall.1, hrest]
        rfl

theorem prefixedEventId_eq (timestampMs randomPart : ℕ) : prefixedEventId (encodeUlid timestampMs randomPart) =
    .ok ⟨"evt_" ++ encodeUlid timestampMs randomPart, isIdentifier_encodeUlid timestampMs randomPart⟩ :=
  Identifier.parse_of_valid _ _

/-- A common start decides nothing about the order. -/
theorem append_lt_append_left {start s t : String} (h : s < t) : start ++ s < start ++ t := by
  rw [String.lt_iff_toList_lt] at h ⊢
  rw [String.toList_append, String.toList_append]
  exact List.append_left_lt h

/-- **Event ids encode their inputs**: every pair makes an id, decoding the suffix gives the pair's number back,
    different pairs make different ids, and a smaller time makes a smaller id. -/
theorem event_ids_encode (htimestamp : timestampMs < 2 ^ 48) (hrandom : randomPart < 2 ^ 80) :
    ∃ id, prefixedEventId (encodeUlid timestampMs randomPart) = .ok id ∧
      id.val = "evt_" ++ encodeUlid timestampMs randomPart ∧ (encodeUlid timestampMs randomPart).length = 26 ∧
      decodeCrockfordBase32 (encodeUlid timestampMs randomPart) = some (timestampMs * 2 ^ 80 + randomPart) ∧
      ∀ timestampMs' randomPart' id', timestampMs' < 2 ^ 48 → randomPart' < 2 ^ 80 →
        prefixedEventId (encodeUlid timestampMs' randomPart') = .ok id' →
        (id = id' → timestampMs = timestampMs' ∧ randomPart = randomPart') ∧
        (timestampMs < timestampMs' → id.val < id'.val) := by
  refine ⟨_, prefixedEventId_eq timestampMs randomPart, rfl, length_encodeUlid _ _,
    decode_encodeUlid htimestamp hrandom, ?_⟩
  intro timestampMs' randomPart' id' htimestamp' hrandom' hid'
  rw [prefixedEventId_eq] at hid'
  cases hid'
  constructor
  · intro heq
    have hval := congrArg Identifier.val heq
    have hlists := congrArg String.toList hval
    rw [String.toList_append, String.toList_append] at hlists
    have hsuffix := String.toList_injective (List.append_cancel_left hlists)
    have hnumber := congrArg decodeCrockfordBase32 hsuffix
    rw [decode_encodeUlid htimestamp hrandom, decode_encodeUlid htimestamp' hrandom'] at hnumber
    exact ulidNumber_injective hrandom hrandom' (Option.some.inj hnumber)
  · intro hlt
    refine append_lt_append_left ?_
    rw [encodeUlid_eq hrandom, encodeUlid_eq hrandom']
    exact encode_lt (ulidNumber_lt_of_timestamp hrandom hlt) (ulidNumber_lt htimestamp' hrandom')

theorem event_ids_encode_largest :
    ∃ id, prefixedEventId (encodeUlid (2 ^ 48 - 1) (2 ^ 80 - 1)) = .ok id ∧
      id.val = "evt_" ++ encodeUlid (2 ^ 48 - 1) (2 ^ 80 - 1) := by
  obtain ⟨id, hid, hval, -⟩ := @event_ids_encode (2 ^ 48 - 1) (2 ^ 80 - 1) (by decide) (by decide)
  exact ⟨id, hid, hval⟩

end EventIdentifiers
end Pmrp
