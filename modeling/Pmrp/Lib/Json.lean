import Pmrp.Lib.JsonTexts
import Pmrp.Lib.StableSort
import Mathlib.Data.List.Lex
import Mathlib.Order.Fin.Basic

/-!
# `Lib.Json` — JSON and what it says

`encode` writes a value without whitespace, and `decode` reads JSON with whitespace, numbers and escapes of all kinds.
What is written is read back when no text in it has a surrogate pair (`decode_encode`), and nothing that is read has one
(`unpaired_of_decode`). The members of an object have no order: `Reordered` values are the same but for the order of
members, and `sorted` is one value for all of them (`Reordered.sorted_eq`).

## Contents
- **Values.** `encode`, `decode`, `all` for conditions that hold all the way down, `sorted` and `Reordered`.
- **Numbers.** `decodeScalar_encodeInt`.
- **Round trip.** `decodeValue_encode`, with the rest of the text and the fuel in the statement.
- **The order of members.** `Reordered.all`, `Reordered.sorted_eq`, `sorted_reordered`.
-/

namespace Pmrp

inductive Json
  | null
  | bool (value : Bool)
  | int (value : ℤ)
  | float (text : List Char)
  | str (text : Text)
  | array (items : List Json)
  | object (members : List (Text × Json))

namespace Json

/-! ## Writing -/

def encodeInt (value : ℤ) : List Char := (if value < 0 then ['-'] else []) ++ Nat.toDigits 10 value.natAbs

mutual
def encode : Json → List Char
  | .null => ['n', 'u', 'l', 'l']
  | .bool true => ['t', 'r', 'u', 'e']
  | .bool false => ['f', 'a', 'l', 's', 'e']
  | .int value => encodeInt value
  | .float text => text
  | .str text => encodeText text
  | .array [] => ['[', ']']
  | .array (item :: items) => '[' :: (encode item ++ encodeItems items)
  | .object [] => ['\x7b', '\x7d']
  | .object ((key, value) :: members) => '\x7b' :: (encodeText key ++ ':' :: (encode value ++ encodeMembers members))
/-- The items after the first one, each after its comma, and the closing bracket. -/
def encodeItems : List Json → List Char
  | [] => [']']
  | item :: items => ',' :: (encode item ++ encodeItems items)
def encodeMembers : List (Text × Json) → List Char
  | [] => ['\x7d']
  | (key, value) :: members => ',' :: (encodeText key ++ ':' :: (encode value ++ encodeMembers members))
end

/-! ## Reading -/

def isJsonSpace (c : Char) : Bool := c == ' ' || c == '\t' || c == '\n' || c == '\r'

def skipSpace (cs : List Char) : List Char := cs.dropWhile isJsonSpace

/-- A point and digits, if there are any. -/
def splitFraction : List Char → List Char × List Char
  | '.' :: cs =>
      let places := cs.takeWhile Char.isDigit
      if places = [] then ([], '.' :: cs) else ('.' :: places, cs.drop places.length)
  | cs => ([], cs)

/-- An exponent, if there is one. -/
def splitExponent : List Char → List Char × List Char
  | c :: cs =>
      if c = 'e' ∨ c = 'E' then
        let sign := (cs.take 1).filter fun d => d == '+' || d == '-'
        let digits := (cs.drop sign.length).takeWhile Char.isDigit
        if digits = [] then ([], c :: cs) else (c :: (sign ++ digits), cs.drop (sign.length + digits.length))
      else ([], c :: cs)
  | [] => ([], [])

/-- The most digits that are read as an integer. -/
def digitLimit : ℕ := 4300

/-- A zero, or digits that do not start with one. -/
def wholeDigits (cs : List Char) : List Char :=
  let digits := cs.takeWhile Char.isDigit
  if digits.head? = some '0' then ['0'] else digits

/-- A number without its sign. -/
def decodeUnsigned (negative : Bool) (cs : List Char) : Option (Json × List Char) :=
  let whole := wholeDigits cs
  let fraction := splitFraction (cs.drop whole.length)
  let exponent := splitExponent fraction.2
  if whole = [] then none
  else if fraction.1 = [] ∧ exponent.1 = [] then
    if whole.length ≤ digitLimit then
      let number : ℤ := Nat.ofDigitChars 10 whole 0
      some (.int (if negative then -number else number), exponent.2)
    else none
  else some (.float ((if negative then ['-'] else []) ++ whole ++ fraction.1 ++ exponent.1), exponent.2)

def decodeNumber : List Char → Option (Json × List Char)
  | '-' :: cs => decodeUnsigned true cs
  | cs => decodeUnsigned false cs

def decodeConstant : List Char → Option (Json × List Char)
  | 'N' :: 'a' :: 'N' :: cs => some (.float ['n', 'a', 'n'], cs)
  | 'I' :: 'n' :: 'f' :: 'i' :: 'n' :: 'i' :: 't' :: 'y' :: cs => some (.float ['i', 'n', 'f'], cs)
  | '-' :: 'I' :: 'n' :: 'f' :: 'i' :: 'n' :: 'i' :: 't' :: 'y' :: cs => some (.float ['-', 'i', 'n', 'f'], cs)
  | _ => none

def decodeScalar : List Char → Option (Json × List Char)
  | 'n' :: 'u' :: 'l' :: 'l' :: cs => some (.null, cs)
  | 't' :: 'r' :: 'u' :: 'e' :: cs => some (.bool true, cs)
  | 'f' :: 'a' :: 'l' :: 's' :: 'e' :: cs => some (.bool false, cs)
  | cs => (decodeNumber cs).or (decodeConstant cs)

/-- `members[key] = value`. -/
def setMember (members : List (Text × Json)) (key : Text) (value : Json) : List (Text × Json) :=
  if key ∈ members.map Prod.fst then members.map fun member => if member.1 = key then (key, value) else member
  else members ++ [(key, value)]

/-- The members of which a later one replaces an earlier one with its key. -/
def ofMembers (members : List (Text × Json)) : List (Text × Json) :=
  members.foldl (fun read member => setMember read member.1 member.2) []

mutual
def decodeValue : ℕ → List Char → Option (Json × List Char)
  | 0, _ => none
  | _ + 1, [] => none
  | fuel + 1, c :: cs =>
      if c = '"' then (decodeText cs).map fun read => (.str read.1, read.2)
      else if c = '[' then
        if (skipSpace cs).head? = some ']' then some (.array [], (skipSpace cs).tail)
        else do
          let (item, cs) ← decodeValue fuel (skipSpace cs)
          let (items, cs) ← decodeItems fuel (skipSpace cs)
          some (.array (item :: items), cs)
      else if c = '\x7b' then
        if (skipSpace cs).head? = some '\x7d' then some (.object [], (skipSpace cs).tail)
        else do
          let (member, cs) ← decodeMember fuel (skipSpace cs)
          let (members, cs) ← decodeMembers fuel (skipSpace cs)
          some (.object (ofMembers (member :: members)), cs)
      else decodeScalar (c :: cs)
/-- What follows an item. -/
def decodeItems : ℕ → List Char → Option (List Json × List Char)
  | fuel + 1, ',' :: cs => do
      let (item, cs) ← decodeValue fuel (skipSpace cs)
      let (items, cs) ← decodeItems fuel (skipSpace cs)
      some (item :: items, cs)
  | _ + 1, ']' :: cs => some ([], cs)
  | _, _ => none
def decodeMember : ℕ → List Char → Option ((Text × Json) × List Char)
  | fuel + 1, '"' :: cs => do
      let (key, cs) ← decodeText cs
      match skipSpace cs with
      | ':' :: cs => do
          let (value, cs) ← decodeValue fuel (skipSpace cs)
          some ((key, value), cs)
      | _ => none
  | _, _ => none
def decodeMembers : ℕ → List Char → Option (List (Text × Json) × List Char)
  | fuel + 1, ',' :: cs => do
      let (member, cs) ← decodeMember fuel (skipSpace cs)
      let (members, cs) ← decodeMembers fuel (skipSpace cs)
      some (member :: members, cs)
  | _ + 1, '\x7d' :: cs => some ([], cs)
  | _, _ => none
end

def decode (text : List Char) : Option Json := do
  let (value, rest) ← decodeValue (text.length + 1) (skipSpace text)
  if skipSpace rest = [] then some value else none

/-! ## Values all the way down -/

mutual
/-- It holds of the value and of every value in it. -/
def all (p : Json → Bool) : Json → Bool
  | .array items => p (.array items) && allItems p items
  | .object members => p (.object members) && allMembers p members
  | value => p value
def allItems (p : Json → Bool) : List Json → Bool
  | [] => true
  | item :: items => all p item && allItems p items
def allMembers (p : Json → Bool) : List (Text × Json) → Bool
  | [] => true
  | (_, value) :: members => all p value && allMembers p members
end

/-- No key stands twice. -/
def distinctKeys : Json → Bool
  | .object members => decide (members.map Prod.fst).Nodup
  | _ => true

def shortInts : Json → Bool
  | .int value => decide ((Nat.toDigits 10 value.natAbs).length ≤ digitLimit)
  | _ => true

def noFloats : Json → Bool
  | .float _ => false
  | _ => true

/-- Texts and keys without surrogate pairs. -/
def unpairedTexts : Json → Bool
  | .str text => decide (Unpaired text)
  | .object members => members.all fun member => decide (Unpaired member.1)
  | _ => true

/-- What is written of it says what it is. -/
def readable (value : Json) : Bool := distinctKeys value && shortInts value && noFloats value && unpairedTexts value

mutual
/-- The members of every object in the order of their keys. -/
def sorted : Json → Json
  | .array items => .array (sortedItems items)
  | .object members => .object (sortByKey Prod.fst (sortedMembers members))
  | value => value
def sortedItems : List Json → List Json
  | [] => []
  | item :: items => sorted item :: sortedItems items
def sortedMembers : List (Text × Json) → List (Text × Json)
  | [] => []
  | (key, value) :: members => (key, sorted value) :: sortedMembers members
end

/-- The same but for the order of members, wherever they are. -/
inductive Reordered : Json → Json → Prop
  | refl (value : Json) : Reordered value value
  | trans {a b c : Json} : Reordered a b → Reordered b c → Reordered a c
  | members {members members' : List (Text × Json)} :
      members.Perm members' → Reordered (.object members) (.object members')
  | member {value value' : Json} (front : List (Text × Json)) (key : Text) (back : List (Text × Json)) :
      Reordered value value' →
        Reordered (.object (front ++ (key, value) :: back)) (.object (front ++ (key, value') :: back))
  | item {value value' : Json} (front back : List Json) :
      Reordered value value' → Reordered (.array (front ++ value :: back)) (.array (front ++ value' :: back))

/-! ## Numbers -/

/-- What follows a value in an array or an object, or after the whole text. -/
def Ends (rest : List Char) : Prop := ∀ c ∈ rest.head?, c = ',' ∨ c = ']' ∨ c = '\x7d'

theorem ends_nil : Ends [] := by
  intro c hc
  cases hc

theorem ends_encodeItems (items : List Json) (rest : List Char) : Ends (encodeItems items ++ rest) := by
  intro c hc
  cases items <;> cases hc
  · exact Or.inr (Or.inl rfl)
  · exact Or.inl rfl

theorem ends_encodeMembers (members : List (Text × Json)) (rest : List Char) :
    Ends (encodeMembers members ++ rest) := by
  intro c hc
  cases members <;> cases hc
  · exact Or.inr (Or.inr rfl)
  · exact Or.inl rfl

theorem digitChar_ne_zero : ∀ digit < 10, 0 < digit → Nat.digitChar digit ≠ '0' := by decide

theorem head_toDigits_ne_zero {n : ℕ} (hn : 0 < n) : (Nat.toDigits 10 n).head? ≠ some '0' := by
  induction n using Nat.strong_induction_on with
  | _ n ih =>
      by_cases hsmall : n < 10
      · rw [Nat.toDigits_of_lt_base hsmall]
        intro h
        exact digitChar_ne_zero n hsmall hn (Option.some.inj h)
      · have hbase : 10 ≤ n := not_lt.mp hsmall
        -- the first digit is that of the number without its last digit
        rw [Nat.toDigits_of_base_le (by decide) hbase, List.head?_append_of_ne_nil _ Nat.toDigits_ne_nil]
        exact ih (n / 10) (by omega) (by omega)

theorem isDigit_toDigits (n : ℕ) : ∀ c ∈ Nat.toDigits 10 n, c.isDigit = true :=
  fun _ hc => Nat.isDigit_of_mem_toDigits (by decide) (by decide) hc

theorem Ends.takeWhile_isDigit {rest : List Char} (h : Ends rest) : rest.takeWhile Char.isDigit = [] := by
  cases rest with
  | nil => rfl
  | cons c cs => rcases h c rfl with rfl | rfl | rfl <;> rfl

theorem Ends.splitFraction {rest : List Char} (h : Ends rest) : splitFraction rest = ([], rest) := by
  cases rest with
  | nil => rfl
  | cons c cs => rcases h c rfl with rfl | rfl | rfl <;> rfl

theorem Ends.splitExponent {rest : List Char} (h : Ends rest) : splitExponent rest = ([], rest) := by
  cases rest with
  | nil => rfl
  | cons c cs => rcases h c rfl with rfl | rfl | rfl <;> rfl

theorem wholeDigits_toDigits (n : ℕ) {rest : List Char} (hrest : Ends rest) :
    wholeDigits (Nat.toDigits 10 n ++ rest) = Nat.toDigits 10 n := by
  have htake : (Nat.toDigits 10 n ++ rest).takeWhile Char.isDigit = Nat.toDigits 10 n := by
    rw [List.takeWhile_append_of_pos (isDigit_toDigits n), hrest.takeWhile_isDigit, List.append_nil]
  simp only [wholeDigits, htake]
  split_ifs with hzero
  -- only zero starts with a zero
  · have hn : n = 0 := by
      by_contra hne
      exact head_toDigits_ne_zero (Nat.pos_of_ne_zero hne) hzero
    rw [hn, Nat.toDigits_zero]
  · rfl

theorem decodeUnsigned_toDigits {n : ℕ} (hlimit : (Nat.toDigits 10 n).length ≤ digitLimit) (negative : Bool)
    {rest : List Char} (hrest : Ends rest) :
    decodeUnsigned negative (Nat.toDigits 10 n ++ rest) = some (.int (if negative then -(n : ℤ) else n), rest) := by
  simp only [decodeUnsigned, wholeDigits_toDigits n hrest, List.drop_left, hrest.splitFraction, hrest.splitExponent,
    if_neg (Nat.toDigits_ne_nil (n := n) (b := 10)), true_and, if_true, if_pos hlimit, Nat.ofDigitChars_ten_toDigits]

/-- An integer starts with its sign or a digit. -/
theorem encodeInt_head (value : ℤ) : ∃ c cs, encodeInt value = c :: cs ∧ (c = '-' ∨ c.isDigit = true) := by
  unfold encodeInt
  split_ifs with hsign
  · exact ⟨'-', _, rfl, Or.inl rfl⟩
  · obtain ⟨c, cs, hdigits⟩ := List.exists_cons_of_ne_nil (Nat.toDigits_ne_nil (n := value.natAbs) (b := 10))
    refine ⟨c, cs, hdigits, Or.inr (isDigit_toDigits value.natAbs c ?_)⟩
    rw [hdigits]
    exact List.mem_cons_self

theorem decodeNumber_encodeInt {value : ℤ} (hlimit : (Nat.toDigits 10 value.natAbs).length ≤ digitLimit)
    {rest : List Char} (hrest : Ends rest) : decodeNumber (encodeInt value ++ rest) = some (.int value, rest) := by
  unfold encodeInt
  split_ifs with hsign
  · have hvalue : -(value.natAbs : ℤ) = value := by omega
    show decodeUnsigned true (Nat.toDigits 10 value.natAbs ++ rest) = _
    rw [decodeUnsigned_toDigits hlimit true hrest, if_pos rfl, hvalue]
  · have hvalue : (value.natAbs : ℤ) = value := by omega
    have hunsigned := decodeUnsigned_toDigits hlimit false hrest
    rw [if_neg (by decide), hvalue] at hunsigned
    rw [List.nil_append, decodeNumber]
    · exact hunsigned
    · -- no digit is a minus
      intro cs hcs
      have hmem : '-' ∈ Nat.toDigits 10 value.natAbs := by
        obtain ⟨c, digits, hdigits⟩ := List.exists_cons_of_ne_nil (Nat.toDigits_ne_nil (n := value.natAbs) (b := 10))
        rw [hdigits] at hcs ⊢
        rw [(List.cons.inj hcs).1]
        exact List.mem_cons_self
      exact absurd (isDigit_toDigits _ _ hmem) (by decide)

theorem decodeScalar_encodeInt {value : ℤ} (hlimit : (Nat.toDigits 10 value.natAbs).length ≤ digitLimit)
    {rest : List Char} (hrest : Ends rest) : decodeScalar (encodeInt value ++ rest) = some (.int value, rest) := by
  have hnumber := decodeNumber_encodeInt hlimit hrest
  obtain ⟨c, cs, hhead, hc⟩ := encodeInt_head value
  rw [hhead, List.cons_append] at hnumber ⊢
  have hne : ∀ letter : Char, letter ≠ '-' → letter.isDigit = false →
      ∀ {tail : List Char}, c :: (cs ++ rest) ≠ letter :: tail := by
    rintro letter hminus hdigit tail heq
    obtain ⟨rfl, -⟩ := List.cons.inj heq
    rcases hc with rfl | hc
    · exact hminus rfl
    · rw [hdigit] at hc
      cases hc
  unfold decodeScalar
  split
  · next heq => exact absurd heq (hne 'n' (by decide) (by decide))
  · next heq => exact absurd heq (hne 't' (by decide) (by decide))
  · next heq => exact absurd heq (hne 'f' (by decide) (by decide))
  · rw [hnumber]
    rfl

/-! ## Round trip -/

theorem skipSpace_cons {c : Char} (h : isJsonSpace c = false) (cs : List Char) : skipSpace (c :: cs) = c :: cs := by
  rw [skipSpace, List.dropWhile_cons_of_neg]
  rw [h]
  exact Bool.false_ne_true

theorem setMember_of_notMem {members : List (Text × Json)} {key : Text} (h : key ∉ members.map Prod.fst)
    (value : Json) : setMember members key value = members ++ [(key, value)] := if_neg h

/-- Members with different keys are all kept. -/
theorem ofMembers_eq {members : List (Text × Json)} (h : (members.map Prod.fst).Nodup) :
    ofMembers members = members := by
  have hfold : ∀ (members read : List (Text × Json)), ((read ++ members).map Prod.fst).Nodup →
      members.foldl (fun read member => setMember read member.1 member.2) read = read ++ members := by
    intro members
    induction members with
    | nil => intro read _; rw [List.foldl_nil, List.append_nil]
    | cons member members ih =>
        intro read hread
        have hnew : member.1 ∉ read.map Prod.fst := by
          rw [List.map_append, List.map_cons] at hread
          exact fun hmem => (List.nodup_append.mp hread).2.2 _ hmem _ List.mem_cons_self rfl
        have hsplit : read ++ member :: members = read ++ [member] ++ members := by
          rw [List.append_assoc, List.cons_append, List.nil_append]
        rw [List.foldl_cons, setMember_of_notMem hnew, hsplit]
        rw [hsplit] at hread
        exact ih (read ++ [member]) hread
  exact hfold members [] h

theorem readable_iff {value : Json} : readable value = true ↔
    distinctKeys value = true ∧ shortInts value = true ∧ noFloats value = true ∧ unpairedTexts value = true := by
  simp only [readable, Bool.and_eq_true, and_assoc]

/-- What is written starts neither with whitespace nor with a closing bracket. -/
theorem encode_head {value : Json} (h : noFloats value = true) :
    ∃ c cs, encode value = c :: cs ∧ isJsonSpace c = false ∧ c ≠ ']' := by
  match value, h with
  | .null, _ => exact ⟨'n', _, rfl, rfl, by decide⟩
  | .bool true, _ => exact ⟨'t', _, rfl, rfl, by decide⟩
  | .bool false, _ => exact ⟨'f', _, rfl, rfl, by decide⟩
  | .int number, _ =>
      obtain ⟨c, cs, hhead, hc⟩ := encodeInt_head number
      refine ⟨c, cs, hhead, ?_, ?_⟩
      · rcases hc with rfl | hc
        · rfl
        · refine Bool.eq_false_iff.mpr fun hspace => ?_
          simp only [isJsonSpace, Bool.or_eq_true, beq_iff_eq] at hspace
          rcases hspace with ((rfl | rfl) | rfl) | rfl <;> cases hc
      · rcases hc with rfl | hc
        · decide
        · rintro rfl
          cases hc
  | .str text, _ => exact ⟨'"', _, rfl, rfl, by decide⟩
  | .array [], _ => exact ⟨'[', _, rfl, rfl, by decide⟩
  | .array (_ :: _), _ => exact ⟨'[', _, rfl, rfl, by decide⟩
  | .object [], _ => exact ⟨'\x7b', _, rfl, rfl, by decide⟩
  | .object ((_, _) :: _), _ => exact ⟨'\x7b', _, rfl, rfl, by decide⟩

theorem all_array {p : Json → Bool} {items : List Json} :
    (Json.array items).all p = true ↔ p (.array items) = true ∧ allItems p items = true := Bool.and_eq_true_iff

theorem all_object {p : Json → Bool} {members : List (Text × Json)} :
    (Json.object members).all p = true ↔ p (.object members) = true ∧ allMembers p members = true :=
  Bool.and_eq_true_iff

theorem allItems_cons {p : Json → Bool} {item : Json} {items : List Json} :
    allItems p (item :: items) = true ↔ item.all p = true ∧ allItems p items = true := Bool.and_eq_true_iff

theorem allMembers_cons {p : Json → Bool} {key : Text} {value : Json} {members : List (Text × Json)} :
    allMembers p ((key, value) :: members) = true ↔ value.all p = true ∧ allMembers p members = true :=
  Bool.and_eq_true_iff

theorem all_self {p : Json → Bool} {value : Json} (h : value.all p = true) : p value = true := by
  cases value with
  | array items => exact (all_array.mp h).1
  | object members => exact (all_object.mp h).1
  | _ => exact h

theorem skipSpace_encode {value : Json} (h : value.all readable = true) (rest : List Char) :
    skipSpace (encode value ++ rest) = encode value ++ rest := by
  obtain ⟨c, cs, hhead, hspace, -⟩ := encode_head (readable_iff.mp (all_self h)).2.2.1
  rw [hhead]
  exact skipSpace_cons hspace _

theorem skipSpace_encodeItems (items : List Json) (rest : List Char) :
    skipSpace (encodeItems items ++ rest) = encodeItems items ++ rest := by
  cases items <;> exact skipSpace_cons rfl _

theorem skipSpace_encodeMembers (members : List (Text × Json)) (rest : List Char) :
    skipSpace (encodeMembers members ++ rest) = encodeMembers members ++ rest := by
  cases members <;> exact skipSpace_cons rfl _

theorem exists_fuel {c : Char} {cs : List Char} {fuel : ℕ} (h : (c :: cs).length ≤ fuel) :
    ∃ n, fuel = n + 1 ∧ cs.length ≤ n := by
  rw [List.length_cons] at h
  exact ⟨fuel - 1, by omega, by omega⟩

mutual
/-- What is written of a value is read as the value, whatever comes after it. -/
theorem decodeValue_encode : ∀ value : Json, value.all readable = true → ∀ (fuel : ℕ) (rest : List Char),
    (encode value).length ≤ fuel → Ends rest → decodeValue fuel (encode value ++ rest) = some (value, rest)
  | .null, _, fuel, rest, hfuel, _ => by
      obtain ⟨n, rfl, -⟩ := exists_fuel hfuel
      rfl
  | .bool true, _, fuel, rest, hfuel, _ => by
      obtain ⟨n, rfl, -⟩ := exists_fuel hfuel
      rfl
  | .bool false, _, fuel, rest, hfuel, _ => by
      obtain ⟨n, rfl, -⟩ := exists_fuel hfuel
      rfl
  | .int number, h, fuel, rest, hfuel, hrest => by
      have hlimit := of_decide_eq_true (readable_iff.mp h).2.1
      have hscalar := decodeScalar_encodeInt hlimit hrest
      show decodeValue fuel (encodeInt number ++ rest) = _
      replace hfuel : (encodeInt number).length ≤ fuel := hfuel
      obtain ⟨c, cs, hhead, hc⟩ := encodeInt_head number
      rw [hhead] at hfuel hscalar ⊢
      obtain ⟨n, rfl, -⟩ := exists_fuel hfuel
      -- no text, array or object starts with a minus or a digit
      have hne : ∀ letter : Char, letter ≠ '-' → letter.isDigit = false → c ≠ letter := by
        rintro letter hminus hdigit rfl
        rcases hc with hc | hc
        · exact hminus hc
        · rw [hdigit] at hc
          cases hc
      rw [List.cons_append, decodeValue, if_neg (hne '"' (by decide) rfl), if_neg (hne '[' (by decide) rfl),
        if_neg (hne '\x7b' (by decide) rfl)]
      exact hscalar
  | .float _, h, _, _, _, _ => by cases h
  | .str text, h, fuel, rest, hfuel, _ => by
      have htext : Unpaired text := of_decide_eq_true (readable_iff.mp h).2.2.2
      obtain ⟨n, rfl, -⟩ := exists_fuel hfuel
      show (decodeText (encodeChars text ++ rest)).map _ = _
      rw [decodeText_encodeChars htext]
      rfl
  | .array [], _, fuel, rest, hfuel, _ => by
      obtain ⟨n, rfl, -⟩ := exists_fuel hfuel
      rfl
  | .array (item :: items), h, fuel, rest, hfuel, _ => by
      obtain ⟨-, hall⟩ := all_array.mp h
      obtain ⟨hitem, hitems⟩ := allItems_cons.mp hall
      obtain ⟨n, rfl, hn⟩ := exists_fuel hfuel
      rw [List.length_append] at hn
      -- the array is not empty, so the reader does not stop at a bracket
      have hhead : (encode item ++ (encodeItems items ++ rest)).head? ≠ some ']' := by
        obtain ⟨c, cs, hc, -, hbracket⟩ := encode_head (readable_iff.mp (all_self hitem)).2.2.1
        rw [hc]
        exact fun hsome => hbracket (Option.some.inj hsome)
      show decodeValue (n + 1) ('[' :: (encode item ++ encodeItems items ++ rest)) = _
      rw [List.append_assoc, decodeValue, if_neg (by decide), if_pos rfl, skipSpace_encode hitem, if_neg hhead,
        decodeValue_encode item hitem n _ (by omega) (ends_encodeItems items rest)]
      simp only [Option.bind_eq_bind, Option.bind_some, skipSpace_encodeItems,
        decodeItems_encodeItems items hitems n rest (by omega)]
  | .object [], _, fuel, rest, hfuel, _ => by
      obtain ⟨n, rfl, -⟩ := exists_fuel hfuel
      rfl
  | .object ((key, value) :: members), h, fuel, rest, hfuel, _ => by
      obtain ⟨hself, hall⟩ := all_object.mp h
      obtain ⟨hvalue, hmembers⟩ := allMembers_cons.mp hall
      have hnodup := of_decide_eq_true (readable_iff.mp hself).1
      have hkeys : ∀ member ∈ (key, value) :: members, Unpaired member.1 :=
        fun member hmem => of_decide_eq_true (List.all_eq_true.mp (readable_iff.mp hself).2.2.2 member hmem)
      obtain ⟨n, rfl, hn⟩ := exists_fuel hfuel
      -- the first member has no comma before it
      have hsplit : encode (.object ((key, value) :: members)) ++ rest =
          '\x7b' :: '"' :: (encodeChars key ++ ':' :: (encode value ++ (encodeMembers members ++ rest))) := by
        simp only [encode, encodeText, List.cons_append, List.append_assoc]
      simp only [encodeText, List.length_append, List.length_cons] at hn
      have hmember := decodeMember_encode key value (hkeys _ List.mem_cons_self) hvalue n
          (encodeMembers members ++ rest)
        (by omega) (ends_encodeMembers members rest)
      rw [hsplit, decodeValue, if_neg (by decide), if_neg (by decide), if_pos rfl, skipSpace_cons rfl,
        List.head?_cons, if_neg (fun hclose => absurd (Option.some.inj hclose) (by decide)), hmember]
      simp only [Option.bind_eq_bind, Option.bind_some, skipSpace_encodeMembers,
        decodeMembers_encodeMembers members hmembers (fun member hmem => hkeys member (List.mem_cons_of_mem _ hmem))
          n rest (by omega), ofMembers_eq hnodup]
/-- The items after the first one. -/
theorem decodeItems_encodeItems : ∀ items : List Json, allItems readable items = true → ∀ (fuel : ℕ) (rest : List Char),
    (encodeItems items).length ≤ fuel → decodeItems fuel (encodeItems items ++ rest) = some (items, rest)
  | [], _, fuel, rest, hfuel => by
      obtain ⟨n, rfl, -⟩ := exists_fuel hfuel
      rfl
  | item :: items, h, fuel, rest, hfuel => by
      obtain ⟨hitem, hitems⟩ := allItems_cons.mp h
      obtain ⟨n, rfl, hn⟩ := exists_fuel hfuel
      rw [List.length_append] at hn
      show decodeItems (n + 1) (',' :: (encode item ++ encodeItems items ++ rest)) = _
      rw [List.append_assoc, decodeItems, skipSpace_encode hitem,
        decodeValue_encode item hitem n _ (by omega) (ends_encodeItems items rest)]
      simp only [Option.bind_eq_bind, Option.bind_some, skipSpace_encodeItems,
        decodeItems_encodeItems items hitems n rest (by omega)]
theorem decodeMember_encode : ∀ (key : Text) (value : Json), Unpaired key → value.all readable = true →
    ∀ (fuel : ℕ) (rest : List Char), (encodeChars key).length + (encode value).length + 2 ≤ fuel → Ends rest →
      decodeMember fuel ('"' :: (encodeChars key ++ ':' :: (encode value ++ rest))) = some ((key, value), rest)
  | key, value, hkey, hvalue, fuel + 1, rest, hfuel, hrest => by
      rw [decodeMember, decodeText_encodeChars hkey]
      simp only [Option.bind_eq_bind, Option.bind_some, skipSpace_cons (c := ':') rfl, skipSpace_encode hvalue,
        decodeValue_encode value hvalue fuel rest (by omega) hrest]
theorem decodeMembers_encodeMembers : ∀ (members : List (Text × Json)), allMembers readable members = true →
    (∀ member ∈ members, Unpaired member.1) → ∀ (fuel : ℕ) (rest : List Char),
      (encodeMembers members).length ≤ fuel →
        decodeMembers fuel (encodeMembers members ++ rest) = some (members, rest)
  | [], _, _, fuel, rest, hfuel => by
      obtain ⟨n, rfl, -⟩ := exists_fuel hfuel
      rfl
  | (key, value) :: members, h, hkeys, fuel, rest, hfuel => by
      obtain ⟨hvalue, hmembers⟩ := allMembers_cons.mp h
      obtain ⟨n, rfl, hn⟩ := exists_fuel hfuel
      have hsplit : encodeMembers ((key, value) :: members) ++ rest =
          ',' :: '"' :: (encodeChars key ++ ':' :: (encode value ++ (encodeMembers members ++ rest))) := by
        simp only [encodeMembers, encodeText, List.cons_append, List.append_assoc]
      simp only [encodeText, List.length_append, List.length_cons] at hn
      have hmember := decodeMember_encode key value (hkeys _ List.mem_cons_self) hvalue n
          (encodeMembers members ++ rest)
        (by omega) (ends_encodeMembers members rest)
      rw [hsplit, decodeMembers, skipSpace_cons rfl, hmember]
      simp only [Option.bind_eq_bind, Option.bind_some, skipSpace_encodeMembers,
        decodeMembers_encodeMembers members hmembers (fun member hmem => hkeys member (List.mem_cons_of_mem _ hmem))
          n rest (by omega)]
end

/-- **What is written is read back.** -/
theorem decode_encode {value : Json} (h : value.all readable = true) : decode (encode value) = some value := by
  -- the text is as long as its fuel
  have hvalue := decodeValue_encode value h _ [] (Nat.le_succ (encode value).length) ends_nil
  have hskip := skipSpace_encode h []
  rw [List.append_nil] at hvalue hskip
  simp only [decode, hskip, Nat.add_one, hvalue, Option.bind_eq_bind, Option.bind_some]
  rfl

mutual
/-- Two conditions that hold all the way down give a third one. -/
theorem all_of_all {p q r : Json → Bool} (hr : ∀ value, p value = true → q value = true → r value = true) :
    ∀ value : Json, value.all p = true → value.all q = true → value.all r = true
  | .null, hp, hq | .bool _, hp, hq | .int _, hp, hq | .float _, hp, hq | .str _, hp, hq => hr _ hp hq
  | .array items, hp, hq =>
      all_array.mpr
        ⟨hr _ (all_self hp) (all_self hq), allItems_of_all hr items (all_array.mp hp).2 (all_array.mp hq).2⟩
  | .object members, hp, hq =>
      all_object.mpr
        ⟨hr _ (all_self hp) (all_self hq), allMembers_of_all hr members (all_object.mp hp).2 (all_object.mp hq).2⟩
theorem allItems_of_all {p q r : Json → Bool} (hr : ∀ value, p value = true → q value = true → r value = true) :
    ∀ items : List Json, allItems p items = true → allItems q items = true → allItems r items = true
  | [], _, _ => rfl
  | item :: items, hp, hq => by
      obtain ⟨hp, hps⟩ := allItems_cons.mp hp
      obtain ⟨hq, hqs⟩ := allItems_cons.mp hq
      exact allItems_cons.mpr ⟨all_of_all hr item hp hq, allItems_of_all hr items hps hqs⟩
theorem allMembers_of_all {p q r : Json → Bool} (hr : ∀ value, p value = true → q value = true → r value = true) :
    ∀ members : List (Text × Json), allMembers p members = true → allMembers q members = true →
      allMembers r members = true
  | [], _, _ => rfl
  | (_, value) :: members, hp, hq => by
      obtain ⟨hp, hps⟩ := allMembers_cons.mp hp
      obtain ⟨hq, hqs⟩ := allMembers_cons.mp hq
      exact allMembers_cons.mpr ⟨all_of_all hr value hp hq, allMembers_of_all hr members hps hqs⟩
end

/-! ## The order of members -/

theorem allItems_iff {p : Json → Bool} {items : List Json} :
    allItems p items = true ↔ ∀ item ∈ items, item.all p = true := by
  induction items with
  | nil => exact iff_of_true rfl (List.forall_mem_nil _)
  | cons item items ih => rw [allItems_cons, ih, List.forall_mem_cons]

theorem allMembers_iff {p : Json → Bool} {members : List (Text × Json)} :
    allMembers p members = true ↔ ∀ member ∈ members, member.2.all p = true := by
  induction members with
  | nil => exact iff_of_true rfl (List.forall_mem_nil _)
  | cons member members ih => rw [allMembers_cons, ih, List.forall_mem_cons]

theorem sortedItems_eq (items : List Json) : sortedItems items = items.map sorted := by
  induction items with
  | nil => rfl
  | cons item items ih => rw [sortedItems, ih, List.map_cons]

theorem sortedMembers_eq (members : List (Text × Json)) :
    sortedMembers members = members.map fun member => (member.1, sorted member.2) := by
  induction members with
  | nil => rfl
  | cons member members ih => rw [sortedMembers, ih, List.map_cons]

@[simp] theorem keys_sortedMembers (members : List (Text × Json)) :
    (sortedMembers members).map Prod.fst = members.map Prod.fst := by
  rw [sortedMembers_eq, List.map_map]
  rfl

theorem tiesEqual_of_nodup {members : List (Text × Json)} (h : (members.map Prod.fst).Nodup) :
    TiesEqual Prod.fst members :=
  fun _ ha _ hb hkey => List.inj_on_of_nodup_map h ha hb hkey

/-- A key's own order is all that a permutation of members can change. -/
theorem sorted_object_eq_of_perm {members members' : List (Text × Json)} (h : members.Perm members')
    (hkeys : (members.map Prod.fst).Nodup) : sorted (.object members) = sorted (.object members') := by
  have hsorted : (sortedMembers members').Perm (sortedMembers members) := by
    rw [sortedMembers_eq, sortedMembers_eq]
    exact (h.map _).symm
  have hties : TiesEqual Prod.fst (sortedMembers members) := by
    refine tiesEqual_of_nodup ?_
    rw [keys_sortedMembers]
    exact hkeys
  rw [sorted, sorted, sortByKey_eq_of_perm hties hsorted]

/-- A condition on one value that looks at the keys of an object only, and not at their order. -/
structure OnKeys (p : Json → Bool) : Prop where
  array : ∀ items, p (.array items) = true
  object : ∀ {members members' : List (Text × Json)}, (members.map Prod.fst).Perm (members'.map Prod.fst) →
    p (.object members) = true → p (.object members') = true

theorem onKeys_distinctKeys : OnKeys distinctKeys where
  array _ := rfl
  object hperm h := decide_eq_true (hperm.nodup_iff.mp (of_decide_eq_true h))

theorem onKeys_shortInts : OnKeys shortInts := ⟨fun _ => rfl, fun _ _ => rfl⟩

theorem unpairedTexts_object {members : List (Text × Json)} :
    unpairedTexts (.object members) = true ↔ ∀ key ∈ members.map Prod.fst, Unpaired key := by
  simp only [unpairedTexts, decide_eq_true_eq, List.all_eq_true, List.forall_mem_map]

theorem onKeys_unpairedTexts : OnKeys unpairedTexts where
  array _ := rfl
  object hperm h := unpairedTexts_object.mpr fun key hkey => unpairedTexts_object.mp h key (hperm.mem_iff.mpr hkey)

theorem onKeys_readable : OnKeys readable where
  array _ := rfl
  object hperm h := by
    obtain ⟨hdistinct, hints, hfloats, htexts⟩ := readable_iff.mp h
    exact readable_iff.mpr
      ⟨onKeys_distinctKeys.object hperm hdistinct, hints, hfloats, onKeys_unpairedTexts.object hperm htexts⟩

theorem forall_mem_replace {α : Type} {P : α → Prop} {front back : List α} {a a' : α}
    (h : ∀ x ∈ front ++ a :: back, P x) (ha : P a → P a') : ∀ x ∈ front ++ a' :: back, P x := by
  obtain ⟨hfront, hrest⟩ := List.forall_mem_append.mp h
  obtain ⟨hself, hback⟩ := List.forall_mem_cons.mp hrest
  exact List.forall_mem_append.mpr ⟨hfront, List.forall_mem_cons.mpr ⟨ha hself, hback⟩⟩

/-- What holds all the way down still holds when members are reordered. -/
theorem Reordered.all {p : Json → Bool} (hp : OnKeys p) {a b : Json} (h : Reordered a b) (ha : a.all p = true) :
    b.all p = true := by
  induction h with
  | refl => exact ha
  | trans _ _ ihab ihbc => exact ihbc (ihab ha)
  | members hperm =>
      obtain ⟨hself, hall⟩ := all_object.mp ha
      refine all_object.mpr ⟨hp.object (hperm.map Prod.fst) hself, allMembers_iff.mpr fun member hmember => ?_⟩
      exact allMembers_iff.mp hall member (hperm.mem_iff.mpr hmember)
  | member front key back _ ih =>
      obtain ⟨hself, hall⟩ := all_object.mp ha
      refine all_object.mpr ⟨hp.object ?_ hself, allMembers_iff.mpr (forall_mem_replace (allMembers_iff.mp hall) ih)⟩
      rw [List.map_append, List.map_append, List.map_cons, List.map_cons]
  | item front back _ ih =>
      have hitems := allItems_iff.mp (all_array.mp ha).2
      exact all_array.mpr ⟨hp.array _, allItems_iff.mpr (forall_mem_replace hitems ih)⟩

theorem Reordered.symm {a b : Json} (h : Reordered a b) : Reordered b a := by
  induction h with
  | refl value => exact .refl value
  | trans _ _ ihab ihbc => exact ihbc.trans ihab
  | members hperm => exact .members hperm.symm
  | member front key back _ ih => exact .member front key back ih
  | item front back _ ih => exact .item front back ih

/-- **Reordered values have one sorted form.** -/
theorem Reordered.sorted_eq {a b : Json} (h : Reordered a b) (hkeys : a.all distinctKeys = true) :
    a.sorted = b.sorted := by
  induction h with
  | refl => rfl
  | trans hab _ ihab ihbc => exact (ihab hkeys).trans (ihbc (hab.all onKeys_distinctKeys hkeys))
  | members hperm => exact sorted_object_eq_of_perm hperm (of_decide_eq_true (all_object.mp hkeys).1)
  | member front key back _ ih =>
      have hvalue := ih (allMembers_iff.mp (all_object.mp hkeys).2 _ (List.mem_append_right _ List.mem_cons_self))
      simp only [sorted, sortedMembers_eq, List.map_append, List.map_cons, hvalue]
  | item front back _ ih =>
      have hvalue := ih (allItems_iff.mp (all_array.mp hkeys).2 _ (List.mem_append_right _ List.mem_cons_self))
      simp only [sorted, sortedItems_eq, List.map_append, List.map_cons, hvalue]

mutual
/-- Sorting only reorders. -/
theorem sorted_reordered : ∀ value : Json, Reordered value.sorted value
  | .null | .bool _ | .int _ | .float _ | .str _ => Reordered.refl _
  | .array items => sortedItems_reordered [] items
  | .object members =>
      (Reordered.members (sortByKey_perm Prod.fst (sortedMembers members))).trans (sortedMembers_reordered [] members)
theorem sortedItems_reordered : ∀ front items : List Json,
    Reordered (.array (front ++ sortedItems items)) (.array (front ++ items))
  | front, [] => Reordered.refl _
  | front, item :: items => by
      refine (Reordered.item front (sortedItems items) (sorted_reordered item)).trans ?_
      have hitems := sortedItems_reordered (front ++ [item]) items
      rw [List.append_assoc, List.append_assoc] at hitems
      exact hitems
theorem sortedMembers_reordered : ∀ front members : List (Text × Json),
    Reordered (.object (front ++ sortedMembers members)) (.object (front ++ members))
  | front, [] => Reordered.refl _
  | front, (key, value) :: members => by
      refine (Reordered.member front key (sortedMembers members) (sorted_reordered value)).trans ?_
      have hmembers := sortedMembers_reordered (front ++ [(key, value)]) members
      rw [List.append_assoc, List.append_assoc] at hmembers
      exact hmembers
end

/-- **What is written of the sorted value is read as the value, but for the order of members.** -/
theorem decode_encode_sorted {value : Json} (h : value.all readable = true) :
    ∃ read, decode (encode value.sorted) = some read ∧ Reordered read value :=
  ⟨value.sorted, decode_encode ((sorted_reordered value).symm.all onKeys_readable h), sorted_reordered value⟩

/-! ## What is read has no pairs -/

theorem mem_setMember {members : List (Text × Json)} {key : Text} {value : Json} {member : Text × Json}
    (h : member ∈ setMember members key value) : member ∈ members ∨ member = (key, value) := by
  unfold setMember at h
  split_ifs at h with hkey
  · obtain ⟨old, hold, rfl⟩ := List.mem_map.mp h
    split_ifs with hsame
    · exact Or.inr rfl
    · exact Or.inl hold
  · rcases List.mem_append.mp h with hold | hnew
    · exact Or.inl hold
    · exact Or.inr (List.mem_singleton.mp hnew)

theorem mem_ofMembers {members : List (Text × Json)} {member : Text × Json} (h : member ∈ ofMembers members) :
    member ∈ members := by
  have hfold : ∀ members read : List (Text × Json),
      member ∈ members.foldl (fun read member => setMember read member.1 member.2) read →
        member ∈ read ∨ member ∈ members := by
    intro members
    induction members with
    | nil => exact fun read hread => Or.inl hread
    | cons first members ih =>
        intro read hread
        rcases ih _ hread with hset | hrest
        · rcases mem_setMember hset with hold | rfl
          · exact Or.inl hold
          · exact Or.inr List.mem_cons_self
        · exact Or.inr (List.mem_cons_of_mem _ hrest)
  rcases hfold members [] h with hnil | hmem
  · cases hnil
  · exact hmem

theorem unpaired_of_decodeUnsigned {negative : Bool} {cs rest : List Char} {value : Json}
    (h : decodeUnsigned negative cs = some (value, rest)) : value.all unpairedTexts = true := by
  simp only [decodeUnsigned] at h
  split_ifs at h <;> cases h <;> rfl

theorem unpaired_of_decodeScalar {cs rest : List Char} {value : Json} (h : decodeScalar cs = some (value, rest)) :
    value.all unpairedTexts = true := by
  unfold decodeScalar at h
  split at h
  · cases h; rfl
  · cases h; rfl
  · cases h; rfl
  · rcases Option.or_eq_some_iff.mp h with hnumber | ⟨-, hconstant⟩
    · unfold decodeNumber at hnumber
      split at hnumber <;> exact unpaired_of_decodeUnsigned hnumber
    · unfold decodeConstant at hconstant
      split at hconstant <;> cases hconstant <;> rfl

/-- A member whose key and value have no pairs. -/
def UnpairedMember (member : Text × Json) : Prop := Unpaired member.1 ∧ member.2.all unpairedTexts = true

theorem all_unpaired_object {members : List (Text × Json)} :
    (Json.object members).all unpairedTexts = true ↔ ∀ member ∈ members, UnpairedMember member := by
  rw [all_object, unpairedTexts_object, allMembers_iff, List.forall_mem_map, ← forall₂_and]
  rfl

/-- What the four readers read with this much fuel has no pairs. -/
structure ReadsUnpaired (fuel : ℕ) : Prop where
  value : ∀ {cs rest value}, decodeValue fuel cs = some (value, rest) → value.all unpairedTexts = true
  items : ∀ {cs rest items}, decodeItems fuel cs = some (items, rest) → allItems unpairedTexts items = true
  member : ∀ {cs rest member}, decodeMember fuel cs = some (member, rest) → UnpairedMember member
  members : ∀ {cs rest members}, decodeMembers fuel cs = some (members, rest) →
    ∀ member ∈ members, UnpairedMember member

theorem readsUnpaired_zero : ReadsUnpaired 0 where
  value h := by cases h
  items h := by cases h
  member h := by cases h
  members h := by cases h

theorem readsUnpaired_succ {fuel : ℕ} (ih : ReadsUnpaired fuel) : ReadsUnpaired (fuel + 1) where
  value {cs rest value} h := by
    cases cs with
    | nil => cases h
    | cons c cs =>
        rw [decodeValue] at h
        split_ifs at h
        · obtain ⟨⟨text, after⟩, htext, h⟩ := Option.map_eq_some_iff.mp h
          cases h
          exact decide_eq_true (unpaired_of_decodeText htext)
        · cases h
          rfl
        · obtain ⟨⟨item, after⟩, hitem, h⟩ := Option.bind_eq_some_iff.mp h
          obtain ⟨⟨items, after'⟩, hitems, h⟩ := Option.bind_eq_some_iff.mp h
          cases h
          exact all_array.mpr ⟨rfl, allItems_cons.mpr ⟨ih.value hitem, ih.items hitems⟩⟩
        · cases h
          rfl
        · obtain ⟨⟨member, after⟩, hmember, h⟩ := Option.bind_eq_some_iff.mp h
          obtain ⟨⟨members, after'⟩, hmembers, h⟩ := Option.bind_eq_some_iff.mp h
          cases h
          -- a later member replaces an earlier one, and no other member appears
          refine all_unpaired_object.mpr fun read hread => ?_
          exact List.forall_mem_cons.mpr ⟨ih.member hmember, ih.members hmembers⟩ read (mem_ofMembers hread)
        · exact unpaired_of_decodeScalar h
  items {cs rest items} h := by
    rw [decodeItems.eq_def] at h
    split at h
    · next hfuel =>
        obtain rfl := Nat.succ.inj hfuel
        obtain ⟨⟨item, after⟩, hitem, h⟩ := Option.bind_eq_some_iff.mp h
        obtain ⟨⟨items, after'⟩, hitems, h⟩ := Option.bind_eq_some_iff.mp h
        cases h
        exact allItems_cons.mpr ⟨ih.value hitem, ih.items hitems⟩
    · cases h
      rfl
    · cases h
  member {cs rest member} h := by
    rw [decodeMember.eq_def] at h
    split at h
    · next hfuel =>
        obtain rfl := Nat.succ.inj hfuel
        obtain ⟨⟨key, after⟩, hkey, h⟩ := Option.bind_eq_some_iff.mp h
        simp only at h
        split at h
        · obtain ⟨⟨value, after'⟩, hvalue, h⟩ := Option.bind_eq_some_iff.mp h
          cases h
          exact ⟨unpaired_of_decodeText hkey, ih.value hvalue⟩
        · cases h
    · cases h
  members {cs rest members} h := by
    rw [decodeMembers.eq_def] at h
    split at h
    · next hfuel =>
        obtain rfl := Nat.succ.inj hfuel
        obtain ⟨⟨member, after⟩, hmember, h⟩ := Option.bind_eq_some_iff.mp h
        obtain ⟨⟨members, after'⟩, hmembers, h⟩ := Option.bind_eq_some_iff.mp h
        cases h
        exact List.forall_mem_cons.mpr ⟨ih.member hmember, ih.members hmembers⟩
    · cases h
      exact List.forall_mem_nil _
    · cases h

/-- **No text that is read has a pair in it.** -/
theorem unpaired_of_decode {text : List Char} {value : Json} (h : decode text = some value) :
    value.all unpairedTexts = true := by
  -- by induction on the fuel, all four readers at once
  have hreads : ∀ fuel, ReadsUnpaired fuel := fun fuel => fuel.rec readsUnpaired_zero fun _ => readsUnpaired_succ
  obtain ⟨⟨read, rest⟩, hread, h⟩ := Option.bind_eq_some_iff.mp h
  simp only at h
  split_ifs at h
  cases h
  exact (hreads _).value hread

end Json
end Pmrp
