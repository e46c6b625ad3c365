import Mathlib.Data.Fin.Basic
import Mathlib.Data.List.Chain
import Mathlib.Tactic.Common

/-!
# `Lib.JsonTexts` — texts in JSON

A text is a list of code points, surrogates among them. `encodeText` writes it as ASCII and escapes everything else,
and `decodeText` reads it. Two surrogate escapes in a row that make a pair are read as the one character they stand
for, so a text is read back exactly when no high surrogate stands right before a low one in it
(`decodeChars_encodeChars`, `unpaired_of_decodeChars`).
-/

namespace Pmrp

abbrev CodePoint := Fin 0x110000

abbrev Text := List CodePoint

theorem maxCodePoint_pos : 0 < 0x110000 := by decide

def CodePoint.ofNat (point : ℕ) : CodePoint := ⟨point % 0x110000, Nat.mod_lt point maxCodePoint_pos⟩

theorem CodePoint.val_ofNat {point : ℕ} (h : point < 0x110000) : (CodePoint.ofNat point).val = point :=
    Nat.mod_eq_of_lt h

theorem CodePoint.ofNat_val (point : CodePoint) : CodePoint.ofNat point.val = point := Fin.ext (val_ofNat point.isLt)

namespace Json

def IsHigh (point : ℕ) : Prop := 0xD800 ≤ point ∧ point ≤ 0xDBFF

def IsLow (point : ℕ) : Prop := 0xDC00 ≤ point ∧ point ≤ 0xDFFF

instance : DecidablePred IsHigh := fun point => inferInstanceAs (Decidable (0xD800 ≤ point ∧ point ≤ 0xDBFF))

instance : DecidablePred IsLow := fun point => inferInstanceAs (Decidable (0xDC00 ≤ point ∧ point ≤ 0xDFFF))

/-- No high surrogate stands right before a low one. -/
def Unpaired (text : Text) : Prop := text.IsChain fun first second : CodePoint => ¬(IsHigh first ∧ IsLow second)

instance : DecidablePred Unpaired := fun text =>
  inferInstanceAs (Decidable (text.IsChain fun first second : CodePoint => ¬(IsHigh first ∧ IsLow second)))

/-! ## Writing -/

def hexDigits (unit : ℕ) : List Char :=
  [Nat.digitChar (unit / 4096 % 16), Nat.digitChar (unit / 256 % 16), Nat.digitChar (unit / 16 % 16),
    Nat.digitChar (unit % 16)]

def unicodeEscape (unit : ℕ) : List Char := '\\' :: 'u' :: hexDigits unit

/-- The character of a two-character escape. -/
def shortEscape (point : ℕ) : Option Char :=
  if point = 0x22 then some '"'
  else if point = 0x5C then some '\\'
  else if point = 0x0A then some 'n'
  else if point = 0x0D then some 'r'
  else if point = 0x09 then some 't'
  else if point = 0x0C then some 'f'
  else if point = 0x08 then some 'b'
  else none

/-- One code point in ASCII. -/
def escapePoint (point : ℕ) : List Char :=
  match shortEscape point with
  | some c => ['\\', c]
  | none =>
      if 0x20 ≤ point ∧ point ≤ 0x7E then [Char.ofNat point]
      else if point < 0x10000 then unicodeEscape point
      else unicodeEscape (0xD800 + (point - 0x10000) / 1024) ++ unicodeEscape (0xDC00 + (point - 0x10000) % 1024)

/-- The text and its closing quote. -/
def encodeChars (text : Text) : List Char := (text.flatMap fun point : CodePoint => escapePoint point) ++ ['"']

def encodeText (text : Text) : List Char := '"' :: encodeChars text

/-! ## Reading -/

def hexValue (c : Char) : Option ℕ :=
  if '0'.toNat ≤ c.toNat ∧ c.toNat ≤ '9'.toNat then some (c.toNat - '0'.toNat)
  else if 'a'.toNat ≤ c.toNat ∧ c.toNat ≤ 'f'.toNat then some (c.toNat - 'a'.toNat + 10)
  else if 'A'.toNat ≤ c.toNat ∧ c.toNat ≤ 'F'.toNat then some (c.toNat - 'A'.toNat + 10)
  else none

/-- Four hexadecimal digits. -/
def decodeUnit : List Char → Option (ℕ × List Char)
  | a :: b :: c :: d :: rest => do
      let unit := (((← hexValue a) * 16 + (← hexValue b)) * 16 + (← hexValue c)) * 16 + (← hexValue d)
      some (unit, rest)
  | _ => none

/-- A high surrogate with the low one that is escaped right after it. -/
def pairUp (unit : ℕ) (cs : List Char) : Option (ℕ × List Char) :=
  if IsHigh unit then
    match cs with
    | '\\' :: 'u' :: rest => do
        let (low, rest) ← decodeUnit rest
        if IsLow low then some (0x10000 + (unit - 0xD800) * 1024 + (low - 0xDC00), rest) else some (unit, cs)
    | _ => some (unit, cs)
  else some (unit, cs)

/-- The code point of a two-character escape. -/
def unescape (c : Char) : Option ℕ :=
  if c = '"' then some 0x22
  else if c = '\\' then some 0x5C
  else if c = '/' then some 0x2F
  else if c = 'n' then some 0x0A
  else if c = 'r' then some 0x0D
  else if c = 't' then some 0x09
  else if c = 'f' then some 0x0C
  else if c = 'b' then some 0x08
  else none

/-- The code point in front of a text that is read. -/
def consPoint (point : ℕ) (read : Text × List Char) : Text × List Char := (CodePoint.ofNat point :: read.1, read.2)

/-- A text up to its closing quote. A control character has to be escaped. -/
def decodeChars : ℕ → List Char → Option (Text × List Char)
  | 0, _ => none
  | _ + 1, [] => none
  | fuel + 1, c :: cs =>
      if c = '"' then some ([], cs)
      else if c = '\\' then
        match cs with
        | [] => none
        | 'u' :: cs => do
            let (unit, cs) ← decodeUnit cs
            let (point, cs) ← pairUp unit cs
            (decodeChars fuel cs).map (consPoint point)
        | c :: cs => do
            let point ← unescape c
            (decodeChars fuel cs).map (consPoint point)
      else if c.toNat < 0x20 then none
      else (decodeChars fuel cs).map (consPoint c.toNat)

/-- A text without its opening quote. -/
def decodeText (cs : List Char) : Option (Text × List Char) := decodeChars cs.length cs

/-! ## One code point -/

theorem hexValue_digitChar : ∀ digit < 16, hexValue (Nat.digitChar digit) = some digit := by decide

@[simp] theorem decodeUnit_hexDigits {unit : ℕ} (hunit : unit < 0x10000) (rest : List Char) :
    decodeUnit (hexDigits unit ++ rest) = some (unit, rest) := by
  have hdigit : ∀ n, hexValue (Nat.digitChar (n % 16)) = some (n % 16) :=
    fun n => hexValue_digitChar (n % 16) (Nat.mod_lt n (by decide))
  have hdigits : ((unit / 4096 % 16 * 16 + unit / 256 % 16) * 16 + unit / 16 % 16) * 16 + unit % 16 = unit := by omega
  simp only [hexDigits, List.cons_append, List.nil_append, decodeUnit, hdigit, Option.bind_eq_bind, Option.bind_some,
    hdigits]

theorem toNat_ofNat_printable : ∀ point < 0x7F, (Char.ofNat point).toNat = point := by decide

theorem unescape_shortEscape {point : ℕ} {c : Char} (h : shortEscape point = some c) :
    unescape c = some point ∧ c ≠ 'u' := by
  unfold shortEscape at h
  split_ifs at h <;> cases h <;> subst_vars <;> exact ⟨rfl, by decide⟩

/-- A unit stays alone before an escape that is no low surrogate. -/
theorem pairUp_unicodeEscape {unit next : ℕ} (hnext : next < 0x10000) (h : ¬(IsHigh unit ∧ IsLow next))
    (rest : List Char) : pairUp unit (unicodeEscape next ++ rest) = some (unit, unicodeEscape next ++ rest) := by
  unfold pairUp
  split_ifs with hhigh
  · have hlow : ¬IsLow next := fun hlow => h ⟨hhigh, hlow⟩
    simp only [unicodeEscape, List.cons_append, decodeUnit_hexDigits hnext, Option.bind_eq_bind, Option.bind_some,
      if_neg hlow]
  · rfl

theorem pairUp_of_low {high low : ℕ} (hhigh : IsHigh high) (hlow : IsLow low) (rest : List Char) :
    pairUp high (unicodeEscape low ++ rest) = some (0x10000 + (high - 0xD800) * 1024 + (low - 0xDC00), rest) := by
  have hunit : low < 0x10000 := by
    have := hlow.2
    omega
  simp only [pairUp, if_pos hhigh, unicodeEscape, List.cons_append, decodeUnit_hexDigits hunit, Option.bind_eq_bind,
    Option.bind_some, if_pos hlow]

theorem pairUp_of_ne {unit : ℕ} {c : Char} {cs : List Char} (h : c = '\\' → cs.head? ≠ some 'u') :
    pairUp unit (c :: cs) = some (unit, c :: cs) := by
  unfold pairUp
  split_ifs with hhigh
  · split
    · next rest heq =>
        obtain ⟨rfl, rfl⟩ := List.cons.inj heq
        exact absurd rfl (h rfl)
    · rfl
  · rfl

/-- What is escaped after a unit leaves it alone, unless the two are a pair. -/
theorem pairUp_escapePoint {unit next : ℕ} (hnext : next < 0x110000) (h : ¬(IsHigh unit ∧ IsLow next))
    (rest : List Char) : pairUp unit (escapePoint next ++ rest) = some (unit, escapePoint next ++ rest) := by
  unfold escapePoint
  cases hshort : shortEscape next with
  | some c =>
      refine pairUp_of_ne fun _ hu => (unescape_shortEscape hshort).2 ?_
      simpa using hu
  | none =>
      simp only
      split_ifs with hprintable hunit
      · refine pairUp_of_ne fun hc => ?_
        -- a printable backslash has a short escape
        have hpoint : next = 0x5C := by
          rw [← toNat_ofNat_printable next (by omega), hc]
          rfl
        subst hpoint
        cases hshort
      · exact pairUp_unicodeEscape hunit h rest
      · rw [List.append_assoc]
        refine pairUp_unicodeEscape (by omega) ?_ _
        rintro ⟨-, hlow, -⟩
        omega

/-! ## Round trip -/

theorem decodeChars_quote (fuel : ℕ) (rest : List Char) : decodeChars (fuel + 1) ('"' :: rest) = some ([], rest) := rfl

theorem decodeChars_unicodeEscape {unit : ℕ} (hunit : unit < 0x10000) (fuel : ℕ) (rest : List Char) :
    decodeChars (fuel + 1) (unicodeEscape unit ++ rest) =
      (pairUp unit rest).bind fun read => (decodeChars fuel read.2).map (consPoint read.1) := by
  simp only [unicodeEscape, List.cons_append, decodeChars, Char.reduceEq, if_false, if_true, decodeUnit_hexDigits hunit,
    Option.bind_eq_bind, Option.bind_some]

/-- A code point is read back, with nothing after it that it makes a pair with. -/
theorem decodeChars_escapePoint {point : ℕ} (hpoint : point < 0x110000) (fuel : ℕ) {rest : List Char}
    (hrest : pairUp point rest = some (point, rest)) :
    decodeChars (fuel + 1) (escapePoint point ++ rest) = (decodeChars fuel rest).map (consPoint point) := by
  unfold escapePoint
  cases hshort : shortEscape point with
  | some c =>
      -- a two-character escape
      obtain ⟨hread, hu⟩ := unescape_shortEscape hshort
      simp only [List.cons_append, List.nil_append, decodeChars, Char.reduceEq, if_false, if_true]
      rw [hread]
      rfl
  | none =>
      simp only
      split_ifs with hprintable hunit
      -- a printable character stands for itself
      · have hchar := toNat_ofNat_printable point (by omega)
        have hne : ∀ c : Char, shortEscape c.toNat ≠ none → Char.ofNat point ≠ c := by
          rintro c hc rfl
          rw [hchar] at hc
          exact hc hshort
        have hcontrol : ¬point < 0x20 := by omega
        simp only [List.cons_append, List.nil_append, decodeChars, if_neg (hne '"' (by decide)),
          if_neg (hne '\\' (by decide)), hchar, if_neg hcontrol]
      · rw [decodeChars_unicodeEscape hunit, hrest]
        rfl
      -- beyond the basic plane: two escapes that make a pair
      · have hhigh : IsHigh (0xD800 + (point - 0x10000) / 1024) := ⟨by omega, by omega⟩
        have hlow : IsLow (0xDC00 + (point - 0x10000) % 1024) := ⟨by omega, by omega⟩
        have hpair : 0x10000 + (0xD800 + (point - 0x10000) / 1024 - 0xD800) * 1024 +
            (0xDC00 + (point - 0x10000) % 1024 - 0xDC00) = point := by omega
        rw [List.append_assoc, decodeChars_unicodeEscape (by omega), pairUp_of_low hhigh hlow, hpair]
        rfl

theorem pairUp_encodeChars {point : CodePoint} {text : Text} (h : Unpaired (point :: text)) (rest : List Char) :
    pairUp point (encodeChars text ++ rest) = some (point.val, encodeChars text ++ rest) := by
  cases text with
  | nil => exact pairUp_of_ne fun hc => absurd hc (by decide)
  | cons next text =>
      have hnext : ¬(IsHigh point ∧ IsLow next) := (List.isChain_cons_cons.mp h).1
      simp only [encodeChars, List.flatMap_cons, List.append_assoc]
      exact pairUp_escapePoint next.isLt hnext _

/-- **A text without pairs is read back.** -/
theorem decodeChars_encodeChars {text : Text} (h : Unpaired text) (rest : List Char) {fuel : ℕ}
    (hfuel : text.length < fuel) : decodeChars fuel (encodeChars text ++ rest) = some (text, rest) := by
  induction text generalizing fuel with
  | nil =>
      obtain ⟨fuel, rfl⟩ := Nat.exists_eq_add_of_lt hfuel
      exact decodeChars_quote _ rest
  | cons point text ih =>
      obtain ⟨fuel, rfl⟩ : ∃ n, fuel = n + 1 := ⟨fuel - 1, by simp only [List.length_cons] at hfuel; omega⟩
      have htext : text.length < fuel := by
        rw [List.length_cons] at hfuel
        omega
      have hsplit : encodeChars (point :: text) ++ rest = escapePoint point ++ (encodeChars text ++ rest) := by
        simp only [encodeChars, List.flatMap_cons, List.append_assoc]
      -- the next code point makes no pair with this one, so the reader takes them one by one
      rw [hsplit, decodeChars_escapePoint point.isLt fuel (pairUp_encodeChars h rest), ih h.tail htext, Option.map_some,
        consPoint, CodePoint.ofNat_val]

theorem escapePoint_ne_nil (point : ℕ) : escapePoint point ≠ [] := by
  unfold escapePoint
  split
  · exact List.cons_ne_nil _ _
  · split_ifs <;> exact List.cons_ne_nil _ _

theorem length_lt_length_encodeChars (text : Text) : text.length < (encodeChars text).length := by
  induction text with
  | nil => exact Nat.one_pos
  | cons point text ih =>
      have hpoint := List.length_pos_iff.mpr (escapePoint_ne_nil point)
      simp only [encodeChars, List.flatMap_cons, List.length_append, List.length_cons, List.length_nil] at ih ⊢
      omega

theorem decodeText_encodeChars {text : Text} (h : Unpaired text) (rest : List Char) :
    decodeText (encodeChars text ++ rest) = some (text, rest) := by
  refine decodeChars_encodeChars h rest ?_
  have := length_lt_length_encodeChars text
  rw [List.length_append]
  omega

/-! ## What is read has no pairs -/

theorem hexValue_lt {c : Char} {digit : ℕ} (h : hexValue c = some digit) : digit < 16 := by
  have hnine : '9'.toNat = '0'.toNat + 9 := rfl
  have hf : 'f'.toNat = 'a'.toNat + 5 := rfl
  have hF : 'F'.toNat = 'A'.toNat + 5 := rfl
  unfold hexValue at h
  split_ifs at h <;> cases h <;> omega

theorem decodeUnit_lt {cs rest : List Char} {unit : ℕ} (h : decodeUnit cs = some (unit, rest)) : unit < 0x10000 := by
  unfold decodeUnit at h
  split at h
  · simp only [Option.bind_eq_bind, Option.bind_eq_some_iff, Option.some.injEq, Prod.mk.injEq] at h
    obtain ⟨first, hfirst, second, hsecond, third, hthird, fourth, hfourth, rfl, -⟩ := h
    have := hexValue_lt hfirst
    have := hexValue_lt hsecond
    have := hexValue_lt hthird
    have := hexValue_lt hfourth
    omega
  · cases h

/-- The escape of a low surrogate comes first. -/
def StartsLow (cs : List Char) : Prop :=
  ∃ more low after, cs = '\\' :: 'u' :: more ∧ decodeUnit more = some (low, after) ∧ IsLow low

/-- A unit becomes a character beyond the surrogates, or stays what it is where it makes no pair. -/
theorem pairUp_cases {unit point : ℕ} {cs rest : List Char} (h : pairUp unit cs = some (point, rest)) :
    0x10000 ≤ point ∧ point < 0x110000 ∨ point = unit ∧ rest = cs ∧ (IsHigh unit → ¬StartsLow cs) := by
  unfold pairUp at h
  split_ifs at h with hhigh
  · split at h
    · next more =>
        obtain ⟨⟨low, after⟩, hlow, h⟩ := Option.bind_eq_some_iff.mp h
        simp only at h
        split_ifs at h with hislow
        · obtain ⟨rfl, -⟩ := Prod.mk.inj (Option.some.inj h)
          obtain ⟨hlower, hupper⟩ := hhigh
          obtain ⟨hlower', hupper'⟩ := hislow
          exact Or.inl ⟨by omega, by omega⟩
        · cases h
          -- the unit after it is no low surrogate
          refine Or.inr ⟨rfl, rfl, ?_⟩
          rintro - ⟨more', low', after', heq, hlow', hislow'⟩
          cases heq
          rw [hlow] at hlow'
          cases hlow'
          exact hislow hislow'
    · next hshape =>
        cases h
        refine Or.inr ⟨rfl, rfl, ?_⟩
        rintro - ⟨more, low, after, heq, -⟩
        exact hshape more heq
  · cases h
    exact Or.inr ⟨rfl, rfl, fun h => absurd h hhigh⟩

/-- A code point that is no surrogate, or one that was written as an escape. -/
def ReadFrom (point : ℕ) (cs rest : List Char) : Prop :=
  point < 0x110000 ∧ ¬IsHigh point ∧ ¬IsLow point ∨
    ∃ more unit after, cs = '\\' :: 'u' :: more ∧ decodeUnit more = some (unit, after) ∧
      pairUp unit after = some (point, rest)

theorem not_surrogate (c : Char) : c.toNat < 0x110000 ∧ ¬IsHigh c.toNat ∧ ¬IsLow c.toNat := by
  have hvalid : c.toNat < 0xD800 ∨ 0xDFFF < c.toNat ∧ c.toNat < 0x110000 := c.valid
  refine ⟨by omega, ?_, ?_⟩
  · rintro ⟨hlower, hupper⟩
    omega
  · rintro ⟨hlower, hupper⟩
    omega

theorem unescape_not_surrogate {c : Char} {point : ℕ} (h : unescape c = some point) :
    point < 0x110000 ∧ ¬IsHigh point ∧ ¬IsLow point := by
  have hsmall : point < 0x80 := by
    unfold unescape at h
    split_ifs at h <;> cases h <;> decide
  refine ⟨by omega, ?_, ?_⟩
  · rintro ⟨hlower, -⟩
    omega
  · rintro ⟨hlower, -⟩
    omega

theorem decodeChars_cases {fuel : ℕ} {cs rest : List Char} {text : Text}
    (h : decodeChars (fuel + 1) cs = some (text, rest)) :
    text = [] ∨ ∃ point after read, text = CodePoint.ofNat point :: read ∧
      decodeChars fuel after = some (read, rest) ∧ ReadFrom point cs after := by
  cases cs with
  | nil => cases h
  | cons c cs =>
      rw [decodeChars.eq_def] at h
      simp only at h
      split_ifs at h with hquote hescape hcontrol
      · cases h
        exact Or.inl rfl
      · refine Or.inr ?_
        split at h
        · cases h
        · next more =>
            obtain ⟨⟨unit, after⟩, hunit, h⟩ := Option.bind_eq_some_iff.mp h
            obtain ⟨⟨point, after'⟩, hpair, h⟩ := Option.bind_eq_some_iff.mp h
            obtain ⟨⟨read, last⟩, hread, h⟩ := Option.map_eq_some_iff.mp h
            cases h
            exact ⟨point, after', read, rfl, hread, Or.inr ⟨more, unit, after, by rw [hescape], hunit, hpair⟩⟩
        · obtain ⟨point, hpoint, h⟩ := Option.bind_eq_some_iff.mp h
          obtain ⟨⟨read, last⟩, hread, h⟩ := Option.map_eq_some_iff.mp h
          cases h
          exact ⟨point, _, read, rfl, hread, Or.inl (unescape_not_surrogate hpoint)⟩
      · refine Or.inr ?_
        obtain ⟨⟨read, last⟩, hread, h⟩ := Option.map_eq_some_iff.mp h
        cases h
        exact ⟨c.toNat, cs, read, rfl, hread, Or.inl (not_surrogate c)⟩

theorem ReadFrom.lt {point : ℕ} {cs rest : List Char} (h : ReadFrom point cs rest) : point < 0x110000 := by
  rcases h with ⟨hlt, -⟩ | ⟨more, unit, after, -, hunit, hpair⟩
  · exact hlt
  · have hlt := decodeUnit_lt hunit
    rcases pairUp_cases hpair with ⟨-, hlt'⟩ | ⟨rfl, -⟩
    · exact hlt'
    · omega

/-- A low surrogate that is read was escaped. -/
theorem ReadFrom.startsLow {point : ℕ} {cs rest : List Char} (h : ReadFrom point cs rest) (hlow : IsLow point) :
    StartsLow cs := by
  rcases h with ⟨-, -, hnot⟩ | ⟨more, unit, after, hcs, hunit, hpair⟩
  · exact absurd hlow hnot
  · rcases pairUp_cases hpair with ⟨hlower, -⟩ | ⟨rfl, -⟩
    · have := hlow.2
      omega
    · exact ⟨more, point, after, hcs, hunit, hlow⟩

/-- Nothing that makes a pair with a high surrogate comes after it. -/
theorem ReadFrom.not_startsLow {point : ℕ} {cs rest : List Char} (h : ReadFrom point cs rest) (hhigh : IsHigh point) :
    ¬StartsLow rest := by
  rcases h with ⟨-, hnot, -⟩ | ⟨more, unit, after, hcs, hunit, hpair⟩
  · exact absurd hhigh hnot
  · rcases pairUp_cases hpair with ⟨hlower, -⟩ | ⟨rfl, rfl, hstarts⟩
    · have := hhigh.2
      omega
    · exact hstarts hhigh

/-- **A text that is read has no pairs.** -/
theorem unpaired_of_decodeChars {fuel : ℕ} {cs rest : List Char} {text : Text}
    (h : decodeChars fuel cs = some (text, rest)) : Unpaired text := by
  induction fuel generalizing cs text with
  | zero => cases h
  | succ fuel ih =>
      rcases decodeChars_cases h with rfl | ⟨point, after, read, rfl, hread, hfrom⟩
      · exact List.isChain_nil
      · refine List.isChain_cons.mpr ⟨fun next hnext => ?_, ih hread⟩
        rintro ⟨hhigh, hlow⟩
        rw [CodePoint.val_ofNat hfrom.lt] at hhigh
        refine hfrom.not_startsLow hhigh ?_
        -- the next code point is the first one of the rest
        cases fuel with
        | zero => cases hread
        | succ fuel =>
            rcases decodeChars_cases hread with rfl | ⟨point', after', read', rfl, -, hfrom'⟩
            · cases hnext
            · cases hnext
              rw [CodePoint.val_ofNat hfrom'.lt] at hlow
              exact hfrom'.startsLow hlow

theorem unpaired_of_decodeText {cs rest : List Char} {text : Text} (h : decodeText cs = some (text, rest)) :
    Unpaired text := unpaired_of_decodeChars h

end Json
end Pmrp
