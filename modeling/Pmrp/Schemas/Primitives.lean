import Mathlib.Data.Rat.Defs
import Mathlib.Data.Finset.Basic
import Mathlib.Data.List.TakeWhile
import Mathlib.Algebra.Order.Ring.Unbundled.Rat
import Pmrp.Lib.Outcome
import Pmrp.Lib.Rounding

/-!
# `Schemas.Primitives` — errors, identifiers, money, times, digests

The value types every schema is built from: `schemas/identifiers.py`, `schemas/numeric.py`,
`schemas/time.py`, `schemas/enums.py` and the hashing half of `schemas/serialization.py`.

- A `Decimal` is its rational value. Every operation that the source leaves to the decimal context takes
  a `DecimalContext` (see `Lib.Rounding`); comparisons and the builtin `min`/`max` are exact.
- A `UTCDateTime` is a count of microseconds since 0001-01-01T00:00Z, the resolution of `datetime`; a
  `timedelta` is a difference of two.
- An identifier and a currency code carry the proof that they passed their validator.
-/

namespace Pmrp

/-- Python's default decimal context: 28 significant digits, `ROUND_HALF_EVEN`, `Emin=-999999`, `Emax=999999`. -/
def defaultContext : DecimalContext := .halfEven 28 (by norm_num) (-999999) 999999 (by norm_num)

/-! ## Errors -/

/-- The exception classes the modelled code raises. Pydantic reports a validator's `ValueError` as a
    `ValidationError`, which is a `ValueError`. -/
inductive ErrorKind
  | typeError
  | keyError
  | valueError
  | overflowError
  | assertionError
  | portfolioProjectionError
  | riskConfigurationError
  | riskInputError
  | duplicateRecordError
  | databaseError
  | storageError
  | unitOfWorkStateError
  | invariantViolationError
  | runtimeError
  | replayOrderingError
  | replayClockError
  | replayEngineError
  | simulationInputError
  | simulationConfigurationError
  | concurrencyConflictError
  | decimalOverflow
  | osError
  | recursionError
  | jsonDecodeError
  | unicodeDecodeError
  | replayManifestLoadError
  | replayDatasetLoadError
  | replayChecksumError
  deriving DecidableEq, Repr

structure PyError where
  kind : ErrorKind
  message : String
  deriving DecidableEq, Repr

/-- What a call returns or raises. -/
abbrev Result := Except PyError

def valueError (message : String) : PyError := ⟨.valueError, message⟩
def portfolioProjectionError (message : String) : PyError := ⟨.portfolioProjectionError, message⟩
def riskConfigurationError (message : String) : PyError := ⟨.riskConfigurationError, message⟩
def riskInputError (message : String) : PyError := ⟨.riskInputError, message⟩

/-- What the persistence layer raises for a record that a unique key refuses. -/
def duplicateRecordError : PyError := ⟨.duplicateRecordError, "database record already exists"⟩

/-- Operations with these exact results raise when one of them overflows: every context in use traps `Overflow`. -/
def DecimalContext.trap (ctx : DecimalContext) (results : List ℚ) : Result Unit :=
  raiseIf (∃ x ∈ results, ctx.overflows x = true) ⟨.decimalOverflow, "decimal.Overflow"⟩

theorem DecimalContext.trap_eq_ok {ctx : DecimalContext} {results : List ℚ} {u : Unit} :
    ctx.trap results = .ok u ↔ ∀ x ∈ results, ctx.overflows x = false := by
  simp only [trap, raiseIf_eq_ok, not_exists, not_and, Bool.not_eq_true]

@[simp] theorem DecimalContext.exact_trap (results : List ℚ) : exact.trap results = .ok () :=
  trap_eq_ok.mpr fun _ _ => rfl

/-! ## Length-bounded strings -/

/-- `Field(min_length=1, max_length=bound)`. -/
def TextWithin (bound : ℕ) (s : String) : Prop := 1 ≤ s.length ∧ s.length ≤ bound

instance (bound : ℕ) (s : String) : Decidable (TextWithin bound s) :=
  inferInstanceAs (Decidable (_ ∧ _))

/-- A literal is the string of its characters, and counting a list is quick. -/
theorem TextWithin.ofList {bound : ℕ} {cs : List Char} (h : 1 ≤ cs.length ∧ cs.length ≤ bound) :
    TextWithin bound (String.ofList cs) := by
  unfold TextWithin; rwa [String.length_ofList]

/-- The length constraints of a text field, each with Pydantic's message. -/
def checkText (field : String) (bound : ℕ) (s : String) : Result Unit := do
  raiseIf (s.length < 1) (valueError s!"{field}: String should have at least 1 character")
  raiseIf (bound < s.length) (valueError s!"{field}: String should have at most {bound} characters")

theorem checkText_eq_ok {field : String} {bound : ℕ} {s : String} {u : Unit} :
    checkText field bound s = .ok u ↔ TextWithin bound s := by
  simp only [checkText, bind_eq_ok, raiseIf_eq_ok, not_lt, exists_const, TextWithin]

def checkOptionalText (field : String) (bound : ℕ) (s : Option String) : Result Unit :=
  s.elim (.ok ()) (checkText field bound)

theorem checkOptionalText_eq_ok {field : String} {bound : ℕ} {s : Option String} {u : Unit} :
    checkOptionalText field bound s = .ok u ↔ ∀ t ∈ s, TextWithin bound t := by
  cases s with
  | none => simp [checkOptionalText]
  | some t => simp [checkOptionalText, checkText_eq_ok]

/-- The message of a numeric field constrained by `ge=0`. -/
def belowZeroError (field : String) : PyError :=
  valueError s!"{field}: Input should be greater than or equal to 0"

/-! ## Characters -/

def inRange (lo hi c : Char) : Bool := decide (lo.toNat ≤ c.toNat ∧ c.toNat ≤ hi.toNat)

/-- `str.isspace` for one character. -/
def isSpace (c : Char) : Bool :=
  inRange '\t' '\r' c || inRange '\x1c' ' ' c || c == '\x85' || c == '\u00a0' || c == '\u1680' ||
    inRange '\u2000' '\u200a' c || c == '\u2028' || c == '\u2029' || c == '\u202f' || c == '\u205f' ||
    c == '\u3000'

/-- `value.strip()` leaves `value` unchanged. -/
def isStripped (value : String) : Bool :=
  !(value.toList.head?.any isSpace) && !(value.toList.getLast?.any isSpace)

/-- What the checks of a required text accept: it is nonempty and without surrounding whitespace. -/
def IsStrippedText (value : String) : Prop := value ≠ "" ∧ isStripped value = true

instance (value : String) : Decidable (IsStrippedText value) := inferInstanceAs (Decidable (_ ∧ _))

/-! ## Identifiers -/

def maxIdentifierLength : ℕ := 128

def isLower (c : Char) : Bool := inRange 'a' 'z' c
def isLowerOrDigit (c : Char) : Bool := isLower c || inRange '0' '9' c

/-- `_[a-z0-9][a-z0-9_-]*`. -/
def matchesIdentifierBody : List Char → Bool
  | '_' :: d :: ds => isLowerOrDigit d && ds.all fun x => isLowerOrDigit x || x == '_' || x == '-'
  | _ => false

/-- `[a-z][a-z0-9]*_[a-z0-9][a-z0-9_-]*` matched against the whole text. The first run cannot contain an
    underscore, so the match is determined. -/
def matchesIdentifierPattern (s : String) : Bool :=
  match s.toList with
  | [] => false
  | c :: cs => isLower c && matchesIdentifierBody (cs.dropWhile isLowerOrDigit)

/-- `CanonicalIdentifier.validate` accepts `value` for a class with this prefix. -/
def IsIdentifier (pre value : String) : Prop :=
  value ≠ "" ∧ value.length ≤ maxIdentifierLength ∧ pre.toList <+: value.toList ∧
    matchesIdentifierPattern value = true

instance (pre value : String) : Decidable (IsIdentifier pre value) :=
  inferInstanceAs (Decidable (_ ∧ _ ∧ _ ∧ _))

/-- A `CanonicalIdentifier` of the class with this prefix. -/
structure Identifier (pre : String) where
  val : String
  valid : IsIdentifier pre val
  deriving DecidableEq

namespace Identifier

variable {pre : String}

theorem ext {i j : Identifier pre} (h : i.val = j.val) : i = j := by
  cases i
  cases j
  cases h
  rfl

theorem val_within (i : Identifier pre) : TextWithin 128 i.val := by
  refine ⟨Nat.one_le_iff_ne_zero.mpr fun h => i.valid.1 (String.length_eq_zero_iff.mp h), i.valid.2.1⟩

/-- The class called on a string: `CanonicalIdentifier.__new__`. -/
def parse (cls pre value : String) : Result (Identifier pre) :=
  if h₁ : value = "" then .error (valueError s!"{cls} must not be empty")
  else if h₂ : ¬value.length ≤ maxIdentifierLength then
    .error (valueError s!"{cls} must be at most {maxIdentifierLength} characters")
  else if h₃ : ¬pre.toList <+: value.toList then
    .error (valueError s!"{cls} must start with '{pre}'")
  else if h₄ : matchesIdentifierPattern value = true then
    .ok ⟨value, h₁, not_not.mp h₂, not_not.mp h₃, h₄⟩
  else .error (valueError s!"{cls} contains unsupported characters")

theorem parse_of_valid (cls : String) {value : String} (h : IsIdentifier pre value) :
    parse cls pre value = .ok ⟨value, h⟩ := by
  obtain ⟨h₁, h₂, h₃, h₄⟩ := h
  rw [parse, dif_neg h₁, dif_neg (not_not.mpr h₂), dif_neg (not_not.mpr h₃), dif_pos h₄]

end Identifier

abbrev EventId := Identifier "evt_"
abbrev CorrelationId := Identifier "corr_"
abbrev AccountId := Identifier "acct_"
abbrev MarketId := Identifier "mkt_"
abbrev OutcomeId := Identifier "out_"
abbrev ContractId := Identifier "ctr_"
abbrev OrderId := Identifier "ord_"
abbrev FillId := Identifier "fill_"
abbrev PositionId := Identifier "pos_"
abbrev StrategyId := Identifier "strat_"
abbrev SignalId := Identifier "sig_"
abbrev IntentId := Identifier "intent_"
abbrev RiskDecisionId := Identifier "risk_"
abbrev SettlementId := Identifier "set_"
abbrev ExchangeId := Identifier "xchg_"
abbrev ReplaySessionId := Identifier "rpl_"
abbrev SimulationSessionId := Identifier "sim_"

/-! ## Currency and money -/

/-- `^[A-Z]{3}$`. -/
def IsCurrency (code : String) : Prop :=
  code.length = 3 ∧ code.toList.all (inRange 'A' 'Z') = true

instance (code : String) : Decidable (IsCurrency code) := inferInstanceAs (Decidable (_ ∧ _))

/-- A currency code that passed `validate_currency`. -/
structure Currency where
  code : String
  valid : IsCurrency code
  deriving DecidableEq

def validateCurrency (value : String) : Result Currency :=
  if h : IsCurrency value then .ok ⟨value, h⟩
  else .error (valueError "currency must be a three-letter uppercase ISO 4217 code")

@[simp] theorem validateCurrency_code (c : Currency) : validateCurrency c.code = .ok c := by
  rw [validateCurrency, dif_pos c.valid]

structure Money where
  amount : ℚ
  currency : Currency
  deriving DecidableEq

def zeroMoney (currency : Currency) : Money := ⟨0, currency⟩

@[simp] theorem zeroMoney_amount (c : Currency) : (zeroMoney c).amount = 0 := rfl
@[simp] theorem zeroMoney_currency (c : Currency) : (zeroMoney c).currency = c := rfl

/-- The amount of an optional `Money`, zero when it is absent. -/
def optionalAmount (m : Option Money) : ℚ := (m.map Money.amount).getD 0

@[simp] theorem optionalAmount_none : optionalAmount none = 0 := rfl
@[simp] theorem optionalAmount_some (m : Money) : optionalAmount (some m) = m.amount := rfl

/-! ## Times -/

abbrev UTCDateTime := ℤ
abbrev Timedelta := ℤ

/-- `datetime.max`: the last microsecond of the year 9999. -/
def maxDatetime : UTCDateTime := 3652059 * 86400000000 - 1

/-- `datetime` can represent it. -/
def IsDatetime (t : UTCDateTime) : Prop := 0 ≤ t ∧ t ≤ maxDatetime

instance (t : UTCDateTime) : Decidable (IsDatetime t) := inferInstanceAs (Decidable (_ ∧ _))

/-- `datetime + timedelta`. -/
def addTimedelta (t : UTCDateTime) (d : Timedelta) : Result UTCDateTime :=
  if IsDatetime (t + d) then .ok (t + d) else .error ⟨.overflowError, "date value out of range"⟩

theorem addTimedelta_eq_ok {t u : UTCDateTime} {d : Timedelta} :
    addTimedelta t d = .ok u ↔ IsDatetime (t + d) ∧ u = t + d := by
  unfold addTimedelta
  split_ifs with h
  · simp [h, eq_comm]
  · simp [h]

/-! ## Enumerations -/

inductive ExchangeName
  | kalshi
  | polymarket
  deriving DecidableEq, Repr

def ExchangeName.value : ExchangeName → String
  | .kalshi => "kalshi"
  | .polymarket => "polymarket"

inductive Side
  | buy
  | sell
  deriving DecidableEq, Repr

inductive LiquidityRole
  | maker
  | taker
  | unknown
  deriving DecidableEq, Repr

inductive MarketStatus
  | discovered
  | open
  | halted
  | closed
  | pendingResolution
  | resolved
  | finalized
  | settled
  | cancelled
  | unknown
  deriving DecidableEq, Repr

inductive OrderType
  | limit
  | market
  deriving DecidableEq, Repr

inductive TimeInForce
  | gtc
  | ioc
  | fok
  | day
  | gtd
  deriving DecidableEq, Repr

inductive RiskDecisionStatus
  | approved
  | rejected
  | error
  deriving DecidableEq, Repr

/-! ## Digests -/

/-- The JSON-compatible values handed to `canonical_sha256`. Mappings are listed in key order, which is
    the order `canonical_json` writes them in. -/
inductive CanonicalData
  | null
  | str (s : String)
  | bool (b : Bool)
  | int (n : ℤ)
  | datetime (t : UTCDateTime)
  | list (xs : List CanonicalData)
  | mapping (entries : List (String × CanonicalData))

def CanonicalData.optionalStr (s : Option String) : CanonicalData := s.elim .null .str

/-- `hashlib.sha256(canonical_json_bytes(value)).hexdigest()`: a function of the value into 64 lowercase
    hexadecimal digits. Nothing else is assumed of it. -/
structure Sha256 where
  hexdigest : CanonicalData → String
  length_hexdigest : ∀ v, (hexdigest v).length = 64
  hex_hexdigest : ∀ v, ((hexdigest v).toList.all fun c => inRange '0' '9' c || inRange 'a' 'f' c) = true

/-- A digest function with one value, for concrete runs in which no two digests are compared. -/
def Sha256.constant : Sha256 where
  hexdigest _ := "0000000000000000000000000000000000000000000000000000000000000000"
  length_hexdigest _ := by decide
  hex_hexdigest _ := by decide

variable (sha : Sha256)

def canonicalSha256 (value : CanonicalData) : String := "sha256:" ++ sha.hexdigest value

/-- `canonical_sha256(value).removeprefix("sha256:")[:32]`. -/
def shortDigest (value : CanonicalData) : String :=
  String.ofList (((canonicalSha256 sha value).toList.drop "sha256:".length).take 32)

theorem toList_shortDigest (value : CanonicalData) :
    (shortDigest sha value).toList = (sha.hexdigest value).toList.take 32 := by
  rw [shortDigest, canonicalSha256, String.toList_ofList, String.toList_append]
  rfl

@[simp] theorem length_shortDigest (value : CanonicalData) : (shortDigest sha value).length = 32 := by
  rw [← String.length_toList, toList_shortDigest, List.length_take, String.length_toList,
    sha.length_hexdigest]
  rfl

/-- `[a-z][a-z0-9]*`: the part of an identifier before its underscore. -/
def isPrefixName (s : String) : Bool :=
  match s.toList with
  | [] => false
  | c :: cs => isLower c && cs.all isLowerOrDigit

/-- A prefix followed by a digest is an identifier. -/
theorem isIdentifier_shortDigest (name : String) (hname : isPrefixName name = true)
    (hlen : name.length ≤ 90) (value : CanonicalData) :
    IsIdentifier (name ++ "_") (name ++ "_" ++ shortDigest sha value) := by
  obtain ⟨c, cs, hc, hlow, hcs⟩ :
      ∃ c cs, name.toList = c :: cs ∧ isLower c = true ∧ cs.all isLowerOrDigit = true := by
    unfold isPrefixName at hname
    cases hn : name.toList with
    | nil => rw [hn] at hname; cases hname
    | cons c cs => rw [hn, Bool.and_eq_true] at hname; exact ⟨c, cs, rfl, hname⟩
  have hlist : (name ++ "_" ++ shortDigest sha value).toList
      = c :: (cs ++ '_' :: (sha.hexdigest value).toList.take 32) := by
    rw [String.toList_append, String.toList_append, hc, toList_shortDigest]
    simp
  -- hexadecimal digits are digits or lower case letters
  have hhex : ∀ x ∈ (sha.hexdigest value).toList.take 32, isLowerOrDigit x = true := by
    intro x hx
    have hdigit := List.all_eq_true.mp (sha.hex_hexdigest value) x (List.mem_of_mem_take hx)
    rcases Bool.or_eq_true_iff.mp hdigit with h | h
    · rw [isLowerOrDigit, h, Bool.or_true]
    · have hfz : 'f'.toNat ≤ 'z'.toNat := by decide
      obtain ⟨h1, h2⟩ := of_decide_eq_true h
      rw [isLowerOrDigit, isLower, inRange, decide_eq_true ⟨h1, h2.trans hfz⟩, Bool.true_or]
  refine ⟨?_, ?_, ?_, ?_⟩
  · intro h; rw [h] at hlist; exact absurd hlist (by simp)
  · have hone : "_".length = 1 := rfl
    rw [String.length_append, String.length_append, length_shortDigest, hone]
    unfold maxIdentifierLength; omega
  · rw [String.toList_append (s := name ++ "_")]; exact List.prefix_append _ _
  -- the prefix ends at its underscore, which is no letter or digit
  · have hdrop : (cs ++ '_' :: (sha.hexdigest value).toList.take 32).dropWhile isLowerOrDigit
        = '_' :: (sha.hexdigest value).toList.take 32 := by
      rw [List.dropWhile_append_of_pos (fun x hx => List.all_eq_true.mp hcs x hx)]
      exact List.dropWhile_cons_of_neg (by decide)
    obtain ⟨d, ds, hd⟩ : ∃ d ds, (sha.hexdigest value).toList.take 32 = d :: ds := by
      refine List.exists_cons_of_length_pos ?_
      rw [List.length_take, String.length_toList, sha.length_hexdigest]; decide
    rw [hd] at hdrop hhex
    have hbody : matchesIdentifierBody ('_' :: d :: ds) = true := by
      rw [matchesIdentifierBody, Bool.and_eq_true, List.all_eq_true]
      refine ⟨hhex d List.mem_cons_self, fun x hx => ?_⟩
      simp [hhex x (List.mem_cons_of_mem d hx)]
    unfold matchesIdentifierPattern
    rw [hlist, hd]
    simp only [hdrop, hlow, hbody, Bool.and_self]

end Pmrp
