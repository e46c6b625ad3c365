import Pmrp.Lib.DecimalText
import Pmrp.Lib.Json
import Pmrp.Schemas.Parsing

/-!
# `Schemas.Freezing` — frozen values and canonical JSON

`schemas/immutability.py` and `canonical_json` of `schemas/serialization.py`. A `PyValue` is what the two tell apart of
a Python object. A mapping is the list of its items in the order of insertion, so filling a dict item by item keeps the
list. A canonical model is its `model_dump`, an enumeration has a scalar value, and `datetime.isoformat` is a parameter.
-/

namespace Pmrp
namespace Freezing

/-! ## Values -/

/-- A key that is a `str`, an instance of a subclass of it, or something else. -/
inductive Key
  | str (text : Text)
  | strSubclass (text : Text)
  | other (typeName : String)
  deriving DecidableEq

/-- The text of a key that is an instance of `str`. -/
def Key.text : Key → Option Text
  | .str text | .strSubclass text => some text
  | .other _ => none

inductive MappingKind
  | dict
  | mappingProxy
  | other
  deriving DecidableEq

inductive SequenceKind
  | list
  | tuple
  | other
  deriving DecidableEq

inductive Scalar
  | none
  | bool (value : Bool)
  | int (value : ℤ)
  | str (text : Text)

inductive PyValue
  | scalar (value : Scalar)
  | float
  | bytes (typeName : String)
  | decimal (value : Decimal)
  | nonFiniteDecimal
  | datetime (value : IsoDatetime)
  | enumeration (value : Scalar)
  | model (dump : List (Key × PyValue))
  | mapping (kind : MappingKind) (items : List (Key × PyValue))
  | sequence (kind : SequenceKind) (items : List PyValue)
  | set
  | other (typeName : String)

/-- No key stands twice. Instances of `str` with one text are one key. -/
def DistinctItems (items : List (Key × PyValue)) : Prop := (items.filterMap fun item => item.1.text).Nodup

mutual
/-- The keys of each mapping in the value are distinct, as those of a dict are. -/
def PyValue.DistinctKeys : PyValue → Prop
  | .model dump => DistinctItems dump ∧ distinctKeysOfItems dump
  | .mapping _ items => DistinctItems items ∧ distinctKeysOfItems items
  | .sequence _ items => distinctKeysOfAll items
  | _ => True
def distinctKeysOfItems : List (Key × PyValue) → Prop
  | [] => True
  | (_, value) :: items => value.DistinctKeys ∧ distinctKeysOfItems items
def distinctKeysOfAll : List PyValue → Prop
  | [] => True
  | value :: values => value.DistinctKeys ∧ distinctKeysOfAll values
end

/-- The same but for the order of insertion, wherever a mapping is. -/
inductive PyValue.Reordered : PyValue → PyValue → Prop
  | refl (value : PyValue) : Reordered value value
  | trans {a b c : PyValue} : Reordered a b → Reordered b c → Reordered a c
  | items (kind : MappingKind) {items items' : List (Key × PyValue)} :
      items.Perm items' → Reordered (.mapping kind items) (.mapping kind items')
  | dump {dump dump' : List (Key × PyValue)} : dump.Perm dump' → Reordered (.model dump) (.model dump')
  | inMapping {value value' : PyValue} (kind : MappingKind) (front : List (Key × PyValue)) (key : Key)
      (back : List (Key × PyValue)) : Reordered value value' →
      Reordered (.mapping kind (front ++ (key, value) :: back)) (.mapping kind (front ++ (key, value') :: back))
  | inModel {value value' : PyValue} (front : List (Key × PyValue)) (key : Key) (back : List (Key × PyValue)) :
      Reordered value value' →
      Reordered (.model (front ++ (key, value) :: back)) (.model (front ++ (key, value') :: back))
  | inSequence {value value' : PyValue} (kind : SequenceKind) (front back : List PyValue) :
      Reordered value value' →
      Reordered (.sequence kind (front ++ value :: back)) (.sequence kind (front ++ value' :: back))

/-! ## Freezing -/

/-- `str.isspace` for one code point. -/
def isSpacePoint (point : CodePoint) : Bool := isSpace (Char.ofNat point)

/-- `key == "" or key.strip() != key`. -/
def isPadded (text : Text) : Bool :=
  text.isEmpty || text.head?.any isSpacePoint || text.getLast?.any isSpacePoint

def validateMappingKey (fieldName : String) : Key → Result Unit
  | .str text =>
      raiseIf (isPadded text = true)
        (valueError s!"{fieldName} keys must be nonempty strings without surrounding whitespace")
  | _ => .error ⟨.typeError, s!"{fieldName} keys must be strings"⟩

mutual
def freezeCanonicalValue (fieldName : String) : PyValue → Result PyValue
  | .mapping _ items => do pure (.mapping .mappingProxy (← freezeItems fieldName items))
  | .set => .error ⟨.typeError, s!"{fieldName} values must not contain unordered sets"⟩
  | .sequence _ items => do pure (.sequence .tuple (← freezeAll fieldName items))
  | .decimal value => pure (.decimal value)
  | .nonFiniteDecimal => .error (valueError s!"{fieldName} Decimal values must be finite")
  | .datetime value => do pure (.datetime ⟨← value.toUtc, some 0⟩)
  | .enumeration value => pure (.enumeration value)
  | .model dump => pure (.model dump)
  | .scalar value => pure (.scalar value)
  | .float => .error ⟨.typeError, s!"{fieldName} values must not contain floats"⟩
  | .bytes _ => .error ⟨.typeError, s!"{fieldName} values must not contain bytes"⟩
  | .other typeName => .error ⟨.typeError, s!"unsupported {fieldName} value type: {typeName}"⟩
/-- The items of `freeze_canonical_mapping`. -/
def freezeItems (fieldName : String) : List (Key × PyValue) → Result (List (Key × PyValue))
  | [] => pure []
  | (key, value) :: items => do
      validateMappingKey fieldName key
      let frozen ← freezeCanonicalValue fieldName value
      pure ((key, frozen) :: (← freezeItems fieldName items))
def freezeAll (fieldName : String) : List PyValue → Result (List PyValue)
  | [] => pure []
  | value :: values => do
      let frozen ← freezeCanonicalValue fieldName value
      pure (frozen :: (← freezeAll fieldName values))
end

mutual
def thawCanonicalValue : PyValue → PyValue
  | .mapping _ items => .mapping .dict (thawCanonicalMapping items)
  | .sequence _ items => .sequence .list (thawAll items)
  | value => value
def thawCanonicalMapping : List (Key × PyValue) → List (Key × PyValue)
  | [] => []
  | (key, value) :: items => (key, thawCanonicalValue value) :: thawCanonicalMapping items
def thawAll : List PyValue → List PyValue
  | [] => []
  | value :: values => thawCanonicalValue value :: thawAll values
end

/-! ## Canonical JSON -/

/-- The code points of a text without surrogates. -/
def codePoints (text : String) : Text := text.toList.map fun c => CodePoint.ofNat c.toNat

def Scalar.data : Scalar → Json
  | .none => .null
  | .bool value => .bool value
  | .int value => .int value
  | .str text => .str text

variable (isoformat : UTCDateTime → String)

def formatUtcDatetime (value : IsoDatetime) : Result String := do
  let utcValue ← value.toUtc
  pure ((isoformat utcValue).replace "+00:00" "Z")

mutual
def toCanonicalData : PyValue → Result Json
  | .model dump => do pure (.object (← canonicalMapping dump))
  | .decimal value => pure (.str (codePoints value.toText))
  | .nonFiniteDecimal => .error (valueError "canonical Decimal values must be finite")
  | .datetime value => do pure (.str (codePoints (← formatUtcDatetime isoformat value)))
  | .enumeration value => pure value.data
  | .mapping _ items => do pure (.object (← canonicalMapping items))
  | .set => .error ⟨.typeError, "canonical serialization does not accept unordered sets"⟩
  | .sequence _ items => do pure (.array (← canonicalAll items))
  | .scalar value => pure value.data
  | .float => .error ⟨.typeError, "canonical serialization does not accept floats"⟩
  | .bytes typeName | .other typeName =>
      .error ⟨.typeError, s!"unsupported canonical serialization type: {typeName}"⟩
def canonicalMapping : List (Key × PyValue) → Result (List (Text × Json))
  | [] => pure []
  | (key, value) :: items =>
      match key.text with
      | none => .error ⟨.typeError, "canonical mapping keys must be strings"⟩
      | some text => do
          let data ← toCanonicalData value
          pure ((text, data) :: (← canonicalMapping items))
def canonicalAll : List PyValue → Result (List Json)
  | [] => pure []
  | value :: values => do
      let data ← toCanonicalData value
      pure (data :: (← canonicalAll values))
end

mutual
/-- Every model in the value has a dump with canonical data. Freezing looks at no dump. -/
def PyValue.ModelsConvert : PyValue → Prop
  | .model dump => ∃ members, canonicalMapping isoformat dump = .ok members
  | .mapping _ items => modelsConvertInItems items
  | .sequence _ values => modelsConvertInAll values
  | _ => True
def modelsConvertInItems : List (Key × PyValue) → Prop
  | [] => True
  | (_, value) :: items => value.ModelsConvert ∧ modelsConvertInItems items
def modelsConvertInAll : List PyValue → Prop
  | [] => True
  | value :: values => value.ModelsConvert ∧ modelsConvertInAll values
end

/-- `json.dumps` with sorted keys, ASCII only and no spaces. `str` refuses an integer beyond `digitLimit`. -/
def dumps (data : Json) : Result String :=
  if data.all Json.shortInts = true then pure (String.ofList data.sorted.encode)
  else
    .error (valueError
      "Exceeds the limit (4300 digits) for integer string conversion; use sys.set_int_max_str_digits() to increase the limit")

def canonicalJson (value : PyValue) : Result String := do dumps (← toCanonicalData isoformat value)

end Freezing
end Pmrp
