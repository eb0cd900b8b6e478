import TicketRouting.Calendar.Instant
import TicketRouting.Calendar.Parser
import TicketRouting.Json.Value
import TicketRouting.Unicode.Current
/-!
How values of a type are written as JSON and read back, and how messages say why a JSON value does
not stand for one. A codec is lossless on the values that its reader gives back when their written
form is read.

Records are objects. A form lists the fields of a record in the order of their declaration, each
with its codec, and from this one list come the writer, the checks and the reader. An array with the
fields in that order may stand for the object. What is reported of several faults: in an object the
first bad field by name, then the first missing field in the order of declaration; in an array the
first bad or missing element.
-/
namespace TicketRouting.Json

def Value.description : Value → String
  | null => "null"
  | bool true => "boolean `true`"
  | bool false => "boolean `false`"
  | integer n => "integer `" ++ toString n ++ "`"
  | real shown => "floating point `" ++ shown ++ "`"
  | string text => "string " ++ Text.quoted text
  | array _ => "sequence"
  | object _ => "map"

inductive DecodeError where
  | wrongType (found : Value) (expected : String)
  | wrongValue (found : Value) (expected : String)
  | tooFew (count : Nat) (expected : String)
  | tooMany (count : Nat)
  | missing (field : String)
  | unknownName (name : String) (known : List String)
  | badInstant (fault : Instant.Fault)

namespace DecodeError

def alternatives (known : List String) : String :=
  ", ".intercalate (known.map fun name => "`" ++ name ++ "`")

def message : DecodeError → String
  | wrongType found expected => "invalid type: " ++ found.description ++ ", expected " ++ expected
  | wrongValue found expected =>
    "invalid value: " ++ found.description ++ ", expected " ++ expected
  | tooFew count expected => "invalid length " ++ toString count ++ ", expected " ++ expected
  | tooMany count =>
    "invalid length " ++ toString count ++ ", expected fewer elements in array"
  | missing field => "missing field `" ++ field ++ "`"
  | unknownName name known =>
    "unknown variant `" ++ name ++ "`, expected one of " ++ alternatives known
  | badInstant fault => fault.message

end DecodeError

structure Codec (α : Type) where
  write : α → Value
  read : Value → Except DecodeError α

namespace Codec

def Keeps {α : Type} (codec : Codec α) (value : α) : Prop :=
  codec.read (codec.write value) = .ok value

/-- The same JSON for another type; the reader may still refuse the value. -/
def via {α β : Type} (codec : Codec α) (from? : α → Except DecodeError β) (content : β → α) :
    Codec β where
  write value := codec.write (content value)
  read value := codec.read value >>= from?

def map {α β : Type} (codec : Codec α) (build : α → β) (content : β → α) : Codec β :=
  codec.via (fun value => .ok (build value)) content

def text : Codec String where
  write := .string
  read
    | .string text => .ok text
    | found => .error (.wrongType found "a string")

def flag : Codec Bool where
  write := .bool
  read
    | .bool flag => .ok flag
    | found => .error (.wrongType found "a boolean")

def integer (least greatest : Int) (expected : String) : Codec Int where
  write := .integer
  read
    | .integer n =>
      if least ≤ n ∧ n ≤ greatest then .ok n
      else .error (.wrongValue (.integer n) expected)
    | found => .error (.wrongType found expected)

def int64 : Codec Int64 :=
  (integer Int64.minValue.toInt Int64.maxValue.toInt "i64").map Int64.ofInt Int64.toInt

def uint32 : Codec UInt32 :=
  (integer 0 (UInt32.size - 1) "u32").map (fun n => UInt32.ofNat n.toNat) fun n => (n.toNat : Int)

/-- Unsigned integers of 64 bits: a plain count or a size in memory, as messages distinguish. -/
def uint64 (expected : String) : Codec UInt64 :=
  (integer 0 (UInt64.size - 1) expected).map (fun n => UInt64.ofNat n.toNat) fun n => (n.toNat : Int)

def instant : Codec Instant where
  write instant := .string instant.text
  read
    | .string text => (Instant.parse text).mapError .badInstant
    | found => .error (.wrongType found "an RFC 3339 formatted date and time string")

def optional {α : Type} (codec : Codec α) : Codec (Option α) where
  write := Value.ofOption codec.write
  read
    | .null => .ok none
    | found => (codec.read found).map some

def list {α : Type} (codec : Codec α) : Codec (List α) where
  write values := .array (values.map codec.write)
  read
    | .array elements => elements.mapM codec.read
    | found => .error (.wrongType found "a sequence")

def readName {α : Type} (all : List α) (name : α → String) (found : String) :
    Except DecodeError α :=
  match all.find? fun value => name value == found with
  | some value => .ok value
  | none => .error (.unknownName found (all.map name))

/-- One of finitely many values, written as its name. An object with the name as its only field,
which must be null, is read as well. -/
def oneOf {α : Type} (all : List α) (name : α → String) : Codec α where
  write value := .string (name value)
  read
    | .string found => readName all name found
    | .object [(found, payload)] => do
      let value ← readName all name found
      match payload with
      | .null => return value
      | other => throw (.wrongType other "unit")
    | .object fields => .error (.wrongValue (.object fields) "map with a single key")
    | found => .error (.wrongType found "string or map")

end Codec

abbrev Fields := List (String × Value)

structure Field (α : Type) where
  name : String
  codec : Codec α
  /-- The value of a field that is not given. -/
  fallback : Option α
  /-- Whether an array may end before the field. -/
  omissible : Bool

namespace Field

def required {α : Type} (name : String) (codec : Codec α) : Field α := ⟨name, codec, none, false⟩

def optional {α : Type} (name : String) (codec : Codec α) : Field (Option α) :=
  ⟨name, codec.optional, some none, false⟩

def defaulted {α : Type} (name : String) (codec : Codec α) (fallback : α) : Field α :=
  ⟨name, codec, some fallback, true⟩

def readIn {α : Type} (field : Field α) (fields : Fields) : Except DecodeError α :=
  match fields.lookup field.name, field.fallback with
  | some value, _ => field.codec.read value
  | none, some value => .ok value
  | none, none => .error (.missing field.name)

end Field

structure FieldRule where
  name : String
  fault? : Value → Option DecodeError
  isRequired : Bool
  isOmissible : Bool

def Field.rule {α : Type} (field : Field α) : FieldRule where
  name := field.name
  fault? value :=
    match field.codec.read value with
    | .ok _ => none
    | .error fault => some fault
  isRequired := field.fallback.isNone
  isOmissible := field.omissible

def objectFault? (rules : List FieldRule) (fields : Fields) : Option DecodeError :=
  let byName := rules.mergeSort fun left right => decide (left.name ≤ right.name)
  match byName.findSome? fun rule => (fields.lookup rule.name).bind rule.fault? with
  | some fault => some fault
  | none =>
    (rules.find? fun rule => rule.isRequired && (fields.lookup rule.name).isNone).map fun rule =>
      .missing rule.name

def arrayFault? (record : String) (rules : List FieldRule) (elements : List Value) :
    Option DecodeError :=
  match (rules.zip elements).findSome? fun (rule, element) => rule.fault? element with
  | some fault => some fault
  | none =>
    if (rules.drop elements.length).any fun rule => !rule.isOmissible then
      some (.tooFew elements.length
        ("struct " ++ record ++ " with " ++ toString rules.length ++ " elements"))
    else if rules.length < elements.length then some (.tooMany elements.length)
    else none

def checkedFields (record : String) (rules : List FieldRule) : Value → Except DecodeError Fields
  | .object fields =>
    match objectFault? rules fields with
    | some fault => .error fault
    | none => .ok fields
  | .array elements =>
    match arrayFault? record rules elements with
    | some fault => .error fault
    | none => .ok ((rules.map (·.name)).zip elements)
  | found => .error (.wrongType found ("struct " ++ record))

/-- How a value of type `α` is put together from fields, and how these are taken from a record. -/
structure Form (σ α : Type) where
  rules : List FieldRule
  entries : σ → Fields
  build : Fields → Except DecodeError α

namespace Form

def start (σ : Type) {α : Type} (value : α) : Form σ α := ⟨[], fun _ => [], fun _ => .ok value⟩

def field {σ α β : Type} (form : Form σ (α → β)) (content : σ → α) (next : Field α) :
    Form σ β where
  rules := form.rules ++ [next.rule]
  entries record := form.entries record ++ [(next.name, next.codec.write (content record))]
  build fields := do
    let partly ← form.build fields
    let value ← next.readIn fields
    return partly value

def codec {σ : Type} (form : Form σ σ) (record : String) : Codec σ where
  write value := .object (form.entries value)
  read value := checkedFields record form.rules value >>= form.build

end Form

end TicketRouting.Json
