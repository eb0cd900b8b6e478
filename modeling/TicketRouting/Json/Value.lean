import TicketRouting.Decimal.Binary64
import TicketRouting.Text.Basic
/-!
JSON values, their text without white space, and the reading of JSON text. A number is an integer
of 64 bits, signed or unsigned, or any other number; of the latter, which include negative zero and
whatever has a fraction or an exponent, only the text of the nearest binary64 number is kept, since
nothing here computes with it. Of two fields of one name in an object the later one counts.
-/
namespace TicketRouting.Json

open Text (digitRun digitsValue hexValue? scalar?)

inductive Value where
  | null
  | bool (value : Bool)
  | integer (value : Int)
  | real (shown : String)
  | string (text : String)
  | array (elements : List Value)
  | object (fields : List (String × Value))

namespace Value

def field? (name : String) : Value → Option Value
  | object fields => fields.lookup name
  | _ => none

/-- The fields of an object with one field put at the end, or changed where it stands. -/
def setField (name : String) (value : Value) (fields : List (String × Value)) :
    List (String × Value) :=
  if fields.any (·.1 == name) then
    fields.map fun entry => if entry.1 == name then (name, value) else entry
  else fields ++ [(name, value)]

def ofOption {α : Type} (encode : α → Value) : Option α → Value
  | none => null
  | some a => encode a

end Value

def hexChar (digit : Nat) : Char :=
  if digit % 16 < 10 then Char.ofNat (48 + digit % 16) else Char.ofNat (87 + digit % 16)

def escapeChar (c : Char) : List Char :=
  match c with
  | '"' => ['\\', '"']
  | '\\' => ['\\', '\\']
  | '\n' => ['\\', 'n']
  | '\r' => ['\\', 'r']
  | '\t' => ['\\', 't']
  | _ =>
    if c.toNat < 0x20 then ['\\', 'u', '0', '0', hexChar (c.toNat / 16), hexChar c.toNat] else [c]

def quoted (text : String) : String :=
  String.ofList ('"' :: text.toList.flatMap escapeChar ++ ['"'])

mutual

def Value.compact : Value → String
  | .null => "null"
  | .bool true => "true"
  | .bool false => "false"
  | .integer n => toString n
  | .real shown => shown
  | .string text => quoted text
  | .array elements => "[" ++ compactElements elements ++ "]"
  | .object fields => "\x7b" ++ compactFields fields ++ "\x7d"

def compactElements : List Value → String
  | [] => ""
  | [last] => last.compact
  | first :: rest => first.compact ++ "," ++ compactElements rest

def compactFields : List (String × Value) → String
  | [] => ""
  | [(name, last)] => quoted name ++ ":" ++ last.compact
  | (name, first) :: rest => quoted name ++ ":" ++ first.compact ++ "," ++ compactFields rest

end

abbrev Reader (α : Type) := List Char → Option (α × List Char)

def skipSpace (text : List Char) : List Char :=
  text.dropWhile fun c => c == ' ' || c == '\t' || c == '\n' || c == '\r'

def simpleEscape? : Char → Option Char
  | '"' => some '"'
  | '\\' => some '\\'
  | '/' => some '/'
  | 'b' => some '\x08'
  | 'f' => some '\x0c'
  | 'n' => some '\n'
  | 'r' => some '\r'
  | 't' => some '\t'
  | _ => none

/-- One character of a string after its backslash; a pair of surrogates is one character. -/
def escaped : Reader Char
  | 'u' :: a :: b :: c :: d :: rest => do
    let first ← hexValue? [a, b, c, d]
    if 0xD800 ≤ first ∧ first < 0xDC00 then
      match rest with
      | '\\' :: 'u' :: e :: f :: g :: h :: later => do
        let second ← hexValue? [e, f, g, h]
        if 0xDC00 ≤ second ∧ second < 0xE000 then
          return (← scalar? (0x10000 + (first - 0xD800) * 0x400 + (second - 0xDC00)), later)
        else none
      | _ => none
    else return (← scalar? first, rest)
  | c :: rest => return (← simpleEscape? c, rest)
  | [] => none

/-- The rest of a string up to its closing quote; `done` is what was read, in reverse. -/
def stringRest (fuel : Nat) (done : List Char) (text : List Char) :
    Option (String × List Char) :=
  match fuel, text with
  | _, '"' :: rest => some (String.ofList done.reverse, rest)
  | fuel + 1, '\\' :: rest =>
    match escaped rest with
    | some (c, later) => stringRest fuel (c :: done) later
    | none => none
  | fuel + 1, c :: rest => if c.toNat < 0x20 then none else stringRest fuel (c :: done) rest
  | _, _ => none

def realValue (negative : Bool) (digits : Nat) (power : Int) : Option Value := do
  let number ← Binary64.ofDecimal digits power
  return .real (if negative then "-" ++ number.text else number.text)

def unsignedNumber (negative : Bool) (text : List Char) : Option (Value × List Char) := do
  let (whole, rest) := digitRun text
  if whole.isEmpty || (whole.head? == some '0' && 1 < whole.length) then none
  else
    let (fraction, rest) ← match rest with
      | '.' :: later =>
        let (digits, after) := digitRun later
        if digits.isEmpty then none else some (digits, after)
      | _ => some ([], rest)
    let (power, exact, rest) ← match rest with
      | c :: later =>
        if c = 'e' ∨ c = 'E' then
          let (sign, later) := match later with
            | '-' :: after => (true, after)
            | '+' :: after => (false, after)
            | _ => (false, later)
          let (digits, after) := digitRun later
          if digits.isEmpty then none
          else
            let size : Int := min (digitsValue digits) 100000
            some ((if sign then -size else size), false, after)
        else some ((0 : Int), true, rest)
      | [] => some ((0 : Int), true, rest)
    let digits := digitsValue (whole ++ fraction)
    let value : Int := if negative then -digits else digits
    if exact && fraction.isEmpty && !(negative && digits == 0) &&
        Int64.minValue.toInt ≤ value && value < UInt64.size then
      some (.integer value, rest)
    else do
      return (← realValue negative digits (power - fraction.length), rest)

def number : Reader Value
  | '-' :: rest => unsignedNumber true rest
  | text => unsignedNumber false text

def keyword (word : String) (value : Value) (text : List Char) : Option (Value × List Char) :=
  if word.toList.isPrefixOf text then some (value, text.drop word.length) else none

mutual

def value (fuel : Nat) (text : List Char) : Option (Value × List Char) :=
  match fuel with
  | 0 => none
  | fuel + 1 =>
    match skipSpace text with
    | '"' :: rest => (stringRest rest.length [] rest).map fun (s, later) => (.string s, later)
    | '[' :: rest =>
      match skipSpace rest with
      | ']' :: later => some (.array [], later)
      | _ => (elements fuel rest).map fun (list, later) => (.array list, later)
    | '{' :: rest =>
      match skipSpace rest with
      | '}' :: later => some (.object [], later)
      | _ => (members fuel [] rest).map fun (list, later) => (.object list, later)
    | 't' :: rest => keyword "true" (.bool true) ('t' :: rest)
    | 'f' :: rest => keyword "false" (.bool false) ('f' :: rest)
    | 'n' :: rest => keyword "null" .null ('n' :: rest)
    | rest => number rest

def elements (fuel : Nat) (text : List Char) : Option (List Value × List Char) :=
  match fuel with
  | 0 => none
  | fuel + 1 => do
    let (first, rest) ← value fuel text
    match skipSpace rest with
    | ',' :: later =>
      let (others, after) ← elements fuel later
      return (first :: others, after)
    | ']' :: later => return ([first], later)
    | _ => none

def members (fuel : Nat) (fields : List (String × Value)) (text : List Char) :
    Option (List (String × Value) × List Char) :=
  match fuel with
  | 0 => none
  | fuel + 1 =>
    match skipSpace text with
    | '"' :: rest => do
      let (name, rest) ← stringRest rest.length [] rest
      match skipSpace rest with
      | ':' :: rest =>
        let (content, rest) ← value fuel rest
        let fields := Value.setField name content fields
        match skipSpace rest with
        | ',' :: later => members fuel fields later
        | '}' :: later => return (fields, later)
        | _ => none
      | _ => none
    | _ => none

end

def parse (text : String) : Option Value := do
  let (result, rest) ← value (text.length + 1) text.toList
  if (skipSpace rest).isEmpty then some result else none

end TicketRouting.Json
