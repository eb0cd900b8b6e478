import TicketRouting.Calendar.Instant
import TicketRouting.Decimal.Binary64
import TicketRouting.Text.Basic
import TicketRouting.Toml.Value
/-!
TOML values without parts: strings, numbers, dates and times. A reader takes what it reads from the
front of the text and fails where no such value begins.
-/
namespace TicketRouting.Toml

open Text (digitRun digitsValue hexDigit? hexValue? scalar?)

abbrev Reader := StateT (List Char) Option

def isSpace (c : Char) : Bool := c == ' ' || c == '\t'

def skipSpace : Reader Unit := modify (·.dropWhile isSpace)

def expect (wanted : Char) : Reader Unit
  | [] => none
  | c :: rest => if c == wanted then some ((), rest) else none

def isPrintable (c : Char) : Bool := c == '\t' || (0x20 ≤ c.toNat && c.toNat != 0x7F)

def newline? : List Char → Option (List Char)
  | '\n' :: rest => some rest
  | '\r' :: '\n' :: rest => some rest
  | _ => none

def simpleEscape? : Char → Option Char
  | 'b' => some '\x08'
  | 't' => some '\t'
  | 'n' => some '\n'
  | 'f' => some '\x0c'
  | 'r' => some '\r'
  | '"' => some '"'
  | '\\' => some '\\'
  | _ => none

def escaped? : List Char → Option (Char × List Char)
  | 'u' :: rest => numbered 4 rest
  | 'U' :: rest => numbered 8 rest
  | c :: rest => (simpleEscape? c).map fun found => (found, rest)
  | [] => none
where
  numbered (width : Nat) (rest : List Char) : Option (Char × List Char) := do
    let digits := rest.take width
    if digits.length < width then none
    else
      let value ← hexValue? digits
      return (← scalar? value, rest.drop width)

/-- The rest of a string on one line up to its quote; `done` is what was read, in reverse. -/
def lineString (quote : Char) : Nat → List Char → Reader String
  | 0, _, _ => none
  | _, _, [] => none
  | fuel + 1, done, c :: rest =>
    if c == quote then some (String.ofList done.reverse, rest)
    else if c == '\\' && quote == '"' then do
      let (found, later) ← escaped? rest
      lineString quote fuel (found :: done) later
    else if isPrintable c then lineString quote fuel (c :: done) rest
    else none

/-- What follows a backslash at the end of a line: the white space of this and the next lines does
not count. -/
def continued? (text : List Char) : Option (List Char) := do
  let rest ← newline? (text.dropWhile isSpace)
  return blankLines (rest.length + 1) rest
where
  blankLines : Nat → List Char → List Char
    | 0, rest => rest
    | fuel + 1, rest =>
      let rest := rest.dropWhile isSpace
      match newline? rest with
      | some later => blankLines fuel later
      | none => rest

/-- The rest of a string of several lines, up to three quotes in a row. One or two quotes right before
these belong to the string. -/
def blockString (quote : Char) : Nat → List Char → Reader String
  | 0, _, _ => none
  | _, _, [] => none
  | fuel + 1, done, c :: rest =>
    if c == quote then
      let run := (c :: rest).takeWhile (· == quote)
      if run.length < 3 then blockString quote fuel (run ++ done) (rest.drop (run.length - 1))
      else
        let own := min (run.length - 3) 2
        some (String.ofList ((List.replicate own quote ++ done).reverse), rest.drop (own + 2))
    else if c == '\\' && quote == '"' then
      match continued? rest with
      | some later => blockString quote fuel done later
      | none => do
        let (found, later) ← escaped? rest
        blockString quote fuel (found :: done) later
    else
      match newline? (c :: rest) with
      | some later => blockString quote fuel ('\n' :: done) later
      | none => if isPrintable c then blockString quote fuel (c :: done) rest else none

def stringBehind (quote : Char) (text : List Char) : Option (String × List Char) :=
  match text with
  | a :: b :: rest =>
    if a == quote && b == quote then
      let rest := (newline? rest).getD rest
      blockString quote (rest.length + 1) [] rest
    else lineString quote (text.length + 1) [] text
  | _ => lineString quote (text.length + 1) [] text

/-- A run of digits, between which single underscores may stand. -/
def digitGroups (isDigit : Char → Bool) : List Char → Option (List Char × List Char)
  | [] => none
  | c :: rest =>
    if isDigit c then
      match rest with
      | '_' :: later => (digitGroups isDigit later).map fun (digits, after) => (c :: digits, after)
      | d :: later =>
        if isDigit d then
          (digitGroups isDigit (d :: later)).map fun (digits, after) => (c :: digits, after)
        else some ([c], rest)
      | [] => some ([c], [])
    else none

def sign : Reader Bool
  | '-' :: rest => some (true, rest)
  | '+' :: rest => some (false, rest)
  | rest => some (false, rest)

/-- Decimal digits of a whole number: no zero stands before others. -/
def wholeDigits : Reader (List Char)
  | '0' :: rest => some (['0'], rest)
  | text => digitGroups Char.isDigit text

def fits (n : Int) : Bool := Int64.minValue.toInt ≤ n && n ≤ Int64.maxValue.toInt

def decimalInteger : Reader Value := do
  let negative ← sign
  let digits := digitsValue (← wholeDigits)
  let n : Int := if negative then -digits else digits
  if fits n then return .integer n else failure

def isDigitOf (base : Nat) (c : Char) : Bool :=
  match hexDigit? c with
  | some digit => digit < base
  | none => false

def basedInteger (base : Nat) : Reader Value := do
  let digits ← digitGroups (isDigitOf base)
  let n := digits.foldl (fun sum c => sum * base + (hexDigit? c).getD 0) 0
  if fits n then return .integer n else failure

def integer : Reader Value
  | '0' :: 'x' :: rest => basedInteger 16 rest
  | '0' :: 'o' :: rest => basedInteger 8 rest
  | '0' :: 'b' :: rest => basedInteger 2 rest
  | text => decimalInteger text

def exponent? : Reader (Option Int)
  | c :: rest =>
    if c == 'e' || c == 'E' then do
      let (negative, rest) ← sign rest
      let (digits, rest) ← digitGroups Char.isDigit rest
      let size : Int := min (digitsValue digits) 100000
      return (some (if negative then -size else size), rest)
    else some (none, c :: rest)
  | [] => some (none, [])

def fraction? : Reader (Option (List Char))
  | '.' :: rest => (digitGroups Char.isDigit rest).map fun (digits, later) => (some digits, later)
  | rest => some (none, rest)

/-- A number with a fraction, an exponent or both. One too large for binary64 is refused, unless it is
negative. -/
def decimalReal : Reader Value := do
  let before ← get
  let negative ← sign
  let whole ← wholeDigits
  let fraction ← fraction?
  let power ← exponent?
  if fraction.isNone && power.isNone then failure
  let digits := digitsValue (whole ++ fraction.getD [])
  let number := Binary64.ofDecimal digits (power.getD 0 - (fraction.getD []).length)
  if number.isNone && !negative then failure
  return .real (before.take (before.length - (← get).length))

def specialReal : Reader Value := do
  let before ← get
  let _ ← sign
  match ← get with
  | 'i' :: 'n' :: 'f' :: rest => set rest
  | 'n' :: 'a' :: 'n' :: rest => set rest
  | _ => failure
  return .real (before.take (before.length - (← get).length))

def fixedDigits (width : Nat) : Reader Nat := fun text =>
  let digits := text.take width
  if digits.length == width && digits.all Char.isDigit then
    some (digitsValue digits, text.drop width)
  else none

def atMost (greatest : Nat) (value : Nat) : Reader Unit :=
  if value ≤ greatest then pure () else failure

def calendarDate : Reader Unit := do
  let year ← fixedDigits 4
  expect '-'
  let month ← fixedDigits 2
  expect '-'
  let day ← fixedDigits 2
  let _ ← (Date.of? year month day : Option Date)

/-- A time of day; second 60 is allowed for leap seconds. -/
def clockTime : Reader Unit := do
  atMost 23 (← fixedDigits 2)
  expect ':'
  atMost 59 (← fixedDigits 2)
  expect ':'
  atMost 60 (← fixedDigits 2)
  match ← get with
  | '.' :: rest =>
    let (digits, later) := digitRun rest
    unless digits.isEmpty do set later
  | _ => pure ()

def zone : Reader Unit := do
  match ← get with
  | c :: rest =>
    if c == 'Z' || c == 'z' then set rest
    else if c == '+' || c == '-' then
      set rest
      atMost 23 (← fixedDigits 2)
      expect ':'
      atMost 59 (← fixedDigits 2)
  | [] => pure ()

def dateTime : Reader Value := do
  let before ← get
  let dated : Reader Unit := do
    calendarDate
    match ← get with
    | c :: rest =>
      if c == 'T' || c == 't' || c == ' ' then
        match clockTime rest with
        | some (_, later) =>
          set later
          zone
        | none => pure ()
    | [] => pure ()
  dated <|> clockTime
  return .date (before.take (before.length - (← get).length))

def numberOrDate : Reader Value := dateTime <|> decimalReal <|> specialReal <|> integer

end TicketRouting.Toml
