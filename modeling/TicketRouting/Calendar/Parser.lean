import TicketRouting.Calendar.Instant
import TicketRouting.Text.Basic
/-!
Reading an instant from text. The form is RFC 3339, read leniently: white space may stand before
every number and after the date and time, months to seconds may have one digit, a year may carry a
sign and then have any number of digits, the colon of the offset may be missing, and `UTC` is an
offset. Fraction digits after the ninth are dropped and second 60 is a leap second.
-/
namespace TicketRouting.Instant

inductive Fault where
  | premature
  | invalid
  | outOfRange
  | trailing
  | impossible
deriving DecidableEq

def Fault.message : Fault → String
  | premature => "premature end of input"
  | invalid => "input contains invalid characters"
  | outOfRange => "input is out of range"
  | trailing => "trailing input"
  | impossible => "no possible date and time matching input"

abbrev Reader := StateT (List Char) (Except Fault)

def skipBlanks : Reader Unit := fun text => .ok ((), Text.trimStart text)

def expect (wanted : Char) : Reader Unit
  | [] => .error .premature
  | c :: rest => if c = wanted then .ok ((), rest) else .error .invalid

/-- The value of a run of digits; at least one, at most `most`, and within 64 bits. -/
def number (most : Nat) : Reader Nat := fun text =>
  let digits := (text.take most).takeWhile Char.isDigit
  if digits.isEmpty then .error (if text.isEmpty then .premature else .invalid)
  else
    let value : Nat := digits.foldl (fun sum digit => sum * 10 + (digit.toNat - 48)) 0
    if value ≤ Int64.maxValue.toInt then .ok (value, text.drop digits.length) else .error .outOfRange

def field (least greatest : Nat) : Reader Nat := do
  skipBlanks
  let value ← number 2
  if least ≤ value ∧ value ≤ greatest then return value else throw .outOfRange

def year : Reader Int := do
  skipBlanks
  let value ← match ← get with
    | '-' :: rest => set rest; pure (-(← number rest.length : Int))
    | '+' :: rest => set rest; pure (← number rest.length : Int)
    | _ => pure (← number 4 : Int)
  if Int32.minValue.toInt ≤ value ∧ value ≤ Int32.maxValue.toInt then return value
  else throw .outOfRange

def separator (wanted : Char) : Reader Unit := do skipBlanks; expect wanted

def dateEnd : Reader Unit
  | [] => .error .premature
  | c :: rest => if c = 'T' ∨ c = 't' ∨ c = ' ' then .ok ((), rest) else .error .invalid

def fraction : Reader Nat := do
  match ← get with
  | '.' :: rest =>
    set rest
    let digits := (rest.take 9).takeWhile Char.isDigit
    let value ← number 9
    modify (·.dropWhile Char.isDigit)
    return value * Nat.pow 10 (9 - digits.length)
  | _ => return 0

/-- Two digits of an offset. A character outside ASCII is long enough to be no early end. -/
def offsetDigits : Reader Nat
  | a :: b :: rest =>
    if a.isDigit && b.isDigit then .ok ((a.toNat - 48) * 10 + (b.toNat - 48), rest)
    else .error .invalid
  | [a] => .error (if a.toNat < 0x80 then .premature else .invalid)
  | [] => .error .premature

/-- Minutes east of Greenwich. -/
def offset : Reader Int := do
  match ← get with
  | [] => throw .premature
  | c :: rest =>
    if c = 'Z' ∨ c = 'z' then do set rest; return 0
    else if ((c :: rest).take 3).map Char.toLower = ['u', 't', 'c'] then do
      set (rest.drop 2)
      return 0
    else if c = '+' ∨ c = '-' ∨ c = '\u2212' then do
      set rest
      let hours ← offsetDigits
      modify (·.dropWhile fun d => d == ':' || Text.isBlank d)
      let minutes ← offsetDigits
      if 60 ≤ minutes then throw .outOfRange
      let total : Int := hours * 60 + minutes
      return if c = '+' then total else -total
    else throw .invalid

def yearInRange (year : Int) : Bool := -262143 ≤ year && year ≤ 262142

/-- The instant at which a clock that is `offset` minutes ahead shows the given date and time. -/
def ofLocal (date : Date) (hour minute second nano : Nat) (offset : Int) : Except Fault Instant := do
  unless -1440 < offset ∧ offset < 1440 do throw .outOfRange
  let total : Int := hour * 60 + minute - offset
  let (utcDate, minutes) :=
    if total < 0 then (date.previous, total + 1440)
    else if 1440 ≤ total then (date.next, total - 1440)
    else (date, total)
  unless yearInRange utcDate.year do throw .impossible
  let minuteOfDay := minutes.toNat % 1440
  if bounds : second < 60 ∧ nano < 2000000000 then
    return ⟨utcDate, ⟨minuteOfDay / 60, minuteOfDay % 60, second, nano,
      Nat.div_lt_of_lt_mul (Nat.mod_lt _ (by decide)), Nat.mod_lt _ (by decide),
      bounds.1, bounds.2⟩⟩
  else throw .outOfRange

def reader : Reader Instant := do
  let y ← year
  separator '-'
  let month ← field 1 12
  separator '-'
  let day ← field 1 31
  dateEnd
  let hour ← field 0 23
  separator ':'
  let minute ← field 0 59
  separator ':'
  let second ← field 0 60
  let nano ← fraction
  skipBlanks
  let zone ← offset
  unless (Text.trimStart (← get)).isEmpty do throw .trailing
  match Date.of? y month day with
  | none => throw .outOfRange
  | some date =>
    unless yearInRange y do throw .outOfRange
    if second = 60 then ofLocal date hour minute 59 (nano + 1000000000) zone
    else ofLocal date hour minute second nano zone

def parse (text : String) : Except Fault Instant := (reader text.toList).map (·.1)

end TicketRouting.Instant
