import TicketRouting.Pattern.Flags
import TicketRouting.Text.Basic
/-!
What stands behind a backslash in a pattern: a character under another name, a set of characters,
or a condition on a place.
-/
namespace TicketRouting.Pattern

open Unicode (CodeSet)

/-- The smallest meaningful part of a pattern. A character given as a byte is one of two
hexadecimal digits, which matters where characters are bytes. -/
inductive Atom where
  | char (c : Char) (asByte : Bool)
  | set (set : CodeSet)
  | place (place : Place)

abbrev Reader := StateT (List Char) Option

def next : Reader Char
  | [] => none
  | c :: rest => some (c, rest)

def skipBlanks (flags : Flags) : Reader Unit := modify flags.skip

def hexRun (flags : Flags) : Nat → Reader (List Char)
  | 0 => pure []
  | count + 1 => do
    skipBlanks flags
    let c ← next
    let later ← hexRun flags count
    return c :: later

def untilBrace (flags : Flags) : Reader (List Char) := do
  let (content, rest) := flags.run (fun c => c != '}') (← get)
  set rest
  let _ ← next
  return content

def hexChar (flags : Flags) (width : Nat) : Reader Atom := do
  skipBlanks flags
  match ← get with
  | '{' :: rest =>
    set rest
    let digits ← untilBrace flags
    if digits.isEmpty then failure
    let value ← (Text.hexValue? digits : Option Nat)
    return .char (← (Text.scalar? value : Option Char)) false
  | _ =>
    let digits ← hexRun flags width
    let value ← (Text.hexValue? digits : Option Nat)
    return .char (← (Text.scalar? value : Option Char)) (width == 2)

def cutAt (mark : List Char) (before : List Char) : List Char → Option (List Char × List Char)
  | [] => none
  | c :: rest =>
    if mark.isPrefixOf (c :: rest) then some (before.reverse, (c :: rest).drop mark.length)
    else cutAt mark (c :: before) rest

def propertyNamed? (content : List Char) : Option CodeSet :=
  match (cutAt [':'] [] content).or (cutAt ['='] [] content) with
  | some (name, value) => Unicode.byValue? name value
  | none => Unicode.byName? content

def propertyMeant? (content : List Char) : Option (CodeSet × Bool) :=
  match cutAt ['!', '='] [] content with
  | some (name, value) => (Unicode.byValue? name value).map fun set => (set, true)
  | none => (propertyNamed? content).map fun set => (set, false)

/-- A property; of two negations one undoes the other. -/
def property (flags : Flags) (negated : Bool) : Reader Atom := do
  unless flags.unicode do failure
  skipBlanks flags
  let content ← match ← next with
    | '{' => untilBrace flags
    | '\\' => failure
    | c => pure [c]
  let (found, outside) ← (propertyMeant? content : Option (CodeSet × Bool))
  return .set (← (flags.foldAndTurn? (negated != outside) found : Option CodeSet))

def isNameLetter (c : Char) : Bool := c.isAlpha || c == '-'

/-- What may stand in braces behind a word boundary; a brace with anything but a letter in it
belongs to a repetition. -/
def wordTest (flags : Flags) : Reader WordTest := do
  match ← get with
  | '{' :: rest =>
    match flags.skip rest with
    | [] => failure
    | c :: later =>
      if isNameLetter c then
        let (name, rest) := flags.run isNameLetter (c :: later)
        set rest
        match ← next, String.ofList name with
        | '}', "start" => return .start
        | '}', "end" => return .finish
        | '}', "start-half" => return .startHalf
        | '}', "end-half" => return .finishHalf
        | _, _ => failure
      else return .boundary
  | _ => return .boundary

def isEscapable (c : Char) : Bool :=
  c.toNat < 0x80 && !c.isAlphanum && c != '<' && c != '>'

def escape (flags : Flags) : Reader Atom := do
  let c ← next
  let sets (negated : Bool) (set : CodeSet) : Reader Atom := do
    return .set (← (flags.turned? negated set : Option CodeSet))
  match c with
  | 'x' => hexChar flags 2
  | 'u' => hexChar flags 4
  | 'U' => hexChar flags 8
  | 'p' => property flags false
  | 'P' => property flags true
  | 'd' => sets false flags.digits
  | 'D' => sets true flags.digits
  | 's' => sets false flags.spaces
  | 'S' => sets true flags.spaces
  | 'w' => sets false flags.wordCharacters
  | 'W' => sets true flags.wordCharacters
  | 'a' => return .char '\x07' false
  | 'f' => return .char '\x0c' false
  | 't' => return .char '\t' false
  | 'n' => return .char '\n' false
  | 'r' => return .char '\r' false
  | 'v' => return .char '\x0b' false
  | 'A' => return .place .textStart
  | 'z' => return .place .textEnd
  | 'b' => return .place (flags.word (← wordTest flags))
  | 'B' => return .place (flags.word .noBoundary)
  | '<' => return .place (flags.word .start)
  | '>' => return .place (flags.word .finish)
  | _ => if isEscapable c then return .char c false else failure

end TicketRouting.Pattern
