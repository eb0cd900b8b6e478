import TicketRouting.Toml.Scalar
/-!
Reading a TOML document. Values may not be nested too deep, and a dotted key may not have too many
parts.
-/
namespace TicketRouting.Toml

/-- Values may lie within fewer brackets than this, and keys have fewer parts. -/
def depthLimit : Nat := 80

def isBareKeyCharacter (c : Char) : Bool := c.isAlphanum || c == '_' || c == '-'

def simpleKey : Reader String
  | '"' :: rest => lineString '"' (rest.length + 1) [] rest
  | '\'' :: rest => lineString '\'' (rest.length + 1) [] rest
  | text =>
    let name := text.takeWhile isBareKeyCharacter
    if name.isEmpty then none else some (String.ofList name, text.drop name.length)

def keyParts : Nat → Reader (List String)
  | 0 => failure
  | fuel + 1 => do
    skipSpace
    let first ← simpleKey
    skipSpace
    match ← get with
    | '.' :: rest =>
      set rest
      return first :: (← keyParts fuel)
    | _ => return [first]

def key : Reader (List String × String) := do
  let parts ← keyParts ((← get).length + 1)
  if depthLimit ≤ parts.length then failure
  return (parts.dropLast, ← (parts.getLast? : Option String))

def comment : Reader Unit := do
  match ← get with
  | '#' :: rest => set (rest.dropWhile isPrintable)
  | _ => pure ()

def lineRest : Reader Unit := do
  skipSpace
  comment
  match ← get with
  | [] => pure ()
  | text => set (← (newline? text : Option (List Char)))

def skipLines : Nat → Reader Unit
  | 0 => pure ()
  | fuel + 1 => do
    skipSpace
    match ← get with
    | '#' :: _ => do
      comment
      set (← (newline? (← get) : Option (List Char)))
      skipLines fuel
    | text =>
      match newline? text with
      | some rest => do
        set rest
        skipLines fuel
      | none => pure ()

def skipBetween : Reader Unit := do skipLines ((← get).length + 1)

def literal (word : String) (value : Value) : Reader Value := fun text =>
  if word.toList.isPrefixOf text then some (value, text.drop word.length) else none

mutual

def value (fuel depth : Nat) : Reader Value :=
  match fuel with
  | 0 => failure
  | fuel + 1 => do
    match ← get with
    | '"' :: rest => do
      set rest
      return .text (← stringBehind '"')
    | '\'' :: rest => do
      set rest
      return .text (← stringBehind '\'')
    | '[' :: rest => do
      set rest
      if depthLimit ≤ depth + 1 then failure
      return .array (← elements fuel (depth + 1))
    | '{' :: rest => do
      set rest
      if depthLimit ≤ depth + 1 then failure
      skipSpace
      match ← get with
      | '}' :: later =>
        set later
        return .table .inline []
      | _ => return .table .inline (← inlineEntries fuel (depth + 1) [])
    | 't' :: _ => literal "true" (.flag true)
    | 'f' :: _ => literal "false" (.flag false)
    | _ => numberOrDate

def elements (fuel depth : Nat) : Reader (List Value) :=
  match fuel with
  | 0 => failure
  | fuel + 1 => do
    skipBetween
    match ← get with
    | ']' :: rest =>
      set rest
      return []
    | _ => do
      let first ← value fuel depth
      skipBetween
      match ← get with
      | ',' :: rest =>
        set rest
        return first :: (← elements fuel depth)
      | ']' :: rest =>
        set rest
        return [first]
      | _ => failure

def inlineEntries (fuel depth : Nat) (entries : Entries) : Reader Entries :=
  match fuel with
  | 0 => failure
  | fuel + 1 => do
    let (path, name) ← key
    expect '='
    skipSpace
    let content ← value fuel depth
    let entries ← (putDotted path name content .inline entries : Option Entries)
    skipSpace
    match ← get with
    | ',' :: rest =>
      set rest
      inlineEntries fuel depth entries
    | '}' :: rest =>
      set rest
      return entries
    | _ => failure

end

def header (document : Document) : Reader Document := do
  match ← get with
  | '[' :: rest =>
    set rest
    let (path, name) ← key
    expect ']'
    expect ']'
    lineRest
    (document.startElement? (path ++ [name]) : Option Document)
  | _ =>
    let (path, name) ← key
    expect ']'
    lineRest
    (document.startTable? (path ++ [name]) : Option Document)

def keyValue (document : Document) : Reader Document := do
  let (path, name) ← key
  expect '='
  skipSpace
  let content ← value ((← get).length + 1) 0
  lineRest
  (document.put? path name content : Option Document)

def lines : Nat → Document → List Char → Option Document
  | 0, _, _ => none
  | fuel + 1, document, text =>
    match text.dropWhile isSpace with
    | [] => some document
    | '[' :: rest => do
      let (document, later) ← header document rest
      lines fuel document later
    | c :: rest =>
      if c == '#' || c == '\n' || c == '\r' then do
        let (_, later) ← lineRest (c :: rest)
        lines fuel document later
      else do
        let (document, later) ← keyValue document (c :: rest)
        lines fuel document later

/-- The entries of a document; none when the text is no TOML. A byte order mark at the front does not
count. -/
def parse (text : String) : Option Entries := do
  let chars := match text.toList with
    | '\ufeff' :: rest => rest
    | chars => chars
  let document ← lines (chars.length + 1) {} chars
  document.finished?

end TicketRouting.Toml
