import TicketRouting.Pattern.Escape
/-!
Sets of characters in square brackets: characters, ranges, named sets, sets within sets, and the
operators for what is in both sets, in the first only, or in exactly one.
-/
namespace TicketRouting.Pattern

open Unicode (CodeSet)

def nestingLimit : Nat := 250

inductive SetOperator where
  | inter
  | diff
  | symmetricDiff
deriving DecidableEq

def SetOperator.apply : SetOperator → CodeSet → CodeSet → CodeSet
  | inter => CodeSet.inter
  | diff => CodeSet.diff
  | symmetricDiff => CodeSet.symmetricDiff

structure SetPart where
  set : CodeSet
  depth : Nat

/-- A bracket that is not yet closed: what stands before the last operator, and the parts since, in
reverse. -/
structure OpenSet where
  negated : Bool
  left : Option (SetOperator × SetPart)
  parts : List SetPart

namespace OpenSet

def add (part : SetPart) (bracket : OpenSet) : OpenSet :=
  { bracket with parts := part :: bracket.parts }

def addSet (set : CodeSet) (bracket : OpenSet) : OpenSet := bracket.add ⟨set, 0⟩

def union (parts : List SetPart) : SetPart :=
  match parts with
  | [part] => part
  | [] => ⟨CodeSet.empty, 0⟩
  | _ => ⟨CodeSet.unionAll (parts.map (·.set)), (parts.map (·.depth)).foldl max 0 + 1⟩

/-- Everything up to here as one set. Operators are applied from the left to the right, to sets
that are closed under case where case does not count. -/
def content (flags : Flags) (bracket : OpenSet) : SetPart :=
  let right := union bracket.parts
  match bracket.left with
  | none => right
  | some (operator, left) =>
    ⟨operator.apply (flags.fold left.set) (flags.fold right.set), max left.depth right.depth + 1⟩

def operate (flags : Flags) (operator : SetOperator) (bracket : OpenSet) : OpenSet :=
  { bracket with left := some (operator, bracket.content flags), parts := [] }

def close? (flags : Flags) (bracket : OpenSet) : Option SetPart := do
  let content := bracket.content flags
  let set ← flags.foldAndTurn? bracket.negated content.set
  if content.depth < nestingLimit then some ⟨set, content.depth + 1⟩ else none

end OpenSet

def posixSet? : String → Option CodeSet
  | "alnum" => some (CodeSet.ofText "30-39 41-5a 61-7a")
  | "alpha" => some (CodeSet.ofText "41-5a 61-7a")
  | "ascii" => some (CodeSet.ofText "0-7f")
  | "blank" => some (CodeSet.ofText "9 20")
  | "cntrl" => some (CodeSet.ofText "0-1f 7f")
  | "digit" => some (CodeSet.ofText "30-39")
  | "graph" => some (CodeSet.ofText "21-7e")
  | "lower" => some (CodeSet.ofText "61-7a")
  | "print" => some (CodeSet.ofText "20-7e")
  | "punct" => some (CodeSet.ofText "21-2f 3a-40 5b-60 7b-7e")
  | "space" => some (CodeSet.ofText "9-d 20")
  | "upper" => some (CodeSet.ofText "41-5a")
  | "word" => some asciiWord
  | "xdigit" => some (CodeSet.ofText "30-39 41-46 61-66")
  | _ => none

/-- A named set behind its opening bracket: whether it is turned round, the set, and the rest. -/
def posixName? (text : List Char) : Option (Bool × CodeSet × List Char) := do
  let rest ← match text with
    | ':' :: rest => some rest
    | _ => none
  let (negated, rest) := match rest with
    | '^' :: later => (true, later)
    | _ => (false, rest)
  let name := rest.takeWhile fun c => c != ':'
  let set ← posixSet? (String.ofList name)
  match rest.drop name.length with
  | ':' :: ']' :: later => some (negated, set, later)
  | _ => none

/-- The characters of an atom in brackets. Where characters are bytes, only ASCII has a place. -/
def Atom.point? (flags : Flags) : Atom → Option Nat
  | .char c _ => if flags.unicode || c.toNat < 0x80 then some c.toNat else none
  | _ => none

def Atom.set? (flags : Flags) (atom : Atom) : Option CodeSet :=
  match atom with
  | .set members => some members
  | .place _ => none
  | .char _ _ => (atom.point? flags).map CodeSet.single

def bracketAtom (flags : Flags) : Reader Atom := do
  match ← next with
  | '\\' => escape flags
  | c => return .char c false

/-- The character after the present one. Where white space does not count, it is looked past, and so
is one number sign with the white space behind it. -/
def peekPast (flags : Flags) (rest : List Char) : Option Char :=
  if flags.spaced then
    let after := rest.dropWhile Text.isBlank
    let after := match after with
      | '#' :: later => later.dropWhile Text.isBlank
      | _ => after
    (after.head?).or rest.head?
  else rest.head?

def bracketItem (flags : Flags) : Reader CodeSet := do
  let first ← bracketAtom flags
  skipBlanks flags
  let single : Reader CodeSet := (first.set? flags : Option CodeSet)
  match ← get with
  | [] => failure
  | '-' :: rest =>
    if peekPast flags rest == some ']' || peekPast flags rest == some '-' then single
    else
      set rest
      skipBlanks flags
      let last ← bracketAtom flags
      let low ← (first.point? flags : Option Nat)
      let high ← (last.point? flags : Option Nat)
      if low ≤ high then return CodeSet.ofRanges [(low, high)] else failure
  | _ => single

/-- Hyphens at the beginning of a bracket stand for themselves. -/
def leadingHyphens (flags : Flags) : Nat → Reader (List SetPart)
  | 0 => failure
  | fuel + 1 => do
    match ← get with
    | '-' :: rest =>
      set rest
      skipBlanks flags
      let later ← leadingHyphens flags fuel
      return ⟨CodeSet.single 0x2D, 0⟩ :: later
    | [] => failure
    | _ => return []

/-- The beginning of a bracket, behind the bracket itself. A closing bracket that comes first stands
for itself. -/
def openBracket (flags : Flags) : Reader OpenSet := do
  skipBlanks flags
  let negated ← match ← get with
    | '^' :: rest => do
      set rest
      skipBlanks flags
      pure true
    | _ => pure false
  let opened : OpenSet := ⟨negated, none, ← leadingHyphens flags ((← get).length + 1)⟩
  match opened.parts, ← get with
  | [], ']' :: rest =>
    set rest
    skipBlanks flags
    return opened.addSet (CodeSet.single 0x5D)
  | _, _ => return opened

/-- The rest of a bracket, up to where it is closed; `outer` holds the brackets around it. -/
def bracketRest (flags : Flags) : Nat → OpenSet → List OpenSet → Reader SetPart
  | 0, _, _ => failure
  | fuel + 1, bracket, outer => do
    skipBlanks flags
    let operate (operator : SetOperator) (rest : List Char) : Reader SetPart := do
      set rest
      bracketRest flags fuel (bracket.operate flags operator) outer
    match ← get with
    | '[' :: rest =>
      match posixName? rest with
      | some (negated, named, later) =>
        set later
        let part ← (flags.foldAndTurn? negated named : Option CodeSet)
        bracketRest flags fuel (bracket.addSet part) outer
      | none =>
        if nestingLimit ≤ outer.length then failure
        set rest
        let inner ← openBracket flags
        bracketRest flags fuel inner (bracket :: outer)
    | ']' :: rest =>
      set rest
      let closed ← (bracket.close? flags : Option SetPart)
      match outer with
      | [] => return closed
      | parent :: further => bracketRest flags fuel (parent.add closed) further
    | '&' :: '&' :: rest => operate .inter rest
    | '-' :: '-' :: rest => operate .diff rest
    | '~' :: '~' :: rest => operate .symmetricDiff rest
    | _ =>
      let item ← bracketItem flags
      bracketRest flags fuel (bracket.addSet item) outer

def bracket (flags : Flags) : Reader SetPart := do
  let opened ← openBracket flags
  bracketRest flags ((← get).length + 1) opened []

end TicketRouting.Pattern
