import TicketRouting.Pattern.Bracket
import TicketRouting.Pattern.Regex
import TicketRouting.Unicode.Current
/-!
Reading a pattern. The flags in force are part of what is read: they change within a group and fall
back to their old state at its end. There is no looking around and no reference back.
-/
namespace TicketRouting.Pattern

open Unicode (CodeSet)

/-- A part of a pattern with its depth of nesting. A directive only switches flags. -/
structure Piece where
  regex : Regex
  depth : Nat
  isDirective : Bool := false

namespace Piece

def around? (depth : Nat) : Option Nat := if depth < nestingLimit then some (depth + 1) else none

def deepest (pieces : List Piece) : Nat := (pieces.map (·.depth)).foldl max 0

def concat? (reversed : List Piece) : Option Piece :=
  match reversed with
  | [] => some ⟨.blank, 0, false⟩
  | [piece] => some { piece with isDirective := false }
  | _ => do
    let depth ← around? (deepest reversed)
    return ⟨balanced .seq .blank (reversed.reverse.map (·.regex)), depth, false⟩

def choice? (reversed : List Piece) : Option Piece :=
  match reversed with
  | [piece] => some piece
  | _ => do
    let depth ← around? (deepest reversed)
    return ⟨balanced .either .blank (reversed.reverse.map (·.regex)), depth, false⟩

def times? (piece : Piece) (least : Nat) (most : Option Nat) : Option Piece := do
  if piece.isDirective then none
  let depth ← around? piece.depth
  return ⟨piece.regex.times least most, depth, false⟩

end Piece

/-- A group that is not yet closed: what was read before it, and the flags that then held. -/
structure Frame where
  flags : Flags
  branches : List Piece
  parts : List Piece

/-- What was read so far: the parts of the branch under way and the branches before it, both in
reverse and both since the innermost open group began. -/
structure Progress where
  flags : Flags := {}
  branches : List Piece := []
  parts : List Piece := []
  frames : List Frame := []
  names : List (List Char) := []

namespace Progress

def push (piece : Piece) (progress : Progress) : Progress :=
  { progress with parts := piece :: progress.parts }

def pushRegex (regex : Regex) (progress : Progress) : Progress := progress.push ⟨regex, 0, false⟩

/-- Characters match themselves, and their other cases where case does not count. -/
def pushChar? (c : Char) (asByte : Bool) (progress : Progress) : Option Progress :=
  if !progress.flags.unicode && asByte && 0x80 ≤ c.toNat then none
  else
    let set := CodeSet.single c.toNat
    let folded :=
      if progress.flags.unicode || c.toNat < 0x80 then progress.flags.fold set else set
    some (progress.pushRegex (.char folded))

def endBranch? (progress : Progress) : Option Progress := do
  let branch ← Piece.concat? progress.parts
  return { progress with branches := branch :: progress.branches, parts := [] }

def content? (progress : Progress) : Option Piece := do
  let progress ← progress.endBranch?
  Piece.choice? progress.branches

def openGroup? (inner : Flags) (progress : Progress) : Option Progress :=
  if progress.frames.length < nestingLimit then
    some { progress with
      flags := inner
      branches := []
      parts := []
      frames := ⟨progress.flags, progress.branches, progress.parts⟩ :: progress.frames }
  else none

def closeGroup? (progress : Progress) : Option Progress := do
  let content ← progress.content?
  let depth ← Piece.around? content.depth
  match progress.frames with
  | [] => none
  | frame :: frames =>
    return { progress with
      flags := frame.flags
      branches := frame.branches
      parts := ⟨content.regex, depth, false⟩ :: frame.parts
      frames := frames }

def repeatLast? (least : Nat) (most : Option Nat) (progress : Progress) : Option Progress :=
  match progress.parts with
  | [] => none
  | last :: parts => do
    let repeated ← last.times? least most
    return { progress with parts := repeated :: parts }

def addName? (name : List Char) (progress : Progress) : Option Progress :=
  if name.isEmpty || progress.names.contains name then none
  else some { progress with names := name :: progress.names }

end Progress

def mayBeginName (c : Char) : Bool := c == '_' || Unicode.Current.alphabetic.containsChar c

def mayContinueName (c : Char) : Bool :=
  mayBeginName c || c == '.' || c == '[' || c == ']' || Unicode.Current.numbers.containsChar c

def groupName? (text : List Char) : Option (List Char × List Char) :=
  let name := text.takeWhile fun c => c != '>'
  match name, text.drop name.length with
  | first :: later, '>' :: rest =>
    if mayBeginName first && later.all mayContinueName then some (name, rest) else none
  | _, _ => none

/-- Flags behind a question mark, with the character that ends them: a parenthesis when they hold
from here on, a colon when they hold in the group that begins. No flag may be given twice. -/
def flagList (flags : Flags) (switchOn : Bool) (seen : List Char) :
    List Char → Option (Flags × Char × List Char)
  | [] => none
  | c :: rest =>
    if c == ':' || c == ')' then
      if seen.head? == some '-' || (c == ')' && seen.isEmpty) then none else some (flags, c, rest)
    else if seen.contains c then none
    else if c == '-' then flagList flags false ('-' :: seen) rest
    else
      match flags.set? switchOn c with
      | some changed => flagList changed switchOn (c :: seen) rest
      | none => none

def looksAround (text : List Char) : Bool :=
  [['?', '='], ['?', '!'], ['?', '<', '='], ['?', '<', '!']].any (·.isPrefixOf text)

def openParenthesis (progress : Progress) : Reader Progress := do
  skipBlanks progress.flags
  let text ← get
  if looksAround text then failure
  let named (rest : List Char) : Reader Progress := do
    let (name, rest) ← (groupName? rest : Option _)
    set rest
    let progress ← (progress.addName? name : Option Progress)
    (progress.openGroup? progress.flags : Option Progress)
  match text with
  | '?' :: 'P' :: '<' :: rest => named rest
  | '?' :: '<' :: rest => named rest
  | '?' :: rest =>
    let (flags, ending, rest) ← (flagList progress.flags true [] rest : Option _)
    set rest
    if ending == ')' then
      return { progress with flags := flags, parts := ⟨.blank, 0, true⟩ :: progress.parts }
    else (progress.openGroup? flags : Option Progress)
  | _ => (progress.openGroup? progress.flags : Option Progress)

/-- A mark that asks for the shortest match does not change whether there is one. -/
def skipLazyMark : Reader Unit := modify fun text =>
  match text with
  | '?' :: rest => rest
  | _ => text

/-- A count of repetitions, of 32 bits; none when there are no digits. White space may stand around
it. -/
def count (flags : Flags) : Reader (Option Nat) := do
  let (digits, rest) := flags.run Char.isDigit ((← get).dropWhile Text.isBlank)
  set (rest.dropWhile Text.isBlank)
  if digits.isEmpty then return none
  let value := Text.digitsValue digits
  if value < UInt32.size then return some value else failure

def counted (progress : Progress) : Reader Progress := do
  let flags := progress.flags
  skipBlanks flags
  let least ← (← count flags : Option Nat)
  let most ← match ← get with
    | ',' :: rest => do
      set rest
      skipBlanks flags
      match ← get with
      | '}' :: _ => pure none
      | _ => do
        let most ← (← count flags : Option Nat)
        pure (some most)
    | _ => pure (some least)
  let ending ← next
  if ending != '}' then failure
  skipBlanks flags
  skipLazyMark
  if (most.map fun most => decide (most < least)).getD false then failure
  (progress.repeatLast? least most : Option Progress)

def pushAtom? (atom : Atom) (progress : Progress) : Option Progress :=
  match atom with
  | .char c asByte => progress.pushChar? c asByte
  | .set members => some (progress.pushRegex (.char members))
  | .place place => some (progress.pushRegex (.place place))

def step (progress : Progress) : Reader Progress := do
  let repetition (least : Nat) (most : Option Nat) : Reader Progress := do
    skipLazyMark
    (progress.repeatLast? least most : Option Progress)
  match ← next with
  | '(' => openParenthesis progress
  | ')' => (progress.closeGroup? : Option Progress)
  | '|' => (progress.endBranch? : Option Progress)
  | '[' =>
    let part ← bracket progress.flags
    return progress.push ⟨.char part.set, part.depth, false⟩
  | '?' => repetition 0 (some 1)
  | '*' => repetition 0 none
  | '+' => repetition 1 none
  | '{' => counted progress
  | '\\' => (pushAtom? (← escape progress.flags) progress : Option Progress)
  | '.' => return progress.pushRegex (.char (← (progress.flags.dot? : Option CodeSet)))
  | '^' => return progress.pushRegex (.place progress.flags.lineStart)
  | '$' => return progress.pushRegex (.place progress.flags.lineEnd)
  | c => (progress.pushChar? c false : Option Progress)

/-- Reads to the end of the pattern; every step reads at least one character. -/
def readAll : Nat → Progress → List Char → Option Progress
  | 0, _, _ => none
  | fuel + 1, progress, text =>
    match progress.flags.skip text with
    | [] => some progress
    | text => do
      let (progress, rest) ← step progress text
      readAll fuel progress rest

/-- The expression that a pattern stands for, unless it is none or its compiled form would have more
bytes than the limit. -/
def compile? (sizeLimit : Nat) (pattern : List Char) : Option Regex := do
  let progress ← readAll (pattern.length + 1) {} pattern
  match progress.frames with
  | [] =>
    let whole ← progress.content?
    if whole.regex.bytes + Regex.frameBytes ≤ sizeLimit then some whole.regex else none
  | _ => none

end TicketRouting.Pattern
