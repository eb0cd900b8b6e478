import TicketRouting.Unicode.Property
/-!
Regular expressions over sets of characters and conditions on places, how large they are, and the
search of a text for a match. A place is known by the characters before and after it, which are
missing at the two ends of the text.

A search runs a machine, which is the expression itself with repetitions written out and a mark on
every set whose character was the last one read. A character moves all marks at once, so the work is
at most the size of the machine times the length of the text.
-/
namespace TicketRouting.Pattern

open Unicode (CodeSet)

def asciiWord : CodeSet := CodeSet.ofText "30-39 41-5a 5f 61-7a"

inductive WordTest where
  | boundary
  | noBoundary
  | start
  | finish
  | startHalf
  | finishHalf
deriving DecidableEq

def WordTest.holds (test : WordTest) (before after : Bool) : Bool :=
  match test with
  | boundary => before != after
  | noBoundary => before == after
  | start => !before && after
  | finish => before && !after
  | startHalf => !before
  | finishHalf => !after

inductive Place where
  | textStart
  | textEnd
  | lineStart
  | lineEnd
  /-- Line ends are those of the next two cases when a carriage return ends a line as well; the
  place between a carriage return and its line feed is neither start nor end. -/
  | returnLineStart
  | returnLineEnd
  | word (test : WordTest) (asciiOnly : Bool)
deriving DecidableEq

def isWordCharacter (asciiOnly : Bool) : Option Char → Bool
  | none => false
  | some c => if asciiOnly then asciiWord.containsChar c else Unicode.wordCharacters.containsChar c

def Place.holds (place : Place) (before after : Option Char) : Bool :=
  match place with
  | textStart => before.isNone
  | textEnd => after.isNone
  | lineStart => before.isNone || before == some '\n'
  | lineEnd => after.isNone || after == some '\n'
  | returnLineStart =>
    before.isNone || before == some '\n' || (before == some '\r' && after != some '\n')
  | returnLineEnd =>
    after.isNone || after == some '\r' || (after == some '\n' && before != some '\r')
  | word test asciiOnly =>
    test.holds (isWordCharacter asciiOnly before) (isWordCharacter asciiOnly after)

inductive Regex where
  | blank
  | place (place : Place)
  | char (set : CodeSet)
  | seq (first second : Regex)
  | either (left right : Regex)
  /-- As often in a row as the bounds allow; without an upper bound when `most` is missing. -/
  | repeated (body : Regex) (least : Nat) (most : Option Nat)

namespace Regex

def readsNothing : Regex → Bool
  | blank => true
  | place _ => true
  | char _ => false
  | seq first second => first.readsNothing && second.readsNothing
  | either left right => left.readsNothing && right.readsNothing
  | repeated body _ most => body.readsNothing || most == some 0

/-- A repetition without what cannot matter: a condition that holds at a place once holds there any
number of times. -/
def times (body : Regex) (least : Nat) (most : Option Nat) : Regex :=
  if most == some 0 then blank
  else if body.readsNothing then
    if least == 0 then either blank body else body
  else if least == 1 && most == some 1 then body
  else repeated body least most

/-- The numbers from `low` to `high`, of so many digits of six bits behind a first one, as runs of
which each lets every digit range on its own. -/
def digitRuns : Nat → Nat → Nat → List (List (Nat × Nat))
  | 0, low, high => [[(low, high)]]
  | more + 1, low, high =>
    let unit := Nat.pow 64 (more + 1)
    let under (digit low high : Nat) := (digitRuns more low high).map ((digit, digit) :: ·)
    if low / unit = high / unit then under (low / unit) (low % unit) (high % unit)
    else
      let (first, before) :=
        if low % unit = 0 then (low / unit, [])
        else (low / unit + 1, under (low / unit) (low % unit) (unit - 1))
      let (last, after) :=
        if high % unit = unit - 1 then (high / unit + 1, [])
        else (high / unit, under (high / unit) 0 (high % unit))
      let between :=
        if first < last then [(first, last - 1) :: List.replicate (more + 1) (0, 63)] else []
      before ++ between ++ after

/-- The code points whose UTF-8 forms have one length, with the bytes of such a form behind its
first; no form holds a surrogate. -/
def encodedBlocks : List (Nat × Nat × Nat) :=
  [(0, 0, 0x7F), (1, 0x80, 0x7FF), (2, 0x800, 0xD7FF), (2, 0xE000, 0xFFFF), (3, 0x10000, 0x10FFFF)]

def sharedLength : List (Nat × Nat) → List (Nat × Nat) → Nat
  | first :: left, second :: right => if first = second then sharedLength left right + 1 else 0
  | _, _ => 0

/-- The bytes of the states that read runs in turn: runs that begin alike share their first states,
and each run is one way on from the choice between them. -/
def runBytes (previous : List (Nat × Nat)) : List (List (Nat × Nat)) → Nat
  | [] => 0
  | run :: rest => 4 + 32 * (run.length - sharedLength previous run) + runBytes run rest

/-- The bytes of a set in a compiled pattern. ASCII characters are told apart in one state, which has
a transition for each range when these are several; all others byte by byte in states of their
own. -/
def setBytes (set : CodeSet) : Nat :=
  let ranges := set.ranges.toList
  if ranges.all fun range => range.2 < 0x80 then
    if ranges.length ≤ 1 then 32 else 32 + 8 * ranges.length
  else
    let blockBytes (block : Nat × Nat × Nat) : Nat :=
      runBytes [] <| (CodeSet.overlaps ranges [block.2]).flatMap fun range =>
        digitRuns block.1 range.1 range.2
    encodedBlocks.foldl (fun sum block => sum + blockBytes block) 64

def bytes : Regex → Nat
  | blank => 32
  | place _ => 32
  | char set => setBytes set
  | seq first second => first.bytes + second.bytes
  | either left right => left.bytes + right.bytes + 32
  | repeated body least none => max least 1 * body.bytes + 32
  | repeated body least (some most) => least * body.bytes + (most - least) * (body.bytes + 32)

/-- The bytes of a compiled pattern besides its expression: a search starts at every place. -/
def frameBytes : Nat := 192

end Regex

/-- Puts neighbours together until one is left, so that no part lies deep in the result. -/
def pairUp {α : Type} (combine : α → α → α) : List α → List α
  | first :: second :: rest => combine first second :: pairUp combine rest
  | rest => rest

theorem length_pair_up_le {α : Type} (combine : α → α → α) (parts : List α) :
    (pairUp combine parts).length ≤ (parts.length + 1) / 2 := by
  fun_induction pairUp combine parts with
  | case1 first second rest ih => simp only [List.length_cons]; omega
  | case2 rest short =>
    match rest with
    | [] => simp
    | [_] => simp
    | first :: second :: more => exact absurd rfl (short first second more)

def balanced {α : Type} (combine : α → α → α) (alone : α) (parts : List α) : α :=
  match parts with
  | [] => alone
  | [part] => part
  | first :: second :: rest => balanced combine alone (pairUp combine (first :: second :: rest))
termination_by parts.length
decreasing_by
  have short := length_pair_up_le combine (first :: second :: rest)
  simp only [List.length_cons] at short ⊢
  omega

/-- `live` says of a part whether it holds a mark. -/
inductive Machine where
  | pass
  | guard (place : Place)
  | read (set : CodeSet) (live : Bool)
  | seq (first second : Machine) (live : Bool)
  | either (left right : Machine) (live : Bool)
  | loop (body : Machine) (live : Bool)

namespace Machine

def isLive : Machine → Bool
  | pass => false
  | guard _ => false
  | read _ live => live
  | seq _ _ live => live
  | either _ _ live => live
  | loop _ live => live

def both (first second : Machine) : Machine := seq first second (first.isLive || second.isLive)

def choice (left right : Machine) : Machine := either left right (left.isLive || right.isLive)

def again (body : Machine) : Machine := loop body body.isLive

/-- A machine without marks. A bounded repetition is its least number of copies and then as many
that may be left out. -/
def ofRegex : Regex → Machine
  | .blank => pass
  | .place place => guard place
  | .char set => read set false
  | .seq first second => both (ofRegex first) (ofRegex second)
  | .either left right => choice (ofRegex left) (ofRegex right)
  | .repeated body least most =>
    let copy := ofRegex body
    let needed := List.replicate least copy
    match most with
    | none => balanced both pass (needed ++ [again copy])
    | some most =>
      balanced both pass (needed ++ List.replicate (most - least) (choice pass copy))

/-- Whether the machine can be left at a place, having been entered there or having read the
character before it. -/
def leaves (before after : Option Char) (entered : Bool) : Machine → Bool
  | pass => entered
  | guard place => entered && place.holds before after
  | read _ live => live
  | seq first second live =>
    (entered || live) &&
      leaves before after (leaves before after entered first) second
  | either left right live =>
    (entered || live) &&
      (leaves before after entered left || leaves before after entered right)
  | loop body live => entered || (live && leaves before after false body)

def advance (before : Option Char) (c : Char) (entered : Bool) : Machine → Machine
  | pass => pass
  | guard place => guard place
  | read set live => if entered || live then read set (entered && set.containsChar c) else read set live
  | seq first second live =>
    if entered || live then
      both (advance before c entered first)
        (advance before c (leaves before (some c) entered first) second)
    else seq first second live
  | either left right live =>
    if entered || live then choice (advance before c entered left) (advance before c entered right)
    else either left right live
  | loop body live =>
    if entered || live then
      again (advance before c (entered || leaves before (some c) false body) body)
    else loop body live

/-- Whether a match ends somewhere in the rest of a text; one may start at every place. -/
def findsIn (before : Option Char) (machine : Machine) : List Char → Bool
  | [] => leaves before none true machine
  | c :: rest =>
    leaves before (some c) true machine ||
      findsIn (some c) (advance before c true machine) rest

def search (regex : Regex) (text : List Char) : Bool := findsIn none (ofRegex regex) text

end Machine

end TicketRouting.Pattern
