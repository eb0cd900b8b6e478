import TicketRouting.Unicode.FoldTable
/-!
Sets of code points, held as ascending ranges of which no two touch. A set is asked for a member by
halving, since patterns ask once for every character of a text.
-/
namespace TicketRouting.Unicode

structure CodeSet where
  ranges : Array (Nat × Nat)

namespace CodeSet

/-- Puts together ranges that overlap or touch; they come in ascending order of their first code
points. `low` and `high` are the range under way, and `done` holds the earlier ones in reverse. -/
def absorb (done : List (Nat × Nat)) (low high : Nat) : List (Nat × Nat) → List (Nat × Nat)
  | [] => ((low, high) :: done).reverse
  | (first, last) :: rest =>
    if first ≤ high + 1 then absorb done low (max high last) rest
    else absorb ((low, high) :: done) first last rest

def ofRanges (ranges : List (Nat × Nat)) : CodeSet :=
  match (ranges.filter fun range => range.1 ≤ range.2).mergeSort fun a b => a.1 ≤ b.1 with
  | [] => ⟨#[]⟩
  | (low, high) :: rest => ⟨(absorb [] low high rest).toArray⟩

def empty : CodeSet := ⟨#[]⟩

def single (point : Nat) : CodeSet := ⟨#[(point, point)]⟩

def isEmpty (set : CodeSet) : Bool := set.ranges.isEmpty

def search (ranges : Array (Nat × Nat)) (point : Nat) : Nat → Nat → Nat → Bool
  | 0, _, _ => false
  | fuel + 1, low, high =>
    if low < high then
      let middle := (low + high) / 2
      match ranges[middle]? with
      | none => false
      | some (first, last) =>
        if point < first then search ranges point fuel low middle
        else if last < point then search ranges point fuel (middle + 1) high
        else true
    else false

def contains (set : CodeSet) (point : Nat) : Bool :=
  search set.ranges point (set.ranges.size + 1) 0 set.ranges.size

def containsChar (set : CodeSet) (c : Char) : Bool := set.contains c.toNat

def union (left right : CodeSet) : CodeSet :=
  ofRanges (left.ranges.toList ++ right.ranges.toList)

def unionAll (sets : List CodeSet) : CodeSet := ofRanges (sets.flatMap (·.ranges.toList))

def gaps (next : Nat) : List (Nat × Nat) → List (Nat × Nat)
  | [] => if next ≤ 0x10FFFF then [(next, 0x10FFFF)] else []
  | (first, last) :: rest =>
    if next < first then (next, first - 1) :: gaps (last + 1) rest else gaps (last + 1) rest

def overlaps : List (Nat × Nat) → List (Nat × Nat) → List (Nat × Nat)
  | [], _ => []
  | _, [] => []
  | (a, b) :: left, (c, d) :: right =>
    let later := if b < d then overlaps left ((c, d) :: right) else overlaps ((a, b) :: left) right
    if max a c ≤ min b d then (max a c, min b d) :: later else later
termination_by left right => left.length + right.length

def inter (left right : CodeSet) : CodeSet :=
  ofRanges (overlaps left.ranges.toList right.ranges.toList)

def all : CodeSet := ⟨#[(0, 0xD7FF), (0xE000, 0x10FFFF)]⟩

def complement (set : CodeSet) : CodeSet := inter all ⟨(gaps 0 set.ranges.toList).toArray⟩

def diff (left right : CodeSet) : CodeSet := inter left right.complement

def symmetricDiff (left right : CodeSet) : CodeSet :=
  diff (union left right) (inter left right)

def words (text : String) : List String :=
  let (current, later) := text.toList.foldr
    (fun c (current, later) =>
      if c.isWhitespace then ([], current :: later) else (c :: current, later))
    (([] : List Char), ([] : List (List Char)))
  ((current :: later).filter fun word => !word.isEmpty).map String.ofList

/-- The value of hexadecimal digits in lower case; other characters do not occur in the tables. -/
def hexNumber (digits : String) : Nat :=
  digits.foldl (fun sum c => sum * 16 + if c.isDigit then c.toNat - 48 else c.toNat - 87) 0

/-- A range with a step, `a`, `a-b` or `a-b/s`. -/
def entryOf (word : String) : Nat × Nat × Nat :=
  match word.splitOn "-" with
  | [first, rest] =>
    match rest.splitOn "/" with
    | [last, step] => (hexNumber first, hexNumber last, hexNumber step)
    | _ => (hexNumber first, hexNumber rest, 1)
  | _ => (hexNumber word, hexNumber word, 1)

def pointsOf (entry : Nat × Nat × Nat) : List Nat :=
  let (first, last, step) := entry
  (List.range ((last - first) / step + 1)).map fun index => first + index * step

def entryRanges (entry : Nat × Nat × Nat) : List (Nat × Nat) :=
  let (first, last, step) := entry
  if step = 1 then [(first, last)] else (pointsOf entry).map fun point => (point, point)

def ofText (text : String) : CodeSet :=
  ofRanges ((words text).flatMap fun word => entryRanges (entryOf word))

/-- The entries of the folding table: a range with a step and the distance to the other case. -/
def foldPairs : List ((Nat × Nat × Nat) × Nat) :=
  (words foldPairTable).filterMap fun word =>
    match word.splitOn "+" with
    | [range, distance] => some (entryOf range, hexNumber distance)
    | _ => none

def meets (set : CodeSet) (low high : Nat) : Bool :=
  set.ranges.any fun (first, last) => first ≤ high && low ≤ last

def foldPairPoints (set : CodeSet) (entry : (Nat × Nat × Nat) × Nat) : List Nat :=
  let ((first, last, step), distance) := entry
  if set.meets first last || set.meets (first + distance) (last + distance) then
    (pointsOf (first, last, step)).flatMap fun point =>
      match set.contains point, set.contains (point + distance) with
      | true, false => [point + distance]
      | false, true => [point]
      | _, _ => []
  else []

/-- The set together with every code point that differs from a member in case only. -/
def closedUnderCase (set : CodeSet) : CodeSet :=
  let pairs := foldPairs.flatMap set.foldPairPoints
  let groups := foldGroupTable.flatMap fun group =>
    if group.any set.contains then group else []
  match pairs ++ groups with
  | [] => set
  | added => ofRanges (set.ranges.toList ++ added.map fun point => (point, point))

end CodeSet

end TicketRouting.Unicode
