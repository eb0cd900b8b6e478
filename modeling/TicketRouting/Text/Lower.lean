import TicketRouting.Text.Basic
import TicketRouting.Text.CaseTable
/-!
Lower case of a whole text. Every character is replaced on its own, with two exceptions: U+0130
becomes the two characters `i` and U+0307, and a capital sigma becomes a final sigma at the end of
a word, which only its neighbours show. So the lower case of a part of a text need not be a part
of the lower case of the text.
-/
namespace TicketRouting.Text

def isCased (c : Char) : Bool := inRanges casedRanges c.toNat

def isCaseIgnorable (c : Char) : Bool := inRanges caseIgnorableRanges c.toNat

/-- Where a table in ascending order sends a code point; one that it does not name stays as it is. -/
def shifted : List (Nat × Nat × Nat × Nat) → Nat → Nat
  | [], point => point
  | (first, last, step, target) :: rest, point =>
    if point < first then point
    else if point ≤ last && (point - first) % step == 0 then target + (point - first)
    else shifted rest point

def lowerChar (c : Char) : List Char :=
  if c.toNat < 0x80 then [c.toLower]
  else if c = '\u0130' then ['i', '\u0307']
  else [Char.ofNat (shifted lowerShifts c.toNat)]

/-- Whether the first character that a case rule does not look past has case. -/
def meetsCased (text : List Char) : Bool :=
  match text.dropWhile isCaseIgnorable with
  | [] => false
  | c :: _ => isCased c

/-- A capital sigma ends a word when a cased character stands before it and none after it. What
stands before it is given in reverse. -/
def lowerSigma (before after : List Char) : Char :=
  if meetsCased before && !meetsCased after then 'ς' else 'σ'

def lowerAt (before : List Char) (c : Char) (after : List Char) : List Char :=
  if c = 'Σ' then [lowerSigma before after] else lowerChar c

/-- The lower case of the rest of a text, put behind `done`, which is held in reverse, as is what was
read before. -/
def lowerOnto (done before : List Char) : List Char → List Char
  | [] => done.reverse
  | c :: rest => lowerOnto ((lowerAt before c rest).reverse ++ done) (c :: before) rest

def lowerList (text : List Char) : List Char := lowerOnto [] [] text

def lower (text : String) : String := String.ofList (lowerList text.toList)

def lowerFrom (before : List Char) : List Char → List Char
  | [] => []
  | c :: rest => lowerAt before c rest ++ lowerFrom (c :: before) rest

theorem lower_onto_eq (done before text : List Char) :
    lowerOnto done before text = done.reverse ++ lowerFrom before text := by
  induction text generalizing done before with
  | nil => simp [lowerOnto, lowerFrom]
  | cons c rest ih => simp [lowerOnto, lowerFrom, ih]

theorem lower_list_eq (text : List Char) : lowerList text = lowerFrom [] text := by
  simp [lowerList, lower_onto_eq]

theorem meets_cased_cons (c : Char) (text : List Char) :
    meetsCased (c :: text) = if isCaseIgnorable c then meetsCased text else isCased c := by
  unfold meetsCased
  by_cases ignorable : isCaseIgnorable c = true
  · simp [ignorable]
  · simp [ignorable]

example : lowerList "ΟΔΥΣ".toList = "οδυς".toList := by decide +kernel
example : lowerList "ΟΔΥΣΑ".toList = "οδυσα".toList := by decide +kernel

end TicketRouting.Text
