/-!
White space, case and digits of ASCII, and lists in one text. White space is the property
White_Space of the Unicode standard, not the few ASCII characters of `Char.isWhitespace`. In a list
commas stand between the items; white space around an item does not count, and an item of white
space only is no item.
-/
namespace TicketRouting.Text

def inRanges : List (Nat × Nat) → Nat → Bool
  | [], _ => false
  | (first, last) :: rest, point => first ≤ point && (point ≤ last || inRanges rest point)

def blankRanges : List (Nat × Nat) := [
  (0x9, 0xD), (0x20, 0x20), (0x85, 0x85), (0xA0, 0xA0), (0x1680, 0x1680), (0x2000, 0x200A),
  (0x2028, 0x2029), (0x202F, 0x202F), (0x205F, 0x205F), (0x3000, 0x3000)]

def isBlank (c : Char) : Bool := inRanges blankRanges c.toNat

def trimStart (text : List Char) : List Char := text.dropWhile isBlank

def trimEnd (text : List Char) : List Char := (text.reverse.dropWhile isBlank).reverse

def trim (text : List Char) : List Char := trimEnd (trimStart text)

def trimmed (text : String) : String := String.ofList (trim text.toList)

example : isBlank '\u00a0' = true ∧ isBlank '\u200b' = false := by decide

def asciiLower (text : String) : String := String.ofList (text.toList.map Char.toLower)

def sameName (left right : String) : Bool := asciiLower left == asciiLower right

def hexDigit? (c : Char) : Option Nat :=
  if '0' ≤ c ∧ c ≤ '9' then some (c.toNat - 48)
  else if 'a' ≤ c ∧ c ≤ 'f' then some (c.toNat - 87)
  else if 'A' ≤ c ∧ c ≤ 'F' then some (c.toNat - 55)
  else none

def hexValue? (digits : List Char) : Option Nat :=
  digits.foldlM (fun sum c => (hexDigit? c).map (sum * 16 + ·)) 0

def scalar? (point : Nat) : Option Char :=
  if h : point.isValidChar then some (Char.ofNatAux point h) else none

def digitRun (text : List Char) : List Char × List Char :=
  (text.takeWhile Char.isDigit, text.dropWhile Char.isDigit)

def digitsValue (digits : List Char) : Nat :=
  digits.foldl (fun sum c => sum * 10 + (c.toNat - 48)) 0

def occursIn (part : List Char) : List Char → Bool
  | [] => part.isEmpty
  | c :: rest => part.isPrefixOf (c :: rest) || occursIn part rest

theorem occurs_in_iff (part text : List Char) : occursIn part text = true ↔ part <:+: text := by
  induction text with
  | nil => simp [occursIn]
  | cons c rest ih => simp [occursIn, ih, List.infix_cons_iff]

/-- The stretches of a text between its commas; a text without a comma is one stretch. -/
def stretches (text : List Char) : List (List Char) :=
  let (first, rest) := text.foldr
    (fun c (current, later) => if c = ',' then ([], current :: later) else (c :: current, later))
    ([], [])
  first :: rest

def items (text : List Char) : List (List Char) :=
  ((stretches text).map trim).filter fun item => !item.isEmpty

def splitItems (text : String) : List String := (items text.toList).map String.ofList

example : splitItems " a,, b c ," = ["a", "b c"] := by decide +kernel

end TicketRouting.Text
