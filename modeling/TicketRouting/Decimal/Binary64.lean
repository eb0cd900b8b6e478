/-!
The numbers of the binary64 format and their decimal text, in exact arithmetic. A positive number
of the format is held as `significand * 2 ^ exponent`.
-/
namespace TicketRouting

structure Binary64 where
  significand : Nat
  exponent : Int
deriving DecidableEq

namespace Binary64

/-- The fraction `above / below` rounded to a whole number, a half to the even neighbour. -/
def roundHalfEven (above below : Nat) : Nat :=
  let quotient := above / below
  let twice := 2 * (above % below)
  if twice < below || (twice == below && quotient % 2 == 0) then quotient else quotient + 1

/-- `value * base ^ power` as a fraction. -/
def scaled (value base : Nat) (power : Int) : Nat × Nat :=
  if 0 ≤ power then (value * Nat.pow base power.toNat, 1)
  else (value, Nat.pow base (-power).toNat)

def nearest (above below : Nat) : Option Binary64 :=
  let guess : Int := (above.log2 : Int) - below.log2 - 52
  let atLeast (power : Int) : Bool :=
    let (a, b) := scaled above 2 (-power)
    Nat.pow 2 52 * b * below ≤ a
  let power := max (-1074) (if atLeast guess then guess else guess - 1)
  let (a, b) := scaled above 2 (-power)
  let rounded := roundHalfEven a (b * below)
  let result : Binary64 :=
    if rounded = Nat.pow 2 53 then ⟨Nat.pow 2 52, power + 1⟩ else ⟨rounded, power⟩
  if result.exponent ≤ 971 then some result else none

def ofDecimal (digits : Nat) (power : Int) : Option Binary64 :=
  let size : Int := (Nat.toDigits 10 digits).length + power
  if digits = 0 || size < -330 then some ⟨0, -1074⟩
  else if 330 < size then none
  else
    let (above, below) := scaled digits 10 power
    nearest above below

/-- Whether `digits * 10 ^ power` is read as the number: it lies nearer to it than to its
neighbours, or halfway when the significand is even. -/
def readsBack (number : Binary64) (digits : Nat) (power : Int) : Bool :=
  let gapBelow := if number.significand = Nat.pow 2 52 && -1074 < number.exponent then 1 else 2
  let (a, b) := scaled digits 10 power
  let (c, d) := scaled 1 2 (number.exponent - 2)
  let decimal := a * d
  let low := (4 * number.significand - gapBelow) * c * b
  let high := (4 * number.significand + 2) * c * b
  if number.significand % 2 == 0 then low ≤ decimal && decimal ≤ high
  else low < decimal && decimal < high

/-- The distance of `digits * 10 ^ power` from the number, in a unit that depends on the power
alone. -/
def distance (number : Binary64) (digits : Nat) (power : Int) : Nat :=
  let (a, b) := scaled digits 10 power
  let (c, d) := scaled number.significand 2 number.exponent
  (a * d - c * b) + (c * b - a * d)

/-- The power of ten that the number reaches but not its tenfold. -/
def decimalPower (number : Binary64) : Int :=
  let (above, below) := scaled number.significand 2 number.exponent
  let reaches (power : Int) : Bool :=
    let (a, b) := scaled 1 10 power
    a * below ≤ above * b
  let guess : Int := ((above.log2 : Int) - below.log2 - 1) * 30103 / 100000 - 1
  if reaches (guess + 2) then guess + 2 else if reaches (guess + 1) then guess + 1 else guess

def shortestWith (number : Binary64) (count : Nat) : Option (Nat × Int) :=
  let power := number.decimalPower - count + 1
  let (c, d) := scaled number.significand 2 number.exponent
  let (a, b) := scaled 1 10 power
  let low := c * b / (d * a)
  match number.readsBack low power, number.readsBack (low + 1) power with
  | true, true =>
    if number.distance low power ≤ number.distance (low + 1) power then some (low, power)
    else some (low + 1, power)
  | true, false => some (low, power)
  | false, true => some (low + 1, power)
  | false, false => none

def shortest (number : Binary64) : Nat × Int :=
  ((List.range 17).findSome? fun n => number.shortestWith (n + 1)).getD (0, 0)

/-- The decimal text of the number. It is positional, with a point and at least one digit behind it, as
long as the point stands among the first sixteen digits or at most four zeros before them; otherwise
it has an exponent. -/
def text (number : Binary64) : String :=
  if number.significand = 0 then "0.0"
  else
    let (digits, power) := number.shortest
    let shown := Nat.toDigits 10 digits
    let point : Int := shown.length + power
    let chars : List Char :=
      if 0 < point ∧ point ≤ 16 then
        let whole := (shown ++ List.replicate power.toNat '0').take point.toNat
        let rest := shown.drop point.toNat
        whole ++ '.' :: if rest.isEmpty then ['0'] else rest
      else if -5 < point ∧ point ≤ 0 then
        '0' :: '.' :: List.replicate (-point).toNat '0' ++ shown
      else
        let rest := shown.drop 1
        shown.take 1 ++ (if rest.isEmpty then [] else '.' :: rest) ++
          'e' :: (toString (point - 1)).toList
    String.ofList chars

end Binary64

example : (Binary64.ofDecimal 15 (-1)).map Binary64.text = some "1.5" := by decide +kernel
example : (Binary64.ofDecimal 1 (-1)).map Binary64.text = some "0.1" := by decide +kernel
example : (Binary64.ofDecimal 5 (-324)).map (·.significand) = some 1 := by decide +kernel
example : (Binary64.ofDecimal 18446744073709551616 0).map Binary64.text =
    some "1.8446744073709552e19" := by decide +kernel

end TicketRouting
