import SqlAccess.Number.Ieee

/-!
# The fewest digits that read back

Among the decimal numbers that round to a floating-point number, `shortest` takes one
with the fewest digits and, of those, the one nearest to the number, the larger on a tie.
Each count of digits gives a grid of decimal numbers, and only the two neighbours of the
number on the grid need testing: if any point of the grid rounds to it, one of them does.
Two layouts of the digits follow: `positional` never writes an exponent, and
`compact` writes one outside the range where the point stays near the digits.
-/

namespace SqlAccess.Number

/-- A decimal number, `digits · 10 ^ power`. -/
structure Decimals where
  digits : Nat
  power : Int
  deriving Repr, DecidableEq

/-- The ratio `n · b ^ e` as numerator and denominator. -/
def scaled (n b : Nat) (e : Int) : Nat × Nat :=
  if 0 ≤ e then (n * Nat.pow b e.toNat, 1) else (n, Nat.pow b (-e).toNat)

/-- The numbers that round to one floating-point number, on a scale of quarters of its
last place: from `value - below` to `value + 2`, each times `num / den`. -/
structure Interval where
  value : Nat
  below : Nat
  closed : Bool
  num : Nat
  den : Nat

/-- The interval of the numbers that round to `mantissa · 2 ^ power`. Below a power of
two the neighbours stand twice as close. -/
def Layout.interval (l : Layout) (mantissa : Nat) (power : Int) : Interval :=
  let (num, den) := scaled 1 2 (power - 2)
  { value := 4 * mantissa
    below := if mantissa = Nat.pow 2 l.fraction then 1 else 2
    closed := mantissa % 2 = 0
    num, den }

namespace Interval

/-- Whether `digits · 10 ^ power` lies in the interval. -/
def contains (i : Interval) (digits : Nat) (power : Int) : Bool :=
  let (dn, dd) := scaled digits 10 power
  let low := (i.value - i.below) * i.num * dd
  let high := (i.value + 2) * i.num * dd
  let point := dn * i.den
  if i.closed then low ≤ point && point ≤ high else low < point && point < high

/-- The largest grid point of a power of ten at or below the value. -/
def floorOn (i : Interval) (power : Int) : Nat :=
  let (tn, td) := scaled 1 10 power
  i.value * i.num * td / (i.den * tn)

/-- Whether the grid point above the value is at least as near to it as the one below. -/
def aboveIsNearer (i : Interval) (floor : Nat) (power : Int) : Bool :=
  let (tn, td) := scaled 1 10 power
  (2 * floor + 1) * tn * i.den ≤ 2 * (i.value * i.num) * td

/-- The point of a grid that rounds to the number, the nearer of two. -/
def pointOn (i : Interval) (power : Int) : Option Nat :=
  let below := i.floorOn power
  match i.contains below power, i.contains (below + 1) power with
  | true, true => some (if i.aboveIsNearer below power then below + 1 else below)
  | true, false => some below
  | false, true => some (below + 1)
  | false, false => none

end Interval

/-- The number of decimal digits of a natural number. -/
def digitCount (n : Nat) : Nat := (Nat.toDigits 10 n).length

/-- The power of ten of the leading digit of a positive ratio. -/
def floorLog10 (num den : Nat) : Int :=
  if den ≤ num then (digitCount (num / den) : Int) - 1
  else - (digitCount ((den - 1) / num) : Int)

/-- Removes zeros at the right of the digits. -/
def Decimals.normalize (d : Decimals) : Nat → Decimals
  | 0 => d
  | fuel + 1 =>
    if d.digits ≠ 0 ∧ d.digits % 10 = 0 then
      Decimals.normalize ⟨d.digits / 10, d.power + 1⟩ fuel
    else d

/-- The first grid, from `count` digits on, that has a point in the interval. -/
def Interval.search (i : Interval) (leading : Int) (count : Nat) : Nat → Decimals
  | 0 => ⟨i.floorOn (leading + 1 - count), leading + 1 - count⟩
  | fuel + 1 =>
    match i.pointOn (leading + 1 - count) with
    | some digits => ⟨digits, leading + 1 - count⟩
    | none => i.search leading (count + 1) fuel

/-- The shortest decimal number that reads back as `mantissa · 2 ^ power`. -/
def Layout.shortest (l : Layout) (mantissa : Nat) (power : Int) : Decimals :=
  if mantissa = 0 then ⟨0, 0⟩
  else
    let i := l.interval mantissa power
    let (num, den) := scaled mantissa 2 power
    (i.search (floorLog10 num den) 1 17).normalize 20

/-- Digits with a point and zeros where they are needed, and never an exponent. -/
def Decimals.positional (d : Decimals) : String :=
  let digits := Nat.toDigits 10 d.digits
  let count := digits.length
  if 0 ≤ d.power then String.ofList (digits ++ List.replicate d.power.toNat '0')
  else
    let places := (-d.power).toNat
    if places < count then
      String.ofList (digits.take (count - places) ++ '.' :: digits.drop (count - places))
    else String.ofList ('0' :: '.' :: List.replicate (places - count) '0' ++ digits)

/-- Digits with a point and at least one place after it, or with an exponent when the point
would stand more than sixteen places right or five places left of the leading digit. -/
def Decimals.compact (d : Decimals) : String :=
  let digits := Nat.toDigits 10 d.digits
  let count := digits.length
  let point : Int := count + d.power
  if 0 ≤ d.power ∧ point ≤ 16 then d.positional ++ ".0"
  else if -5 < point ∧ point ≤ 16 then d.positional
  else
    let head := digits.take 1
    let tail := digits.drop 1
    String.ofList (head ++ (if tail.isEmpty then [] else '.' :: tail)) ++ "e" ++
      toString (point - 1)

/-- The text of a datum under a layout of digits, with `-` before negative numbers. -/
def Layout.text (l : Layout) (write : Decimals → String) : Datum → String
  | .nan _ => "NaN"
  | .infinite negative => if negative then "-inf" else "inf"
  | .finite negative mantissa power =>
    (if negative then "-" else "") ++ write (l.shortest mantissa power)

/-- The shortest text of a 32-bit number, without an exponent. -/
def Single.text (x : Single) : String := Layout.single.text Decimals.positional x.datum

/-- The shortest text of a 64-bit number, without an exponent. -/
def Double.text (x : Double) : String := Layout.double.text Decimals.positional x.datum

/-- The shortest text of a 64-bit number in the form that data formats use. -/
def Double.compactText (x : Double) : String := Layout.double.text Decimals.compact x.datum

end SqlAccess.Number
