import SqlAccess.Number.Decimal
import SqlAccess.Text.Bytes

/-!
# The binary form of numbers on a PostgreSQL connection

Integers are big-endian two's complement of a fixed width. A numeric is a count of digits to base
10000, the weight of the first, a sign, the number of decimal places, and the digits.
-/

namespace SqlAccess.Wire

open Number

/-- The lowest bytes of a number, the highest of them first. -/
def bigEndian : Nat → Nat → List UInt8
  | 0, _ => []
  | width + 1, n => bigEndian width (n / 256) ++ [.ofNat (n % 256)]

/-- An integer in two's complement. -/
def integer (width : Nat) (n : Int) : List UInt8 :=
  bigEndian width (n % (Nat.pow 256 width : Nat)).toNat

/-- The number that bytes stand for, the highest first. -/
def natural (bytes : List UInt8) : Nat := bytes.foldl (fun n b => n * 256 + b.toNat) 0

/-- The integer that bytes stand for in two's complement. -/
def signed (bytes : List UInt8) : Int :=
  let n : Int := natural bytes
  let range : Int := (Nat.pow 256 bytes.length : Nat)
  if 2 * n < range then n else n - range

/-- Digits to base 10000, the highest first. -/
def tenThousands : Nat → Nat → List Nat → List Nat
  | 0, _, digits => digits
  | fuel + 1, n, digits =>
    if n = 0 then digits else tenThousands fuel (n / 10000) (n % 10000 :: digits)

/-- Drops zeros at the end of a list. -/
def dropZeros (digits : List Nat) : List Nat := (digits.reverse.dropWhile (· = 0)).reverse

/-- The binary form of a decimal number. Places are filled up to whole digits to base 10000,
and digits of zero after the point are left out unless there are none before it. -/
def numeric (d : Decimal) : List UInt8 :=
  if d.isZero then bigEndian 2 0 ++ bigEndian 2 0 ++ bigEndian 2 0 ++ bigEndian 2 0
  else
    let groups := (d.scale + 3) / 4
    let digits := tenThousands 16 (d.mantissa * Nat.pow 10 (groups * 4 - d.scale)) []
    let weight : Int := (digits.length : Int) - groups - 1
    let kept :=
      if 0 ≤ weight then
        digits.take (weight + 1).toNat ++ dropZeros (digits.drop (weight + 1).toNat)
      else digits
    bigEndian 2 kept.length ++ integer 2 weight ++
      bigEndian 2 (if d.negative then 0x4000 else 0) ++ bigEndian 2 d.scale ++
      kept.flatMap (bigEndian 2)

/-- Takes a number of two-byte words from bytes. -/
def words : Nat → List UInt8 → Option (List Nat)
  | 0, _ => some []
  | n + 1, a :: b :: rest => (words n rest).map fun ws => (a.toNat * 256 + b.toNat) :: ws
  | _ + 1, _ => none

/-- A mantissa with places that fits 96 bits, by giving up places where it is too long. -/
def fitMantissa : Nat → Nat → Nat → Nat × Nat
  | 0, m, s => (m, s)
  | fuel + 1, m, s =>
    if Decimal.mantissaBound ≤ m ∧ 0 < s then
      fitMantissa fuel (Layout.roundHalfEven m 10) (s - 1)
    else (m, s)

/-- A mantissa with more places, as long as it fits 96 bits. -/
def addPlaces : Nat → Nat → Nat → Nat × Nat
  | 0, m, s => (m, s)
  | n + 1, m, s =>
    if m * 10 < Decimal.mantissaBound ∧ s < 28 then addPlaces n (m * 10) (s + 1) else (m, s)

/-- The decimal number of digits to base 10000 after a weight, with a number of places. -/
def ofDigits (negative : Bool) (weight : Int) (places : Nat) (digits : List Nat) : Option Decimal :=
  let whole := (weight + 1).toNat
  let filled := digits.take whole ++ List.replicate (whole - digits.length) 0
  let leading := List.replicate (-(weight + 1)).toNat 0
  let fraction := (leading ++ digits.drop whole).take 7
  let next := ((leading ++ digits.drop whole).drop 7).head?.getD 0
  let value (ds : List Nat) : Nat := ds.foldl (fun n d => n * 10000 + d) 0
  if Decimal.mantissaBound ≤ value filled then none
  else
    let sum := value (filled ++ fraction) + (if 5000 ≤ next then 1 else 0)
    let (m, s) := fitMantissa 28 sum (fraction.length * 4)
    if places < s then
      let unit := Nat.pow 10 (s - places)
      Decimal.ofParts? negative ((2 * m + unit) / (2 * unit)) places
    else
      let (m, s) := addPlaces (places - s) m s
      Decimal.ofParts? negative m s

/-- The decimal number that a binary form stands for. -/
def readNumeric (bytes : List UInt8) : Option Decimal := do
  let header ← words 4 bytes
  match header with
  | [count, weight, sign, places] =>
    let digits ← words count (bytes.drop 8)
    let weight : Int := if weight < 0x8000 then weight else (weight : Int) - 0x10000
    ofDigits (sign == 0x4000) weight places digits
  | _ => none

end SqlAccess.Wire
