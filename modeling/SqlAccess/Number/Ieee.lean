/-!
# Binary floating point, by its words

A floating-point number is the word that stores it: one sign bit, an exponent field and
a fraction field. `decode` says which number a word stands for, and `nearest` writes
the word nearest to a ratio, a tie going to the even word. All arithmetic
is on natural numbers and integers, so every statement about it is about exact values.
-/

namespace SqlAccess.Number

/-- The widths of the fraction and exponent fields of an interchange format. -/
structure Layout where
  /-- Bits of the fraction field. -/
  fraction : Nat
  /-- Bits of the exponent field. -/
  exponent : Nat
  deriving Repr, DecidableEq

/-- What a floating-point word stands for; a finite one is `± mantissa · 2 ^ power`. -/
inductive Datum
  | nan (negative : Bool)
  | infinite (negative : Bool)
  | finite (negative : Bool) (mantissa : Nat) (power : Int)
  deriving Repr, DecidableEq

namespace Layout

/-- The 32-bit interchange format. -/
def single : Layout := ⟨23, 8⟩

/-- The 64-bit interchange format. -/
def double : Layout := ⟨52, 11⟩

/-- The exponent field of infinities and of what is not a number. -/
def maxExponent (l : Layout) : Nat := Nat.pow 2 l.exponent - 1

/-- The power of two of the smallest positive number. -/
def minPower (l : Layout) : Int := 2 - (Nat.pow 2 (l.exponent - 1) : Nat) - l.fraction

/-- The sign bit of a word, as the number it adds. -/
def signBit (l : Layout) : Nat := Nat.pow 2 (l.fraction + l.exponent)

/-- The number a word stands for. -/
def decode (l : Layout) (word : Nat) : Datum :=
  let negative : Bool := word / l.signBit % 2 == 1
  let e := word / Nat.pow 2 l.fraction % Nat.pow 2 l.exponent
  let f := word % Nat.pow 2 l.fraction
  if e = l.maxExponent then
    if f = 0 then .infinite negative else .nan negative
  else if e = 0 then .finite negative f l.minPower
  else .finite negative (Nat.pow 2 l.fraction + f) (l.minPower + (e - 1 : Nat))

/-- The word of an infinity without its sign. -/
def infinity (l : Layout) : Nat := l.maxExponent * Nat.pow 2 l.fraction

/-- The word of a quiet not-a-number without its sign. -/
def quietNan (l : Layout) : Nat := l.infinity + Nat.pow 2 (l.fraction - 1)

/-- A quotient rounded to the nearest natural number, a half to the even one. -/
def roundHalfEven (num den : Nat) : Nat :=
  let q := num / den
  let twice := 2 * (num % den)
  if twice < den then q
  else if twice = den then (if q % 2 = 0 then q else q + 1)
  else q + 1

/-- The exponent of the power of two at or just below a positive ratio. -/
def floorLog2 (num den : Nat) : Int :=
  let d : Int := (Nat.log2 num : Int) - Nat.log2 den
  let reached : Bool :=
    if 0 ≤ d then den * Nat.pow 2 d.toNat ≤ num else den ≤ num * Nat.pow 2 (-d).toNat
  if reached then d else d - 1

/-- The word without sign nearest to the ratio `num / den`. -/
def nearest (l : Layout) (num den : Nat) : Nat :=
  if num = 0 then 0
  else
    let power := max l.minPower (floorLog2 num den - l.fraction)
    let mantissa :=
      if 0 ≤ power then roundHalfEven num (den * Nat.pow 2 power.toNat)
      else roundHalfEven (num * Nat.pow 2 (-power).toNat) den
    min l.infinity ((power - l.minPower).toNat * Nat.pow 2 l.fraction + mantissa)

/-- The number of a format nearest to a ratio, as a ratio again; `none` beyond the format. -/
def roundRatio (l : Layout) (num den : Nat) : Option (Nat × Nat) :=
  match l.decode (l.nearest num den) with
  | .finite _ mantissa power =>
    some (if 0 ≤ power then (mantissa * Nat.pow 2 power.toNat, 1)
      else (mantissa, Nat.pow 2 (-power).toNat))
  | _ => none

/-- A word without sign, given one. -/
def withSign (l : Layout) (negative : Bool) (word : Nat) : Nat :=
  if negative then l.signBit + word else word

/-- The word of a datum in a format, the nearest one where the format has no such number. -/
def encode (l : Layout) : Datum → Nat
  | .nan negative => l.withSign negative l.quietNan
  | .infinite negative => l.withSign negative l.infinity
  | .finite negative mantissa power =>
    l.withSign negative
      (if 0 ≤ power then l.nearest (mantissa * Nat.pow 2 power.toNat) 1
       else l.nearest mantissa (Nat.pow 2 (-power).toNat))

end Layout

/-- A 32-bit floating-point number. -/
structure Single where
  /-- The word that stores it. -/
  bits : UInt32
  deriving Repr, DecidableEq, Inhabited

/-- A 64-bit floating-point number. -/
structure Double where
  /-- The word that stores it. -/
  bits : UInt64
  deriving Repr, DecidableEq, Inhabited

namespace Single

/-- The number it stands for. -/
def datum (x : Single) : Datum := Layout.single.decode x.bits.toNat

/-- The 32-bit number nearest to a datum. -/
def ofDatum (d : Datum) : Single := ⟨.ofNat (Layout.single.encode d)⟩

/-- Whether it is neither infinite nor not a number. -/
def isFinite (x : Single) : Bool :=
  match x.datum with
  | .finite .. => true
  | _ => false

end Single

namespace Double

/-- The number it stands for. -/
def datum (x : Double) : Datum := Layout.double.decode x.bits.toNat

/-- The 64-bit number nearest to a datum. -/
def ofDatum (d : Datum) : Double := ⟨.ofNat (Layout.double.encode d)⟩

/-- The 64-bit number nearest to an integer. -/
def ofInt (n : Int) : Double := ofDatum (.finite (n < 0) n.natAbs 0)

/-- The 64-bit number nearest to a ratio, with a sign of its own. -/
def ofRatio (negative : Bool) (num den : Nat) : Double :=
  ⟨.ofNat (Layout.double.withSign negative (Layout.double.nearest num den))⟩

/-- Whether it is neither infinite nor not a number. -/
def isFinite (x : Double) : Bool :=
  match x.datum with
  | .finite .. => true
  | _ => false

/-- The nearest 32-bit number. -/
def toSingle (x : Double) : Single := .ofDatum x.datum

end Double

/-- The 64-bit number with the same value. -/
def Single.toDouble (x : Single) : Double := .ofDatum x.datum

/-- The 32-bit number nearest to an integer. -/
def Single.ofInt (n : Int) : Single := ofDatum (.finite (n < 0) n.natAbs 0)

end SqlAccess.Number
