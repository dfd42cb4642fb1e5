import SqlAccess.Number.Reading

/-!
# Decimal numbers of 96 bits

A decimal number is a sign, a mantissa below 2 ^ 96 and a count of places of at most 28.
Two decimals with one value may differ in their places, and the text shows the
places, so `1.5` and `1.50` are kept apart. Zero carries no sign.
-/

namespace SqlAccess.Number

/-- The first number that is no mantissa: two to the power of ninety-six. -/
abbrev Decimal.mantissaBound : Nat := 79228162514264337593543950336

/-- A number `± mantissa / 10 ^ scale`. -/
structure Decimal where
  negative : Bool
  mantissa : Nat
  scale : Nat
  mantissa_lt : mantissa < Decimal.mantissaBound
  scale_le : scale ≤ 28
  deriving DecidableEq

namespace Decimal

instance : Inhabited Decimal := ⟨⟨false, 0, 0, by decide, by decide⟩⟩

/-- A decimal number from its parts, when they fit; zero loses its sign. -/
def ofParts? (negative : Bool) (mantissa scale : Nat) : Option Decimal :=
  if h : mantissa < mantissaBound ∧ scale ≤ 28 then
    some ⟨negative && mantissa != 0, mantissa, scale, h.1, h.2⟩
  else none

/-- The decimal number without places that equals an integer, when it fits. -/
def ofInt? (n : Int) : Option Decimal := ofParts? (n < 0) n.natAbs 0

/-- Every 64-bit integer is a decimal number. -/
def ofInt64 (n : Int64) : Decimal :=
  have h : n.toInt.natAbs < mantissaBound := by
    have lo := n.le_toInt
    have hi := n.toInt_lt
    unfold mantissaBound
    omega
  ⟨n.toInt < 0, n.toInt.natAbs, 0, h, by decide⟩

/-- Digits with a point before the last `scale` of them, and a zero before a bare point. -/
def withPoint (digits : List Char) (scale : Nat) : List Char :=
  if scale = 0 then digits
  else
    let padded := List.replicate (scale + 1 - digits.length) '0' ++ digits
    let whole := padded.length - scale
    padded.take whole ++ '.' :: padded.drop whole

/-- The text of a decimal number, with all its places. -/
def text (d : Decimal) : String :=
  (if d.negative then "-" else "") ++ String.ofList (withPoint (Nat.toDigits 10 d.mantissa) d.scale)

/-- Whether the part after the point is zero. -/
def isIntegral (d : Decimal) : Bool := d.mantissa % Nat.pow 10 d.scale == 0

/-- The integer part, cut toward zero. -/
def toInt (d : Decimal) : Int :=
  let whole : Int := (d.mantissa / Nat.pow 10 d.scale : Nat)
  if d.negative then -whole else whole

/-- The integer part of a number without a minus sign, when it fits a word. -/
def toUInt64? (d : Decimal) : Option UInt64 :=
  let whole := d.mantissa / Nat.pow 10 d.scale
  if d.negative || UInt64.size ≤ whole then none else some (.ofNat whole)

/-- Whether the number is zero. -/
def isZero (d : Decimal) : Bool := d.mantissa == 0

/-- Why a text is no decimal number. -/
inductive ReadError
  | empty
  | noDigits
  | leadingSeparator
  | twoPoints
  | unknownCharacter
  | tooManyDigits
  | roundedOverflow
  | badExponent
  | scaleTooLarge
  | outOfRange
  deriving Repr, DecidableEq

/-- The wording of a reading error. -/
def ReadError.message : ReadError → String
  | .empty => "Invalid decimal: empty"
  | .noDigits => "Invalid decimal: no digits found"
  | .leadingSeparator => "Invalid decimal: must start lead with a number"
  | .twoPoints => "Invalid decimal: two decimal points"
  | .unknownCharacter => "Invalid decimal: unknown character"
  | .tooManyDigits => "Invalid decimal: overflow from too many digits"
  | .roundedOverflow => "Invalid decimal: overflow from mantissa after rounding"
  | .badExponent => "Failed to parse"
  | .scaleTooLarge => "Scale exceeds the maximum precision allowed: 28"
  | .outOfRange => "Number exceeds maximum value that can be represented."

/-- Rounds at the digit that does not fit any more: a half goes away from zero, and a
mantissa that then leaves 96 bits gives up one place. -/
def roundAt (negative : Bool) (mantissa scale digit : Nat) : Except ReadError Decimal :=
  let made (mantissa scale : Nat) : Except ReadError Decimal :=
    match ofParts? negative mantissa scale with
    | some d => .ok d
    | none => .error .outOfRange
  if digit < 5 then made mantissa scale
  else if mantissa + 1 < mantissaBound then made (mantissa + 1) scale
  else if scale = 0 then .error .roundedOverflow
  else made ((mantissa + 5) / 10) (scale - 1)

/-- Reads digits, at most one point and separators. The digits after the first place that
does not fit are not looked at. -/
def readFrom (negative point found : Bool) (mantissa scale : Nat) :
    List Char → Except ReadError Decimal
  | [] =>
    if !found then .error .noDigits
    else
      match ofParts? negative mantissa scale with
      | some d => .ok d
      | none => .error .outOfRange
  | c :: cs =>
    if c.isDigit then
      let digit := c.toNat - 48
      let next := mantissa * 10 + digit
      if point then
        if 28 ≤ scale || mantissaBound ≤ next then roundAt negative mantissa scale digit
        else readFrom negative true true next (scale + 1) cs
      else if mantissaBound ≤ next then .error .tooManyDigits
      else readFrom negative false true next 0 cs
    else if c = '.' then
      if point then .error .twoPoints else readFrom negative true found mantissa scale cs
    else if c = '_' then
      if found then readFrom negative point true mantissa scale cs else .error .leadingSeparator
    else .error .unknownCharacter

/-- Reads a decimal number without an exponent. -/
def readPlain : List Char → Except ReadError Decimal
  | [] => .error .empty
  | '-' :: cs => readFrom true false false 0 0 cs
  | '+' :: cs => readFrom false false false 0 0 cs
  | cs => readFrom false false false 0 0 cs

/-- Drops zeros at the end of the places. -/
def normalizeParts : Nat → Nat → Nat × Nat
  | mantissa, 0 => (mantissa, 0)
  | mantissa, scale + 1 =>
    if mantissa % 10 = 0 then normalizeParts (mantissa / 10) scale else (mantissa, scale + 1)

/-- Moves the point of a decimal number by a power of ten. -/
def shift (d : Decimal) (exponent : Int) : Except ReadError Decimal :=
  let made (mantissa scale : Nat) : Except ReadError Decimal :=
    match ofParts? d.negative mantissa scale with
    | some r => .ok r
    | none => .error .outOfRange
  if 28 < exponent.natAbs && !(0 ≤ exponent && exponent ≤ d.scale) then .error .scaleTooLarge
  else if exponent < 0 then
    let scale := d.scale + exponent.natAbs
    if scale ≤ 28 then made d.mantissa scale
    else made (Layout.roundHalfEven d.mantissa (Nat.pow 10 (scale - 28))) 28
  else if exponent.toNat ≤ d.scale then made d.mantissa (d.scale - exponent.toNat)
  else
    let (mantissa, scale) := normalizeParts (d.mantissa * Nat.pow 10 (exponent.toNat - d.scale)) 0
    made mantissa scale

/-- Reads a decimal number, in plain notation or with a power of ten after `e`. -/
def read (cs : List Char) : Except ReadError Decimal :=
  let isMark (c : Char) : Bool := c = 'e' || c = 'E'
  match cs.dropWhile (fun c => !isMark c) with
  | [] => readPlain cs
  | _ :: power =>
    match readPlain (cs.takeWhile fun c => !isMark c) with
    | .error e => .error e
    | .ok base =>
      match readExponent power with
      | none => .error .badExponent
      | some exponent => base.shift exponent

/-- The floating-point number of a decimal. Whole part and places are rounded on their own,
added, and the sum is rounded once more to the places of the decimal. -/
def toDouble (d : Decimal) : Double :=
  let unit := Nat.pow 10 d.scale
  let rounded (num den : Nat) : Nat × Nat := (Layout.double.roundRatio num den).getD (0, 1)
  let (fn, fd) := rounded (d.mantissa % unit) 1
  let (un, ud) := rounded unit 1
  let (pn, pd) := rounded (fn * ud) (fd * un)
  let (wn, wd) := rounded (d.mantissa / unit) 1
  if d.scale = 0 || pn = 0 then .ofRatio d.negative wn wd
  else
    let (sn, sd) := rounded (wn * pd + pn * wd) (wd * pd)
    let (mn, md) := rounded (sn * un) (sd * ud)
    let whole := (2 * mn + md) / (2 * md)
    .ofRatio d.negative (whole * ud) un

/-- A mantissa with the powers of five and ten that are still to be applied to it. -/
structure Pending where
  mantissa : Nat
  five : Int
  ten : Int

/-- Takes powers of five into the mantissa while it stays below 2 ^ 96, and halves it
otherwise. -/
def Pending.takeFives : Nat → Pending → Pending
  | 0, p => p
  | n + 1, p =>
    if p.mantissa % 2 = 0 || mantissaBound ≤ p.mantissa * 5 then
      takeFives n ⟨p.mantissa / 2, p.five - 1, p.ten + 1⟩
    else takeFives n ⟨p.mantissa * 5, p.five - 1, p.ten⟩

/-- Takes powers of one fifth into the mantissa, by doubling while there is room. -/
def Pending.dropFives : Nat → Pending → Pending
  | 0, p => p
  | n + 1, p =>
    if p.mantissa * 2 < mantissaBound then dropFives n ⟨p.mantissa * 2, p.five + 1, p.ten - 1⟩
    else dropFives n ⟨p.mantissa / 5, p.five + 1, p.ten⟩

/-- A quotient by ten with a half going up. -/
def tenth (n : Nat) : Nat := if 5 ≤ n % 10 then n / 10 + 1 else n / 10

/-- Removes places beyond the twenty-eighth; a mantissa that vanishes leaves zero. -/
def dropPlaces : Nat → Nat → Int → Nat × Int
  | 0, m, e => (m, e)
  | n + 1, m, e =>
    if e < -28 then
      if m / 10 = 0 then (0, 0) else dropPlaces n (tenth m) (e + 1)
    else (m, e)

/-- Removes the places that a 64-bit floating-point number does not hold for certain. -/
def keepCertain : Nat → Nat → Int → Nat × Int
  | 0, m, e => (m, e)
  | n + 1, m, e => if e < 0 ∧ 4503599627370496 ≤ m then keepCertain n (tenth m) (e + 1) else (m, e)

/-- The decimal number of a finite floating-point number, with about fifteen digits. -/
def ofDouble? (x : Double) : Option Decimal :=
  match x.datum with
  | .finite negative mantissa power =>
    if mantissa = 0 then ofParts? negative 0 0
    else
      let start : Pending := ⟨mantissa, -power, power⟩
      let p :=
        if power < 0 then start.takeFives power.natAbs else start.dropFives power.natAbs
      if 0 < p.ten then ofParts? negative (p.mantissa * Nat.pow 10 p.ten.toNat) 0
      else
        let (m, e) := dropPlaces p.ten.natAbs p.mantissa p.ten
        let (m, e) := keepCertain 40 m e
        let (m, scale) := normalizeParts m (-e).toNat
        ofParts? negative m scale
  | _ => none

end Decimal

end SqlAccess.Number
