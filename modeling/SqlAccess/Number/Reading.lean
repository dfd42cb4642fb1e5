import SqlAccess.Number.Ieee

/-!
# Numbers read from text

An integer is an optional sign and at least one digit, with nothing around it. A
floating-point number may also have a point, an exponent, or be the word for infinity or
for what is not a number. The first character that cannot stand decides the error.
-/

namespace SqlAccess.Number

/-- Why a text is no integer of the wanted range. -/
inductive IntegerError
  | empty
  | invalidDigit
  | tooLarge
  | tooSmall
  deriving Repr, DecidableEq

/-- The wording of an integer error. -/
def IntegerError.message : IntegerError → String
  | .empty => "cannot parse integer from empty string"
  | .invalidDigit => "invalid digit found in string"
  | .tooLarge => "number too large to fit in target type"
  | .tooSmall => "number too small to fit in target type"

/-- Adds digits to a value until one is no digit or the value leaves the range. -/
def readDigits (inRange : Int → Bool) (sign : Int) (overflow : IntegerError) :
    Int → List Char → Except IntegerError Int
  | value, [] => .ok value
  | value, c :: cs =>
    if !c.isDigit then .error .invalidDigit
    else
      let next := value * 10 + sign * (c.toNat - 48 : Nat)
      if inRange next then readDigits inRange sign overflow next cs else .error overflow

/-- Reads a signed integer between two bounds. -/
def readInt (low high : Int) (cs : List Char) : Except IntegerError Int :=
  let inRange (n : Int) : Bool := low ≤ n && n ≤ high
  match cs with
  | [] => .error .empty
  | '+' :: [] => .error .invalidDigit
  | '-' :: [] => .error .invalidDigit
  | '+' :: rest => readDigits inRange 1 .tooLarge 0 rest
  | '-' :: rest => readDigits inRange (-1) .tooSmall 0 rest
  | rest => readDigits inRange 1 .tooLarge 0 rest

/-- Why a text is no floating-point number. -/
inductive FloatError
  | empty
  | invalid
  deriving Repr, DecidableEq

/-- The wording of a floating-point error. -/
def FloatError.message : FloatError → String
  | .empty => "cannot parse float from empty string"
  | .invalid => "invalid float literal"

/-- The value of a list of decimal digits. -/
def digitsValue (cs : List Char) : Nat := cs.foldl (fun n c => n * 10 + (c.toNat - 48)) 0

/-- Reads an exponent: an optional sign and at least one digit, to the end. -/
def readExponent (cs : List Char) : Option Int :=
  let magnitude (ds : List Char) : Option Nat :=
    if ds.isEmpty || !ds.all Char.isDigit then none else some (digitsValue ds)
  match cs with
  | '-' :: ds => (magnitude ds).map fun n => -(n : Int)
  | '+' :: ds => (magnitude ds).map fun n => (n : Int)
  | ds => (magnitude ds).map fun n => (n : Int)

/-- A number in decimal notation without its sign: its digits and the power of ten. -/
def readDecimals (cs : List Char) : Option (Nat × Int) :=
  let whole := cs.takeWhile Char.isDigit
  let (places, rest) :=
    match cs.dropWhile Char.isDigit with
    | '.' :: more => (more.takeWhile Char.isDigit, more.dropWhile Char.isDigit)
    | more => ([], more)
  if whole.isEmpty && places.isEmpty then none
  else
    let digits := digitsValue (whole ++ places)
    match rest with
    | [] => some (digits, -(places.length : Int))
    | 'e' :: more => (readExponent more).map fun e => (digits, e - places.length)
    | 'E' :: more => (readExponent more).map fun e => (digits, e - places.length)
    | _ => none

/-- The word without sign nearest to `digits · 10 ^ power`. Powers at which every format
is at infinity or at zero are not computed. -/
def Layout.ofDecimals (l : Layout) (digits : Nat) (power : Int) : Nat :=
  let leading : Int := (Nat.toDigits 10 digits).length + power
  if digits = 0 then 0
  else if 400 < leading then l.infinity
  else if leading < -400 then 0
  else if 0 ≤ power then l.nearest (digits * Nat.pow 10 power.toNat) 1
  else l.nearest digits (Nat.pow 10 (-power).toNat)

/-- Reads a floating-point number without its sign. -/
def Layout.readUnsigned (l : Layout) (cs : List Char) : Option Nat :=
  match readDecimals cs with
  | some (digits, power) => some (l.ofDecimals digits power)
  | none =>
    let word := String.ofList (cs.map Char.toLower)
    if word == "inf" || word == "infinity" then some l.infinity
    else if word == "nan" then some l.quietNan
    else none

/-- Reads a floating-point number. -/
def Layout.read (l : Layout) (cs : List Char) : Except FloatError Nat :=
  let found (negative : Bool) (rest : List Char) : Except FloatError Nat :=
    match l.readUnsigned rest with
    | some word => .ok (l.withSign negative word)
    | none => .error .invalid
  match cs with
  | [] => .error .empty
  | '-' :: rest => found true rest
  | '+' :: rest => found false rest
  | rest => found false rest

/-- Reads a 64-bit floating-point number. -/
def Double.read (cs : List Char) : Except FloatError Double :=
  (Layout.double.read cs).map fun word => ⟨.ofNat word⟩

/-- Reads a 32-bit floating-point number. -/
def Single.read (cs : List Char) : Except FloatError Single :=
  (Layout.single.read cs).map fun word => ⟨.ofNat word⟩

end SqlAccess.Number
