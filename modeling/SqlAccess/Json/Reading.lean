import SqlAccess.Json.Basic
import SqlAccess.Number.Reading
import SqlAccess.Text.Bytes

/-!
# JSON read from text

Reading has two steps. The grammar takes a text apart into a `JsonText`, in which numbers and
strings are still as they were written and repeated names are still there. A `JsonText` then
becomes a value if each number is in range, each string is made of whole characters, and
arrays and objects are not nested too deep. A reader that skips a part of a text needs only the
first step.
-/

namespace SqlAccess

/-- A number as written. -/
structure NumberText where
  negative : Bool
  whole : List Char
  places : Option (List Char)
  exponent : Option (Bool × List Char)
  deriving Repr, DecidableEq

/-- A JSON text taken apart. A string with half a surrogate pair in it has no text. -/
inductive JsonText
  | null
  | bool (b : Bool)
  | number (n : NumberText)
  | string (s : Option String)
  | array (items : List JsonText)
  | object (members : List (Option String × JsonText))
  deriving Inhabited

namespace JsonText

/-- The blanks that may stand between tokens. -/
def isSpace (c : Char) : Bool := c = ' ' || c = '\n' || c = '\r' || c = '\t'

/-- Drops blanks. -/
def skipSpace (cs : List Char) : List Char := cs.dropWhile isSpace

/-- The value of four hexadecimal digits. -/
def hexFour (a b c d : Char) : Option Nat := do
  return ((← Text.hexValue a) * 16 + (← Text.hexValue b)) * 256 + (← Text.hexValue c) * 16 +
    (← Text.hexValue d)

/-- The code of four hexadecimal digits, and what follows them. -/
def readCode : List Char → Option (Nat × List Char)
  | a :: b :: c :: d :: rest => (hexFour a b c d).map fun code => (code, rest)
  | _ => none

/-- The unit of a code. The code of a leading surrogate makes one unit with a trailing one that
follows in an escape of its own; half of a pair is no character. -/
def ofCode (code : Nat) (rest : List Char) : Option Char × List Char :=
  if code < 0xD800 ∨ 0xE000 ≤ code then (some (Char.ofNat code), rest)
  else
    let second :=
      match rest with
      | '\\' :: 'u' :: rest => readCode rest
      | _ => none
    match second with
    | none => (none, rest)
    | some (low, after) =>
      if code < 0xDC00 ∧ 0xDC00 ≤ low ∧ low < 0xE000 then
        (some (Char.ofNat (0x10000 + (code - 0xD800) * 0x400 + (low - 0xDC00))), after)
      else (none, rest)

/-- The character that a letter stands for behind a backslash. -/
def unescaped? (c : Char) : Option Char :=
  if c = '"' ∨ c = '\\' ∨ c = '/' then some c
  else if c = 'b' then some (Char.ofNat 8)
  else if c = 'f' then some (Char.ofNat 12)
  else if c = 'n' then some '\n'
  else if c = 'r' then some '\r'
  else if c = 't' then some '\t'
  else none

/-- One unit of a string, and what follows it; a unit that is half of a surrogate pair is
`none`. -/
def readUnit : List Char → Option (Option Char × List Char)
  | [] => none
  | '\\' :: 'u' :: rest => (readCode rest).map fun (code, rest) => ofCode code rest
  | '\\' :: c :: rest => (unescaped? c).map fun c => (some c, rest)
  | c :: rest => if c.toNat < 32 then none else some (some c, rest)

/-- The units of a string up to its closing quote, and what follows it. -/
def stringUnits : Nat → List Char → Option (List (Option Char) × List Char)
  | 0, _ => none
  | _ + 1, '"' :: rest => some ([], rest)
  | fuel + 1, cs =>
    match readUnit cs with
    | none => none
    | some (unit, rest) => (stringUnits fuel rest).map fun (units, rest) => (unit :: units, rest)

/-- Reads the rest of a string after its opening quote. -/
def readString (cs : List Char) : Option (Option String × List Char) :=
  (stringUnits (cs.length + 1) cs).map fun (units, rest) =>
    ((units.mapM id).map String.ofList, rest)

/-- Reads a minus sign, if there is one. -/
def readSign : List Char → Bool × List Char
  | '-' :: rest => (true, rest)
  | cs => (false, cs)

/-- Reads digits, at least one. -/
def readDigits (cs : List Char) : Option (List Char × List Char) :=
  let ds := cs.takeWhile Char.isDigit
  if ds.isEmpty then none else some (ds, cs.drop ds.length)

/-- Reads the digits before the point; no other digit follows a leading zero. -/
def readWhole : List Char → Option (List Char × List Char)
  | '0' :: rest => if (rest.head?.map Char.isDigit).getD false then none else some (['0'], rest)
  | cs => readDigits cs

/-- Reads a point and the digits behind it, if there is one. -/
def readPlaces : List Char → Option (Option (List Char) × List Char)
  | '.' :: rest => (readDigits rest).map fun (ds, rest) => (some ds, rest)
  | cs => some (none, cs)

/-- Reads the digits of an exponent and whether they count downwards. -/
def readPower : List Char → Option ((Bool × List Char) × List Char)
  | '-' :: rest => (readDigits rest).map fun (ds, rest) => ((true, ds), rest)
  | '+' :: rest => (readDigits rest).map fun (ds, rest) => ((false, ds), rest)
  | rest => (readDigits rest).map fun (ds, rest) => ((false, ds), rest)

/-- Reads an exponent, if there is one. -/
def readExponent : List Char → Option (Option (Bool × List Char) × List Char)
  | 'e' :: rest => (readPower rest).map fun (power, rest) => (some power, rest)
  | 'E' :: rest => (readPower rest).map fun (power, rest) => (some power, rest)
  | cs => some (none, cs)

/-- Reads a number. -/
def readNumber (cs : List Char) : Option (NumberText × List Char) := do
  let (negative, cs) := readSign cs
  let (whole, cs) ← readWhole cs
  let (places, cs) ← readPlaces cs
  let (exponent, cs) ← readExponent cs
  return (⟨negative, whole, places, exponent⟩, cs)

mutual

/-- Reads one value. -/
def readValue : Nat → List Char → Option (JsonText × List Char)
  | 0, _ => none
  | fuel + 1, cs =>
    match skipSpace cs with
    | 'n' :: 'u' :: 'l' :: 'l' :: rest => some (.null, rest)
    | 't' :: 'r' :: 'u' :: 'e' :: rest => some (.bool true, rest)
    | 'f' :: 'a' :: 'l' :: 's' :: 'e' :: rest => some (.bool false, rest)
    | '"' :: rest => (readString rest).map fun (s, rest) => (.string s, rest)
    | '[' :: rest =>
      match skipSpace rest with
      | ']' :: rest => some (.array [], rest)
      | rest => (readItems fuel rest).map fun (items, rest) => (.array items, rest)
    | '{' :: rest =>
      match skipSpace rest with
      | '}' :: rest => some (.object [], rest)
      | rest => (readMembers fuel rest).map fun (members, rest) => (.object members, rest)
    | rest => (readNumber rest).map fun (n, rest) => (.number n, rest)

/-- Reads the items of an array that has at least one, and its closing bracket. -/
def readItems : Nat → List Char → Option (List JsonText × List Char)
  | 0, _ => none
  | fuel + 1, cs =>
    match readValue fuel cs with
    | none => none
    | some (v, rest) =>
      match skipSpace rest with
      | ',' :: rest => (readItems fuel rest).map fun (items, rest) => (v :: items, rest)
      | ']' :: rest => some ([v], rest)
      | _ => none

/-- Reads the members of an object that has at least one, and its closing brace. -/
def readMembers : Nat → List Char → Option (List (Option String × JsonText) × List Char)
  | 0, _ => none
  | fuel + 1, cs =>
    match skipSpace cs with
    | '"' :: rest =>
      match readString rest with
      | none => none
      | some (name, rest) =>
        match skipSpace rest with
        | ':' :: rest =>
          match readValue fuel rest with
          | none => none
          | some (v, rest) =>
            match skipSpace rest with
            | ',' :: rest =>
              (readMembers fuel rest).map fun (members, rest) => ((name, v) :: members, rest)
            | '}' :: rest => some ([(name, v)], rest)
            | _ => none
        | _ => none
    | _ => none

end

/-- Takes a whole text apart; nothing but blanks may follow the value. -/
def read (cs : List Char) : Option JsonText :=
  match readValue (cs.length + 1) cs with
  | some (v, rest) => if (skipSpace rest).isEmpty then some v else none
  | none => none

end JsonText

namespace NumberText

/-- The largest unsigned word. -/
def wordMax : Nat := UInt64.size - 1

/-- The leading digits that fit a word, and how many digits do not. -/
def leadingWord : Nat → List Char → Nat × Nat
  | n, [] => (n, 0)
  | n, c :: cs =>
    let next := n * 10 + (c.toNat - 48)
    if next ≤ wordMax then leadingWord next cs else (n, cs.length + 1)

/-- Places that fit a word after the digits before them, and how many were taken. -/
def leadingPlaces : Nat → Nat → List Char → Nat × Nat
  | n, taken, [] => (n, taken)
  | n, taken, c :: cs =>
    let next := n * 10 + (c.toNat - 48)
    if next ≤ wordMax then leadingPlaces next (taken + 1) cs else (n, taken)

/-- A word times a power of ten, each step rounded to a 64-bit floating-point number; `none` beyond
that range. Powers below -308 are reached in two steps. -/
def scaleWord (word : Nat) (power : Int) : Option (Nat × Nat) :=
  let l := Number.Layout.double
  let ten (e : Nat) : Nat × Nat := (l.roundRatio (Nat.pow 10 e) 1).getD (0, 1)
  let divided (v : Nat × Nat) (e : Nat) : Option (Nat × Nat) :=
    let (tn, td) := ten e
    l.roundRatio (v.1 * td) (v.2 * tn)
  match l.roundRatio word 1 with
  | none => none
  | some v =>
    if v.1 = 0 then some v
    else if 308 < power then none
    else if 0 ≤ power then
      let (tn, td) := ten power.toNat
      l.roundRatio (v.1 * tn) (v.2 * td)
    else if -308 ≤ power then divided v power.natAbs
    else
      match divided v 308 with
      | none => none
      | some w =>
        if w.1 = 0 then some w
        else if -616 ≤ power then divided w (power.natAbs - 308)
        else some (0, 1)

/-- The value of a written number; `none` when it is beyond every 64-bit number. -/
def value? (n : NumberText) : Option Json :=
  let (word, dropped) := leadingWord 0 n.whole
  let signed (v : Nat × Nat) : Json := .float (.ofRatio n.negative v.1 v.2)
  match n.places, n.exponent with
  | none, none =>
    if dropped = 0 ∧ !n.negative then some (.int word)
    else if dropped = 0 ∧ word ≠ 0 ∧ word ≤ 9223372036854775808 then some (.int (-(word : Int)))
    else (scaleWord word dropped).map signed
  | places, exponent =>
    let (word, taken) := leadingPlaces word 0 (places.getD [])
    let start : Int := (dropped : Int) - taken
    match exponent with
    | none => (scaleWord word start).map signed
    | some (down, digits) =>
      let e : Int := Number.digitsValue digits
      if 2147483648 ≤ e then
        if word ≠ 0 ∧ !down then none else some (signed (0, 1))
      else (scaleWord word (if down then start - e else start + e)).map signed

end NumberText

namespace JsonText

mutual

/-- The value of a text, when its numbers are in range, its strings whole, and its arrays and
objects nested at most `depth` deep. -/
def valueWithin (depth : Nat) : JsonText → Option Json
  | .null => some .null
  | .bool b => some (.bool b)
  | .number n => n.value?
  | .string s => s.map .string
  | .array items =>
    match depth with
    | 0 => none
    | depth + 1 => (itemsWithin depth items).map .array
  | .object members =>
    match depth with
    | 0 => none
    | depth + 1 => (membersWithin depth members).map Json.ofMembers

/-- The values of the items of an array. -/
def itemsWithin (depth : Nat) : List JsonText → Option (List Json)
  | [] => some []
  | v :: rest =>
    match valueWithin depth v, itemsWithin depth rest with
    | some v, some rest => some (v :: rest)
    | _, _ => none

/-- The values of the members of an object. -/
def membersWithin (depth : Nat) : List (Option String × JsonText) → Option (List (String × Json))
  | [] => some []
  | (name, v) :: rest =>
    match name, valueWithin depth v, membersWithin depth rest with
    | some name, some v, some rest => some ((name, v) :: rest)
    | _, _, _ => none

end

end JsonText

namespace Json

/-- How deep arrays and objects may be nested in a text. -/
def maxDepth : Nat := 127

/-- Reads a JSON text. -/
def read? (s : String) : Option Json :=
  (JsonText.read s.toList).bind (JsonText.valueWithin maxDepth)

end Json

end SqlAccess
