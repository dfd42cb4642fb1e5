import SqlAccess.Text.Blank
import SqlAccess.Text.Bytes

/-!
# Network addresses

The written forms of numeric addresses: four decimal numbers with points between them, or eight
groups of hexadecimal digits with colons, where one run of zero groups may be left out and the last
two groups may stand in the decimal form.
-/

namespace SqlAccess.Address

/-- Whether characters are a number below 256, without needless zeros. -/
def isOctet (cs : List Char) : Bool :=
  !cs.isEmpty && cs.length ≤ 3 && cs.all Char.isDigit && (cs.length = 1 || cs.head? ≠ some '0') &&
    cs.foldl (fun n c => n * 10 + (c.toNat - 48)) 0 < 256

/-- Whether characters are an address of four numbers. -/
def isFourPart (cs : List Char) : Bool :=
  let parts := Text.pieces '.' cs
  parts.length = 4 && parts.all isOctet

/-- Whether characters are a group of hexadecimal digits. -/
def isGroup (cs : List Char) : Bool :=
  !cs.isEmpty && cs.length ≤ 4 && cs.all fun c => (Text.hexValue c).isSome

/-- The number of groups that pieces make up; the decimal form counts as two and may only
stand last. -/
def groupCount (decimalLast : Bool) : List (List Char) → Option Nat
  | [] => some 0
  | [piece] =>
    if isGroup piece then some 1
    else if decimalLast && isFourPart piece then some 2
    else none
  | piece :: rest => if isGroup piece then (groupCount decimalLast rest).map (· + 1) else none

/-- What stands before and after the first two colons in a row. -/
def cutAtGap : List Char → Option (List Char × List Char)
  | ':' :: ':' :: rest => some ([], rest)
  | c :: rest => (cutAtGap rest).map fun p => (c :: p.1, p.2)
  | [] => none

/-- The pieces between colons; no characters have no pieces. -/
def groups (cs : List Char) : List (List Char) := if cs.isEmpty then [] else Text.pieces ':' cs

/-- Whether characters are an address of eight groups. -/
def isEightGroup (cs : List Char) : Bool :=
  match cutAtGap cs with
  | none => groupCount true (groups cs) = some 8
  | some (front, back) =>
    match groupCount false (groups front), groupCount true (groups back) with
    | some n, some m => n + m ≤ 7
    | _, _ => false

/-- Whether characters are a numeric address. -/
def isNumeric (cs : List Char) : Bool := isFourPart cs || isEightGroup cs

end SqlAccess.Address
