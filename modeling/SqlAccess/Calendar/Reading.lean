import SqlAccess.Calendar.Basic
import SqlAccess.Text.Blank

/-!
# Timestamps read from text

A timestamp is a date, and a time may follow it. Numbers may have blanks before them and fewer
digits than their width; a year with a sign may have more. A fraction of a second has at least one
digit, and digits after the ninth are dropped. Second 60 is the leap second after second 59.
-/

namespace SqlAccess.Calendar

open SqlAccess.Text (isBlank)

/-- A number of at least one and at most `width` digits, after blanks. -/
def readNumber (width : Nat) (cs : List Char) : Option (Nat × List Char) :=
  let cs := cs.dropWhile isBlank
  let digits := (cs.take width).takeWhile Char.isDigit
  if digits.isEmpty then none
  else some (digits.foldl (fun n c => n * 10 + (c.toNat - 48)) 0, cs.drop digits.length)

/-- A year: four digits at most, or a sign and any number of them. -/
def readYear (cs : List Char) : Option (Int × List Char) :=
  let long (rest : List Char) : Option (Nat × List Char) :=
    if (rest.head?.map Char.isDigit).getD false then readNumber rest.length rest else none
  match cs.dropWhile isBlank with
  | '-' :: rest => (long rest).map fun (n, rest) => (-(n : Int), rest)
  | '+' :: rest => (long rest).map fun (n, rest) => ((n : Int), rest)
  | rest => (readNumber 4 rest).map fun (n, rest) => ((n : Int), rest)

/-- What follows a character that has to come first. -/
def after (c : Char) : List Char → Option (List Char)
  | [] => none
  | d :: rest => if c = d then some rest else none

/-- A date: year, month and day with hyphens between them. -/
def readDate (cs : List Char) : Option (Date × List Char) := do
  let (year, cs) ← readYear cs
  let (month, cs) ← readNumber 2 (← after '-' cs)
  let (day, cs) ← readNumber 2 (← after '-' cs)
  let date ← Date.ofParts? year month day
  return (date, cs)

/-- The nanoseconds of a fraction of a second, where there is one. -/
def readFraction : List Char → Option (Nat × List Char)
  | '.' :: rest =>
    let digits := (rest.take 9).takeWhile Char.isDigit
    if digits.isEmpty then none
    else
      let n := digits.foldl (fun n c => n * 10 + (c.toNat - 48)) 0
      some (n * Nat.pow 10 (9 - digits.length), rest.dropWhile Char.isDigit)
  | cs => some (0, cs)

/-- A time of day: hour, minute and second with colons between them, and a fraction. -/
def readTime (cs : List Char) : Option (Time × List Char) := do
  let (hour, cs) ← readNumber 2 cs
  let (minute, cs) ← readNumber 2 (← after ':' cs)
  let (second, cs) ← readNumber 2 (← after ':' cs)
  let (nanos, cs) ← readFraction cs
  let time ←
    if second = 60 then Time.ofParts? hour minute 59 (1000000000 + nanos)
    else Time.ofParts? hour minute second nanos
  return (time, cs)

/-- A timestamp that takes the whole text: a date and a time, or a date alone. -/
def Timestamp.read (cs : List Char) : Option Timestamp := do
  let (date, rest) ← readDate cs
  if rest.isEmpty then return .ofDate date
  let (time, rest) ← readTime rest
  if rest.isEmpty then return ⟨date, time⟩ else none

end SqlAccess.Calendar
