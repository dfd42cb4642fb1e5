/-!
# Text as bytes

UTF-8 is written per character and read one character at a time. A reader that meets
bytes which start no character learns how many of them belong to the broken one, so
strict reading refuses and lenient reading puts one U+FFFD in their place. The longest
prefix of a text that fits a number of bytes is cut at a character boundary.
-/

namespace SqlAccess.Text

/-- The UTF-8 bytes of a text. -/
def utf8 (s : String) : List UInt8 := s.toList.flatMap String.utf8EncodeChar

/-- Whether a byte continues a character. -/
def isContinuation (b : UInt8) : Bool := 0x80 ≤ b && b ≤ 0xBF

/-- How many bytes a first byte announces, and the range its second byte must lie in. -/
def leadByte (b : UInt8) : Option (Nat × UInt8 × UInt8) :=
  if 0xC2 ≤ b && b ≤ 0xDF then some (2, 0x80, 0xBF)
  else if b == 0xE0 then some (3, 0xA0, 0xBF)
  else if b == 0xED then some (3, 0x80, 0x9F)
  else if 0xE1 ≤ b && b ≤ 0xEF then some (3, 0x80, 0xBF)
  else if b == 0xF0 then some (4, 0x90, 0xBF)
  else if b == 0xF4 then some (4, 0x80, 0x8F)
  else if 0xF1 ≤ b && b ≤ 0xF3 then some (4, 0x80, 0xBF)
  else none

/-- Why bytes are no character: they end too early, or they cannot go on as they do. -/
inductive Utf8Fault
  | incomplete
  | invalid
  deriving Repr, DecidableEq

/-- The wording of a fault. -/
def Utf8Fault.message : Utf8Fault → String
  | .incomplete => "incomplete utf-8"
  | .invalid => "invalid utf-8"

/-- The first character of non-empty bytes, or what is wrong with it, and the number of bytes after
the first that belong to it. -/
def firstChar (b : UInt8) (rest : List UInt8) : Except Utf8Fault Char × Nat :=
  let bits (x : UInt8) : Nat := x.toNat % 64
  if b < 0x80 then (.ok (Char.ofNat b.toNat), 0)
  else
    match leadByte b with
    | none => (.error .invalid, 0)
    | some (width, lo, hi) =>
      match rest with
      | [] => (.error .incomplete, 0)
      | c :: rest =>
        if !(lo ≤ c && c ≤ hi) then (.error .invalid, 0)
        else if width = 2 then (.ok (Char.ofNat (b.toNat % 32 * 64 + bits c)), 1)
        else
          match rest with
          | [] => (.error .incomplete, 1)
          | d :: rest =>
            if !isContinuation d then (.error .invalid, 1)
            else if width = 3 then
              (.ok (Char.ofNat ((b.toNat % 16 * 64 + bits c) * 64 + bits d)), 2)
            else
              match rest with
              | [] => (.error .incomplete, 2)
              | e :: _ =>
                if !isContinuation e then (.error .invalid, 2)
                else
                  (.ok (Char.ofNat (((b.toNat % 8 * 64 + bits c) * 64 + bits d) * 64 + bits e)), 3)

/-- Reads bytes as characters, each whole or broken; `fuel` bounds their number. -/
def readCharsWithin : Nat → List UInt8 → List (Except Utf8Fault Char)
  | 0, _ => []
  | _ + 1, [] => []
  | fuel + 1, b :: rest =>
    let (c, used) := firstChar b rest
    c :: readCharsWithin fuel (rest.drop used)

/-- Reads bytes as characters, each whole or broken. -/
def readChars (bytes : List UInt8) : List (Except Utf8Fault Char) :=
  readCharsWithin bytes.length bytes

/-- Reads bytes that are UTF-8 throughout. -/
def ofUtf8 (bytes : List UInt8) : Except Utf8Fault String :=
  ((readChars bytes).mapM id).map String.ofList

/-- Reads bytes that are UTF-8 throughout, if they are. -/
def ofUtf8? (bytes : List UInt8) : Option String := (ofUtf8 bytes).toOption

/-- Reads bytes as UTF-8 with U+FFFD for each broken character. -/
def ofUtf8Lossy (bytes : List UInt8) : String :=
  String.ofList ((readChars bytes).map fun c => c.toOption.getD '\uFFFD')

/-- The last place at or before a byte where a text can be cut, looked for byte by byte. -/
def cutBefore (s : String) : Nat → s.Pos
  | 0 => s.startPos
  | i + 1 => if h : String.Pos.Raw.IsValid s ⟨i + 1⟩ then s.pos ⟨i + 1⟩ h else cutBefore s i

/-- The longest prefix of a text that takes at most `max` bytes. -/
def truncate (s : String) (max : Nat) : String :=
  if s.utf8ByteSize ≤ max then s else (s.sliceTo (cutBefore s max)).copy

/-- A hexadecimal digit, with upper-case letters. -/
def hexDigit (n : Nat) : Char :=
  if n < 10 then Char.ofNat (48 + n) else Char.ofNat (55 + n)

/-- Two upper-case hexadecimal digits per byte. -/
def hexChars (bytes : List UInt8) : List Char :=
  bytes.flatMap fun b => [hexDigit (b.toNat / 16), hexDigit (b.toNat % 16)]

/-- Two upper-case hexadecimal digits per byte, as text. -/
def hex (bytes : List UInt8) : String := String.ofList (hexChars bytes)

/-- The value of a hexadecimal digit of either case. -/
def hexValue (c : Char) : Option Nat :=
  if c.isDigit then some (c.toNat - 48)
  else if 'a' ≤ c ∧ c ≤ 'f' then some (c.toNat - 87)
  else if 'A' ≤ c ∧ c ≤ 'F' then some (c.toNat - 55)
  else none

/-- The bytes of pairs of hexadecimal digits of either case. -/
def ofHex? : List Char → Option (List UInt8)
  | [] => some []
  | a :: b :: rest => do
    return .ofNat ((← hexValue a) * 16 + (← hexValue b)) :: (← ofHex? rest)
  | _ => none

/-- The bytes of a text in which a percent sign and two hexadecimal digits stand for a byte. -/
def percentDecoded : List Char → List UInt8
  | '%' :: a :: b :: rest =>
    match hexValue a, hexValue b with
    | some high, some low => .ofNat (high * 16 + low) :: percentDecoded rest
    | _, _ => String.utf8EncodeChar '%' ++ percentDecoded (a :: b :: rest)
  | c :: rest => String.utf8EncodeChar c ++ percentDecoded rest
  | [] => []

end SqlAccess.Text
