import SqlAccess.Number.Shortest

/-!
# JSON values and their compact text

A number is an integer of 64 bits, signed or unsigned, or a floating-point number. The members
of an object are kept sorted by name and each name stands once, the last value given
for it. The compact text has no blanks.
-/

namespace SqlAccess

/-- A JSON value. -/
inductive Json
  | null
  | bool (b : Bool)
  | int (n : Int)
  | float (x : Number.Double)
  | string (s : String)
  | array (items : List Json)
  | object (members : List (String × Json))
  deriving Inhabited

namespace Json

/-- Puts a member into sorted members; a name that is there already gets the new value. -/
def insertMember {α : Type} (name : String) (value : α) : List (String × α) → List (String × α)
  | [] => [(name, value)]
  | (n, v) :: rest =>
    if name = n then (n, value) :: rest
    else if name < n then (name, value) :: (n, v) :: rest
    else (n, v) :: insertMember name value rest

/-- The object of a list of members, the last one of each name. -/
def ofMembers (members : List (String × Json)) : Json :=
  .object (members.foldl (fun sorted m => insertMember m.1 m.2 sorted) [])

/-- A floating-point number, or null for what is not finite. -/
def ofDouble (x : Number.Double) : Json := if x.isFinite then .float x else .null

/-- The written form of a character inside a string. -/
def escapeChar (c : Char) : List Char :=
  if c = '"' then ['\\', '"']
  else if c = '\\' then ['\\', '\\']
  else if c = '\n' then ['\\', 'n']
  else if c = '\r' then ['\\', 'r']
  else if c = '\t' then ['\\', 't']
  else if c.toNat = 8 then ['\\', 'b']
  else if c.toNat = 12 then ['\\', 'f']
  else if c.toNat < 32 then
    ['\\', 'u', '0', '0', Nat.digitChar (c.toNat / 16), Nat.digitChar (c.toNat % 16)]
  else [c]

/-- A string between quotes. -/
def quoted (s : String) : String := String.ofList ('"' :: s.toList.flatMap escapeChar ++ ['"'])

mutual

/-- The compact text of a value. -/
def compact : Json → String
  | .null => "null"
  | .bool b => if b then "true" else "false"
  | .int n => toString n
  | .float x => x.compactText
  | .string s => quoted s
  | .array items => "[" ++ compactItems items ++ "]"
  | .object members => "\x7b" ++ compactMembers members ++ "\x7d"

/-- The items of an array with commas between them. -/
def compactItems : List Json → String
  | [] => ""
  | [v] => compact v
  | v :: rest => compact v ++ "," ++ compactItems rest

/-- The members of an object with commas between them. -/
def compactMembers : List (String × Json) → String
  | [] => ""
  | [(n, v)] => quoted n ++ ":" ++ compact v
  | (n, v) :: rest => quoted n ++ ":" ++ compact v ++ "," ++ compactMembers rest

end

end Json

end SqlAccess
