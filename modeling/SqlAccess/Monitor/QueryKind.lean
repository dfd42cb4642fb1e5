import SqlAccess.Text.Blank

/-!
# Kinds of statements

The kind of a statement is found from its first keyword, after blanks, comments and opening
parentheses. A statement that starts with WITH names its tables first; its kind is that of the
first keyword that follows a closed parenthesis at the top level, and a query where there is none.
-/

namespace SqlAccess

/-- What a statement does. -/
inductive QueryKind
  | select
  | insert
  | update
  | delete
  | other
  deriving Repr, DecidableEq, Inhabited

namespace QueryKind

/-- The name of a kind. -/
def name : QueryKind → String
  | .select => "select"
  | .insert => "insert"
  | .update => "update"
  | .delete => "delete"
  | .other => "other"

/-- Where a reader stands between the tokens before a statement. -/
inductive Place
  | between
  | lineComment
  | blockComment
  deriving Repr, DecidableEq

/-- Drops blanks, comments and opening parentheses; a comment that does not end takes all. -/
def skipFrom : Place → List Char → List Char
  | .lineComment, [] => []
  | .lineComment, c :: cs => if c = '\n' then skipFrom .between cs else skipFrom .lineComment cs
  | .blockComment, '*' :: '/' :: cs => skipFrom .between cs
  | .blockComment, [] => []
  | .blockComment, _ :: cs => skipFrom .blockComment cs
  | .between, '-' :: '-' :: cs => skipFrom .lineComment cs
  | .between, '/' :: '*' :: cs => skipFrom .blockComment cs
  | .between, [] => []
  | .between, c :: cs => if c = '(' || Text.isBlank c then skipFrom .between cs else c :: cs

/-- Drops what may stand before the first keyword of a statement. -/
def skipNoise (cs : List Char) : List Char := skipFrom .between cs

/-- Whether a character would continue a keyword. -/
def continuesWord (c : Char) : Bool := c.isAlphanum || c = '_'

/-- Whether characters start with a keyword, in any case, that does not go on. -/
def startsWith (keyword : List Char) (cs : List Char) : Bool :=
  (cs.take keyword.length).map Char.toUpper == keyword &&
    !((cs.drop keyword.length).head?.map continuesWord).getD false

/-- The keywords that decide a kind. -/
def keywords : List (List Char × QueryKind) :=
  [("SELECT".toList, .select), ("INSERT".toList, .insert), ("REPLACE".toList, .insert),
    ("UPDATE".toList, .update), ("DELETE".toList, .delete)]

/-- The kind of the keyword that characters start with. -/
def ofKeyword? (cs : List Char) : Option QueryKind :=
  (keywords.find? fun k => startsWith k.1 cs).map (·.2)

/-- Reads on after WITH, at a depth of parentheses, inside a string or outside. The depth is a whole
number of any size; a count in 32 bits agrees with it below 2 ^ 31 nested parentheses. -/
def afterWith (inString : Bool) (depth : Int) : List Char → QueryKind
  | [] => .select
  | c :: cs =>
    if inString then
      if c = '\'' then afterWith false depth cs
      else if c = '\\' then
        match cs with
        | [] => .select
        | _ :: cs => afterWith true depth cs
      else afterWith true depth cs
    else if c = '(' then afterWith false (depth + 1) cs
    else if c = ')' then
      if depth = 1 then
        match ofKeyword? (Text.dropBlanks cs) with
        | some kind => kind
        | none => afterWith false 0 cs
      else afterWith false (depth - 1) cs
    else afterWith (c = '\'') depth cs

/-- The kind of a statement. -/
def ofSql (sql : String) : QueryKind :=
  let cs := skipNoise sql.toList
  if startsWith "WITH".toList cs then afterWith false 0 cs else (ofKeyword? cs).getD .other

end QueryKind

end SqlAccess
