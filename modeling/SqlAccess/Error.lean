import SqlAccess.Calendar.Duration
import SqlAccess.Text.Blank

/-!
# Errors

`DbError` names what went wrong and keeps the parts a caller may ask for; `DbError.message` is the
only place where its wording stands. Errors of a server carry a kind, found from its state code,
its own error number, or failing both from words in the message.
-/

namespace SqlAccess

/-- What kind of fault a statement met at the server. -/
inductive StatementKind
  | connection
  | syntaxError
  | constraint
  | other
  deriving Repr, DecidableEq

/-- The wording of a statement kind. -/
def StatementKind.text : StatementKind → String
  | .connection => "connection"
  | .syntaxError => "syntax"
  | .constraint => "constraint violation"
  | .other => "other"

/-- What went wrong in building, binding, running or reading a statement. -/
inductive DbError
  | configuration (message : String)
  | connection (message : String)
  | statement (kind : StatementKind) (message : String)
  | unsafeStatement (message : String)
  | invalidCondition (column reason : String)
  | decode (column message : String)
  | validation (message : String)
  | pool (message : String)
  | timeout (limit : Calendar.Duration)
  | notFound (message : String)
  | batchFailed (index : Nat) (sql : String) (counts : List Int64) (source : DbError)
  | other (message : String)
  deriving DecidableEq, Inhabited

namespace DbError

/-- The name of the kind of an error. -/
def name : DbError → String
  | .configuration _ => "Configuration"
  | .connection _ => "Connection"
  | .statement _ _ => "Statement"
  | .unsafeStatement _ => "UnsafeStatementRejected"
  | .invalidCondition _ _ => "InvalidCondition"
  | .decode _ _ => "Decode"
  | .validation _ => "Validation"
  | .pool _ => "Pool"
  | .timeout _ => "Timeout"
  | .notFound _ => "NotFound"
  | .batchFailed _ _ _ _ => "BatchFailed"
  | .other _ => "Other"

/-- The wording of an error. -/
def message : DbError → String
  | .configuration m => "Configuration error: " ++ m
  | .connection m => "Connection error: " ++ m
  | .statement kind m => "Statement error (" ++ kind.text ++ "): " ++ m
  | .unsafeStatement m => "Unsafe statement rejected: " ++ m
  | .invalidCondition column reason =>
    "Invalid condition on column '" ++ column ++ "': " ++ reason
  | .decode column m => "Decode error on column '" ++ column ++ "': " ++ m
  | .validation m => "Validation error: " ++ m
  | .pool m => "Pool error: " ++ m
  | .timeout limit => "Statement timeout after " ++ limit.text
  | .notFound m => "Not found: " ++ m
  | .batchFailed index sql _ source =>
    "Statement #" ++ toString index ++ " failed, unit of work rolled back: " ++
      source.message ++ " [sql: " ++ sql ++ "]"
  | .other m => m

/-- The error of the statement that made a batch fail. -/
def source? : DbError → Option DbError
  | .batchFailed _ _ _ source => some source
  | _ => none

/-- The kind of fault of a statement, also through the failure of a batch. -/
def statementKind : DbError → Option StatementKind
  | .statement kind _ => some kind
  | .connection _ => some .connection
  | .batchFailed _ _ _ source => source.statementKind
  | _ => none

/-- Whether a statement broke a constraint of the database. -/
def isConstraintViolation (e : DbError) : Bool := e.statementKind = some .constraint

/-- Whether a statement was refused for touching every row. -/
def isUnsafeStatement : DbError → Bool
  | .unsafeStatement _ => true
  | _ => false

/-- Whether a row that had to be there was missing. -/
def isNotFound : DbError → Bool
  | .notFound _ => true
  | _ => false

/-- Whether a statement ran out of time. -/
def isTimeout : DbError → Bool
  | .timeout _ => true
  | _ => false

/-- The counts of a failed batch. -/
def batchCounts : DbError → Option (List Int64)
  | .batchFailed _ _ counts _ => some counts
  | _ => none

end DbError

namespace StatementKind

/-- The kind that a five-character state code stands for, by its first two characters. -/
def ofState (code : String) : StatementKind :=
  match code.toList with
  | '0' :: '8' :: _ => .connection
  | '5' :: '7' :: _ => .connection
  | '2' :: '3' :: _ => .constraint
  | '4' :: '2' :: _ => .syntaxError
  | _ => .other

/-- The kind that the words of a message suggest. -/
def ofMessage (message : String) : StatementKind :=
  let lower := message.toList.map Char.toLower
  let mentions (word : String) : Bool := Text.occursIn word.toList lower
  if mentions "connection" || mentions "broken pipe" || mentions "closed" then .connection
  else if mentions "syntax" then .syntaxError
  else if mentions "duplicate" || mentions "constraint" || mentions "foreign key" ||
      mentions "cannot be null" then .constraint
  else .other

/-- The kind of an error number of a MySQL server, by its state code where the number is not known.
-/
def ofMysqlCode (code : UInt16) (state : String) : StatementKind :=
  let n := code.toNat
  if [1062, 1048, 1451, 1452, 1216, 1217, 3819].contains n then .constraint
  else if [1064, 1054, 1146, 1149].contains n then .syntaxError
  else if [2002, 2003, 2006, 2013, 1040, 1053].contains n then .connection
  else ofState state

end StatementKind

end SqlAccess
