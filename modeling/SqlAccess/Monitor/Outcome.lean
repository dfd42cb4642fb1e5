import SqlAccess.Monitor.QueryKind
import SqlAccess.Text.Bytes

/-!
# What monitors are told

A statement is announced with its text, its kind, the number of its parameters and the name of its
server; afterwards its outcome is told. The text of a long error is cut to 512 bytes.
-/

namespace SqlAccess

/-- A statement about to run. -/
structure StatementContext where
  sql : String
  parameterCount : Nat
  kind : QueryKind
  backend : String
  deriving Repr, DecidableEq, Inhabited

/-- The context of a statement; its kind is found from its text. -/
def StatementContext.ofSql (sql : String) (parameterCount : Nat) (backend : String) :
    StatementContext :=
  { sql, parameterCount, kind := .ofSql sql, backend }

/-- How a statement ended. -/
inductive Outcome
  | rows (count : Nat)
  | affected (count : UInt64)
  | error (message : String)
  deriving Repr, DecidableEq, Inhabited

namespace Outcome

/-- The most bytes of an error that are kept. -/
def maxErrorBytes : Nat := 512

/-- A text cut to a number of bytes, with dots after it where something was cut. -/
def shorten (max : Nat) (s : String) : String :=
  if s.utf8ByteSize ≤ max then s else Text.truncate s max ++ "..."

/-- The outcome of a statement that failed. -/
def ofError (message : String) : Outcome := .error (shorten maxErrorBytes message)

/-- Whether a statement failed. -/
def isError : Outcome → Bool
  | .error _ => true
  | _ => false

/-- The error of a statement that failed, as far as it is kept. -/
def failure? : Outcome → Option String
  | .error m => some m
  | _ => none

/-- The rows read or changed; none when the statement failed. -/
def size : Outcome → UInt64
  | .rows n => .ofNat n
  | .affected n => n
  | .error _ => 0

/-- The text of an outcome. -/
def text : Outcome → String
  | .rows n => toString n ++ " rows"
  | .affected n => toString n.toNat ++ " affected"
  | .error m => "error: " ++ m

end Outcome

end SqlAccess
