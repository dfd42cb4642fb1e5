import SqlAccess.Dialect
import SqlAccess.Error

/-!
# Configurations

Where a database is, how many connections are kept to it, and how long anything may take. Times are
whole milliseconds in a word. A password that starts with a mark is a cipher, and needs a
decryptor.
-/

namespace SqlAccess

/-- Settings of connections and of the pool that keeps them. -/
structure Config where
  driver : Dialect := .postgres
  /-- A whole address; the single parts below override it. -/
  url : Option String := none
  host : Option String := none
  port : Option UInt16 := none
  database : Option String := none
  user : Option String := none
  password : Option String := none
  minPoolSize : UInt64 := 0
  maxPoolSize : UInt64 := 16
  maxLifetimeMs : Option UInt64 := none
  idleTimeoutMs : Option UInt64 := none
  /-- Bounds connecting and waiting for a connection. -/
  connectionTimeoutMs : Option UInt64 := none
  statementTimeoutMs : Option UInt64 := none
  injectionFilter : Bool := false
  debug : Bool := false
  maxBlobBytes : UInt64 := 1048576
  deriving DecidableEq, Inhabited

/-- Turns a cipher into a password. -/
abbrev Decryptor := String → Except DbError String

/-- The decryptor in use when none is configured: it refuses every cipher. -/
def Decryptor.refusing : Decryptor := fun _ =>
  .error (.configuration "password is encrypted but no PasswordDecryptor is configured")

namespace Config

/-- The mark in front of a cipher. -/
def cipherMark : List Char := "ENC:".toList

/-- What stands before and after the first `://` of an address. -/
def splitScheme : List Char → Option (List Char × List Char)
  | ':' :: '/' :: '/' :: rest => some ([], rest)
  | [] => none
  | c :: rest => (splitScheme rest).map fun p => (c :: p.1, p.2)

/-- The configuration of an address; its scheme names the driver. -/
def ofUrl (url : String) : Except DbError Config :=
  match splitScheme url.toList with
  | none => .error (.configuration ("not a database URL: " ++ url))
  | some (scheme, _) =>
    let scheme := String.ofList scheme
    if scheme = "postgres" ∨ scheme = "postgresql" then .ok { driver := .postgres, url := some url }
    else if scheme = "mysql" ∨ scheme = "mariadb" then .ok { driver := .mysql, url := some url }
    else .error (.configuration ("unsupported URL scheme: " ++ scheme))

/-- Checks that there is a target and that the pool's bounds agree. -/
def validate (c : Config) : Except DbError Unit :=
  if c.url.isNone && c.host.isNone then .error (.configuration "either url or host must be set")
  else if c.maxPoolSize = 0 then .error (.configuration "max_pool_size must be at least 1")
  else if c.maxPoolSize < c.minPoolSize then
    .error (.configuration ("min_pool_size (" ++ toString c.minPoolSize.toNat ++
      ") exceeds max_pool_size (" ++ toString c.maxPoolSize.toNat ++ ")"))
  else .ok ()

/-- How long a connection is kept. -/
def maxLifetime (c : Config) : Option Calendar.Duration := c.maxLifetimeMs.map .ofMillis

/-- How long a connection is kept without use. -/
def idleTimeout (c : Config) : Option Calendar.Duration := c.idleTimeoutMs.map .ofMillis

/-- How long connecting may take. -/
def connectionTimeout (c : Config) : Option Calendar.Duration := c.connectionTimeoutMs.map .ofMillis

/-- How long a statement may take. -/
def statementTimeout (c : Config) : Option Calendar.Duration := c.statementTimeoutMs.map .ofMillis

/-- The password to connect with. -/
def resolvePassword (c : Config) (decrypt : Decryptor) : Except DbError (Option String) :=
  match c.password with
  | none => .ok none
  | some p =>
    if cipherMark.isPrefixOf p.toList then
      (decrypt (String.ofList (p.toList.drop cipherMark.length))).map some
    else .ok (some p)

/-- The milliseconds of a duration in a word; what does not fit goes round. -/
def millis (d : Calendar.Duration) : UInt64 := .ofNat d.totalMillis

/-- A change of one setting. -/
inductive Change
  | driver (d : Dialect)
  | host (host : String) (port : UInt16)
  | database (name : String)
  | credentials (user password : String)
  | poolSize (min max : UInt64)
  | maxLifetime (d : Calendar.Duration)
  | idleTimeout (d : Calendar.Duration)
  | connectionTimeout (d : Calendar.Duration)
  | statementTimeout (d : Calendar.Duration)
  | injectionFilter (on : Bool)
  | debug (on : Bool)
  | maxBlobBytes (n : UInt64)

/-- The configuration after a change. -/
def change (c : Config) : Change → Config
  | .driver d => { c with driver := d }
  | .host host port => { c with host := some host, port := some port }
  | .database name => { c with database := some name }
  | .credentials user password => { c with user := some user, password := some password }
  | .poolSize min max => { c with minPoolSize := min, maxPoolSize := max }
  | .maxLifetime d => { c with maxLifetimeMs := some (millis d) }
  | .idleTimeout d => { c with idleTimeoutMs := some (millis d) }
  | .connectionTimeout d => { c with connectionTimeoutMs := some (millis d) }
  | .statementTimeout d => { c with statementTimeoutMs := some (millis d) }
  | .injectionFilter on => { c with injectionFilter := on }
  | .debug on => { c with debug := on }
  | .maxBlobBytes n => { c with maxBlobBytes := n }

end Config

end SqlAccess
