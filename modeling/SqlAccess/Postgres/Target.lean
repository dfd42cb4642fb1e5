import SqlAccess.Address
import SqlAccess.Config.Basic
import SqlAccess.Number.Reading

/-!
# Targets of PostgreSQL connections

Where to connect, as whom and to which database. A target is read from an address with a scheme
or from a list of settings, each a keyword, an equals sign and a value. A setting that is
unknown or has no valid value makes the whole text invalid. The same setting may come again:
hosts and ports add up, of all else the last one counts.
-/

namespace SqlAccess

/-- A target of connections. -/
structure PgTarget where
  hosts : List String := []
  /-- Numeric addresses that spare looking up the hosts. -/
  addresses : List String := []
  ports : List Nat := []
  database : Option String := none
  user : Option String := none
  password : Option (List UInt8) := none
  deriving Inhabited

namespace PgTarget

open Number

/-- A number without a minus sign below a bound. -/
def readUnsigned (bound : Nat) (cs : List Char) : Option Nat :=
  if cs.head? = some '-' then none
  else (readInt 0 (bound - 1) cs).toOption.map Int.toNat

/-- A port; no characters stand for the usual one. -/
def readPort (cs : List Char) : Option Nat :=
  if cs.isEmpty then some 5432 else readUnsigned UInt16.size cs

/-- The settings whose value is one of several words. -/
def choices : List (String × List String) :=
  [("sslmode", ["disable", "prefer", "require"]), ("sslnegotiation", ["postgres", "direct"]),
    ("target_session_attrs", ["any", "read-write", "read-only"]),
    ("channel_binding", ["disable", "prefer", "require"]),
    ("load_balance_hosts", ["disable", "random"])]

/-- The settings whose value is a number, and whether it is one. -/
def numbers : List (String × (List Char → Bool)) :=
  let signed (cs : List Char) : Bool :=
    (readInt (-9223372036854775808) 9223372036854775807 cs).toOption.isSome
  [("connect_timeout", signed), ("tcp_user_timeout", signed), ("keepalives_idle", signed),
    ("keepalives_interval", signed), ("keepalives", fun cs => (readUnsigned UInt64.size cs).isSome),
    ("keepalives_retries", fun cs => (readUnsigned UInt32.size cs).isSome)]

/-- The target after a setting, if the setting is known and its value valid. -/
def set? (t : PgTarget) (key value : String) : Option PgTarget :=
  let listed := Text.pieces ',' value.toList
  match key with
  | "user" => some { t with user := some value }
  | "password" => some { t with password := some (Text.utf8 value) }
  | "dbname" => some { t with database := some value }
  | "options" | "application_name" => some t
  | "host" => some { t with hosts := t.hosts ++ listed.map String.ofList }
  | "hostaddr" =>
    if listed.all Address.isNumeric then
      some { t with addresses := t.addresses ++ listed.map String.ofList }
    else none
  | "port" => (listed.mapM readPort).map fun ports => { t with ports := t.ports ++ ports }
  | key =>
    match choices.lookup key, numbers.lookup key with
    | some words, _ => if words.contains value then some t else none
    | none, some isNumber => if isNumber value.toList then some t else none
    | none, none => none

/-! ## Addresses with a scheme -/

/-- A part of an address, with percent signs resolved. -/
def decoded (cs : List Char) : Option String := Text.ofUtf8? (Text.percentDecoded cs)

/-- A host; one that starts with a slash is the path of a socket and may hold any bytes. -/
def readHost (cs : List Char) : Option String :=
  let bytes := Text.percentDecoded cs
  if bytes.head? = some 47 then some (Text.ofUtf8Lossy bytes) else Text.ofUtf8? bytes

/-- The user and the password in front of an at sign, and what follows it. -/
def takeCredentials (t : PgTarget) (cs : List Char) : Option (PgTarget × List Char) :=
  match Text.cutAt '@' cs with
  | (_, none) => some (t, cs)
  | (credentials, some rest) =>
    let (user, password) := Text.cutAt ':' credentials
    (decoded user).map fun user =>
      ({ t with user := some user
                password := (password.map Text.percentDecoded).or t.password }, rest)

/-- The host and the port of one entry; a host in brackets may hold colons. -/
def hostAndPort (entry : List Char) : Option (List Char × Option (List Char)) :=
  match entry with
  | '[' :: inside =>
    match Text.cutAt ']' inside with
    | (host, some []) => some (host, none)
    | (host, some (':' :: port)) => some (host, some port)
    | _ => none
  | entry => some (Text.cutAt ':' entry)

/-- Adds the entry of a host. -/
def addEntry (t : PgTarget) (entry : List Char) : Option PgTarget := do
  let (host, port) ← hostAndPort entry
  let host ← readHost host
  let port ← decoded (port.getD "5432".toList)
  { t with hosts := t.hosts ++ [host] }.set? "port" port

/-- The settings after a question mark, with `&` between them. -/
def takeSettings (t : PgTarget) (cs : List Char) : Option PgTarget :=
  if cs.isEmpty then some t
  else
    let settings := Text.pieces '&' cs
    let settings := if settings.getLast? = some [] then settings.dropLast else settings
    settings.foldlM (fun t setting => do
      let (key, value) := Text.cutAt '=' setting
      let key ← decoded key
      let value ← value
      if key = "host" then
        let host ← readHost value
        return { t with hosts := t.hosts ++ [host] }
      else t.set? key (← decoded value)) t

/-- The target of an address after its scheme. -/
def ofAddress? (cs : List Char) : Option PgTarget := do
  let (t, cs) ← takeCredentials {} cs
  let authority := cs.takeWhile fun c => c ≠ '/' && c ≠ '?'
  let t ← if authority.isEmpty then some t else (Text.pieces ',' authority).foldlM addEntry t
  let cs := cs.drop authority.length
  let (t, cs) ← match cs with
    | '/' :: path =>
      let name := path.takeWhile (· ≠ '?')
      if name.isEmpty then some (t, path)
      else
        (decoded name).map fun name =>
          ({ t with database := some name }, path.dropWhile (· ≠ '?'))
    | cs => some (t, cs)
  match cs with
  | '?' :: settings => takeSettings t settings
  | _ => some t

/-! ## Lists of settings -/

/-- A value up to the next blank; a backslash takes the next character as it is. -/
def plainValue : List Char → List Char × List Char
  | [] => ([], [])
  | '\\' :: [] => ([], [])
  | '\\' :: c :: rest => let (value, rest) := plainValue rest; (c :: value, rest)
  | c :: rest =>
    if Text.isBlank c then ([], c :: rest)
    else let (value, rest) := plainValue rest; (c :: value, rest)

/-- A value up to the closing quote; a backslash takes the next character as it is. -/
def quotedValue : List Char → Option (List Char × List Char)
  | [] => none
  | '\'' :: rest => some ([], rest)
  | '\\' :: [] => none
  | '\\' :: c :: rest => (quotedValue rest).map fun p => (c :: p.1, p.2)
  | c :: rest => (quotedValue rest).map fun p => (c :: p.1, p.2)

/-- A value, quoted or plain; a plain one is not empty. -/
def takeValue (cs : List Char) : Option (List Char × List Char) :=
  match cs with
  | '\'' :: rest => quotedValue rest
  | cs =>
    let (value, rest) := plainValue cs
    if value.isEmpty then none else some (value, rest)

/-- Reads settings one after another; the list ends where no keyword follows. -/
def readSettings (t : PgTarget) : Nat → List Char → Option PgTarget
  | 0, _ => some t
  | fuel + 1, cs => do
    let cs := Text.dropBlanks cs
    let key := cs.takeWhile fun c => !Text.isBlank c && c ≠ '='
    if key.isEmpty then return t
    match Text.dropBlanks (cs.drop key.length) with
    | '=' :: rest =>
      let (value, rest) ← takeValue (Text.dropBlanks rest)
      let t ← t.set? (String.ofList key) (String.ofList value)
      readSettings t fuel rest
    | _ => none

/-- The target of a text, if it is valid. -/
def ofText? (text : String) : Option PgTarget :=
  let cs := text.toList
  let after (scheme : String) : Option (List Char) :=
    if scheme.toList.isPrefixOf cs then some (cs.drop scheme.length) else none
  match (after "postgres://").or (after "postgresql://") with
  | some address => ofAddress? address
  | none => readSettings {} (cs.length + 1) cs

/-! ## Targets of configurations -/

/-- The error of a text that is no target. -/
def invalidText : DbError := .configuration "invalid connection string"

/-- The target of a configuration; its single settings come after those of its address. -/
def ofConfig (c : Config) (password : Option String) : Except DbError PgTarget :=
  match (c.url.elim (some {}) ofText? : Option PgTarget) with
  | none => .error invalidText
  | some t =>
    .ok { t with
      hosts := t.hosts ++ c.host.toList
      ports := t.ports ++ (c.port.map UInt16.toNat).toList
      database := c.database.or t.database
      user := c.user.or t.user
      password := (password.map Text.utf8).or t.password }

/-- Whether there is a host to connect to, and the hosts, addresses and ports go together. -/
def isComplete (t : PgTarget) : Bool :=
  let count := if t.hosts.isEmpty then t.addresses.length else t.hosts.length
  count ≠ 0 && (t.hosts.isEmpty || t.addresses.isEmpty || t.addresses.length = count) &&
    (t.ports.length ≤ 1 || t.ports.length = count)

end PgTarget

end SqlAccess
