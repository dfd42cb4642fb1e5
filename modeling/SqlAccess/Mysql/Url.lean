import SqlAccess.Address
import SqlAccess.Number.Reading

/-!
# Addresses of MySQL servers

An address names a host, perhaps with a user in front of it and a port behind it, and may end with
settings. It is valid if there is a host, the port is a number of 16 bits, and every setting is
known and has a value of its type.
-/

namespace SqlAccess.Mysql.Url

open Number

/-- The types of settings. -/
inductive SettingType
  | word64
  | word32
  | truth
  | text
  | compression

/-- The settings by name. -/
def settings : List (String × SettingType) :=
  [("pool_min", .word64), ("pool_max", .word64), ("inactive_connection_ttl", .word64),
    ("ttl_check_interval", .word64), ("conn_ttl", .word64), ("abs_conn_ttl", .word64),
    ("abs_conn_ttl_jitter", .word64), ("tcp_keepalive", .word32), ("max_allowed_packet", .word64),
    ("wait_timeout", .word64), ("enable_cleartext_plugin", .truth), ("reset_connection", .truth),
    ("tcp_nodelay", .truth), ("stmt_cache_size", .word64), ("prefer_socket", .truth),
    ("secure_auth", .truth), ("client_found_rows", .truth), ("socket", .text),
    ("compression", .compression), ("require_ssl", .truth), ("verify_ca", .truth),
    ("verify_identity", .truth), ("built_in_roots", .truth)]

/-- An unsigned number up to a bound. -/
def readNumber (max : Int) (cs : List Char) : Option Nat :=
  if cs.head? = some '-' then none else (readInt 0 max cs).toOption.map Int.toNat

/-- Whether a text is a value of a type. -/
def SettingType.accepts (t : SettingType) (value : String) : Bool :=
  match t with
  | .word64 => (readNumber (UInt64.size - 1) value.toList).isSome
  | .word32 => (readNumber (UInt32.size - 1) value.toList).isSome
  | .truth => value = "true" || value = "false"
  | .text => true
  | .compression =>
    ["fast", "on", "true", "best"].contains value || (readNumber 9 value.toList).isSome

/-- A name or value of a setting; a plus sign stands for a blank. -/
def formDecoded (cs : List Char) : String :=
  Text.ofUtf8Lossy (Text.percentDecoded (cs.map fun c => if c = '+' then ' ' else c))

/-- The settings of an address, with `&` between them. -/
def readSettings (cs : List Char) : List (String × String) :=
  ((Text.pieces '&' cs).filter (!·.isEmpty)).map fun piece =>
    let (name, value) := Text.cutAt '=' piece
    (formDecoded name, formDecoded (value.getD []))

/-- The last value of a number setting, or the one in force without it. -/
def lastNumber (pairs : List (String × String)) (name : String) (otherwise : Nat) : Nat :=
  ((pairs.reverse.lookup name).bind fun v => readNumber (UInt64.size - 1) v.toList).getD otherwise

/-- Whether settings are known, have values of their types, and bound the pool consistently. -/
def validSettings (pairs : List (String × String)) : Bool :=
  pairs.all (fun p => (settings.lookup p.1).any (·.accepts p.2)) &&
    lastNumber pairs "pool_min" 10 ≤ lastNumber pairs "pool_max" 100

/-- Whether a character may not stand in the name of a host. -/
def isForbidden (c : Char) : Bool := " #/:<>?@[\\]^|".toList.contains c || c.toNat = 0

/-- Whether characters are a host with or without a port. -/
def validHost (cs : List Char) : Bool :=
  let portOf : Option (List Char) → Bool
    | none => true
    | some port => port.isEmpty || (port.all Char.isDigit && (readNumber 65535 port).isSome)
  match cs with
  | '[' :: inside =>
    match Text.cutAt ']' inside with
    | (host, some []) => Address.isEightGroup host
    | (host, some (':' :: port)) => Address.isEightGroup host && portOf (some port)
    | _ => false
  | cs =>
    let (host, port) := Text.cutAt ':' cs
    !host.isEmpty && !host.any isForbidden && portOf port

/-- What stands after the last at sign, if there is one. -/
def afterLastAt (cs : List Char) : List Char := ((Text.pieces '@' cs).getLast?).getD []

/-- Whether a text is a valid address. -/
def isValid (url : String) : Bool :=
  let cs := ((url.toList.dropWhile (·.toNat ≤ 32)).reverse.dropWhile (·.toNat ≤ 32)).reverse
  let cs := cs.filter fun c => !(c = '\t' || c = '\n' || c = '\r')
  let (scheme, rest) := Text.cutAt ':' cs
  match Text.asciiLower (String.ofList scheme), rest with
  | "mysql", some ('/' :: '/' :: rest) =>
    let authority := rest.takeWhile fun c => c ≠ '/' && c ≠ '?' && c ≠ '#'
    let tail := (rest.drop authority.length).takeWhile (· ≠ '#')
    validHost (afterLastAt authority) &&
      validSettings (readSettings ((Text.cutAt '?' tail).2.getD []))
  | _, _ => false

end SqlAccess.Mysql.Url
