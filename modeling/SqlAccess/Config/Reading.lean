import SqlAccess.Config.Basic
import SqlAccess.Json.Reading

/-!
# Configurations as JSON

A configuration is written as an object with a member for every setting. It is read from an object,
in any order of members, or from an array of settings in their order of declaration. A missing
setting has its default, an unknown member is skipped, and a setting that is given twice or has a
value of another type makes the text invalid.
-/

namespace SqlAccess

namespace Config

/-- The JSON form of a setting that may be absent. -/
def optionJson {α : Type} (f : α → Json) (v : Option α) : Json := (v.map f).getD .null

/-- The JSON form of a word. -/
def wordJson (n : UInt64) : Json := .int n.toNat

/-- The settings by name, in their order of declaration. -/
def members (c : Config) : List (String × Json) :=
  [("driver", .string c.driver.key), ("url", optionJson .string c.url),
    ("host", optionJson .string c.host),
    ("port", optionJson (fun p : UInt16 => .int p.toNat) c.port),
    ("database", optionJson .string c.database), ("user", optionJson .string c.user),
    ("password", optionJson .string c.password), ("min_pool_size", wordJson c.minPoolSize),
    ("max_pool_size", wordJson c.maxPoolSize),
    ("max_lifetime_ms", optionJson wordJson c.maxLifetimeMs),
    ("idle_timeout_ms", optionJson wordJson c.idleTimeoutMs),
    ("connection_timeout_ms", optionJson wordJson c.connectionTimeoutMs),
    ("statement_timeout_ms", optionJson wordJson c.statementTimeoutMs),
    ("injection_filter", .bool c.injectionFilter), ("debug", .bool c.debug),
    ("max_blob_bytes", wordJson c.maxBlobBytes)]

/-- The JSON form of a configuration. -/
def toJson (c : Config) : Json := .ofMembers c.members

/-- A text, by its JSON. -/
def readText : JsonText → Option String
  | .string s => s
  | _ => none

/-- A truth value, by its JSON. -/
def readBool : JsonText → Option Bool
  | .bool b => some b
  | _ => none

/-- An integer below a bound, by its JSON: digits without sign, point and exponent. -/
def readWord (bound : Nat) : JsonText → Option Nat
  | .number n =>
    match n.value? with
    | some (.int v) => if 0 ≤ v ∧ v.toNat < bound then some v.toNat else none
    | _ => none
  | _ => none

/-- A 16-bit word, by its JSON. -/
def readUInt16 (v : JsonText) : Option UInt16 := (readWord UInt16.size v).map .ofNat

/-- A 64-bit word, by its JSON. -/
def readUInt64 (v : JsonText) : Option UInt64 := (readWord UInt64.size v).map .ofNat

/-- A setting that may be null. -/
def readOption {α : Type} (f : JsonText → Option α) : JsonText → Option (Option α)
  | .null => some none
  | v => (f v).map some

/-- A driver, by its name or by an object that holds null under its name. -/
def readDriver : JsonText → Option Dialect
  | .string (some s) => Dialect.ofKey? s
  | .object [(some s, .null)] => Dialect.ofKey? s
  | _ => none

/-- The names of the settings, in their order of declaration. -/
def names : List String :=
  ["driver", "url", "host", "port", "database", "user", "password", "min_pool_size",
    "max_pool_size", "max_lifetime_ms", "idle_timeout_ms", "connection_timeout_ms",
    "statement_timeout_ms", "injection_filter", "debug", "max_blob_bytes"]

/-- Gives a setting the value of a JSON text, if it is of the setting's type. -/
def set? (c : Config) (name : String) (v : JsonText) : Option Config :=
  match name with
  | "driver" => (readDriver v).map fun x => { c with driver := x }
  | "url" => (readOption readText v).map fun x => { c with url := x }
  | "host" => (readOption readText v).map fun x => { c with host := x }
  | "port" =>
    (readOption readUInt16 v).map fun x => { c with port := x }
  | "database" => (readOption readText v).map fun x => { c with database := x }
  | "user" => (readOption readText v).map fun x => { c with user := x }
  | "password" => (readOption readText v).map fun x => { c with password := x }
  | "min_pool_size" => (readUInt64 v).map fun x => { c with minPoolSize := x }
  | "max_pool_size" => (readUInt64 v).map fun x => { c with maxPoolSize := x }
  | "max_lifetime_ms" => (readOption readUInt64 v).map fun x => { c with maxLifetimeMs := x }
  | "idle_timeout_ms" => (readOption readUInt64 v).map fun x => { c with idleTimeoutMs := x }
  | "connection_timeout_ms" =>
    (readOption readUInt64 v).map fun x => { c with connectionTimeoutMs := x }
  | "statement_timeout_ms" =>
    (readOption readUInt64 v).map fun x => { c with statementTimeoutMs := x }
  | "injection_filter" => (readBool v).map fun x => { c with injectionFilter := x }
  | "debug" => (readBool v).map fun x => { c with debug := x }
  | "max_blob_bytes" => (readUInt64 v).map fun x => { c with maxBlobBytes := x }
  | _ => some c

/-- Reads the members of an object; `seen` are the settings that have been given already. -/
def readMembers (seen : List String) (c : Config) : List (Option String × JsonText) → Option Config
  | [] => some c
  | (none, _) :: _ => none
  | (some name, v) :: rest =>
    if seen.contains name then none
    else
      match c.set? name v with
      | none => none
      | some c => readMembers (if names.contains name then name :: seen else seen) c rest

/-- Reads the items of an array as settings in order; there may be fewer but not more. -/
def readItems (c : Config) : List String → List JsonText → Option Config
  | _, [] => some c
  | [], _ :: _ => none
  | name :: names, v :: rest =>
    match c.set? name v with
    | none => none
    | some c => readItems c names rest

/-- The configuration that a JSON text holds, whether or not it is valid. -/
def read? (text : String) : Option Config :=
  match JsonText.read text.toList with
  | some (.object members) => readMembers [] {} members
  | some (.array items) => readItems {} names items
  | _ => none

/-- The configuration of a JSON text. -/
def ofJson (text : String) : Except DbError Config :=
  match read? text with
  | none => .error (.configuration "invalid JSON configuration")
  | some c => c.validate.map fun _ => c

/-- Why a file cannot be read. -/
inductive FileFault
  | missing
  deriving Repr, DecidableEq

/-- The wording of a file's fault. -/
def FileFault.message : FileFault → String
  | .missing => "No such file or directory (os error 2)"

/-- The configuration of a file, given its text or why there is none. -/
def ofFile : Except FileFault String → Except DbError Config
  | .ok text => ofJson text
  | .error fault => .error (.configuration fault.message)

end Config

/-- The dialect that a JSON text names. -/
def Dialect.ofJson? (text : String) : Option Dialect :=
  (JsonText.read text.toList).bind Config.readDriver

end SqlAccess
