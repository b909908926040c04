import SearchQL.Decimal
import SearchQL.Error.Basic
import SearchQL.Json
import SearchQL.Text.CharClass

/-!
# Settings

Where the server is, and how it is connected to. Settings come from the caller, from variables or
from data, and every setting that is not given keeps its default.

* `Settings.ofLookup` reads variables, in a fixed order, and fails at the first that is no number
  of its width.
* `Settings.ofJson` reads data.
* `Settings.url` is the address of the server.
-/

namespace SearchQL

/-- The settings of a connection. -/
structure Settings where
  host : String := "127.0.0.1"
  /-- The port. -/
  service : UInt16 := 9306
  maxConnections : UInt32 := 5
  /-- How many seconds to wait for a connection. -/
  acquireTimeout : UInt64 := 10
deriving DecidableEq, Repr

namespace Settings

/-- The address of the server. -/
def url (s : Settings) : String := "mysql://" ++ s.host ++ ":" ++ toString s.service.toNat

/-- The settings with those that are given in place of the defaults. -/
def ofOptions (host : Option String) (service maxConnections acquireTimeout : Option Nat) :
    Settings :=
  let s : Settings := {}
  { host := host.getD s.host
    service := (service.map Nat.toUInt16).getD s.service
    maxConnections := (maxConnections.map Nat.toUInt32).getD s.maxConnections
    acquireTimeout := (acquireTimeout.map Nat.toUInt64).getD s.acquireTimeout }

/-! ## Variables -/

/-- The number below `bound` in the text of a variable, with white space around it passed over. -/
def parseVariable (bound : Nat) (key text : String) : Except Error Nat :=
  match Decimal.unsigned? bound (trimChars text.toList) with
  | some n => .ok n
  | none => .error (.configuration (.badValue key text))

/-- The number below `bound` in a variable, if the variable is set. -/
def readVariable (lookup : String → Option String) (bound : Nat) (key : String) :
    Except Error (Option Nat) :=
  match lookup key with
  | none => .ok none
  | some text => (parseVariable bound key text).map some

/-- The settings in variables. -/
def ofLookup (lookup : String → Option String) : Except Error Settings := do
  let service ← readVariable lookup UInt16.size "SPHINX_PORT"
  let maxConnections ← readVariable lookup UInt32.size "SPHINX_MAX_CONNECTIONS"
  let acquireTimeout ← readVariable lookup UInt64.size "SPHINX_ACQUIRE_TIMEOUT_SECS"
  return ofOptions (lookup "SPHINX_HOST") service maxConnections acquireTimeout

/-! ## Data -/

/-- A text in data, if it is given. -/
def textField (value : Option Json) : Except Error (Option String) := value.mapM Json.toText

/-- A number of a number of bits in data, if it is given. -/
def numberField (bits : Nat) (value : Option Json) : Except Error (Option Nat) :=
  value.mapM fun value => (value.toInt ⟨false, bits⟩).map Int.toNat

/-- The settings in data: an object, whose fields are looked at in the order of their names and of
which others are passed over, or a list of the values of the first settings. -/
def ofJson : Json → Except Error Settings
  | .object fields => do
    let acquireTimeout ← numberField 64 (Dict.get? "acquire_timeout_secs" fields)
    let host ← textField (Dict.get? "host" fields)
    let maxConnections ← numberField 32 (Dict.get? "max_connections" fields)
    let service ← numberField 16 (Dict.get? "port" fields)
    return ofOptions host service maxConnections acquireTimeout
  | .list items => do
    let host ← textField items[0]?
    let service ← numberField 16 items[1]?
    let maxConnections ← numberField 32 items[2]?
    let acquireTimeout ← numberField 64 items[3]?
    if 4 < items.length then .error (.serialization (.tooLong items.length))
    else return ofOptions host service maxConnections acquireTimeout
  | value => .error (.serialization (.otherType value.described "struct SphinxConfig"))

end Settings

end SearchQL
