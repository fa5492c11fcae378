/-
Setting up a server from named text values, such as the variables of an environment. A value that
is not given leaves the usual setup as it is; blanks around a value do not count; of several
values that cannot be read, the first in the order of `Settings.read` is reported.
-/
import Parley.Text.Blank
import Parley.Text.Quoted
import Parley.Server.Config

namespace Parley.Server

/-- The values that are given, by name. -/
abbrev Settings := Text → Option Text

namespace Settings

/-- The names that values are given under, in the order in which they are read. -/
def names : List Text :=
  ["CHATRELAY_RELAY_ADDR".toList, "CHATRELAY_QUERY_ADDR".toList, "CHATRELAY_BRIDGE_ADDR".toList,
    "CHATRELAY_MAX_CONNECTIONS".toList, "CHATRELAY_MAX_FRAME_LENGTH".toList,
    "CHATRELAY_HEARTBEAT_MS".toList, "CHATRELAY_LIVENESS_MS".toList,
    "CHATRELAY_BRIDGE_QUEUE".toList]

/-- Settings by a list of names and values. -/
def ofList (values : List (Text × Text)) : Settings := fun name =>
  (values.find? (·.1 = name)).map (·.2)

/-! ## Reading one value -/

/-- Whole numbers have 64 bits. -/
def numberBound : Nat := 18446744073709551616

/-- A whole number. -/
def readNumber (t : Text) : Option Nat := Text.readDecimal numberBound t

/-- A span in milliseconds. -/
def readMillis (t : Text) : Option Duration := (readNumber t).map .ofMillis

/-- The address of the bridge; `off`, in capitals or not, means that there is none. -/
def readBridge (t : Text) : Option (Option Net.Address) :=
  if t.map Char.toLower = "off".toList then some none else (Net.Address.read t).map some

/-- The value under a name, read, or what was there if the name has no value. -/
def value {α : Type} (settings : Settings) (name : Text) (read : Text → Option α) (usual : α) :
    Except ServerError α :=
  match settings name with
  | none => .ok usual
  | some given =>
    let shown := Text.trim given
    match read shown with
    | some a => .ok a
    | none => .error (.invalidConfig (.unreadable name (Text.quoted shown)))

/-! ## Reading all -/

/-- The setup that the settings describe, if it has no fault. -/
def read (settings : Settings) : Except ServerError Config := do
  let usual : Config := {}
  let relayAddress ← settings.value "CHATRELAY_RELAY_ADDR" Net.Address.read usual.relayAddress
  let queryAddress ← settings.value "CHATRELAY_QUERY_ADDR" Net.Address.read usual.queryAddress
  let bridgeAddress ← settings.value "CHATRELAY_BRIDGE_ADDR" readBridge usual.bridgeAddress
  let maxConnections ← settings.value "CHATRELAY_MAX_CONNECTIONS" readNumber usual.maxConnections
  let maxFrameLength ←
    settings.value "CHATRELAY_MAX_FRAME_LENGTH" readNumber usual.maxFrameLength
  let heartbeatInterval ←
    settings.value "CHATRELAY_HEARTBEAT_MS" readMillis usual.heartbeatInterval
  let livenessThreshold ←
    settings.value "CHATRELAY_LIVENESS_MS" readMillis usual.livenessThreshold
  let bridgeQueueCapacity ←
    settings.value "CHATRELAY_BRIDGE_QUEUE" readNumber usual.bridgeQueueCapacity
  Config.check { usual with
    relayAddress, queryAddress, bridgeAddress, maxConnections, maxFrameLength,
    heartbeatInterval, livenessThreshold, bridgeQueueCapacity }

end Settings
end Parley.Server
