/-
How a client is set up: which server it talks to, and how long it waits.
-/
import Parley.Duration
import Parley.Client.Error

namespace Parley.Client

/-- The setup of a client. -/
structure Config where
  host : Text := "localhost"
  relayPort : Nat := 10240
  queryPort : Nat := 10241
  connectTimeout : Duration := .ofSeconds 10
  queryTimeout : Duration := .ofSeconds 3
  keepAliveInterval : Duration := .ofSeconds 3
  maxFrameLength : Nat := 1024
  deriving DecidableEq, Repr

namespace Config

/-- Where the server takes connections. -/
def address (c : Config) : Text := c.host ++ ':' :: Text.decimal c.relayPort

/-- Where the server answers questions about names. -/
def queryAddress (c : Config) : Text := c.host ++ ':' :: Text.decimal c.queryPort

/-- The first fault of a setup. -/
def fault? (c : Config) : Option ConfigFault :=
  if c.host = [] then some .emptyHost
  else if c.keepAliveInterval.isZero then some (.notPositive "keep_alive_interval")
  else if c.maxFrameLength = 0 then some (.notPositive "max_frame_length")
  else none

/-- A setup without faults, or the report of its first one. -/
def check (c : Config) : Except ClientError Config :=
  match c.fault? with
  | some f => .error (.invalidConfig f)
  | none => .ok c

end Config
end Parley.Client
