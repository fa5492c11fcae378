/-
How a server is set up: where it listens and which limits it keeps. A setup is checked before it is
used, and of several faults the first in the order of `Config.check` is reported.
-/
import Parley.Duration
import Parley.Net.Address
import Parley.Server.Error

namespace Parley.Server

/-- The setup of a server. -/
structure Config where
  relayAddress : Net.Address := .anywhere 10240
  queryAddress : Net.Address := .anywhere 10241
  bridgeAddress : Option Net.Address := some (.anywhere 8090)
  maxConnections : Nat := 1000
  maxFrameLength : Nat := 1024
  writeTimeout : Duration := .ofSeconds 10
  heartbeatInterval : Duration := .ofSeconds 5
  livenessThreshold : Duration := .ofSeconds 30
  rebindBackoff : Duration := .ofMillis 500
  bridgeQueueCapacity : Nat := 100
  deriving DecidableEq, Repr

/-- How the worker of one connection is set up. -/
structure WorkerConfig where
  controlCapacity : Nat := 100
  writeTimeout : Duration := .ofSeconds 10
  deriving DecidableEq, Repr

namespace Config

/-- The usual setup, with another address for connections. -/
def listeningAt (address : Net.Address) : Config := { relayAddress := address }

/-- A setup that listens on the local machine only, at endpoint numbers that the system picks. -/
def ephemeral : Config :=
  { relayAddress := .loopback, queryAddress := .loopback, bridgeAddress := some .loopback }

/-- Whether connections and the bridge would share an address. -/
def sharesAddress (c : Config) : Bool :=
  c.relayAddress.portNumber ≠ 0 && c.bridgeAddress = some c.relayAddress

/-- The faults that a setup can have, each with whether this one has it. -/
def faults (c : Config) : List (Bool × ConfigFault) :=
  [(c.maxConnections = 0, .notPositive "max_connections"),
    (c.maxFrameLength = 0, .notPositive "max_frame_length"),
    (c.writeTimeout.isZero, .notPositive "write_timeout"),
    (c.heartbeatInterval.isZero, .notPositive "heartbeat_interval"),
    (c.livenessThreshold.isZero, .notPositive "liveness_threshold"),
    (c.bridgeQueueCapacity = 0, .notPositive "bridge_queue_capacity"),
    (c.sharesAddress, .sharedAddress)]

/-- The first fault of a setup. -/
def fault? (c : Config) : Option ConfigFault := (c.faults.find? (·.1)).map (·.2)

/-- A setup without faults, or the report of its first one. -/
def check (c : Config) : Except ServerError Config :=
  match c.fault? with
  | some f => .error (.invalidConfig f)
  | none => .ok c

end Config
end Parley.Server
