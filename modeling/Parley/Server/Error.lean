/-
What can go wrong in a server, and how it is reported; among it, what can be wrong with settings.
-/
import Parley.Session
import Parley.Wire.Error

namespace Parley

/-- What is wrong with a configuration. -/
inductive ConfigFault where
  | notPositive (setting : Text)
  | sharedAddress
  | emptyHost
  | unreadable (key shown : Text)
  | other (text : Text)
  deriving DecidableEq, Repr

/-- The wording of what is wrong. -/
def ConfigFault.text : ConfigFault → Text
  | .notPositive setting => setting ++ " must be greater than 0".toList
  | .sharedAddress => "relay and bridge cannot share an address"
  | .emptyHost => "host must not be empty"
  | .unreadable key shown => key ++ ": cannot parse ".toList ++ shown
  | .other text => text

/-- A failure of a server. -/
inductive ServerError where
  | io (fault : Fault)
  | protocol (error : Wire.Error)
  | webSocket (text : Text)
  | sessionNotFound (id : SessionId)
  | connectionClosed
  | timeout
  | notRunning
  | alreadyRunning
  | feedStopped
  | invalidConfig (fault : ConfigFault)
  | connectionNotFound (conn : ConnId)
  | shutDown
  | other (text : Text)
  deriving DecidableEq, Repr

namespace ServerError

/-- The report of a failure. -/
def text : ServerError → Text
  | .io f => "I/O error: ".toList ++ f.text
  | .protocol e => "Protocol error: ".toList ++ e.text
  | .webSocket t => "WebSocket error: ".toList ++ t
  | .sessionNotFound id => "Session ".toList ++ id ++ " not found".toList
  | .connectionClosed => "Connection closed"
  | .timeout => "Operation timed out"
  | .notRunning => "Server not running"
  | .alreadyRunning => "Server already running"
  | .feedStopped => "Message distributor stopped"
  | .invalidConfig f => "Invalid configuration: ".toList ++ f.text
  | .connectionNotFound c => "Connection ".toList ++ c.text ++ " not found".toList
  | .shutDown => "Server was already shut down"
  | .other t => t

/-- Whether going on makes sense after a failure. -/
def isRecoverable : ServerError → Bool
  | .timeout | .connectionClosed | .io _ => true
  | .protocol e => e.isRecoverable
  | _ => false

/-- Whether a failure is one of a connection or its session. -/
def isConnection : ServerError → Bool
  | .sessionNotFound _ | .connectionClosed | .io _ | .webSocket _ => true
  | _ => false

/-- Whether a failure is one of the protocol. -/
def isProtocol : ServerError → Bool
  | .protocol _ => true
  | _ => false

end ServerError
end Parley
