/-
What can go wrong in a client, and how it is reported.
-/
import Parley.Server.Error

namespace Parley

/-- A failure of a client. -/
inductive ClientError where
  | io (fault : Fault)
  | protocol (error : Wire.Error)
  | connectionTimeout
  | queryTimeout
  | connectionClosed
  | notConnected
  | invalidConfig (fault : ConfigFault)
  deriving DecidableEq, Repr

namespace ClientError

/-- The report of a failure. -/
def text : ClientError → Text
  | .io f => "I/O error: ".toList ++ f.text
  | .protocol e => "Protocol error: ".toList ++ e.text
  | .connectionTimeout => "Connection timeout"
  | .queryTimeout => "Duplicate-name query timed out"
  | .connectionClosed => "Connection closed by server"
  | .notConnected => "Not connected"
  | .invalidConfig f => "Invalid configuration: ".toList ++ f.text

/-- Whether a failure says that the connection is gone. -/
def isConnection : ClientError → Bool
  | .connectionClosed | .notConnected => true
  | .io f => [.connectionReset, .connectionAborted, .brokenPipe, .unexpectedEof].contains f.kind
  | _ => false

end ClientError
end Parley
