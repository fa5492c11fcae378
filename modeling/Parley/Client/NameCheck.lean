/-
The question whether a name is taken, asked before connecting: one datagram there, one back.
-/
import Parley.Client.Config
import Parley.Net.Network
import Parley.Wire.Frame
import Parley.Wire.Message

namespace Parley.Client

/-- The question about a name. -/
def nameQuestion (name : Text) : Text := (Wire.Message.usernameQuery name).wire

/-- Whether a reply says that the name is taken; of its bytes, as many count as a frame may have. -/
def isTaken (config : Config) (reply : List UInt8) : Bool :=
  !Text.startsWith Wire.Marker.clear (Text.fromUtf8 (reply.take config.maxFrameLength))

/-- Whether a name is taken, by the reply that comes, if one comes. -/
def checkName (config : Config) (network : Net.Network) (reply : Option (List UInt8)) :
    Except ClientError Bool :=
  match network, reply with
  | .unreachable, _ => .error (.io Fault.unreachable)
  | .reachable, none => .error .queryTimeout
  | .reachable, some bytes => .ok (isTaken config bytes)

end Parley.Client
