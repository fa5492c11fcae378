/-
Failures of the system beneath: what kind a failure is of, and where its wording comes from (the
kind itself, a text of its own, or the numbered error of the operating system).
-/
import Parley.Text.Decimal

namespace Parley

/-- The kinds of failures that reading, writing and connecting can meet. -/
inductive FaultKind where
  | notFound | permissionDenied | connectionRefused | connectionReset | hostUnreachable
  | networkUnreachable | connectionAborted | notConnected | addrInUse | addrNotAvailable
  | networkDown | brokenPipe | alreadyExists | wouldBlock | notADirectory | isADirectory
  | directoryNotEmpty | readOnlyFilesystem | staleNetworkFileHandle | invalidInput | invalidData
  | timedOut | writeZero | storageFull | notSeekable | quotaExceeded | fileTooLarge | resourceBusy
  | executableFileBusy | deadlock | crossesDevices | tooManyLinks | argumentListTooLong
  | interrupted | unsupported | unexpectedEof | outOfMemory | other
  deriving DecidableEq, Repr

/-- The wording of a kind of failure. -/
def FaultKind.text : FaultKind → Text
  | .notFound => "entity not found"
  | .permissionDenied => "permission denied"
  | .connectionRefused => "connection refused"
  | .connectionReset => "connection reset"
  | .hostUnreachable => "host unreachable"
  | .networkUnreachable => "network unreachable"
  | .connectionAborted => "connection aborted"
  | .notConnected => "not connected"
  | .addrInUse => "address in use"
  | .addrNotAvailable => "address not available"
  | .networkDown => "network down"
  | .brokenPipe => "broken pipe"
  | .alreadyExists => "entity already exists"
  | .wouldBlock => "operation would block"
  | .notADirectory => "not a directory"
  | .isADirectory => "is a directory"
  | .directoryNotEmpty => "directory not empty"
  | .readOnlyFilesystem => "read-only filesystem or storage medium"
  | .staleNetworkFileHandle => "stale network file handle"
  | .invalidInput => "invalid input parameter"
  | .invalidData => "invalid data"
  | .timedOut => "timed out"
  | .writeZero => "write zero"
  | .storageFull => "no storage space"
  | .notSeekable => "seek on unseekable file"
  | .quotaExceeded => "quota exceeded"
  | .fileTooLarge => "file too large"
  | .resourceBusy => "resource busy"
  | .executableFileBusy => "executable file busy"
  | .deadlock => "deadlock"
  | .crossesDevices => "cross-device link or rename"
  | .tooManyLinks => "too many links"
  | .argumentListTooLong => "argument list too long"
  | .interrupted => "operation interrupted"
  | .unsupported => "unsupported"
  | .unexpectedEof => "unexpected end of file"
  | .outOfMemory => "out of memory"
  | .other => "other error"

/-- A failure, by where its wording comes from. -/
inductive Fault where
  | plain (kind : FaultKind)
  | worded (kind : FaultKind) (text : Text)
  | system (kind : FaultKind) (number : Nat) (text : Text)
  deriving DecidableEq, Repr

namespace Fault

/-- No route leads to the address. -/
def unreachable : Fault := .system .networkUnreachable 101 "Network is unreachable"

/-- The other side broke the connection off. -/
def reset : Fault := .system .connectionReset 104 "Connection reset by peer"

/-- Nobody listens at the address. -/
def refused : Fault := .system .connectionRefused 111 "Connection refused"

/-- The kind of a failure. -/
def kind : Fault → FaultKind
  | .plain k => k
  | .worded k _ => k
  | .system k _ _ => k

/-- Whether the wording is the operating system's. -/
def isSystem : Fault → Bool
  | .system .. => true
  | _ => false

/-- The wording of a failure. -/
def text : Fault → Text
  | .plain k => k.text
  | .worded _ t => t
  | .system _ n t => t ++ " (os error ".toList ++ Text.decimal n ++ ")".toList

end Fault
end Parley
