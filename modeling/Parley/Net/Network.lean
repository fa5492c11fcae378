/-
What lies between a client and a server.
-/

namespace Parley.Net

/-- Whether there is a way to the other side. -/
inductive Network where
  | reachable
  | unreachable
  deriving DecidableEq, Repr

end Parley.Net
