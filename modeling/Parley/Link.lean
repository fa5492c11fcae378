/-
The way out to the participant at the other end of a connection. How it reacts to a write is
up to the other end: it takes the frame, refuses it for some cause, or stalls until the time for
the write is over. Once closed, it refuses every frame.
-/
import Parley.Server.Error

namespace Parley

/-- What becomes of a frame that is written. -/
inductive Outcome where
  | accepted
  | refused (cause : ServerError)
  | stalled
  deriving DecidableEq, Repr

namespace Outcome

/-- The failure of a write; one that stalls fails when its time is over. -/
def failure? : Outcome → Option ServerError
  | .accepted => none
  | .refused cause => some cause
  | .stalled => some .timeout

/-- Whether a write took all the time it had. -/
def isStalled : Outcome → Bool
  | .stalled => true
  | _ => false

end Outcome

/-- How the other end reacts to each frame, by the number of frames before it; how many have been
written and how many of them taken; and how many times the link has been closed. -/
structure Link where
  react : Nat → Text → Outcome := fun _ _ => .accepted
  tries : Nat := 0
  taken : Nat := 0
  closes : Nat := 0

namespace Link

/-- Whether a link has been closed. -/
def isClosed (l : Link) : Bool := l.closes ≠ 0

/-- What becomes of the next frame. -/
def outcome (l : Link) (frame : Text) : Outcome :=
  if l.isClosed then .refused .connectionClosed else l.react l.tries frame

/-- Writes a frame. -/
def write (l : Link) (frame : Text) : Outcome × Link :=
  (l.outcome frame, { l with
    tries := l.tries + 1
    taken := if l.outcome frame = .accepted then l.taken + 1 else l.taken })

/-- Closes a link. It counts as closed at once, but whoever closes it may have to wait until the
other end has taken what was written before, and nothing bounds that time. -/
def close (l : Link) : Link := { l with closes := l.closes + 1 }

@[simp] theorem isClosed_close (l : Link) : l.close.isClosed = true := by
  simp [close, isClosed]

@[simp] theorem isClosed_write (l : Link) (frame : Text) :
    (l.write frame).2.isClosed = l.isClosed := rfl

/-- A closed link refuses every frame. -/
theorem outcome_of_closed {l : Link} (h : l.isClosed = true) (frame : Text) :
    l.outcome frame = .refused .connectionClosed := if_pos h

end Link

/-- The links of all connections; a connection that nothing is known of accepts every frame. -/
abbrev Links := ConnId → Link

/-- Puts another link in the place of a connection's. -/
def Links.set (links : Links) (conn : ConnId) (link : Link) : Links :=
  fun c => if c = conn then link else links c

@[simp] theorem Links.set_self (links : Links) (conn : ConnId) (link : Link) :
    links.set conn link conn = link := if_pos rfl

theorem Links.set_of_ne (links : Links) {conn other : ConnId} (link : Link) (h : other ≠ conn) :
    links.set conn link other = links other := if_neg h

end Parley
