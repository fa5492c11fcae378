/-
The search for sessions that give no sign of life. A sweep takes note of the silent sessions when
it begins; each of them is then announced as lost to everybody, taken out, and counted. These are
single steps, since others may act while an announcement is written or a link is closed.
-/
import Parley.Room.Membership

namespace Parley

/-- What is done next with the first of the sessions that are left. -/
inductive Sweep.Phase where
  | announce
  | remove
  | account
  deriving DecidableEq, Repr

/-- A sweep on its way: the silent sessions that are left, the first one's phase, and how many
sessions have been taken out. -/
structure Sweep where
  left : List Session
  phase : Sweep.Phase := .announce
  removed : Nat := 0
  deriving DecidableEq, Repr

namespace Sweep

/-- Whether a session has been silent for longer than the threshold; both are in milliseconds. -/
def isSilent (now threshold : Nat) (s : Session) : Bool := now - s.mark > threshold

/-- A sweep that begins. -/
def start (r : Room) (now threshold : Nat) : Sweep :=
  { left := r.roster.sessions.filter (isSilent now threshold) }

/-- Whether a sweep is over. -/
def isOver (w : Sweep) : Bool := w.left.isEmpty

/-- What is said of a lost session. -/
def lostText (name : Text) : Text := "LOST connection to ".toList ++ name

/-- The line for a lost session. -/
def lostLine (name : Text) : Text := Wire.displayLine Wire.Marker.server (lostText name)

/-- One step. A session that has gone while it was announced is passed over. -/
def step (r : Room) (w : Sweep) : Room × Sweep :=
  match w.left, w.phase with
  | [], _ => (r, w)
  | s :: _, .announce => ((r.announce (lostText s.name)).2, { w with phase := .remove })
  | s :: rest, .remove =>
    let r := r.publish (lostLine s.name)
    match r.roster.remove? s.id with
    | none => (r, { w with left := rest, phase := .announce })
    | some (gone, roster) => ({ r with roster }.close gone.link, { w with phase := .account })
  | _ :: rest, .account =>
    ({ r with tally := r.tally.sessionReaped }, ⟨rest, .announce, w.removed + 1⟩)

/-- A number of steps. -/
def run : Nat → Room → Sweep → Room × Sweep
  | 0, r, w => (r, w)
  | n + 1, r, w =>
    let (r, w) := step r w
    run n r w

/-- How many steps a sweep has at most. -/
def steps (w : Sweep) : Nat := 3 * w.left.length

end Sweep

/-- A whole sweep that nothing comes between; says how many sessions it took out. -/
def Room.reap (r : Room) (now threshold : Nat) : Nat × Room :=
  let w := Sweep.start r now threshold
  let (r, w) := Sweep.run w.steps r w
  (w.removed, r)

end Parley
