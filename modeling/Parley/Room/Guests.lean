/-
The guests of a room. A guest's nickname is reserved for as long as it is attached. A guest whose
mailbox is full when a frame comes for it is put out, which releases its nickname.
-/
import Parley.Room

namespace Parley.Room

/-! ## Coming and going -/

/-- Attaches a guest. -/
def attach (r : Room) (id : SessionId) : Room :=
  { r with bridge := r.bridge.attach id }.record (.queued id (Wire.greeting id))

/-- Ends the reservation of a name that may be reserved. -/
def release (r : Room) (name : Text) : Room :=
  { r with roster := (r.roster.release? name).getD r.roster }

/-- Detaches a guest and releases its nickname; a guest who is not attached changes nothing. -/
def detach (r : Room) (id : SessionId) : Room :=
  match r.bridge.detach? id with
  | none => r
  | some (guest, bridge) =>
    let r := { r with bridge }
    let r := match guest.nickname with
      | some name => r.release name
      | none => r
    r.record (.ended id)

/-! ## Frames for guests -/

/-- Puts a frame into the mailbox of a guest, who is put out if the mailbox is full; says whether
the frame was taken. -/
def sendTo (r : Room) (id : SessionId) (frame : Text) : Bool × Room :=
  match r.bridge.guest? id with
  | none => (false, r)
  | some guest =>
    match guest.receipt r.bridge.capacity with
    | .taken =>
      (true, { r with
        bridge := r.bridge.update id (Guest.take r.bridge.capacity frame) }.record
          (.queued id frame))
    | .full => (false, r.detach id)
    | .gone => (false, r)

/-- Puts a frame into the mailbox of the guest with a nickname. -/
def deliver (r : Room) (name frame : Text) : Bool × Room :=
  match r.bridge.named? name with
  | some guest => r.sendTo guest.id frame
  | none => (false, r)

/-- Puts a line into the mailbox of every guest but its speaker, and puts out those whose mailbox
is full; says how many took the line. -/
def forward (r : Room) (line : Text) : Nat × Room :=
  let speaker := Wire.displaySpeaker line
  let capacity := r.bridge.capacity
  let listeners := r.bridge.guests.filter fun g => !g.answersTo speaker
  let takers := listeners.filter fun g => g.receipt capacity = .taken
  let stuck := listeners.filter fun g => g.receipt capacity = .full
  let guests := r.bridge.guests.map fun g =>
    if g.answersTo speaker then g else g.take capacity line
  let r := takers.foldl (fun r g => r.record (.queued g.id line))
    { r with bridge := { r.bridge with guests } }
  (takers.length, stuck.foldl (fun r g => r.detach g.id) r)

end Parley.Room
