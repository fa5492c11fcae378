/-
A client that is connected. Its calls, its reading and its signs of life are activities that go on
side by side; each moves in single steps, and the write half belongs to one of them at a time. A
frame is written only by an activity that holds the write half and has found the client not
cancelled; closing marks the client, cancels it, takes leave if it is asked to, shuts the write
half, and settles the client as disconnected.
-/
import Parley.Client.Config
import Parley.Text.Quoted
import Parley.Text.Record
import Parley.Wire.Chat
import Parley.Wire.Frame
import Parley.Wire.Message

namespace Parley

/-- Where a client stands. -/
inductive Client.Status where
  | disconnected
  | connected
  | shuttingDown
  deriving DecidableEq, Repr

/-- What an activity that sends does next: take the write half, look whether the client has been
cancelled, write. -/
inductive Client.Sending where
  | lock
  | check
  | write
  deriving DecidableEq, Repr

/-- What an activity that closes does next: mark the client, cancel it, take the write half, take
leave, shut the write half, settle. -/
inductive Client.Closing where
  | mark
  | cancel
  | lock
  | farewell
  | shut
  | settle
  deriving DecidableEq, Repr

/-- Something that a client does: it sends a frame, once or again and again; rests between two
signs of life; disconnects, if it is connected; closes, with a farewell or without; reads; or is
done. -/
inductive Client.Activity where
  | sending (frame : Text) (next : Client.Sending) (again : Bool)
  | resting (frame : Text)
  | leaving
  | closing (farewell : Option Text) (next : Client.Closing)
  | reading
  | done (result : Except ClientError Unit)

/-- A client: its limit and its names; where it stands, whether it has been cancelled, which
activity holds the write half, and whether the write half has been shut; whether there is nothing
more to read; the frames that it has sent; and its activities. -/
structure Client where
  maxFrameLength : Nat
  uuid : Text
  name : Text
  status : Client.Status := .connected
  cancelled : Bool := false
  holder : Option Nat := none
  shut : Bool := false
  readOut : Bool := false
  sent : List Text := []
  activities : List Client.Activity := []

namespace Client

/-! ## Writing -/

/-- The failure of writing to a write half that has been shut. -/
def shutFailure : ClientError := .io (.plain .brokenPipe)

/-- Writes a frame. -/
def put (c : Client) (frame : Text) : Except ClientError Unit × Client :=
  match Wire.encode c.maxFrameLength frame with
  | .error e => (.error (.protocol e), c)
  | .ok _ =>
    if c.shut then (.error shutFailure, c) else (.ok (), { c with sent := c.sent ++ [frame] })

/-- Puts another activity in the place of one. -/
def become (c : Client) (i : Nat) (a : Activity) : Client :=
  { c with activities := c.activities.set i a }

/-- Gives the write half back. -/
def unlock (c : Client) : Client := { c with holder := none }

/-- Gives the write half to an activity that goes on to something else, if it is free. -/
def lock? (c : Client) (i : Nat) (next : Activity) : Option Client :=
  if c.holder.isNone then some { c.become i next with holder := some i } else none

/-! ## Single steps -/

/-- One step of an activity that sends. -/
def stepSending (c : Client) (i : Nat) (frame : Text) (again : Bool) : Sending → Option Client
  | .lock => c.lock? i (.sending frame .check again)
  | .check =>
    if c.cancelled then some (c.unlock.become i (.done (.error .notConnected)))
    else some (c.become i (.sending frame .write again))
  | .write =>
    let (result, c) := c.put frame
    let c := c.unlock
    some <| match result, again with
      | .ok (), true => c.become i (.resting frame)
      | result, _ => c.become i (.done result)

/-- One step of an activity that closes. -/
def stepClosing (c : Client) (i : Nat) (farewell : Option Text) : Closing → Option Client
  | .mark =>
    let next : Closing := if c.status = .disconnected then .settle else .cancel
    some ({ c with status := .shuttingDown }.become i (.closing farewell next))
  | .cancel => some ({ c with cancelled := true }.become i (.closing farewell .lock))
  | .lock => c.lock? i (.closing farewell .farewell)
  | .farewell =>
    let c := match farewell with
      | some frame => (c.put frame).2
      | none => c
    some (c.become i (.closing farewell .shut))
  | .shut => some ({ c.unlock with shut := true }.become i (.closing farewell .settle))
  | .settle => some ({ c with status := .disconnected }.become i (.done (.ok ())))

/-- One step of an activity, if it can make one. Reading ends when there is nothing more to read or
the client is cancelled, and closes the client without a farewell. -/
def step? (c : Client) (i : Nat) : Option Client :=
  match c.activities[i]? with
  | some (.sending frame next again) => c.stepSending i frame again next
  | some (.resting frame) =>
    if c.cancelled then some (c.become i (.done (.ok ())))
    else some (c.become i (.sending frame .lock true))
  | some .leaving =>
    if c.status = .connected then
      some (c.become i (.closing (some (Wire.Message.logoff c.uuid).wire) .mark))
    else some (c.become i (.done (.error .notConnected)))
  | some (.closing farewell next) => c.stepClosing i farewell next
  | some .reading =>
    if c.readOut || c.cancelled then some (c.become i (.closing none .mark)) else none
  | some (.done _) | none => none

/-- The steps of the activities with some numbers, one after the other. -/
def run? (c : Client) : List Nat → Option Client
  | [] => some c
  | i :: rest => (c.step? i).bind fun c => c.run? rest

/-! ## Calls -/

/-- Begins an activity; its number is the next one. -/
def begin (c : Client) (a : Activity) : Client := { c with activities := c.activities ++ [a] }

/-- Says something. -/
def say (c : Client) (text : Text) : Activity :=
  .sending (Wire.Message.incoming c.uuid text).wire .lock false

/-- Says something to the holder of one name. -/
def sayTo (c : Client) (target text : Text) : Activity :=
  c.say (Wire.Chat.addressed target text)

/-- Asks the server for a dump of its sessions. -/
def askForDump : Activity := .sending Wire.Message.debug.wire .lock false

/-- Gives signs of life, again and again. -/
def ping (c : Client) : Activity := .sending (Wire.Message.keepAlive c.uuid).wire .lock true

/-- A client that has connected and registered under a name; it begins to read and to give signs
of life. -/
def connect (config : Config) (uuid name : Text) : Except ClientError Client := do
  let config ← config.check
  let c : Client := { maxFrameLength := config.maxFrameLength, uuid, name }
  match c.put (Wire.Message.register uuid name).wire with
  | (.error e, _) => .error e
  | (.ok (), c) => return (c.begin .reading).begin c.ping

/-- Whether a client is connected. -/
def isConnected (c : Client) : Bool := c.status = .connected

/-- The name of where a client stands. -/
def Status.label : Status → Text
  | .disconnected => "Disconnected"
  | .connected => "Connected"
  | .shuttingDown => "ShuttingDown"

/-- What is shown of a client. -/
def report (c : Client) : Text :=
  Text.record "RelayClient"
    [("uuid", Text.quoted c.uuid), ("name", Text.quoted c.name), ("state", c.status.label)]

end Client
end Parley
