/-
A client on trial before a server that plays a script. After each step the client is left alone
until nothing moves; its signs of life come so rarely that only the first is seen. In what is sent
and seen, a word of its own stands for the client's id.
-/
import Parley.Client
import Parley.Client.Frame
import Parley.Net.Network
import Parley.Text.Replace
import Parley.Text.Utf8

namespace Parley.Trial

/-- What the client's handler is told. -/
inductive ClientEvent where
  | connected (name : Text)
  | line (text : Text)
  | nameRejected (name : Text)
  | failed (error : ClientError)
  | disconnected (status : Client.Status)

/-- One step: a call of the client, or something that the server does. -/
inductive ClientStep where
  | say (text : Text)
  | sayTo (target text : Text)
  | askForDump
  | disconnect
  | disconnectQuietly
  | serve (bytes : List UInt8)
  | serveText (text : Text)
  | serveEnd
  | serveReset

/-- The answer to a step. -/
inductive ClientAnswer where
  | nothing
  | gone
  | failed (e : ClientError)

end Trial

/-- A client on trial: how far it has read the server's bytes, whether the server still writes and
whether it still reads, how many of the client's frames it has seen, and what the handler has been
told since the step began. -/
structure ClientTrial where
  client : Client
  decoder : Wire.Decoder
  buffer : List UInt8 := []
  serverWrites : Bool := true
  serverReads : Bool := true
  seenFrames : Nat := 0
  seenShut : Bool := false
  told : List Trial.ClientEvent := []

namespace ClientTrial

open Trial

/-! ## The id of the client -/

/-- The word that stands for the client's id. -/
def idWord : Text := "$uuid"

/-- The client's id. -/
def clientId : Text := List.replicate 36 '0'

/-- Puts the client's id in the place of the word for it. -/
def expand (t : Text) : Text := Text.replace idWord clientId t

/-- Puts the word for the client's id in its place. -/
def conceal (t : Text) : Text := Text.replace clientId idWord t

/-! ## The client, left alone -/

/-- The numbers of the client's reading and of its signs of life. -/
def readingNumber : Nat := 0
def pingingNumber : Nat := 1

/-- How many steps an activity makes at most without resting. -/
def mostSteps : Nat := 8

/-- Lets an activity go on until it is done, rests or has to wait. -/
def goOn (i : Nat) : Nat → Client → Client
  | 0, c => c
  | n + 1, c =>
    match c.activities[i]? with
    | some (.resting _) => if c.cancelled then (c.step? i).getD c else c
    | _ =>
      match c.step? i with
      | some c => goOn i n c
      | none => c

/-- Tells the handler something. -/
def tell (t : ClientTrial) (e : ClientEvent) : ClientTrial := { t with told := t.told ++ [e] }

/-- Whether the client still reads. -/
def isReading (t : ClientTrial) : Bool :=
  match t.client.activities[readingNumber]? with
  | some .reading => true
  | _ => false

/-- Lets the client go on until nothing moves any more. -/
def settle (t : ClientTrial) : ClientTrial :=
  let wasReading := t.isReading
  let t := { t with client := goOn readingNumber mostSteps t.client }
  let t := if wasReading && !t.isReading then t.tell (.disconnected t.client.status) else t
  { t with client := goOn pingingNumber mostSteps t.client }

/-! ## What the server does -/

/-- The client reads a frame. -/
def hear (t : ClientTrial) (raw : Text) : ClientTrial :=
  if t.client.readOut then t
  else
    let frame := Client.Frame.parse raw
    let t := match frame.line? with
      | some line => t.tell (.line line)
      | none => t
    match frame with
    | .logoff => { t with client := { t.client with readOut := true } }
    | .nameDuplicated => t.tell (.nameRejected t.client.name)
    | .chat .. | .other => t

/-- The server writes bytes. -/
def serve (t : ClientTrial) (bytes : List UInt8) : ClientTrial × ClientAnswer :=
  if !t.serverWrites then (t, .gone)
  else if !t.isReading then (t, .nothing)
  else
    let (frames, decoder, buffer) := t.decoder.decodeAll (t.buffer ++ bytes)
    (frames.foldl hear { t with decoder, buffer }, .nothing)

/-- The server ends its stream; what it has sent without a line end is still read. -/
def serveEnd (t : ClientTrial) : ClientTrial :=
  let t := { t with serverWrites := false }
  if !t.isReading then t
  else
    let (frame, decoder, buffer) := t.decoder.decodeEnd t.buffer
    let t := frame.toList.foldl hear { t with decoder, buffer }
    { t with client := { t.client with readOut := true } }

/-- The server breaks the connection off. -/
def serveReset (t : ClientTrial) : ClientTrial :=
  let reading := t.isReading
  let t := { t with serverWrites := false, serverReads := false }
  if !reading then t
  else
    { t with client := { t.client with readOut := true } }.tell (.failed (.io Fault.reset))

/-! ## Steps -/

/-- The client does something, and it is waited for. -/
def call (t : ClientTrial) (a : Client.Activity) : ClientTrial × ClientAnswer :=
  let i := t.client.activities.length
  let client := goOn i mostSteps (t.client.begin a)
  ({ t with client }, match client.activities[i]? with
    | some (.done (.error e)) => .failed e
    | _ => .nothing)

/-- What a step does. -/
def act (t : ClientTrial) : ClientStep → ClientTrial × ClientAnswer
  | .say text => t.call (t.client.say (expand text))
  | .sayTo target text => t.call (t.client.sayTo (expand target) (expand text))
  | .askForDump => t.call Client.askForDump
  | .disconnect => t.call .leaving
  | .disconnectQuietly => t.call (.closing none .mark)
  | .serve bytes => t.serve bytes
  | .serveText text => t.serve (Text.toUtf8 (expand text))
  | .serveEnd => (t.serveEnd, .nothing)
  | .serveReset => (t.serveReset, .nothing)

/-- The answer to a step, what the server has received since the one before, whether the client has
ended its stream, what the handler was told, and where the client stands. -/
structure Seen where
  answer : ClientAnswer
  sent : Text
  closed : Bool
  events : List ClientEvent
  status : Client.Status

/-- What is seen of a step, and the trial after it. -/
def see (t : ClientTrial) (answer : ClientAnswer) : Seen × ClientTrial :=
  let frames := t.client.sent.drop t.seenFrames
  let closed := if t.serverReads then t.client.shut else t.seenShut
  let sent := if t.serverReads then frames.flatMap fun f => conceal f ++ ['\n'] else []
  ({ answer, sent, closed, events := t.told, status := t.client.status },
    { t with seenFrames := t.client.sent.length, seenShut := closed, told := [] })

/-- Several steps, one after the other. -/
def run (t : ClientTrial) : List ClientStep → List Seen × ClientTrial
  | [] => ([], t)
  | s :: rest =>
    let (t, answer) := t.act s
    let (seen, t) := t.settle.see answer
    let (more, t) := t.run rest
    (seen :: more, t)

/-! ## Setting up -/

/-- A client that connects; what is seen of that comes first. -/
def begin (config : Client.Config) (network : Net.Network) (name : Text) :
    Except ClientError (Seen × ClientTrial) := do
  let _ ← config.check
  if network = .unreachable then throw (.io Fault.unreachable)
  let client ← Client.connect config clientId name
  let t : ClientTrial := { client, decoder := .new config.maxFrameLength }
  return (t.tell (.connected name)).settle.see .nothing

end ClientTrial
end Parley
