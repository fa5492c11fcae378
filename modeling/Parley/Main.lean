/-
The command line: reads the settings from the environment, reports what is wrong with them, and
else serves the one participant at standard input and output until its stream ends. The lines of
the feed are shown on standard error.
-/
import Parley.Room.Delivery
import Parley.Server
import Parley.Server.Settings

namespace Parley.Main

/-- The streams of the program. -/
structure Console where
  input : IO.FS.Stream
  output : IO.FS.Stream
  errors : IO.FS.Stream

/-- Shows what has left the room, and forgets it. -/
def Console.present (c : Console) (s : Server) : IO Server := do
  let room := s.room.deliverAll
  for event in room.log do
    match event with
    | .wrote _ frame .accepted => c.output.putStrLn (String.ofList frame)
    | .published line => c.errors.putStrLn (String.ofList line)
    | _ => pure ()
  c.output.flush
  return { s with room := { room with log := [] } }

/-- Hands frames to the worker of a connection, in order. -/
def receiveFrames (s : Server) (conn : ConnId) (frames : List Text) (now : Nat) : Server :=
  frames.foldl (fun s raw => (s.receive conn (.frame raw) now).2) s

/-- Reads the stream of a connection to its end, or until its worker has ended. -/
partial def Console.serve (c : Console) (s : Server) (conn : ConnId) (decoder : Wire.Decoder)
    (buffer : List UInt8) : IO Unit := do
  if (s.worker? conn).isNone then return
  let chunk ← c.input.read 4096
  let now ← IO.monoMsNow
  if chunk.isEmpty then
    let (frame, _, _) := decoder.decodeEnd buffer
    let s := receiveFrames s conn frame.toList now
    let _ ← c.present (s.receive conn .streamEnd now).2
  else
    let (frames, decoder, buffer) := decoder.decodeAll (buffer ++ chunk.toList)
    let s ← c.present (receiveFrames s conn frames now)
    c.serve s conn decoder buffer

/-- The settings in the environment. -/
def settings : IO Server.Settings := do
  let values ← Server.Settings.names.filterMapM fun name => do
    return (← IO.getEnv (String.ofList name)).map fun value => (name, value.toList)
  return .ofList values

/-- A server with a setup, and the participant that it takes in. -/
def open? (config : Server.Config) : Except ServerError (Option (ConnId × Server)) := do
  let server ← (← Server.new config).start
  return match server.accept with
    | (some (conn, _), server) => some (conn, server)
    | (none, _) => none

end Parley.Main

open Parley in
/-- Serves the participant at standard input and output. -/
def main : IO UInt32 := do
  let console : Main.Console := ⟨← IO.getStdin, ← IO.getStdout, ← IO.getStderr⟩
  match (← Main.settings).read.bind fun config => (Main.open? config).map (config, ·) with
  | .error e =>
    console.errors.putStrLn (String.ofList e.text)
    return 1
  | .ok (config, participant) =>
    for (conn, server) in participant do
      console.serve server conn (.new config.maxFrameLength) []
    return 0
