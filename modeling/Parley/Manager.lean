/-
The table of open connections. A connection enters the table together with its task; then it is
counted as opened, and only then does its task begin. The task runs the connection's worker, takes
the connection's own entry out of the table, whether it is still there or not, and counts the
connection's end. Removing a connection takes its entry out early and counts nothing. A shutdown
takes out all entries; for each that it has taken out it orders the task aborted, closes the
connection, and counts its end itself. An abort takes effect only where a task waits, which is
before its worker's run is at an end: from there the task goes on to the end without a wait.
-/
import Parley.Session
import Parley.Tally

namespace Parley

/-- Where the task of a connection stands: it waits or runs its worker, the run has ended, the entry
has been taken out, the end has been counted; or the task was aborted. -/
inductive TaskPhase where
  | running
  | ended
  | forgotten
  | counted
  | aborted
  deriving DecidableEq, Repr

/-- The task of a connection, whether the connection has been counted as opened, and whether the
task is to be aborted. -/
structure Task where
  conn : ConnId
  opened : Bool := false
  phase : TaskPhase := .running
  abort : Bool := false
  deriving DecidableEq, Repr

/-- Where a shutdown stands: the connections it has yet to come to, and the one that it has taken
out and is closing. -/
structure Shutdown where
  left : List ConnId
  closing : Option ConnId := none
  deriving DecidableEq, Repr

/-- Something that is counted of a connection. -/
inductive Count where
  | opened (conn : ConnId)
  | ended (conn : ConnId) (lasted : Duration)
  deriving DecidableEq, Repr

/-- Adds to the counters of a server what was counted of a connection. -/
def Tally.count (t : Tally) : Count → Tally
  | .opened _ => t.connectionOpened
  | .ended _ lasted => t.connectionClosed lasted

/-- The number of the next connection, the entries of the table, the tasks, and the shutdown that is
on its way. -/
structure Manager where
  next : Nat := 1
  entries : List ConnId := []
  tasks : List Task := []
  shutdown : Option Shutdown := none
  deriving DecidableEq, Repr

namespace Manager

/-- One move of the table, of a task, or of a shutdown. A shutdown may come to the connections in
any order. -/
inductive Move where
  | enter
  | launch (conn : ConnId)
  | runEnds (conn : ConnId)
  | forget (conn : ConnId)
  | count (conn : ConnId) (lasted : Duration)
  | abort (conn : ConnId)
  | remove (conn : ConnId)
  | beginShutdown
  | take (conn : ConnId)
  | countTaken (lasted : Duration)
  | endShutdown
  deriving DecidableEq, Repr

/-- The task of a connection. -/
def task? (m : Manager) (conn : ConnId) : Option Task := m.tasks.find? (·.conn = conn)

/-- Changes the task of a connection. -/
def updateTask (m : Manager) (conn : ConnId) (change : Task → Task) : Manager :=
  { m with tasks := m.tasks.map fun t => if t.conn = conn then change t else t }

/-- Takes an entry out of the table. -/
def erase (m : Manager) (conn : ConnId) : Manager :=
  { m with entries := m.entries.filter (· ≠ conn) }

/-- Moves the task of a connection from one phase to the next. -/
def advance? (m : Manager) (conn : ConnId) (before after : TaskPhase) : Option Manager :=
  (m.task? conn).bind fun t =>
    if t.phase = before then some (m.updateTask conn fun t => { t with phase := after }) else none

/-- A connection enters the table with its task, which waits. -/
def enter (m : Manager) : ConnId × Manager :=
  let conn : ConnId := ⟨m.next⟩
  (conn, { m with
    next := m.next + 1
    entries := m.entries ++ [conn]
    tasks := m.tasks ++ [{ conn }] })

/-- A connection that has entered is counted as opened; its task may begin. -/
def launch? (m : Manager) (conn : ConnId) : Option Manager :=
  (m.task? conn).bind fun t =>
    if t.opened then none else some (m.updateTask conn fun t => { t with opened := true })

/-- Adds a connection: it enters and is launched. -/
def add (m : Manager) : ConnId × Manager :=
  let (conn, m) := m.enter
  (conn, (m.launch? conn).getD m)

/-- The run of a worker that has begun ends. -/
def runEnds? (m : Manager) (conn : ConnId) : Option Manager :=
  (m.task? conn).bind fun t => if t.opened then m.advance? conn .running .ended else none

/-- A task that is to be aborted stops. -/
def abort? (m : Manager) (conn : ConnId) : Option Manager :=
  (m.task? conn).bind fun t => if t.abort then m.advance? conn .running .aborted else none

/-- Takes the entry of a connection out of the table. -/
def remove? (m : Manager) (conn : ConnId) : Option Manager :=
  if m.entries.contains conn then some (m.erase conn) else none

/-- A shutdown begins with the entries that are there. -/
def beginShutdown? (m : Manager) : Option Manager :=
  if m.shutdown.isNone then some { m with shutdown := some { left := m.entries } } else none

/-- The shutdown comes to a connection: takes its entry out and orders its task aborted, or passes
it over if the entry has gone. -/
def take? (m : Manager) (conn : ConnId) : Option Manager :=
  match m.shutdown with
  | some ⟨left, none⟩ =>
    if left.contains conn then
      let left := left.erase conn
      if m.entries.contains conn then
        some { (m.erase conn).updateTask conn (fun t => { t with abort := true }) with
          shutdown := some ⟨left, some conn⟩ }
      else some { m with shutdown := some ⟨left, none⟩ }
    else none
  | _ => none

/-- The shutdown has closed a connection that it has taken out, and counts its end. -/
def countTaken? (m : Manager) (lasted : Duration) : Option (Manager × Count) :=
  match m.shutdown with
  | some ⟨left, some conn⟩ =>
    some ({ m with shutdown := some ⟨left, none⟩ }, .ended conn lasted)
  | _ => none

/-- A shutdown that has come to all its connections ends. -/
def endShutdown? (m : Manager) : Option Manager :=
  match m.shutdown with
  | some ⟨[], none⟩ => some { m with shutdown := none }
  | _ => none

/-- Makes a move, if it can be made; also says what it counts. -/
def move? (m : Manager) : Move → Option (Manager × Option Count)
  | .enter => some (m.enter.2, none)
  | .launch conn => (m.launch? conn).map (·, some (.opened conn))
  | .runEnds conn => (m.runEnds? conn).map (·, none)
  | .forget conn => (m.advance? conn .ended .forgotten).map fun m => (m.erase conn, none)
  | .count conn lasted => (m.advance? conn .forgotten .counted).map (·, some (.ended conn lasted))
  | .abort conn => (m.abort? conn).map (·, none)
  | .remove conn => (m.remove? conn).map (·, none)
  | .beginShutdown => m.beginShutdown?.map (·, none)
  | .take conn => (m.take? conn).map (·, none)
  | .countTaken lasted => (m.countTaken? lasted).map fun (m, count) => (m, some count)
  | .endShutdown => m.endShutdown?.map (·, none)

/-- Makes several moves; also says what they count, in order. -/
def run? (m : Manager) : List Move → Option (Manager × List Count)
  | [] => some (m, [])
  | move :: rest => do
    let (m, count) ← m.move? move
    let (m, more) ← m.run? rest
    return (m, count.toList ++ more)

/-- The moves by which a task comes to its end after its run. -/
def endOfTask (conn : ConnId) (lasted : Duration) : List Move :=
  [.runEnds conn, .forget conn, .count conn lasted]

end Manager
end Parley
