/-
What a server counts. Counters have 64 bits and wrap; a rate is a count over the time that the
server has been up.
-/
import Parley.Duration

namespace Parley

/-- The counters of a server. -/
structure Tally where
  connectionsOpened : UInt64 := 0
  connectionsOpen : UInt64 := 0
  connectionErrors : UInt64 := 0
  sessionsRegistered : UInt64 := 0
  sessionsClosed : UInt64 := 0
  sessionsReaped : UInt64 := 0
  registrationsRejected : UInt64 := 0
  framesReceived : UInt64 := 0
  framesSent : UInt64 := 0
  sendFailures : UInt64 := 0
  malformedFrames : UInt64 := 0
  queriesAnswered : UInt64 := 0
  connectedNanos : UInt64 := 0
  deriving DecidableEq, Repr

namespace Tally

/-! ## Counting -/

def connectionOpened (t : Tally) : Tally :=
  { t with
    connectionsOpened := t.connectionsOpened + 1
    connectionsOpen := t.connectionsOpen + 1 }

/-- A connection has ended after some time; of a longer time than 64 bits hold, the low bits
count. -/
def connectionClosed (t : Tally) (lasted : Duration) : Tally :=
  { t with
    connectionsOpen := t.connectionsOpen - 1
    connectedNanos := t.connectedNanos + UInt64.ofNat lasted.nanos }

def connectionError (t : Tally) : Tally := { t with connectionErrors := t.connectionErrors + 1 }

def sessionRegistered (t : Tally) : Tally :=
  { t with sessionsRegistered := t.sessionsRegistered + 1 }

def sessionClosed (t : Tally) : Tally := { t with sessionsClosed := t.sessionsClosed + 1 }

def sessionReaped (t : Tally) : Tally := { t with sessionsReaped := t.sessionsReaped + 1 }

def registrationRejected (t : Tally) : Tally :=
  { t with registrationsRejected := t.registrationsRejected + 1 }

def frameReceived (t : Tally) : Tally := { t with framesReceived := t.framesReceived + 1 }

def frameSent (t : Tally) : Tally := { t with framesSent := t.framesSent + 1 }

def sendFailure (t : Tally) : Tally := { t with sendFailures := t.sendFailures + 1 }

def malformedFrame (t : Tally) : Tally := { t with malformedFrames := t.malformedFrames + 1 }

def queryAnswered (t : Tally) : Tally := { t with queriesAnswered := t.queriesAnswered + 1 }

/-! ## Sums -/

/-- All errors together. -/
def errors (t : Tally) : UInt64 := t.connectionErrors + t.sendFailures + t.malformedFrames

/-- The sessions that have begun and not ended. -/
def liveSessions (t : Tally) : UInt64 :=
  let ended := t.sessionsClosed + t.sessionsReaped
  if ended ≤ t.sessionsRegistered then t.sessionsRegistered - ended else 0

/-- How long a connection lasts on average, over all that were opened. -/
def averageConnection (t : Tally) : Duration :=
  if t.connectionsOpened = 0 then ⟨0⟩ else ⟨(t.connectedNanos / t.connectionsOpened).toNat⟩

/-- A span of time in seconds. -/
def seconds (d : Duration) : Float :=
  (UInt64.ofNat (d.nanos / 1000000000)).toFloat +
    (UInt64.ofNat (d.nanos % 1000000000)).toFloat / 1000000000

/-- How often something happened in a second of the time that the server has been up. -/
def perSecond (count : UInt64) (uptime : Duration) : Float :=
  if uptime.isZero then 0 else count.toFloat / seconds uptime

end Tally
end Parley
