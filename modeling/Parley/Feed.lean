/-
The feed of lines: producers put lines into one queue, and one worker hands each line, in order, to
every subscriber there was when it took the line out. The worker's moves are single steps, so that
anything may happen between two of them.
-/
import Parley.Text

namespace Parley

/-- A subscriber of the feed, by its number; numbers are given out once. -/
abbrev SubscriberId := Nat

/-- A line on its way, and the subscribers that it has yet to be handed to. -/
structure Delivery where
  line : Text
  left : List SubscriberId
  deriving DecidableEq, Repr

/-- The lines that wait, the subscribers in the order of their numbers, the line that is being
delivered, whether the feed has been stopped, whether its worker has ended, and what has been warned
of, subscriber by subscriber. -/
structure Feed where
  queue : List Text := []
  subscribers : List SubscriberId := []
  nextId : SubscriberId := 1
  delivery : Option Delivery := none
  stopped : Bool := false
  ended : Bool := false
  warnings : List (SubscriberId × Text) := []
  deriving DecidableEq, Repr

namespace Feed

/-! ## Producers -/

/-- Puts a line into the queue, unless nobody will take it out any more. -/
def enqueue? (f : Feed) (line : Text) : Option Feed :=
  if f.ended then none else some { f with queue := f.queue ++ [line] }

/-- Publishes a line: a stopped feed refuses it, and so does one whose worker has ended. -/
def publish? (f : Feed) (line : Text) : Option Feed :=
  if f.stopped then none else f.enqueue? line

/-! ## Subscribers -/

/-- Adds a subscriber. -/
def subscribe (f : Feed) : SubscriberId × Feed :=
  (f.nextId, { f with subscribers := f.subscribers ++ [f.nextId], nextId := f.nextId + 1 })

/-- Takes a subscriber out. -/
def unsubscribe? (f : Feed) (s : SubscriberId) : Option Feed :=
  if f.subscribers.contains s then
    some { f with subscribers := f.subscribers.filter (· ≠ s) }
  else none

/-! ## The worker -/

/-- What a subscriber does with a line: it may take it, refuse it, or break down over it. -/
inductive Reply where
  | taken
  | refused
  | broken
  deriving DecidableEq, Repr

/-- What is warned of when a subscriber has not taken its line. -/
def Reply.warning? : Reply → Option Text
  | .taken => none
  | .refused => some "Subscriber failed to take line".toList
  | .broken => some "Subscriber panicked while taking line".toList

/-- Takes the next line out of the queue, with a copy of the list of subscribers. -/
def dequeue? (f : Feed) : Option Feed :=
  match f.delivery, f.stopped, f.queue with
  | none, false, line :: rest =>
    some { f with queue := rest, delivery := some ⟨line, f.subscribers⟩ }
  | _, _, _ => none

/-- The feed when a subscriber has been handed a line and some are left; if it has not taken the
line, this is warned of, and the others get the line all the same. -/
def handOn (f : Feed) (line : Text) (s : SubscriberId) (left : List SubscriberId) (reply : Reply) :
    Feed :=
  { f with
    delivery := some ⟨line, left⟩
    warnings := f.warnings ++ reply.warning?.toList.map (s, ·) }

/-- Hands the line that is being delivered to the next subscriber. -/
def hand? (f : Feed) (reply : Reply) : Option (SubscriberId × Text × Feed) :=
  match f.delivery with
  | some ⟨line, s :: left⟩ => some (s, line, f.handOn line s left reply)
  | _ => none

/-- Is done with a line that everybody has been handed. -/
def finish? (f : Feed) : Option Feed :=
  match f.delivery with
  | some ⟨_, []⟩ => some { f with delivery := none }
  | _ => none

/-- Ends the worker of a stopped feed, once it is not delivering. -/
def exit? (f : Feed) : Option Feed :=
  if f.stopped && f.delivery.isNone && !f.ended then some { f with ended := true } else none

/-- The most moves that the worker can make before it has to wait for another line. -/
def work (f : Feed) : Nat :=
  f.queue.length * (f.subscribers.length + 2) +
    match f.delivery with
    | some d => d.left.length + 1
    | none => 0

/-! ## When the worker can move -/

theorem dequeue?_some {f f' : Feed} (h : f.dequeue? = some f') :
    ∃ line rest, f.delivery = none ∧ f.stopped = false ∧ f.queue = line :: rest ∧
      f' = { f with queue := rest, delivery := some ⟨line, f.subscribers⟩ } := by
  unfold dequeue? at h
  split at h
  · rename_i line rest idle going queued
    exact ⟨line, rest, idle, going, queued, (Option.some.inj h).symm⟩
  · cases h

theorem hand?_some {f f' : Feed} {reply : Reply} {s : SubscriberId} {line : Text}
    (h : f.hand? reply = some (s, line, f')) :
    ∃ left, f.delivery = some ⟨line, s :: left⟩ ∧ f' = f.handOn line s left reply := by
  unfold hand? at h
  split at h
  · rename_i l s' left d
    cases h
    exact ⟨left, d, rfl⟩
  · cases h

@[simp] theorem delivery_handOn (f : Feed) (line : Text) (s : SubscriberId)
    (left : List SubscriberId) (reply : Reply) :
    (f.handOn line s left reply).delivery = some ⟨line, left⟩ := rfl

/-- Nothing is warned of when a line is taken. -/
theorem handOn_taken (f : Feed) (line : Text) (s : SubscriberId) (left : List SubscriberId) :
    f.handOn line s left .taken = { f with delivery := some ⟨line, left⟩ } := by
  simp [handOn, Reply.warning?]

/-- A stopped feed refuses every line. -/
theorem publish?_of_stopped {f : Feed} (h : f.stopped = true) (line : Text) :
    f.publish? line = none := by
  simp [publish?, h]

/-! ## Running -/

/-- Stops the feed; lines that still wait are lost. -/
def stop (f : Feed) : Feed := { f with stopped := true }

/-- Whether lines are still delivered: nobody has stopped the feed, and its worker goes on. -/
def isRunning (f : Feed) : Bool := !f.stopped && !f.ended

end Feed
end Parley
