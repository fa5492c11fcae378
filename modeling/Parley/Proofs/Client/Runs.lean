/-
What happens at a client: calls begin, and the activities go on in any order, one step at a time.
Besides its own steps an activity may fail to write, and one that rests may go on once more after
the client has been cancelled, when both happen at once. All that an activity can do next is listed
once (`Turn`), and so is all that a move can come to (`Comes`); what each of these keeps, every run
keeps (`run_keeps`).
-/
import Parley.Client

namespace Parley.Client

open Wire (Message)

/-! ## Moves -/

/-- A call of a client. -/
inductive Call where
  | say (text : Text)
  | sayTo (target text : Text)
  | askForDump
  | disconnect
  | disconnectQuietly
  deriving DecidableEq, Repr

/-- The activity that a call begins. -/
def Call.activity (c : Client) : Call → Activity
  | .say text => c.say text
  | .sayTo target text => c.sayTo target text
  | .askForDump => Client.askForDump
  | .disconnect => .leaving
  | .disconnectQuietly => .closing none .mark

/-- A write of an activity fails and sends nothing, if it is about to write. -/
def fail? (c : Client) (i : Nat) (e : ClientError) : Option Client :=
  match c.activities[i]? with
  | some (.sending _ .write _) => some (c.unlock.become i (.done (.error e)))
  | some (.closing farewell .farewell) => some (c.become i (.closing farewell .shut))
  | _ => none

/-- An activity that rests goes on, whether the client has been cancelled or not. -/
def wake? (c : Client) (i : Nat) : Option Client :=
  match c.activities[i]? with
  | some (.resting frame) => some (c.become i (.sending frame .lock true))
  | _ => none

/-- Something that happens at a client: a call begins, an activity makes a step, its write fails, it
goes on after a rest, or there is nothing more to read. -/
inductive Move where
  | call (call : Call)
  | step (i : Nat)
  | fail (i : Nat) (e : ClientError)
  | wake (i : Nat)
  | readOut

/-- The client after a move; one that cannot be made changes nothing. -/
def move (c : Client) : Move → Client
  | .call call => c.begin (call.activity c)
  | .step i => (c.step? i).getD c
  | .fail i e => (c.fail? i e).getD c
  | .wake i => (c.wake? i).getD c
  | .readOut => { c with readOut := true }

/-- The client after several moves, one after the other. -/
def run (c : Client) (moves : List Move) : Client := moves.foldl move c

theorem run_append (c : Client) (before after : List Move) :
    c.run (before ++ after) = (c.run before).run after :=
  List.foldl_append ..

/-! ## What a move comes to -/

/-- What an activity does next: what it becomes, and what becomes of the client otherwise. -/
inductive Turn (c : Client) (i : Nat) : Activity → Activity → Client → Prop where
  | taken {frame : Text} {again : Bool} (free : c.holder = none) :
      Turn c i (.sending frame .lock again) (.sending frame .check again)
        { c with holder := some i }
  | stopped {frame : Text} {again : Bool} (cancelled : c.cancelled = true) :
      Turn c i (.sending frame .check again) (.done (.error .notConnected)) c.unlock
  | cleared {frame : Text} {again : Bool} (going : c.cancelled = false) :
      Turn c i (.sending frame .check again) (.sending frame .write again) c
  | sent {frame : Text} {again : Bool} (notShut : c.shut = false) :
      Turn c i (.sending frame .write again)
        (if again then .resting frame else .done (.ok ()))
        { c.unlock with sent := c.sent ++ [frame] }
  | unsent {frame : Text} {again : Bool} (e : ClientError) :
      Turn c i (.sending frame .write again) (.done (.error e)) c.unlock
  | rested {frame : Text} : Turn c i (.resting frame) (.sending frame .lock true) c
  | finished {frame : Text} (cancelled : c.cancelled = true) :
      Turn c i (.resting frame) (.done (.ok ())) c
  | leaves (connected : c.status = .connected) :
      Turn c i .leaving (.closing (some (Message.logoff c.uuid).wire) .mark) c
  | left (unconnected : c.status ≠ .connected) :
      Turn c i .leaving (.done (.error .notConnected)) c
  | marked {farewell : Option Text} :
      Turn c i (.closing farewell .mark)
        (.closing farewell (if c.status = .disconnected then .settle else .cancel))
        { c with status := .shuttingDown }
  | cancels {farewell : Option Text} :
      Turn c i (.closing farewell .cancel) (.closing farewell .lock) { c with cancelled := true }
  | claimed {farewell : Option Text} (free : c.holder = none) :
      Turn c i (.closing farewell .lock) (.closing farewell .farewell) { c with holder := some i }
  | parted {frame : Text} (notShut : c.shut = false) :
      Turn c i (.closing (some frame) .farewell) (.closing (some frame) .shut)
        { c with sent := c.sent ++ [frame] }
  | silent {farewell : Option Text} :
      Turn c i (.closing farewell .farewell) (.closing farewell .shut) c
  | shuts {farewell : Option Text} :
      Turn c i (.closing farewell .shut) (.closing farewell .settle) { c.unlock with shut := true }
  | settled {farewell : Option Text} :
      Turn c i (.closing farewell .settle) (.done (.ok ())) { c with status := .disconnected }
  | finds : Turn c i .reading (.closing none .mark) c

/-- What a turn of the activity with some number comes to. -/
inductive Turned (c : Client) (i : Nat) : Client → Prop where
  | intro {a b : Activity} {c' : Client} (found : c.activities[i]? = some a)
      (turn : Turn c i a b c') : Turned c i (c'.become i b)

/-- What a move comes to. -/
inductive Comes (c : Client) : Client → Prop where
  | begun (call : Call) : Comes c (c.begin (call.activity c))
  | turned {i : Nat} {a b : Activity} {c' : Client} (found : c.activities[i]? = some a)
      (turn : Turn c i a b c') : Comes c (c'.become i b)
  | readOut : Comes c { c with readOut := true }
  | still : Comes c c

theorem put_cases (c : Client) (frame : Text) :
    (∃ e, c.put frame = (.error e, c)) ∨
      c.shut = false ∧ c.put frame = (.ok (), { c with sent := c.sent ++ [frame] }) := by
  unfold put
  split
  · exact .inl ⟨_, rfl⟩
  · split
    · exact .inl ⟨_, rfl⟩
    · rename_i h
      exact .inr ⟨by simpa using h, rfl⟩

theorem lock?_some {c c' : Client} {i : Nat} {next : Activity} (h : c.lock? i next = some c') :
    c.holder = none ∧ c' = { c with holder := some i }.become i next := by
  unfold lock? at h
  split at h
  · rename_i free
    exact ⟨Option.isNone_iff_eq_none.1 free, (Option.some.inj h).symm⟩
  · cases h

section Steps

variable {c c' : Client} {i : Nat}

theorem Turned.comes (h : Turned c i c') : Comes c c' := by
  cases h with
  | intro found turn => exact .turned found turn

theorem stepSending_turned {frame : Text} {next : Sending} {again : Bool}
    (found : c.activities[i]? = some (.sending frame next again))
    (h : c.stepSending i frame again next = some c') : Turned c i c' := by
  cases next with
  | lock =>
    obtain ⟨free, rfl⟩ := lock?_some h
    exact .intro found (.taken free)
  | check =>
    simp only [stepSending] at h
    split at h
    · rename_i hcancelled
      obtain rfl := Option.some.inj h
      exact .intro found (.stopped hcancelled)
    · rename_i going
      obtain rfl := Option.some.inj h
      exact .intro found (.cleared (by simpa using going))
  | write =>
    rcases c.put_cases frame with ⟨e, hput⟩ | ⟨notShut, hput⟩
    · simp only [stepSending, hput] at h
      obtain rfl := Option.some.inj h
      exact .intro found (.unsent e)
    · have hturn : Turn c i (.sending frame .write again) _ _ := .sent notShut
      simp only [stepSending, hput] at h
      obtain rfl := Option.some.inj h
      cases again with
      | true => exact .intro found hturn
      | false => exact .intro found hturn

theorem stepClosing_turned {farewell : Option Text} {next : Closing}
    (found : c.activities[i]? = some (.closing farewell next))
    (h : c.stepClosing i farewell next = some c') : Turned c i c' := by
  cases next with
  | mark =>
    obtain rfl := Option.some.inj h
    exact .intro found .marked
  | cancel =>
    obtain rfl := Option.some.inj h
    exact .intro found .cancels
  | lock =>
    obtain ⟨free, rfl⟩ := lock?_some h
    exact .intro found (.claimed free)
  | farewell =>
    obtain rfl := Option.some.inj h
    cases farewell with
    | none => exact .intro found .silent
    | some frame =>
      rcases c.put_cases frame with ⟨e, hput⟩ | ⟨notShut, hput⟩
      · simp only [hput]
        exact .intro found .silent
      · simp only [hput]
        exact .intro found (.parted notShut)
  | shut =>
    obtain rfl := Option.some.inj h
    exact .intro found .shuts
  | settle =>
    obtain rfl := Option.some.inj h
    exact .intro found .settled

theorem step?_turned (h : c.step? i = some c') : Turned c i c' := by
  unfold step? at h
  cases found : c.activities[i]? with
  | none => simp [found] at h
  | some a =>
    simp only [found] at h
    cases a with
    | sending frame next again => exact stepSending_turned found h
    | resting frame =>
      simp only at h
      split at h
      · rename_i hcancelled
        obtain rfl := Option.some.inj h
        exact .intro found (.finished hcancelled)
      · obtain rfl := Option.some.inj h
        exact .intro found .rested
    | leaving =>
      simp only at h
      split at h
      · rename_i connected
        obtain rfl := Option.some.inj h
        exact .intro found (.leaves connected)
      · rename_i unconnected
        obtain rfl := Option.some.inj h
        exact .intro found (.left unconnected)
    | closing farewell next => exact stepClosing_turned found h
    | reading =>
      simp only at h
      split at h
      · obtain rfl := Option.some.inj h
        exact .intro found .finds
      · cases h
    | done result => cases h

theorem fail?_turned {e : ClientError} (h : c.fail? i e = some c') : Turned c i c' := by
  unfold fail? at h
  split at h
  · rename_i found
    obtain rfl := Option.some.inj h
    exact .intro found (.unsent e)
  · rename_i found
    obtain rfl := Option.some.inj h
    exact .intro found .silent
  · cases h

theorem wake?_turned (h : c.wake? i = some c') : Turned c i c' := by
  unfold wake? at h
  split at h
  · rename_i found
    obtain rfl := Option.some.inj h
    exact .intro found .rested
  · cases h

end Steps

theorem getD_comes {c : Client} {next : Option Client} (h : ∀ c', next = some c' → Comes c c') :
    Comes c (next.getD c) := by
  cases next with
  | none => exact .still
  | some c' => exact h c' rfl

/-- Every move comes to something that is listed. -/
theorem move_comes (c : Client) (m : Move) : Comes c (c.move m) := by
  cases m with
  | call call => exact .begun call
  | step i => exact getD_comes fun _ h => (step?_turned h).comes
  | fail i e => exact getD_comes fun _ h => (fail?_turned h).comes
  | wake i => exact getD_comes fun _ h => (wake?_turned h).comes
  | readOut => exact .readOut

/-- What each move keeps, every run keeps. -/
theorem run_keeps {p : Client → Prop} (hp : ∀ c c', p c → Comes c c' → p c') {c : Client} (h : p c)
    (moves : List Move) : p (c.run moves) := by
  induction moves generalizing c with
  | nil => exact h
  | cons m rest ih => exact ih (hp c _ h (move_comes c m))

/-! ## The activities after a move -/

section Activities

variable {c : Client} {i j : Nat} {a x : Activity}

/-- One activity is another in its place now, and all the others are as they were. -/
theorem getElem?_become (h : (c.become i a).activities[j]? = some x) :
    j = i ∧ x = a ∨ j ≠ i ∧ c.activities[j]? = some x := by
  simp only [become, List.getElem?_set] at h
  split at h
  · rename_i hij
    split at h
    · exact .inl ⟨hij.symm, (Option.some.inj h).symm⟩
    · cases h
  · rename_i hij
    exact .inr ⟨fun e => hij e.symm, h⟩

theorem getElem?_become_self (h : c.activities[i]? = some x) :
    (c.become i a).activities[i]? = some a := by
  obtain ⟨hi, -⟩ := List.getElem?_eq_some_iff.1 h
  simp [become, hi]

theorem getElem?_become_of_ne (h : j ≠ i) :
    (c.become i a).activities[j]? = c.activities[j]? := by
  simp [become, Ne.symm h]

theorem getElem?_begin (h : (c.begin a).activities[j]? = some x) :
    x = a ∨ c.activities[j]? = some x := by
  simp only [begin, List.getElem?_append] at h
  split at h
  · exact .inr h
  · exact .inl (List.mem_singleton.1 (List.mem_of_getElem? h))

theorem getElem?_begin_of_some (h : c.activities[j]? = some x) :
    (c.begin a).activities[j]? = some x := by
  obtain ⟨hj, -⟩ := List.getElem?_eq_some_iff.1 h
  rw [begin, List.getElem?_append_left hj, h]

/-- A turn of one activity leaves the others as they are. -/
theorem Turn.activities {b : Activity} {c' : Client} (h : Turn c i a b c') :
    c'.activities = c.activities := by
  cases h <;> rfl

/-- After its turn, an activity has what it has become in its place. -/
theorem Turn.getElem?_self {b : Activity} {c' : Client} (h : Turn c i a b c')
    (found : c.activities[i]? = some a) : (c'.become i b).activities[i]? = some b :=
  getElem?_become_self (h.activities ▸ found)

/-- Whatever is not the activity that has the turn is in its place afterwards. -/
theorem Turn.getElem?_other {b : Activity} {c' : Client} (h : Turn c i a b c')
    (found : c.activities[i]? = some a) (hj : c.activities[j]? = some x) (hne : a ≠ x) :
    (c'.become i b).activities[j]? = some x := by
  have hji : j ≠ i := by
    rintro rfl
    exact hne (Option.some.inj (found.symm.trans hj))
  rw [getElem?_become_of_ne hji, h.activities, hj]

theorem Turn.uuid {b : Activity} {c' : Client} (h : Turn c i a b c') : c'.uuid = c.uuid := by
  cases h <;> rfl

theorem Turn.name {b : Activity} {c' : Client} (h : Turn c i a b c') : c'.name = c.name := by
  cases h <;> rfl

end Activities
end Parley.Client
