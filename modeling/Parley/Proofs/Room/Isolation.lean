/-
One end of a link cannot disturb the others. A room is run twice from the same state, and in the two
runs the other end of one link takes its frames, refuses them or stalls as it likes. After every
move of the two runs who takes part is the same, and so is what was written to every other link
and what became of it, what every guest was sent, which lines were published, and what those who
made the moves got to know (`others_unaffected`).
-/
import Parley.Proofs.Room.SameBut

namespace Parley

/-- What was written to a connection, and what became of it. -/
def Event.writtenTo? (c : ConnId) : Event → Option (Text × Outcome)
  | .wrote conn frame outcome => if conn = c then some (frame, outcome) else none
  | _ => none

/-- The frame that a guest was sent. -/
def Event.queuedFor? (g : SessionId) : Event → Option Text
  | .queued guest frame => if guest = g then some frame else none
  | _ => none

/-- The line that was published. -/
def Event.published? : Event → Option Text
  | .published line => some line
  | _ => none

namespace Room

/-! ## Runs and what is seen of them -/

/-- The room with another end to a link, which does as it likes with the frames that come. -/
def reacting (r : Room) (t : ConnId) (react : Nat → Text → Outcome) : Room :=
  { r with links := r.links.set t { r.links t with react } }

/-- What whoever makes a move gets to know, but for what became of a frame. -/
inductive Answer where
  | nothing
  | registered (yes : Bool)
  | stage (stage : Stage)
  | ended (session : Option Session)
  | count (n : Nat)
  | action (action : GuestAction)
  | taken (yes : Bool)
  | read (frames : Option (List Text × Bool))
  deriving DecidableEq, Repr

/-- The answer to a move. -/
def answer (r : Room) : Move → Answer
  | .register id name conn mark => .registered (r.register? id name conn mark).isSome
  | .frame conn stage raw now => .stage (r.dispatch conn stage raw now).1
  | .disconnect id => .ended ((r.disconnect? id).map (·.1))
  | .connectionLost conn => .ended ((r.connectionLost? conn).map (·.1))
  | .reap now threshold => .count (r.reap now threshold).1
  | .disconnectAll => .count r.disconnectAll.1
  | .guestFrame id raw => .action (r.guestFrame id raw).1
  | .deliver name frame => .taken (r.deliver name frame).1
  | .forward line => .count (r.forward line).1
  | .read id => .read ((r.bridge.read? id).map fun (frames, more, _) => (frames, more))
  | .announce _ | .tell .. | .attach _ | .detach _ | .readNext _ | .stopReading _ | .publish _
  | .serve => .nothing

/-- The answer to each of several moves, and the room after it. -/
def trail (r : Room) : List Move → List (Answer × Room)
  | [] => []
  | m :: rest => (r.answer m, r.step m) :: (r.step m).trail rest

/-! ## Steps and runs -/

variable {t : ConnId} {a b : Room}

theorem getD_sameBut (h : SameBut t a b) {x y : Option Room} (hxy : Option.Rel (SameBut t) x y) :
    SameBut t (x.getD a) (y.getD b) := by
  cases hxy with
  | none => exact h
  | some hxy => exact hxy

/-- A result that is there or not, and the room after it. -/
theorem alike_of_rel {α : Type} (h : SameBut t a b) {x y : Option (α × Room)}
    (hxy : Option.Rel (Alike t) x y) :
    y.map (·.1) = x.map (·.1) ∧
      SameBut t ((x.map (·.2)).getD a) ((y.map (·.2)).getD b) := by
  cases hxy with
  | none => exact ⟨rfl, h⟩
  | some hxy => exact ⟨congrArg some hxy.1, hxy.2⟩

theorem step_alike (h : SameBut t a b) (m : Move) :
    Alike t (a.answer m, a.step m) (b.answer m, b.step m) := by
  cases m with
  | register id name conn mark =>
    have hr := h.register? id name conn mark
    refine ⟨?_, getD_sameBut h hr⟩
    rcases both_or_neither hr with ⟨ha, hb⟩ | ⟨x, y, ha, hb, -⟩
    · simp only [answer, ha, hb]
    · simp only [answer, ha, hb, Option.isSome_some]
  | frame conn stage raw now =>
    obtain ⟨hstage, hroom⟩ := h.dispatch conn stage raw now
    exact ⟨congrArg Answer.stage hstage, hroom⟩
  | announce text => exact ⟨rfl, h.announce text⟩
  | tell id text => exact ⟨rfl, h.tell id text⟩
  | disconnect id =>
    obtain ⟨hsession, hroom⟩ := alike_of_rel h (h.disconnect? id)
    exact ⟨congrArg Answer.ended hsession, hroom⟩
  | connectionLost conn =>
    obtain ⟨hsession, hroom⟩ := alike_of_rel h (h.connectionLost? conn)
    exact ⟨congrArg Answer.ended hsession, hroom⟩
  | reap now threshold =>
    obtain ⟨hcount, hroom⟩ := h.reap now threshold
    exact ⟨congrArg Answer.count hcount, hroom⟩
  | disconnectAll =>
    obtain ⟨hcount, hroom⟩ := h.disconnectAll
    exact ⟨congrArg Answer.count hcount, hroom⟩
  | attach id =>
    refine ⟨rfl, ?_⟩
    simp only [step]
    rw [h.bridge]
    split
    · exact h
    · exact h.attach id
  | guestFrame id raw =>
    obtain ⟨haction, hroom⟩ := h.guestFrame id raw
    exact ⟨congrArg Answer.action haction, hroom⟩
  | detach id => exact ⟨rfl, h.detach id⟩
  | deliver name frame =>
    obtain ⟨htaken, hroom⟩ := h.deliver name frame
    exact ⟨congrArg Answer.taken htaken, hroom⟩
  | forward line =>
    obtain ⟨hcount, hroom⟩ := h.forward line
    exact ⟨congrArg Answer.count hcount, hroom⟩
  | readNext id =>
    refine ⟨rfl, ?_⟩
    simp only [step, h.bridge]
    exact h.withBridge _
  | read id =>
    refine ⟨by simp only [answer, h.bridge], ?_⟩
    simp only [step, h.bridge]
    exact h.withBridge _
  | stopReading id =>
    refine ⟨rfl, ?_⟩
    simp only [step, h.bridge]
    exact h.withBridge _
  | publish line => exact ⟨rfl, h.publish line⟩
  | serve => exact ⟨rfl, getD_sameBut h h.serve?⟩

theorem trail_alike (moves : List Move) : ∀ {a b : Room}, SameBut t a b →
    List.Forall₂ (Alike t) (a.trail moves) (b.trail moves) := by
  induction moves with
  | nil => exact fun _ => .nil
  | cons m rest ih =>
    intro a b h
    have hm := step_alike h m
    exact .cons hm (ih hm.2)

theorem reacting_sameBut (r : Room) (t : ConnId) (react : Nat → Text → Outcome) :
    SameBut t r (r.reacting t react) :=
  ⟨rfl, rfl, rfl, rfl, rfl, fun _ hc => Links.set_of_ne _ _ hc, rfl⟩

/-! ## What the others see -/

/-- Whatever can be told without the one link is the same in both logs. -/
theorem SameBut.filterMap_log (h : SameBut t a b) {β : Type} {see : Event → Option β}
    (hsee : ∀ e, (e.aside t).bind see = see e) : b.log.filterMap see = a.log.filterMap see := by
  have hthrough (log : List Event) :
      log.filterMap see = (log.filterMap (Event.aside t)).filterMap see := by
    rw [List.filterMap_filterMap]
    exact List.filterMap_congr fun e _ => (hsee e).symm
  rw [hthrough, h.log, ← hthrough]

/-- Two answers with the rooms after them, when nobody but those at the other end of one link can
tell one from the other. -/
structure Unaffected (t : ConnId) (x y : Answer × Room) : Prop where
  answer : y.1 = x.1
  roster : y.2.roster = x.2.roster
  bridge : y.2.bridge = x.2.bridge
  feed : y.2.feed = x.2.feed
  links : ∀ c, c ≠ t → y.2.links c = x.2.links c
  written : ∀ c, c ≠ t →
    y.2.log.filterMap (Event.writtenTo? c) = x.2.log.filterMap (Event.writtenTo? c)
  queued : ∀ g, y.2.log.filterMap (Event.queuedFor? g) = x.2.log.filterMap (Event.queuedFor? g)
  published : y.2.log.filterMap Event.published? = x.2.log.filterMap Event.published?
  tried : (y.2.log.filterMap (Event.writtenTo? t)).map (·.1) =
    (x.2.log.filterMap (Event.writtenTo? t)).map (·.1)

/-- Who tells nothing of a write or a closing tells the same without the one link. -/
theorem bind_aside {β : Type} {see : Event → Option β} (hw : ∀ c f o, see (.wrote c f o) = none)
    (hc : ∀ c, see (.closed c) = none) (e : Event) : (e.aside t).bind see = see e := by
  cases e with
  | wrote c frame outcome => exact (hw ..).trans (hw ..).symm
  | closed c =>
    simp only [Event.aside]
    split
    · exact (hc c).symm
    · rfl
  | _ => rfl

theorem bind_aside_writtenTo {c : ConnId} (hc : c ≠ t) (e : Event) :
    (e.aside t).bind (Event.writtenTo? c) = e.writtenTo? c := by
  cases e with
  | wrote conn frame outcome =>
    by_cases h : conn = c
    · subst h
      simp [Event.aside, Event.writtenTo?, hc]
    · simp [Event.aside, Event.writtenTo?, h]
  | closed conn =>
    simp only [Event.aside]
    split <;> rfl
  | _ => rfl

/-- Of the one link itself the frames can be told, but not what became of them. -/
theorem bind_aside_tried (e : Event) :
    (e.aside t).bind (fun e => (e.writtenTo? t).map (·.1)) = (e.writtenTo? t).map (·.1) := by
  cases e with
  | wrote conn frame outcome => by_cases h : conn = t <;> simp [Event.aside, Event.writtenTo?, h]
  | closed conn =>
    simp only [Event.aside]
    split <;> rfl
  | _ => rfl

theorem Alike.unaffected {x y : Answer × Room} (h : Alike t x y) : Unaffected t x y := by
  obtain ⟨hanswer, hroom⟩ := h
  refine ⟨hanswer, hroom.roster, hroom.bridge, hroom.feed, hroom.links, fun c hc => ?_, fun g => ?_,
    ?_, ?_⟩
  · exact hroom.filterMap_log (bind_aside_writtenTo hc)
  · exact hroom.filterMap_log (bind_aside (fun _ _ _ => rfl) fun _ => rfl)
  · exact hroom.filterMap_log (bind_aside (fun _ _ _ => rfl) fun _ => rfl)
  · rw [List.map_filterMap, List.map_filterMap]
    exact hroom.filterMap_log bind_aside_tried

/-- A room is run twice from any state, and only the other end of one link does something else with
its frames. All others are left alone: after each of the moves the answer, who takes part, the
guests and their mailboxes, the feed, every other link, what was written to it and what became of
that, what each guest was sent and the lines that were published are the same in both runs. Even the
frames that are written to the link itself are the same; only what becomes of them is not. -/
theorem others_unaffected (r : Room) (t : ConnId) (one other : Nat → Text → Outcome)
    (moves : List Move) :
    List.Forall₂ (Unaffected t) ((r.reacting t one).trail moves)
      ((r.reacting t other).trail moves) := by
  have hsame : SameBut t (r.reacting t one) (r.reacting t other) :=
    (reacting_sameBut r t one).symm.trans (reacting_sameBut r t other)
  exact (trail_alike moves hsame).imp fun _ _ h => h.unaffected

/-- One session does not take its farewell, and the other gets its own all the same. -/
example :
    let moves : List Move := [.register "1".toList "ann".toList ⟨1⟩ 0,
      .register "2".toList "bob".toList ⟨2⟩ 0, .disconnectAll]
    let r := (({} : Room).reacting ⟨1⟩ fun _ _ => .stalled).run moves
    r.log.filterMap (Event.writtenTo? ⟨1⟩) = [(farewell, .stalled)] ∧
      r.log.filterMap (Event.writtenTo? ⟨2⟩) = [(farewell, .accepted)] ∧
      r.log.getLast? = some (.closed ⟨1⟩) := by
  decide

end Room
end Parley
