/-
Connections that have yet to register. What comes over one is as good as not said: but for what is
counted and the refusals that it gets itself, the room is as if none of its frames had come,
whatever else happens in between (`visitor_unnoticed`). The two rooms are compared move by move,
each time from an empty log, since what is written to the visitor differs (`Beside`).
-/
import Parley.Proofs.Room.Isolation
import Parley.Proofs.Room.Recalling

namespace Parley

open Wire (Message)

/-- A connection at this stage has yet to register. -/
def Stage.IsVisitor (s : Stage) : Prop := s = .accepted ∨ s = .awaitingRegister

instance (s : Stage) : Decidable s.IsVisitor := inferInstanceAs (Decidable (_ ∨ _))

/-- An event as it is seen by everybody but those at the other end of one link. -/
def Event.apart (t : ConnId) : Event → Option Event
  | .wrote c frame outcome => if c = t then none else some (.wrote c frame outcome)
  | .closed c => if c = t then none else some (.closed c)
  | e => some e

theorem Event.bind_aside_apart {t : ConnId} (e : Event) :
    (e.aside t).bind (Event.apart t) = e.apart t := by
  cases e with
  | wrote c frame outcome => by_cases h : c = t <;> simp [aside, apart, h]
  | closed c => by_cases h : c = t <;> simp [aside, apart, h]
  | _ => rfl

namespace Room

/-! ## One frame -/

/-- Whether a frame is a registration that is refused: its name is active or its id taken. -/
def refuses (r : Room) (raw : Text) : Bool :=
  match Message.parse raw with
  | .ok (.register id name) => r.roster.isActive name || r.roster.contains id
  | _ => false

/-- The room in which a visitor has been told that its name or its id is taken. -/
def toldTaken (r : Room) (conn : ConnId) (tally : Tally) : Room :=
  (({ r with tally } : Room).write conn Wire.Marker.duplicated).2

/-- The room in which a visitor has registered. Its session is the only one that is new, nothing is
written, and one line is published, unless the feed has stopped. -/
def joined (r : Room) (conn : ConnId) (id : SessionId) (name : Text) (now : Nat) : Room :=
  { r with
    roster := { r.roster with
      sessions := r.roster.sessions ++ [⟨id, name, conn, r.roster.registered + 1, now⟩]
      holders := (name, id) :: r.roster.holders
      registered := r.roster.registered + 1 }
    tally := r.tally.frameReceived.sessionRegistered
    feed := { r.feed with queue := r.feed.queue ++ r.feed.taken [connectedLine id name] }
    log := r.log ++ (r.feed.taken [connectedLine id name]).map .published }

/-- What a frame of a visitor comes to: a registration that is refused, one that is not, or nothing
at all but that it is counted. -/
inductive Reception (r : Room) (conn : ConnId) (raw : Text) (now : Nat) : Stage × Room → Prop
  | refused (tally : Tally) (refused : r.refuses raw = true) :
      Reception r conn raw now (.awaitingRegister, r.toldTaken conn tally)
  | joins {id : SessionId} {name : Text} (asks : Message.parse raw = .ok (.register id name))
      (free : r.roster.isActive name = false) (absent : r.roster.contains id = false) :
      Reception r conn raw now (.active, r.joined conn id name now)
  | ignored {stage : Stage} (visitor : stage.IsVisitor) (tally : Tally)
      (unrefused : r.refuses raw = false) : Reception r conn raw now (stage, { r with tally })

section Frames

variable {r : Room} {conn : ConnId} {stage : Stage} {raw : Text} {message : Message}

theorem handle_of_visitor (hs : stage.IsVisitor) (hraw : Message.parse raw = .ok message)
    (now : Nat) : r.handle conn stage raw now =
      ({ r with tally := r.tally.frameReceived } : Room).handleUnregistered conn now message := by
  rcases hs with rfl | rfl <;> simp only [handle, hraw]

/-- A registration with a free name and an absent id is taken. -/
theorem dispatch_joins {id : SessionId} {name : Text} (hs : stage.IsVisitor)
    (hraw : Message.parse raw = .ok (.register id name))
    (free : r.roster.isActive name = false) (absent : r.roster.contains id = false) (now : Nat) :
    r.dispatch conn stage raw now = (.active, r.joined conn id name now) := by
  have hroster : r.roster.register? id name conn now = some { r.roster with
      sessions := r.roster.sessions ++ [⟨id, name, conn, r.roster.registered + 1, now⟩]
      holders := (name, id) :: r.roster.holders
      registered := r.roster.registered + 1 } := by
    simp [Roster.register?, free, absent]
  simp only [dispatch, handle_of_visitor hs hraw, handleUnregistered, register?, hroster,
    Option.map_some, publishLeft, publish_taken, joined]

theorem dispatch_refused (hs : stage.IsVisitor) (refused : r.refuses raw = true) (now : Nat) :
    r.dispatch conn stage raw now = (.awaitingRegister,
      r.toldTaken conn r.tally.frameReceived.registrationRejected) := by
  unfold refuses at refused
  split at refused
  · rename_i id name hraw
    have hroster : r.roster.register? id name conn now = none :=
      Roster.register?_eq_none.2 (Bool.or_eq_true _ _ ▸ refused)
    simp only [dispatch, handle_of_visitor hs hraw, handleUnregistered, register?, hroster,
      Option.map_none, publishLeft, toldTaken]
  · cases refused

/-- Every frame of a visitor comes to one of these. -/
theorem dispatch_reception (hs : stage.IsVisitor) (now : Nat) :
    Reception r conn raw now (r.dispatch conn stage raw now) := by
  cases hraw : Message.parse raw with
  | error e =>
    -- what cannot be read leaves even the stage as it is
    have hcounted : r.dispatch conn stage raw now =
        (stage, { r with tally := r.tally.frameReceived.malformedFrame }) := by
      simp only [dispatch, handle, hraw, publishLeft]
    rw [hcounted]
    exact .ignored hs _ (by simp [refuses, hraw])
  | ok message =>
    by_cases refused : r.refuses raw = true
    · rw [dispatch_refused hs refused]
      exact .refused _ refused
    -- of all that is not refused only a registration does anything
    cases message with
    | register id name =>
      have hfree : r.roster.isActive name = false ∧ r.roster.contains id = false := by
        simpa [refuses, hraw] using refused
      rw [dispatch_joins hs hraw hfree.1 hfree.2]
      exact .joins hraw hfree.1 hfree.2
    | _ =>
      simp only [dispatch, handle_of_visitor hs hraw, handleUnregistered, publishLeft]
      exact .ignored (.inr rfl) _ (by simpa using refused)

/-- No frame of a visitor closes a link. -/
theorem closes_of_visitor (hs : stage.IsVisitor) (now : Nat) (c : ConnId) :
    ((r.dispatch conn stage raw now).2.links c).closes = (r.links c).closes := by
  have hreception := @dispatch_reception r conn stage raw hs now
  generalize r.dispatch conn stage raw now = p at hreception ⊢
  cases hreception with
  | refused tally => exact closes_write { r with tally } conn _ c
  | joins => rfl
  | ignored => rfl

theorem handleActive_stage (now : Nat) :
    (r.handleActive conn now message).1.stage = .active ∨
      (r.handleActive conn now message).1.stage = .closed := by
  cases message with
  | incoming id text =>
    simp only [handleActive]
    split <;> exact .inl rfl
  | logoff id =>
    simp only [handleActive]
    split
    · dsimp only
      split
      · exact .inr rfl
      · exact .inl rfl
    · exact .inl rfl
  | _ => exact .inl rfl

/-- Who has registered once is never a visitor again. -/
theorem visitor_of_dispatch {now : Nat} (hs : (r.dispatch conn stage raw now).1.IsVisitor) :
    stage.IsVisitor := by
  cases stage with
  | accepted => exact .inl rfl
  | awaitingRegister => exact .inr rfl
  | active =>
    cases hraw : Message.parse raw with
    | error e => simpa only [dispatch, handle, hraw] using hs
    | ok message =>
      simp only [dispatch, handle, hraw] at hs
      rcases handleActive_stage now with h | h <;> exact absurd (h ▸ hs) (by decide)
  | closed =>
    simp only [dispatch, handle] at hs
    split at hs <;> exact hs

end Frames

/-! ## Two rooms side by side -/

/-- The frames that somebody tried to write to a connection. -/
def writesTo (r : Room) (conn : ConnId) : List Text :=
  (r.log.filterMap (Event.writtenTo? conn)).map (·.1)

/-- A room with a visitor and one without, after so many refusals: they differ in these, in the link
of the visitor, and in what is counted. -/
structure Beside (t : ConnId) (refusals : Nat) (a b : Room) : Prop where
  roster : a.roster = b.roster
  bridge : a.bridge = b.bridge
  feed : a.feed = b.feed
  subscription : a.bridgeSubscription = b.bridgeSubscription
  directory : a.directory = b.directory
  links : ∀ c, c ≠ t → a.links c = b.links c
  apart : a.log.filterMap (Event.apart t) = b.log.filterMap (Event.apart t)
  writesTo : (a.writesTo t).Perm (b.writesTo t ++ List.replicate refusals Wire.Marker.duplicated)

/-- A room before anything is logged. -/
def unlogged (r : Room) : Room := { r with log := [] }

theorem recalling_unlogged (r : Room) : r.unlogged.recalling r.log = r := by
  simp [unlogged, recalling]

namespace Beside

variable {t : ConnId} {n : Nat} {a b : Room}

theorem refl (t : ConnId) (r : Room) : Beside t 0 r r :=
  ⟨rfl, rfl, rfl, rfl, rfl, fun _ _ => rfl, rfl, by simp⟩

theorem sameBut (h : Beside t n a b) : SameBut t a.unlogged b.unlogged :=
  ⟨h.roster.symm, h.bridge.symm, h.feed.symm, h.subscription.symm, h.directory.symm,
    fun c hc => (h.links c hc).symm, rfl⟩

/-- Any move does the same in both rooms. What it logs is told from an empty log, and comes after
what was logged before. -/
theorem step (h : Beside t n a b) (m : Move) : Beside t n (a.step m) (b.step m) := by
  have next : SameBut t (a.unlogged.step m) (b.unlogged.step m) := (step_alike h.sameBut m).2
  have ha : a.step m = (a.unlogged.step m).recalling a.log := by
    rw [← step_recalling, recalling_unlogged]
  have hb : b.step m = (b.unlogged.step m).recalling b.log := by
    rw [← step_recalling, recalling_unlogged]
  have happart := next.filterMap_log Event.bind_aside_apart
  have hwrites : (b.unlogged.step m).writesTo t = (a.unlogged.step m).writesTo t := by
    simp only [Room.writesTo, List.map_filterMap]
    exact next.filterMap_log bind_aside_tried
  rw [ha, hb]
  refine ⟨next.roster.symm, next.bridge.symm, next.feed.symm, next.subscription.symm,
    next.directory.symm, fun c hc => (next.links c hc).symm, ?_, ?_⟩
  · rw [log_recalling, log_recalling, List.filterMap_append, List.filterMap_append, h.apart,
      happart]
  · have hsplit (r q : Room) : (q.recalling r.log).writesTo t = r.writesTo t ++ q.writesTo t := by
      simp [Room.writesTo]
    rw [hsplit, hsplit, hwrites]
    -- the refusals so far come before what this move writes
    refine (h.writesTo.append_right _).trans ?_
    rw [List.append_assoc, List.append_assoc]
    exact List.perm_append_comm.append_left _

theorem write (h : Beside t n a b) (tally : Tally) :
    Beside t (n + 1) (a.toldTaken t tally) b := by
  refine ⟨h.roster, h.bridge, h.feed, h.subscription, h.directory,
    fun c hc => (Links.set_of_ne _ _ hc).trans (h.links c hc), ?_, ?_⟩
  · show (a.log ++ [Event.wrote t _ _]).filterMap _ = _
    simp [Event.apart, h.apart]
  · have hone : (a.toldTaken t tally).writesTo t = a.writesTo t ++ [Wire.Marker.duplicated] := by
      simp [Room.writesTo, toldTaken, Room.write, Event.writtenTo?]
    rw [hone, List.replicate_succ', ← List.append_assoc]
    exact h.writesTo.append_right _

/-- A frame of somebody who is a visitor before and after it does nothing but what it says. -/
theorem dispatch (h : Beside t n a b) {stage : Stage} {raw : Text} {now : Nat}
    (still : (a.dispatch t stage raw now).1.IsVisitor) :
    Beside t (n + (b.refuses raw).toNat) (a.dispatch t stage raw now).2 b := by
  -- what is refused depends on the roster alone, which is the same in both rooms
  have hb : b.refuses raw = a.refuses raw := by simp only [refuses, h.roster]
  have hreception := @dispatch_reception a t stage raw (visitor_of_dispatch still) now
  rw [hb]
  generalize a.dispatch t stage raw now = p at hreception still ⊢
  cases hreception with
  | refused tally refused =>
    rw [refused]
    exact h.write tally
  | joins => exact absurd still (show ¬ Stage.active.IsVisitor by decide)
  | ignored visitor tally unrefused =>
    rw [unrefused]
    exact ⟨h.roster, h.bridge, h.feed, h.subscription, h.directory, h.links, h.apart, h.writesTo⟩

end Beside

/-! ## Whole runs -/

/-- Something that happens while there is a visitor: a frame of the visitor at a time, or something
else. -/
inductive Happening where
  | said (raw : Text) (now : Nat)
  | other (m : Move)
  deriving DecidableEq, Repr

/-- The stage of a visitor and the room after several things have happened. -/
def host (r : Room) (conn : ConnId) (stage : Stage) : List Happening → Stage × Room
  | [] => (stage, r)
  | .said raw now :: rest =>
    let (stage, r) := r.dispatch conn stage raw now
    r.host conn stage rest
  | .other m :: rest => (r.step m).host conn stage rest

/-- All that happens but for what a visitor says. -/
def unsaid : List Happening → List Move
  | [] => []
  | .said .. :: rest => unsaid rest
  | .other m :: rest => m :: unsaid rest

/-- How many of the frames of a visitor ask for a name that is active or an id that is taken. -/
def refusals (r : Room) : List Happening → Nat
  | [] => 0
  | .said raw _ :: rest => (r.refuses raw).toNat + r.refusals rest
  | .other m :: rest => (r.step m).refusals rest

theorem visitor_of_host (conn : ConnId) (story : List Happening) : ∀ {r : Room} {stage : Stage},
    (r.host conn stage story).1.IsVisitor → stage.IsVisitor := by
  induction story with
  | nil => exact fun still => still
  | cons h rest ih =>
    intro r stage still
    cases h with
    | said raw now => exact visitor_of_dispatch (ih still)
    | other m => exact ih still

/-- By induction on what happens, from any two rooms side by side. -/
theorem Beside.host {t : ConnId} (story : List Happening) : ∀ {n : Nat} {a b : Room}
    {stage : Stage}, Beside t n a b → (a.host t stage story).1.IsVisitor →
    Beside t (n + b.refusals story) (a.host t stage story).2 (b.run (unsaid story)) := by
  induction story with
  | nil => exact fun h _ => h
  | cons x rest ih =>
    intro n a b stage h still
    cases x with
    | said raw now =>
      have hrest := ih (h.dispatch (visitor_of_host t rest still)) still
      rwa [Nat.add_assoc] at hrest
    | other m => exact ih (h.step m) still

/-- From any state, a visitor says whatever it likes and anything else happens in between. For as
long as it is a visitor, the room is as if it had said nothing: who takes part, with their signs of
life and the reserved names, the guests and their mailboxes, the feed, every other link, and all
that anybody but the visitor gets. The visitor itself gets, besides what it would get anyway, one
refusal for each registration under a name that is active or an id that is taken. None of its frames
closes a link. The first registration under a free name and an absent id makes it active: it adds a
session that is bound to its connection and publishes one line. -/
theorem visitor_unnoticed (r : Room) (conn : ConnId) (stage : Stage) (story : List Happening)
    (still : (r.host conn stage story).1.IsVisitor) :
    let p := r.host conn stage story
    Beside conn (r.refusals story) p.2 (r.run (unsaid story)) ∧
    (∀ raw now c, ((p.2.dispatch conn p.1 raw now).2.links c).closes = (p.2.links c).closes) ∧
    ∀ raw id name now, Message.parse raw = .ok (.register id name) →
      p.2.roster.isActive name = false → p.2.roster.contains id = false →
      p.2.dispatch conn p.1 raw now = (.active, p.2.joined conn id name now) := by
  have h := (Beside.refl conn r).host story still
  rw [Nat.zero_add] at h
  exact ⟨h, fun _ now => closes_of_visitor still now,
    fun _ _ _ now asks free absent => dispatch_joins still asks free absent now⟩

/-- A stranger asks for the name of somebody who is there, logs her off, gives a sign of life for
her, talks nonsense and asks for her id; then it finds a name of its own. -/
theorem stranger_unnoticed :
    let story : List Happening := [.other (.register "1".toList "ann".toList ⟨1⟩ 0),
      .said (Message.register "2".toList "ann".toList).wire 5,
      .said (Message.logoff "1".toList).wire 6, .said (Message.keepAlive "1".toList).wire 7,
      .other (.announce "x".toList), .said "nonsense".toList 8,
      .said (Message.register "1".toList "eve".toList).wire 9]
    let p := ({} : Room).host ⟨2⟩ .accepted story
    p.1.IsVisitor ∧ p.2.roster.sessions = [⟨"1".toList, "ann".toList, ⟨1⟩, 1, 0⟩] ∧
    (p.2.writesTo ⟨2⟩).Perm [Wire.Marker.duplicated, Wire.Marker.duplicated] ∧
    (p.2.dispatch ⟨2⟩ p.1 (Message.register "2".toList "eve".toList).wire 10).1 = .active := by
  intro story p
  have still : p.1.IsVisitor := by decide
  obtain ⟨beside, -, joins⟩ := visitor_unnoticed {} ⟨2⟩ .accepted story still
  have hwrites : (({} : Room).run (unsaid story)).writesTo ⟨2⟩ ++
      List.replicate (({} : Room).refusals story) Wire.Marker.duplicated =
        [Wire.Marker.duplicated, Wire.Marker.duplicated] := by decide
  have hsessions : (({} : Room).run (unsaid story)).roster.sessions =
      [⟨"1".toList, "ann".toList, ⟨1⟩, 1, 0⟩] := by decide
  have hjoins := joins (Message.register "2".toList "eve".toList).wire "2".toList "eve".toList 10
    (by decide) (by decide) (by decide)
  refine ⟨still, ?_, ?_, ?_⟩
  · rw [beside.roster]
    exact hsessions
  · rw [← hwrites]
    exact beside.writesTo
  · rw [hjoins]

end Room
end Parley
