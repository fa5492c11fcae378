/-
Two rooms that are the same but for one link. What the other end of that link does with its frames,
when the link is closed, and what is counted may differ; all else is the same (`SameBut`). Every
operation keeps two such rooms so. It also answers the same in both, unless it says what became of
a frame: of these answers only one is acted on, by who takes leave of everybody, and then only the
time at which the link itself is closed depends on it.
-/
import Mathlib.Data.List.Forall2
import Parley.Proofs.Room.Bindings
import Parley.Proofs.Room.Moves

namespace Parley

open Wire (Message Chat)

/-- An event as it is seen without one link: the frames that are written to it are seen, but not
what becomes of them, nor that it is closed. -/
def Event.aside (t : ConnId) : Event → Option Event
  | .wrote c frame outcome => some (.wrote c frame (if c = t then .accepted else outcome))
  | .closed c => if c = t then none else some (.closed c)
  | e => some e

namespace Room

/-- Two rooms that are the same but for one link, and what is counted. -/
structure SameBut (t : ConnId) (a b : Room) : Prop where
  roster : b.roster = a.roster
  bridge : b.bridge = a.bridge
  feed : b.feed = a.feed
  subscription : b.bridgeSubscription = a.bridgeSubscription
  directory : b.directory = a.directory
  links : ∀ c, c ≠ t → b.links c = a.links c
  log : b.log.filterMap (Event.aside t) = a.log.filterMap (Event.aside t)

/-- Two results that are the same but for one link. -/
def Alike {α : Type} (t : ConnId) (x y : α × Room) : Prop := y.1 = x.1 ∧ SameBut t x.2 y.2

/-- Of two related results, both are there or neither is. -/
theorem both_or_neither {α β : Type} {R : α → β → Prop} {x : Option α} {y : Option β}
    (h : Option.Rel R x y) :
    (x = none ∧ y = none) ∨ ∃ p q, x = some p ∧ y = some q ∧ R p q := by
  cases h with
  | none => exact .inl ⟨rfl, rfl⟩
  | some h => exact .inr ⟨_, _, rfl, rfl, h⟩

/-- What is tried first, and otherwise what is tried then. -/
theorem rel_or {α β : Type} {R : α → β → Prop} {x x' : Option α} {y y' : Option β}
    (h : Option.Rel R x y) (h' : Option.Rel R x' y') : Option.Rel R (x.or x') (y.or y') := by
  cases h with
  | none => exact h'
  | some h => exact .some h

namespace SameBut

variable {t : ConnId} {a b c : Room}

theorem refl (a : Room) : SameBut t a a := ⟨rfl, rfl, rfl, rfl, rfl, fun _ _ => rfl, rfl⟩

theorem symm (h : SameBut t a b) : SameBut t b a :=
  ⟨h.roster.symm, h.bridge.symm, h.feed.symm, h.subscription.symm, h.directory.symm,
    fun c hc => (h.links c hc).symm, h.log.symm⟩

theorem trans (h1 : SameBut t a b) (h2 : SameBut t b c) : SameBut t a c :=
  ⟨h2.roster.trans h1.roster, h2.bridge.trans h1.bridge, h2.feed.trans h1.feed,
    h2.subscription.trans h1.subscription, h2.directory.trans h1.directory,
    fun c hc => (h2.links c hc).trans (h1.links c hc), h2.log.trans h1.log⟩

/-- To close the link makes no difference. -/
theorem close_self (a : Room) : SameBut t a (a.close t) := by
  refine ⟨rfl, rfl, rfl, rfl, rfl, fun c hc => Links.set_of_ne _ _ hc, ?_⟩
  show (a.log ++ [Event.closed t]).filterMap (Event.aside t) = _
  simp [Event.aside]

variable (h : SameBut t a b)
include h

/-! ## Fields -/

theorem withRoster (roster : Roster) : SameBut t { a with roster } { b with roster } :=
  ⟨rfl, h.bridge, h.feed, h.subscription, h.directory, h.links, h.log⟩

theorem withBridge (bridge : Bridge) : SameBut t { a with bridge } { b with bridge } :=
  ⟨h.roster, rfl, h.feed, h.subscription, h.directory, h.links, h.log⟩

theorem withFeed (feed : Feed) : SameBut t { a with feed } { b with feed } :=
  ⟨h.roster, h.bridge, rfl, h.subscription, h.directory, h.links, h.log⟩

theorem withTally (x y : Tally) : SameBut t { a with tally := x } { b with tally := y } :=
  ⟨h.roster, h.bridge, h.feed, h.subscription, h.directory, h.links, h.log⟩

theorem withLink (conn : ConnId) (link : Link) :
    SameBut t { a with links := a.links.set conn link }
      { b with links := b.links.set conn link } := by
  refine ⟨h.roster, h.bridge, h.feed, h.subscription, h.directory, fun c hc => ?_, h.log⟩
  simp only [Links.set]
  split
  · rfl
  · exact h.links c hc

theorem record (e : Event) : SameBut t (a.record e) (b.record e) := by
  refine ⟨h.roster, h.bridge, h.feed, h.subscription, h.directory, h.links, ?_⟩
  rw [log_record, log_record, List.filterMap_append, List.filterMap_append, h.log]

/-! ## Links -/

theorem write (conn : ConnId) (frame : Text) :
    SameBut t (a.write conn frame).2 (b.write conn frame).2 := by
  by_cases hc : conn = t
  · -- what becomes of the frame may differ, but without the link the logs show only that it came
    subst hc
    refine ⟨h.roster, h.bridge, h.feed, h.subscription, h.directory, fun c hc => ?_, ?_⟩
    · show b.links.set conn _ c = a.links.set conn _ c
      rw [Links.set_of_ne _ _ hc, Links.set_of_ne _ _ hc, h.links c hc]
    · show (b.log ++ [Event.wrote conn frame _]).filterMap _ =
        (a.log ++ [Event.wrote conn frame _]).filterMap _
      simp [Event.aside, h.log]
  · simp only [Room.write]
    rw [h.links conn hc]
    exact ((h.withLink conn _).withTally _ _).record _

theorem close (conn : ConnId) : SameBut t (a.close conn) (b.close conn) := by
  by_cases hc : conn = t
  · subst hc
    exact (close_self a).symm.trans (h.trans (close_self b))
  · simp only [Room.close]
    rw [h.links conn hc]
    exact (h.withLink conn _).record _

omit h in
theorem writeAll (frame : Text) (sessions : List Session) : ∀ {a b : Room}, SameBut t a b →
    SameBut t (a.writeAll frame sessions).2 (b.writeAll frame sessions).2 := by
  induction sessions with
  | nil => exact fun h => h
  | cons s rest ih => exact fun h => ih (h.write s.link frame)

theorem broadcast (frame : Text) (sender : Option SessionId) :
    SameBut t (a.broadcast frame sender).2 (b.broadcast frame sender).2 := by
  have haudience : b.audience sender = a.audience sender := by rw [audience, audience, h.roster]
  show SameBut t (a.writeAll frame (a.audience sender)).2 (b.writeAll frame (b.audience sender)).2
  rw [haudience]
  exact writeAll frame _ h

theorem announce (text : Text) : SameBut t (a.announce text).2 (b.announce text).2 :=
  h.broadcast _ none

theorem tell (id : SessionId) (text : Text) : SameBut t (a.tell id text).2 (b.tell id text).2 := by
  unfold Room.tell
  rw [h.roster]
  cases a.roster.lookup? id with
  | none => exact h
  | some s =>
    have hwritten := h.write s.link (Message.notice text).wire
    simp only
    split <;> split <;> exact hwritten

theorem publish (line : Text) : SameBut t (a.publish line) (b.publish line) := by
  unfold Room.publish publish?
  rw [h.feed]
  cases a.feed.publish? line with
  | none => exact h
  | some feed => exact (h.withFeed feed).record _

theorem publishLeft (line : Option Text) : SameBut t (a.publishLeft line) (b.publishLeft line) := by
  cases line with
  | none => exact h
  | some line => exact h.publish line

/-! ## Guests -/

theorem release (name : Text) : SameBut t (a.release name) (b.release name) := by
  unfold Room.release
  rw [h.roster]
  exact h.withRoster _

theorem detach (id : SessionId) : SameBut t (a.detach id) (b.detach id) := by
  unfold Room.detach
  rw [h.bridge]
  cases a.bridge.detach? id with
  | none => exact h
  | some p =>
    obtain ⟨⟨_, nickname, _, _⟩, bridge⟩ := p
    cases nickname with
    | none => exact (h.withBridge bridge).record _
    | some name => exact ((h.withBridge bridge).release name).record _

theorem sendTo (id : SessionId) (frame : Text) :
    Alike t (a.sendTo id frame) (b.sendTo id frame) := by
  unfold Room.sendTo
  rw [h.bridge]
  cases a.bridge.guest? id with
  | none => exact ⟨rfl, h⟩
  | some g =>
    simp only
    cases g.receipt a.bridge.capacity with
    | taken => exact ⟨rfl, (h.withBridge _).record _⟩
    | full => exact ⟨rfl, h.detach id⟩
    | gone => exact ⟨rfl, h⟩

theorem deliver (name frame : Text) : Alike t (a.deliver name frame) (b.deliver name frame) := by
  unfold Room.deliver
  rw [h.bridge]
  cases a.bridge.named? name with
  | none => exact ⟨rfl, h⟩
  | some g => exact h.sendTo g.id frame

omit h in
/-- What each step of a loop keeps, the loop keeps. -/
theorem foldl {α : Type} {f : Room → α → Room}
    (hf : ∀ x {a b : Room}, SameBut t a b → SameBut t (f a x) (f b x)) (items : List α) :
    ∀ {a b : Room}, SameBut t a b → SameBut t (items.foldl f a) (items.foldl f b) := by
  induction items with
  | nil => exact fun h => h
  | cons x rest ih => exact fun h => ih (hf x h)

theorem forward (line : Text) : Alike t (a.forward line) (b.forward line) := by
  unfold Room.forward
  rw [h.bridge]
  refine ⟨rfl, foldl (fun g _ _ h => h.detach g.id) _ ?_⟩
  exact foldl (fun g _ _ h => h.record (.queued g.id line)) _ (h.withBridge _)

theorem attach (id : SessionId) : SameBut t (a.attach id) (b.attach id) := by
  unfold Room.attach
  rw [h.bridge]
  exact (h.withBridge _).record _

/-! ## Messages to one name -/

theorem tellDirectory (name frame : Text) :
    Alike t (a.tellDirectory name frame) (b.tellDirectory name frame) := by
  unfold Room.tellDirectory
  rw [h.directory]
  cases a.directory with
  | guests => exact h.deliver name frame
  | standIn names =>
    simp only
    split
    · exact ⟨rfl, h.record _⟩
    · exact ⟨rfl, h⟩
  | unset => exact ⟨rfl, h⟩
  | gone => exact ⟨rfl, h⟩

/-- Whether there is nobody of a name does not depend on the link, unlike what becomes of a message
that somebody gets. -/
theorem sendPrivate (sender target payload : Text) :
    ((b.sendPrivate sender target payload).1 = .nobody ↔
      (a.sendPrivate sender target payload).1 = .nobody) ∧
    SameBut t (a.sendPrivate sender target payload).2 (b.sendPrivate sender target payload).2 := by
  unfold Room.sendPrivate
  rw [h.roster]
  cases a.roster.named? target with
  | some s =>
    -- delivered or failed: either way there is somebody of that name
    have hwritten := h.write s.link (Message.private sender target payload).wire
    simp only
    split <;> split <;> exact ⟨iff_of_false nofun nofun, hwritten⟩
  | none =>
    obtain ⟨htaken, htold⟩ := h.tellDirectory target (Message.private sender target payload).wire
    refine ⟨?_, htold⟩
    simp only [htaken]

/-- A private message and, if there is nobody of that name, what is done then. -/
theorem sendPrivate_else (sender target payload : Text) {otherwise : Room → Room}
    (ho : ∀ {x y : Room}, SameBut t x y → SameBut t (otherwise x) (otherwise y)) :
    SameBut t
      (if (a.sendPrivate sender target payload).1 = .nobody
        then otherwise (a.sendPrivate sender target payload).2
        else (a.sendPrivate sender target payload).2)
      (if (b.sendPrivate sender target payload).1 = .nobody
        then otherwise (b.sendPrivate sender target payload).2
        else (b.sendPrivate sender target payload).2) := by
  obtain ⟨hnobody, hsent⟩ := h.sendPrivate sender target payload
  by_cases hn : (a.sendPrivate sender target payload).1 = .nobody
  · rw [if_pos hn, if_pos (hnobody.2 hn)]
    exact ho hsent
  · rw [if_neg hn, if_neg fun hb => hn (hnobody.1 hb)]
    exact hsent

theorem converse (speaker : Session) (text : Text) :
    Alike t (a.converse speaker text) (b.converse speaker text) := by
  cases ht : Chat.parse text with
  | broadcast said =>
    simp only [Room.converse, ht]
    exact ⟨rfl, h.broadcast _ _⟩
  | personal target payload =>
    rw [converse_personal a speaker ht, converse_personal b speaker ht]
    exact ⟨rfl, h.sendPrivate_else _ _ _ fun hxy => hxy.write speaker.link (invalidName target)⟩

theorem guestConverse (id : SessionId) (nickname text : Text) :
    Alike t (a.guestConverse id nickname text) (b.guestConverse id nickname text) := by
  cases ht : Chat.parse text with
  | broadcast said =>
    simp only [Room.guestConverse, ht]
    exact ⟨rfl, h.broadcast _ _⟩
  | personal target payload =>
    rw [guestConverse_personal a id nickname ht, guestConverse_personal b id nickname ht]
    exact ⟨rfl, h.sendPrivate_else _ _ _ fun hxy => (hxy.sendTo id (invalidName target)).2⟩

/-! ## Sessions -/

theorem register? (id : SessionId) (name : Text) (conn : ConnId) (mark : Nat) :
    Option.Rel (SameBut t) (a.register? id name conn mark) (b.register? id name conn mark) := by
  unfold Room.register?
  rw [h.roster]
  cases a.roster.register? id name conn mark with
  | none => exact .none
  | some roster => exact .some (h.withRoster roster)

theorem touch (id : SessionId) (mark : Nat) : SameBut t (a.touch id mark) (b.touch id mark) := by
  unfold Room.touch
  rw [h.roster]
  exact h.withRoster _

theorem expel? (id : SessionId) : Option.Rel (Alike t) (a.expel? id) (b.expel? id) := by
  unfold Room.expel?
  rw [h.roster]
  cases a.roster.remove? id with
  | none => exact .none
  | some p =>
    obtain ⟨s, roster⟩ := p
    exact .some ⟨rfl, ((h.withRoster roster).withTally _ _).close s.link⟩

theorem disconnect? (id : SessionId) :
    Option.Rel (Alike t) (a.disconnect? id) (b.disconnect? id) := by
  unfold Room.disconnect?
  rcases both_or_neither (h.expel? id) with ⟨ha, hb⟩ | ⟨x, y, ha, hb, hxy⟩
  · rw [ha, hb]
    exact .none
  · rw [ha, hb]
    exact .some ⟨hxy.1, hxy.2.publish _⟩

theorem connectionLost? (conn : ConnId) :
    Option.Rel (Alike t) (a.connectionLost? conn) (b.connectionLost? conn) := by
  unfold Room.connectionLost?
  rw [h.roster]
  cases a.roster.bound? conn with
  | none => exact .none
  | some bound =>
    simp only [Option.bind_some, strike?, h.roster]
    cases a.roster.remove? bound.id with
    | none => exact .none
    | some p =>
      obtain ⟨s, roster⟩ := p
      exact .some ⟨rfl, ((h.withRoster roster).withTally _ _).publish _⟩

/-! ## Taking leave of everybody -/

omit h in
/-- The links that are closed last may include the one link or not. -/
theorem closeAll (conns : List ConnId) : ∀ {a b : Room}, SameBut t a b →
    SameBut t (conns.foldl Room.close a) ((conns.filter (· ≠ t)).foldl Room.close b) := by
  induction conns with
  | nil => exact fun h => h
  | cons conn rest ih =>
    intro a b h
    by_cases hc : conn = t
    · subst hc
      rw [List.filter_cons_of_neg (by simp)]
      exact ih ((close_self a).symm.trans h)
    · rw [List.filter_cons_of_pos (by simpa using hc)]
      exact ih (h.close conn)

omit h in
/-- Leave is taken of a session on the one link; if it stalls, it is put among those that are closed
later. -/
theorem leave_self {s : Session} (hs : s.link = t) (p : List ConnId × Room) :
    (Room.leave p s).1.filter (· ≠ t) = p.1.filter (· ≠ t) ∧
      SameBut t (p.2.write s.link farewell).2 (Room.leave p s).2 := by
  unfold Room.leave
  simp only
  split
  · refine ⟨?_, .refl _⟩
    rw [List.filter_append, List.filter_cons_of_neg (by simpa using hs)]
    exact List.append_nil _
  · refine ⟨rfl, ?_⟩
    rw [hs]
    exact close_self _

omit h in
theorem leave (s : Session) {p q : List ConnId × Room}
    (hp : q.1.filter (· ≠ t) = p.1.filter (· ≠ t)) (h : SameBut t p.2 q.2) :
    (Room.leave q s).1.filter (· ≠ t) = (Room.leave p s).1.filter (· ≠ t) ∧
      SameBut t (Room.leave p s).2 (Room.leave q s).2 := by
  have hwritten := h.write s.link farewell
  by_cases hs : s.link = t
  · -- here the farewells may come to different things, and the link is closed now or later
    obtain ⟨hp1, hp2⟩ := leave_self hs p
    obtain ⟨hq1, hq2⟩ := leave_self hs q
    exact ⟨hq1.trans (hp.trans hp1.symm), hp2.symm.trans (hwritten.trans hq2)⟩
  · have houtcome : (q.2.write s.link farewell).1 = (p.2.write s.link farewell).1 := by
      simp only [Room.write]
      rw [h.links s.link hs]
    simp only [Room.leave, houtcome]
    split
    · exact ⟨by rw [List.filter_append, List.filter_append, hp], hwritten⟩
    · exact ⟨hp, hwritten.close s.link⟩

omit h in
theorem leaveAll (sessions : List Session) : ∀ {p q : List ConnId × Room},
    q.1.filter (· ≠ t) = p.1.filter (· ≠ t) → SameBut t p.2 q.2 →
    (sessions.foldl Room.leave q).1.filter (· ≠ t) =
        (sessions.foldl Room.leave p).1.filter (· ≠ t) ∧
      SameBut t (sessions.foldl Room.leave p).2 (sessions.foldl Room.leave q).2 := by
  induction sessions with
  | nil => exact fun hp h => ⟨hp, h⟩
  | cons s rest ih =>
    intro p q hp h
    obtain ⟨hp', h'⟩ := leave s hp h
    exact ih hp' h'

theorem partFrom (sessions : List Session) :
    SameBut t (a.partFrom sessions) (b.partFrom sessions) := by
  obtain ⟨hstalled, hleft⟩ := leaveAll (p := ([], a)) (q := ([], b)) sessions rfl h
  have hclosed := closeAll (sessions.foldl Room.leave ([], a)).1 hleft
  rw [← hstalled] at hclosed
  rw [partFrom_eq, partFrom_eq]
  exact hclosed.trans (closeAll _ (.refl _)).symm

theorem disconnectAll : Alike t a.disconnectAll b.disconnectAll := by
  unfold Room.disconnectAll
  rw [h.roster]
  exact ⟨rfl, (h.withRoster _).partFrom _⟩

/-! ## Frames -/

theorem handleUnregistered (conn : ConnId) (now : Nat) (message : Message) :
    Alike t (a.handleUnregistered conn now message) (b.handleUnregistered conn now message) := by
  cases message with
  | register id name =>
    simp only [Room.handleUnregistered]
    rcases both_or_neither (h.register? id name conn now) with ⟨ha, hb⟩ | ⟨x, y, ha, hb, hxy⟩
    · rw [ha, hb]
      exact ⟨rfl, (h.withTally _ _).write conn _⟩
    · rw [ha, hb]
      exact ⟨rfl, hxy.withTally _ _⟩
  | _ => exact ⟨rfl, h⟩

theorem handleActive (conn : ConnId) (now : Nat) (message : Message) :
    Alike t (a.handleActive conn now message) (b.handleActive conn now message) := by
  cases message with
  | incoming id text =>
    have howned : b.owned? conn id = a.owned? conn id := by rw [owned?, owned?, h.roster]
    simp only [Room.handleActive, howned]
    cases a.owned? conn id with
    | none => exact ⟨rfl, h⟩
    | some speaker =>
      obtain ⟨hline, hsaid⟩ := h.converse speaker text
      exact ⟨congrArg (Handled.mk .active) hline, hsaid⟩
  | logoff id =>
    simp only [Room.handleActive]
    rcases both_or_neither (h.expel? id) with ⟨ha, hb⟩ | ⟨x, y, ha, hb, hsession, hxy⟩
    · rw [ha, hb]
      exact ⟨rfl, h⟩
    · rw [ha, hb]
      simp only [hsession]
      exact ⟨rfl, hxy⟩
  | keepAlive id => exact ⟨rfl, h.touch id now⟩
  | _ => exact ⟨rfl, h⟩

theorem handle (conn : ConnId) (stage : Stage) (raw : Text) (now : Nat) :
    Alike t (a.handle conn stage raw now) (b.handle conn stage raw now) := by
  have hcounted := h.withTally a.tally.frameReceived b.tally.frameReceived
  unfold Room.handle
  cases Message.parse raw with
  | error e => exact ⟨rfl, hcounted.withTally _ _⟩
  | ok message =>
    cases stage with
    | accepted => exact hcounted.handleUnregistered conn now message
    | awaitingRegister => exact hcounted.handleUnregistered conn now message
    | active => exact hcounted.handleActive conn now message
    | closed => exact ⟨rfl, hcounted⟩

theorem dispatch (conn : ConnId) (stage : Stage) (raw : Text) (now : Nat) :
    Alike t (a.dispatch conn stage raw now) (b.dispatch conn stage raw now) := by
  obtain ⟨hhandled, hroom⟩ := h.handle conn stage raw now
  refine ⟨congrArg Handled.stage hhandled, ?_⟩
  simp only [Room.dispatch]
  rw [hhandled]
  exact hroom.publishLeft _

/-! ## Frames from guests -/

theorem nameGuest (id : SessionId) (name : Text) :
    SameBut t (a.nameGuest id name) (b.nameGuest id name) := by
  have hnickname : b.bridge.nicknameOf? id = a.bridge.nicknameOf? id := by rw [h.bridge]
  unfold Room.nameGuest
  rw [hnickname]
  split
  · exact h
  · rw [h.roster]
    cases a.roster.reserve? name with
    | none => exact (h.sendTo id _).2
    | some roster =>
      have hreserved := h.withRoster roster
      have hguest : b.bridge.guest? id = a.bridge.guest? id := by rw [h.bridge]
      simp only [hguest]
      cases a.bridge.guest? id with
      | none => exact hreserved.release name
      | some g =>
        simp only [h.bridge]
        exact hreserved.withBridge _

theorem guestMessage (id : SessionId) (raw : Text) (message : Message) :
    (b.guestMessage id raw message).1 = (a.guestMessage id raw message).1 ∧
      Alike t (a.guestMessage id raw message).2 (b.guestMessage id raw message).2 := by
  cases message with
  | register _ name => exact ⟨rfl, rfl, h.nameGuest id name⟩
  | incoming sender text =>
    simp only [Room.guestMessage]
    rw [h.bridge]
    split
    · cases a.bridge.nicknameOf? id with
      | none => exact ⟨rfl, rfl, h⟩
      | some nickname => exact ⟨rfl, h.guestConverse id nickname text⟩
    · exact ⟨rfl, rfl, h⟩
  | usernameQuery _ =>
    simp only [Room.guestMessage]
    rw [h.roster]
    cases a.roster.answer? raw with
    | none => exact ⟨rfl, rfl, h⟩
    | some reply => exact ⟨rfl, rfl, (h.sendTo id reply).2⟩
  | _ => exact ⟨rfl, rfl, h⟩

theorem guestFrame (id : SessionId) (raw : Text) :
    Alike t (a.guestFrame id raw) (b.guestFrame id raw) := by
  simp only [Room.guestFrame, guestHandle]
  cases Message.parse raw with
  | error e => exact ⟨rfl, h⟩
  | ok message =>
    obtain ⟨haction, hline, hroom⟩ := h.guestMessage id raw message
    refine ⟨haction, ?_⟩
    simp only
    rw [hline]
    exact hroom.publishLeft _

/-! ## Sweeps -/

theorem sweepStep (w : Sweep) :
    (Sweep.step b w).2 = (Sweep.step a w).2 ∧
      SameBut t (Sweep.step a w).1 (Sweep.step b w).1 := by
  obtain ⟨left, phase, removed⟩ := w
  cases left with
  | nil => exact ⟨rfl, h⟩
  | cons s rest =>
    cases phase with
    | announce => exact ⟨rfl, h.announce _⟩
    | remove =>
      have hlost := h.publish (Sweep.lostLine s.name)
      simp only [Sweep.step]
      rw [hlost.roster]
      cases (a.publish (Sweep.lostLine s.name)).roster.remove? s.id with
      | none => exact ⟨rfl, hlost⟩
      | some p =>
        obtain ⟨gone, roster⟩ := p
        exact ⟨rfl, (hlost.withRoster roster).close gone.link⟩
    | account => exact ⟨rfl, h.withTally _ _⟩

omit h in
theorem sweepRun (n : Nat) : ∀ {a b : Room} (w : Sweep), SameBut t a b →
    (Sweep.run n b w).2 = (Sweep.run n a w).2 ∧
      SameBut t (Sweep.run n a w).1 (Sweep.run n b w).1 := by
  induction n with
  | zero => exact fun w h => ⟨rfl, h⟩
  | succ n ih =>
    intro a b w h
    obtain ⟨hw, hstep⟩ := h.sweepStep w
    simp only [Sweep.run]
    rw [hw]
    exact ih _ hstep

theorem reap (now threshold : Nat) : Alike t (a.reap now threshold) (b.reap now threshold) := by
  have hstart : Sweep.start b now threshold = Sweep.start a now threshold := by
    rw [Sweep.start, Sweep.start, h.roster]
  obtain ⟨hw, hroom⟩ := sweepRun (Sweep.start a now threshold).steps (Sweep.start a now threshold) h
  simp only [Room.reap, hstart]
  exact ⟨congrArg Sweep.removed hw, hroom⟩

/-! ## The feed -/

theorem hand? (reply : Feed.Reply) : Option.Rel (Alike t) (a.hand? reply) (b.hand? reply) := by
  unfold Room.hand?
  rw [h.feed]
  cases a.feed.hand? reply with
  | none => exact .none
  | some p =>
    obtain ⟨subscriber, line, feed⟩ := p
    have hhanded := (h.withFeed feed).record (.handed subscriber line)
    refine .some ⟨rfl, ?_⟩
    simp only
    split <;> rename_i ha <;> split <;> rename_i hb
    · exact (hhanded.forward line).2
    · exact absurd (h.subscription.trans ha) hb
    · exact absurd (h.subscription.symm.trans hb) ha
    · exact hhanded

theorem feed? (feed : Option Feed) : Option.Rel (SameBut t)
    (feed.map fun feed => { a with feed }) (feed.map fun feed => { b with feed }) := by
  cases feed with
  | none => exact .none
  | some feed => exact .some (h.withFeed feed)

theorem serve? : Option.Rel (SameBut t) a.serve? b.serve? := by
  have hhand : Option.Rel (SameBut t)
      ((a.hand? .taken).map (·.2)) ((b.hand? .taken).map (·.2)) := by
    rcases both_or_neither (h.hand? .taken) with ⟨ha, hb⟩ | ⟨x, y, ha, hb, hxy⟩
    · rw [ha, hb]
      exact .none
    · rw [ha, hb]
      exact .some hxy.2
  have hfinish : Option.Rel (SameBut t) a.finish? b.finish? := by
    rw [finish?, finish?, h.feed]
    exact h.feed? _
  have hdequeue : Option.Rel (SameBut t) a.dequeue? b.dequeue? := by
    rw [dequeue?, dequeue?, h.feed]
    exact h.feed? _
  have hexit : Option.Rel (SameBut t) a.exit? b.exit? := by
    rw [exit?, exit?, h.feed]
    exact h.feed? _
  exact rel_or (rel_or (rel_or hhand hfinish) hdequeue) hexit

end SameBut

end Room
end Parley
