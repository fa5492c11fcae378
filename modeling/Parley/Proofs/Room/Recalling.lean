/-
What a room has logged is never read again. A room that recalls some events from before all that it
has logged does the same as one that does not, and logs the same after them (`step_recalling`). So
what two rooms do can be compared one move at a time, each time from an empty log.
-/
import Parley.Proofs.Room.Bindings
import Parley.Proofs.Room.Moves

namespace Parley

namespace Room

/-- A room that recalls some events from before all that it has logged. -/
def recalling (before : List Event) (r : Room) : Room := { r with log := before ++ r.log }

variable (l : List Event) (r : Room)

@[simp] theorem roster_recalling : (r.recalling l).roster = r.roster := rfl
@[simp] theorem tally_recalling : (r.recalling l).tally = r.tally := rfl
@[simp] theorem feed_recalling : (r.recalling l).feed = r.feed := rfl
@[simp] theorem links_recalling : (r.recalling l).links = r.links := rfl
@[simp] theorem bridge_recalling : (r.recalling l).bridge = r.bridge := rfl
@[simp] theorem subscription_recalling :
    (r.recalling l).bridgeSubscription = r.bridgeSubscription := rfl
@[simp] theorem directory_recalling : (r.recalling l).directory = r.directory := rfl
@[simp] theorem log_recalling : (r.recalling l).log = l ++ r.log := rfl

/-- A result, and the room after it, which recalls some events. -/
def recallingWith {α : Type} (before : List Event) (x : α × Room) : α × Room :=
  (x.1, x.2.recalling before)

@[simp] theorem fst_recallingWith {α : Type} (x : α × Room) : (recallingWith l x).1 = x.1 := rfl
@[simp] theorem snd_recallingWith {α : Type} (x : α × Room) :
    (recallingWith l x).2 = x.2.recalling l := rfl

/-! ## Lines and links -/

theorem record_recalling (e : Event) : (r.recalling l).record e = (r.record e).recalling l := by
  simp [record, recalling]

theorem publish_recalling (line : Text) :
    (r.recalling l).publish line = (r.publish line).recalling l := by
  simp only [publish, publish?, feed_recalling]
  cases r.feed.publish? line with
  | none => rfl
  | some feed => exact record_recalling l { r with feed } _

theorem publishLeft_recalling (line : Option Text) :
    (r.recalling l).publishLeft line = (r.publishLeft line).recalling l := by
  cases line with
  | none => rfl
  | some line => exact publish_recalling l r line

theorem write_recalling (conn : ConnId) (frame : Text) :
    (r.recalling l).write conn frame = recallingWith l (r.write conn frame) := by
  simp [write, record, recalling, recallingWith]

theorem close_recalling (conn : ConnId) :
    (r.recalling l).close conn = (r.close conn).recalling l := by
  simp [close, record, recalling]

theorem writeAll_recalling (frame : Text) (sessions : List Session) : ∀ r : Room,
    (r.recalling l).writeAll frame sessions = recallingWith l (r.writeAll frame sessions) := by
  induction sessions with
  | nil => exact fun _ => rfl
  | cons s rest ih =>
    intro r
    simp only [writeAll, write_recalling, fst_recallingWith, snd_recallingWith, ih]
    rfl

theorem broadcast_recalling (frame : Text) (sender : Option SessionId) :
    (r.recalling l).broadcast frame sender = recallingWith l (r.broadcast frame sender) := by
  simp only [broadcast, audience, roster_recalling, writeAll_recalling]
  rfl

theorem announce_recalling (text : Text) :
    (r.recalling l).announce text = recallingWith l (r.announce text) :=
  broadcast_recalling l r _ none

theorem tell_recalling (id : SessionId) (text : Text) :
    (r.recalling l).tell id text = recallingWith l (r.tell id text) := by
  simp only [tell, roster_recalling]
  cases r.roster.lookup? id with
  | none => rfl
  | some s =>
    simp only [write_recalling, fst_recallingWith]
    split <;> rfl

/-! ## Guests -/

theorem detach_recalling (id : SessionId) :
    (r.recalling l).detach id = (r.detach id).recalling l := by
  simp only [detach, bridge_recalling]
  cases r.bridge.detach? id with
  | none => rfl
  | some p =>
    obtain ⟨⟨_, nickname, _, _⟩, bridge⟩ := p
    cases nickname with
    | none => exact record_recalling l { r with bridge } _
    | some name => exact record_recalling l (release { r with bridge } name) _

theorem sendTo_recalling (id : SessionId) (frame : Text) :
    (r.recalling l).sendTo id frame = recallingWith l (r.sendTo id frame) := by
  simp only [sendTo, bridge_recalling, detach_recalling]
  cases r.bridge.guest? id with
  | none => rfl
  | some g =>
    cases hc : g.receipt r.bridge.capacity with
    | taken => simp [hc, record, recalling, recallingWith]
    | full => simp [hc, recallingWith]
    | gone => simp [hc, recallingWith]

theorem deliver_recalling (name frame : Text) :
    (r.recalling l).deliver name frame = recallingWith l (r.deliver name frame) := by
  simp only [deliver, bridge_recalling, sendTo_recalling]
  cases r.bridge.named? name <;> rfl

theorem foldl_recalling {α : Type} {f : Room → α → Room}
    (hf : ∀ (r : Room) (x : α), f (r.recalling l) x = (f r x).recalling l) (items : List α) :
    ∀ r : Room, items.foldl f (r.recalling l) = (items.foldl f r).recalling l := by
  induction items with
  | nil => exact fun _ => rfl
  | cons x rest ih => exact fun r => (congrArg (rest.foldl f) (hf r x)).trans (ih _)

theorem forward_recalling (line : Text) :
    (r.recalling l).forward line = recallingWith l (r.forward line) := by
  have hqueued := foldl_recalling l (f := fun r (g : Guest) => r.record (.queued g.id line))
    fun r g => record_recalling l r _
  have hdetached := foldl_recalling l (f := fun r (g : Guest) => r.detach g.id)
    fun r g => detach_recalling l r g.id
  have hstart : ∀ bridge, ({ r.recalling l with bridge } : Room) =
      ({ r with bridge } : Room).recalling l := fun _ => rfl
  simp only [forward, bridge_recalling, hstart, hqueued, hdetached]
  rfl

theorem attach_recalling (id : SessionId) :
    (r.recalling l).attach id = (r.attach id).recalling l := by
  simp [attach, record, recalling]

theorem tellDirectory_recalling (name frame : Text) :
    (r.recalling l).tellDirectory name frame = recallingWith l (r.tellDirectory name frame) := by
  simp only [tellDirectory, directory_recalling, deliver_recalling, record_recalling]
  cases r.directory with
  | standIn names => simp only; split <;> rfl
  | _ => rfl

theorem sendPrivate_recalling (sender target payload : Text) :
    (r.recalling l).sendPrivate sender target payload =
      recallingWith l (r.sendPrivate sender target payload) := by
  simp only [sendPrivate, roster_recalling, tellDirectory_recalling, write_recalling]
  cases r.roster.named? target with
  | none => rfl
  | some s => simp only [fst_recallingWith]; split <;> rfl

theorem notifyInvalid_recalling (conn : ConnId) (target : Text) :
    (r.recalling l).notifyInvalid conn target = (r.notifyInvalid conn target).recalling l := by
  simp only [notifyInvalid, write_recalling, snd_recallingWith]

/-! ## Chat -/

theorem converse_recalling (speaker : Session) (text : Text) :
    (r.recalling l).converse speaker text = recallingWith l (r.converse speaker text) := by
  cases ht : Wire.Chat.parse text with
  | broadcast said =>
    simp only [converse, ht, broadcast_recalling]
    rfl
  | personal target payload =>
    rw [converse_personal _ speaker ht, converse_personal r speaker ht, sendPrivate_recalling]
    simp only [fst_recallingWith, snd_recallingWith, notifyInvalid_recalling]
    split <;> rfl

theorem guestConverse_recalling (id : SessionId) (nickname text : Text) :
    (r.recalling l).guestConverse id nickname text =
      recallingWith l (r.guestConverse id nickname text) := by
  cases ht : Wire.Chat.parse text with
  | broadcast said =>
    simp only [guestConverse, ht, broadcast_recalling]
    rfl
  | personal target payload =>
    rw [guestConverse_personal _ id nickname ht, guestConverse_personal r id nickname ht,
      sendPrivate_recalling]
    simp only [fst_recallingWith, snd_recallingWith, sendTo_recalling]
    split <;> rfl

theorem nameGuest_recalling (id : SessionId) (name : Text) :
    (r.recalling l).nameGuest id name = (r.nameGuest id name).recalling l := by
  simp only [nameGuest, bridge_recalling, roster_recalling, sendTo_recalling, snd_recallingWith]
  split
  · rfl
  · split
    · rfl
    · cases r.bridge.guest? id <;> rfl

theorem guestMessage_recalling (id : SessionId) (raw : Text) (message : Wire.Message) :
    (r.recalling l).guestMessage id raw message =
      ((r.guestMessage id raw message).1, recallingWith l (r.guestMessage id raw message).2) := by
  cases message with
  | register _ name => simp only [guestMessage, nameGuest_recalling, recallingWith]
  | incoming sender text =>
    simp only [guestMessage, bridge_recalling]
    split
    · cases r.bridge.nicknameOf? id with
      | none => rfl
      | some nickname => simp only [guestConverse_recalling, recallingWith]
    · rfl
  | usernameQuery _ =>
    simp only [guestMessage, roster_recalling, sendTo_recalling]
    cases r.roster.answer? raw <;> rfl
  | logoff _ => rfl
  | debug => rfl
  | keepAlive _ => rfl
  | unknown _ => rfl

theorem guestFrame_recalling (id : SessionId) (raw : Text) :
    (r.recalling l).guestFrame id raw = recallingWith l (r.guestFrame id raw) := by
  simp only [guestFrame, guestHandle]
  cases Wire.Message.parse raw with
  | error _ => rfl
  | ok message =>
    simp only [guestMessage_recalling, recallingWith, publishLeft_recalling]

/-! ## Sessions -/

theorem register?_recalling (id : SessionId) (name : Text) (conn : ConnId) (mark : Nat) :
    (r.recalling l).register? id name conn mark =
      (r.register? id name conn mark).map (recalling l) := by
  simp only [register?, roster_recalling, Option.map_map]
  rfl

theorem expel?_recalling (id : SessionId) :
    (r.recalling l).expel? id = (r.expel? id).map (recallingWith l) := by
  simp only [expel?, roster_recalling, tally_recalling, Option.map_map]
  cases r.roster.remove? id with
  | none => rfl
  | some p =>
    exact congrArg (fun q => some (p.1, q))
      (close_recalling l { r with roster := p.2, tally := r.tally.sessionClosed } p.1.link)

theorem disconnect?_recalling (id : SessionId) :
    (r.recalling l).disconnect? id = (r.disconnect? id).map (recallingWith l) := by
  simp only [disconnect?, expel?_recalling, Option.map_map]
  cases r.expel? id with
  | none => rfl
  | some p => exact congrArg (fun q => some (p.1, q)) (publish_recalling l p.2 _)

theorem connectionLost?_recalling (conn : ConnId) :
    (r.recalling l).connectionLost? conn = (r.connectionLost? conn).map (recallingWith l) := by
  simp only [connectionLost?, strike?, roster_recalling, tally_recalling]
  cases r.roster.bound? conn with
  | none => rfl
  | some bound =>
    simp only [Option.bind_some]
    cases r.roster.remove? bound.id with
    | none => rfl
    | some p =>
      exact congrArg (fun q => some (p.1, q))
        (publish_recalling l { r with roster := p.2, tally := r.tally.sessionClosed } _)

theorem leave_recalling (p : List ConnId × Room) (s : Session) :
    leave (recallingWith l p) s = recallingWith l (leave p s) := by
  simp only [leave, snd_recallingWith, fst_recallingWith, write_recalling, close_recalling]
  split <;> rfl

theorem partFrom_recalling (sessions : List Session) :
    (r.recalling l).partFrom sessions = (r.partFrom sessions).recalling l := by
  have hleave : ∀ (sessions : List Session) (p : List ConnId × Room),
      sessions.foldl leave (recallingWith l p) = recallingWith l (sessions.foldl leave p) := by
    intro sessions
    induction sessions with
    | nil => exact fun _ => rfl
    | cons s rest ih =>
      exact fun p => (congrArg (rest.foldl leave) (leave_recalling l p s)).trans (ih _)
  rw [partFrom_eq, partFrom_eq]
  rw [show (([], r.recalling l) : List ConnId × Room) = recallingWith l ([], r) from rfl, hleave]
  exact foldl_recalling l (fun r c => close_recalling l r c) _ _

theorem disconnectAll_recalling :
    (r.recalling l).disconnectAll = recallingWith l r.disconnectAll :=
  congrArg (fun q => (r.roster.sessions.length, q))
    (partFrom_recalling l { r with roster := r.roster.clear.2 } r.roster.sessions)

/-! ## Frames -/

theorem handleUnregistered_recalling (conn : ConnId) (now : Nat) (message : Wire.Message) :
    (r.recalling l).handleUnregistered conn now message =
      recallingWith l (r.handleUnregistered conn now message) := by
  cases message with
  | register id name =>
    simp only [handleUnregistered, register?_recalling]
    cases r.register? id name conn now with
    | none =>
      exact congrArg (fun q : Outcome × Room => ((⟨.awaitingRegister, none⟩ : Handled), q.2))
        (write_recalling l { r with tally := r.tally.registrationRejected } conn _)
    | some r' => rfl
  | _ => rfl

theorem handleActive_recalling (conn : ConnId) (now : Nat) (message : Wire.Message) :
    (r.recalling l).handleActive conn now message =
      recallingWith l (r.handleActive conn now message) := by
  cases message with
  | incoming id text =>
    simp only [handleActive, owned?, roster_recalling, converse_recalling]
    cases (r.roster.lookup? id).filter (·.link = conn) <;> rfl
  | logoff id =>
    simp only [handleActive, expel?_recalling]
    cases r.expel? id <;> rfl
  | _ => rfl

theorem dispatch_recalling (conn : ConnId) (stage : Stage) (raw : Text) (now : Nat) :
    (r.recalling l).dispatch conn stage raw now =
      recallingWith l (r.dispatch conn stage raw now) := by
  have hcounted : ({ r.recalling l with tally := r.tally.frameReceived } : Room) =
      ({ r with tally := r.tally.frameReceived } : Room).recalling l := rfl
  have hhandle : (r.recalling l).handle conn stage raw now =
      recallingWith l (r.handle conn stage raw now) := by
    simp only [handle, tally_recalling, hcounted]
    cases Wire.Message.parse raw with
    | error _ => rfl
    | ok message =>
      cases stage with
      | accepted => exact handleUnregistered_recalling l _ conn now message
      | awaitingRegister => exact handleUnregistered_recalling l _ conn now message
      | active => exact handleActive_recalling l _ conn now message
      | closed => rfl
  simp only [dispatch, hhandle, fst_recallingWith, snd_recallingWith, publishLeft_recalling]
  rfl

/-! ## Sweeps and the feed -/

theorem sweepStep_recalling (w : Sweep) :
    Sweep.step (r.recalling l) w = ((Sweep.step r w).1.recalling l, (Sweep.step r w).2) := by
  obtain ⟨left, phase, removed⟩ := w
  cases left with
  | nil => rfl
  | cons s rest =>
    cases phase with
    | announce => simp only [Sweep.step, announce_recalling, snd_recallingWith]
    | remove =>
      simp only [Sweep.step, publish_recalling, roster_recalling]
      cases (r.publish (Sweep.lostLine s.name)).roster.remove? s.id with
      | none => rfl
      | some p =>
        exact congrArg (fun q => (q, (⟨s :: rest, .account, removed⟩ : Sweep)))
          (close_recalling l { r.publish (Sweep.lostLine s.name) with roster := p.2 } p.1.link)
    | account => rfl

theorem sweepRun_recalling (n : Nat) : ∀ (r : Room) (w : Sweep),
    Sweep.run n (r.recalling l) w = ((Sweep.run n r w).1.recalling l, (Sweep.run n r w).2) := by
  induction n with
  | zero => exact fun _ _ => rfl
  | succ n ih =>
    intro r w
    simp only [Sweep.run, sweepStep_recalling, ih]

theorem reap_recalling (now threshold : Nat) :
    (r.recalling l).reap now threshold = recallingWith l (r.reap now threshold) := by
  have hrun := sweepRun_recalling l (Sweep.start r now threshold).steps r
    (Sweep.start r now threshold)
  have hstart : Sweep.start (r.recalling l) now threshold = Sweep.start r now threshold := rfl
  simp only [reap, hstart, hrun]
  rfl

theorem hand?_recalling (reply : Feed.Reply) :
    (r.recalling l).hand? reply = (r.hand? reply).map (recallingWith l) := by
  simp only [hand?, feed_recalling, Option.map_map]
  cases r.feed.hand? reply with
  | none => rfl
  | some p =>
    obtain ⟨subscriber, line, feed⟩ := p
    have hhanded : ({ r.recalling l with feed } : Room).record (.handed subscriber line) =
        (({ r with feed } : Room).record (.handed subscriber line)).recalling l :=
      record_recalling l { r with feed } _
    have hsub : (({ r with feed } : Room).record (.handed subscriber line)).bridgeSubscription =
        r.bridgeSubscription := rfl
    simp only [Option.map_some, hhanded, Function.comp_apply, forward_recalling, recallingWith]
    simp only [subscription_recalling, hsub]
    by_cases h : r.bridgeSubscription = some subscriber
    · simp only [if_pos h]
    · simp only [if_neg h]

theorem serve?_recalling : (r.recalling l).serve? = r.serve?.map (recalling l) := by
  have hfeed : ∀ f : Option Feed, (f.map fun feed => ({ r.recalling l with feed } : Room)) =
      (f.map fun feed => ({ r with feed } : Room)).map (recalling l) := fun f => by
    cases f <;> rfl
  simp only [serve?, hand?_recalling, finish?, dequeue?, exit?, feed_recalling, hfeed,
    Option.map_or, Option.map_map]
  rfl

/-! ## Every move -/

theorem getD_recalling {next next' : Option Room} (h : next' = next.map (recalling l)) :
    next'.getD (r.recalling l) = (next.getD r).recalling l := by
  subst h
  cases next <;> rfl

theorem step_recalling (m : Move) : (r.recalling l).step m = (r.step m).recalling l := by
  cases m with
  | register id name conn mark =>
    exact getD_recalling l r (register?_recalling l r id name conn mark)
  | frame conn stage raw now => exact congrArg (·.2) (dispatch_recalling l r conn stage raw now)
  | announce text => exact congrArg (·.2) (announce_recalling l r text)
  | tell id text => exact congrArg (·.2) (tell_recalling l r id text)
  | disconnect id =>
    refine getD_recalling l r ?_
    rw [disconnect?_recalling, Option.map_map, Option.map_map]
    rfl
  | connectionLost conn =>
    refine getD_recalling l r ?_
    rw [connectionLost?_recalling, Option.map_map, Option.map_map]
    rfl
  | reap now threshold => exact congrArg (·.2) (reap_recalling l r now threshold)
  | disconnectAll => exact congrArg (·.2) (disconnectAll_recalling l r)
  | attach id =>
    simp only [step, bridge_recalling, attach_recalling]
    split <;> rfl
  | guestFrame id raw => exact congrArg (·.2) (guestFrame_recalling l r id raw)
  | detach id => exact detach_recalling l r id
  | deliver name frame => exact congrArg (·.2) (deliver_recalling l r name frame)
  | forward line => exact congrArg (·.2) (forward_recalling l r line)
  | readNext id => rfl
  | read id => rfl
  | stopReading id => rfl
  | publish line => exact publish_recalling l r line
  | serve => exact getD_recalling l r (serve?_recalling l r)

end Room
end Parley
