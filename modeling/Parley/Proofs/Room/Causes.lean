/-
Where everything that leaves a room comes from. A frame from a connection or from a guest brings
about only what `Sent` lists, and each case of it says which part of the frame is the cause: chat
comes only of chat under an id of the speaker's own (`step_sent`), and a frame that names another
sender is at most counted (`step_of_foreign`). `Causes` says the same for every other move.
-/
import Parley.Proofs.Room.Changes
import Parley.Proofs.Room.Logs

namespace Parley

open Wire (Message Chat)

theorem Wire.Chat.eq_of_parse_broadcast {text all : Text} (h : parse text = .broadcast all) :
    all = text := by
  unfold parse at h
  split at h
  · cases h
  · exact (Chat.broadcast.inj h).symm

/-- The answer to a question is one of two marks. -/
theorem Roster.answer?_cases {r : Roster} {raw reply : Text} (h : r.answer? raw = some reply) :
    reply = Wire.Marker.duplicated ∨ reply = Wire.Marker.clear := by
  obtain ⟨name, -, rfl⟩ := Option.map_eq_some_iff.1 h
  split
  · exact .inl rfl
  · exact .inr rfl

/-! ## Where frames come from -/

/-- Where a frame comes from: a connection at some stage, or a guest. -/
inductive Origin where
  | connection (conn : ConnId) (stage : Stage)
  | guest (id : SessionId)
  deriving DecidableEq, Repr

namespace Origin

/-- A frame from somewhere, as a move. -/
def move (o : Origin) (raw : Text) (now : Nat) : Room.Move :=
  match o with
  | connection conn stage => .frame conn stage raw now
  | guest id => .guestFrame id raw

/-- The room when a frame from somewhere has been counted; only those from connections are. -/
def counted (o : Origin) (r : Room) : Room :=
  match o with
  | connection .. => { r with tally := r.tally.frameReceived }
  | guest _ => r

/-- A frame goes back to where another came from. -/
def Gets (o : Origin) (frame : Text) (e : Event) : Prop :=
  match o with
  | connection conn _ => ∃ outcome, e = .wrote conn frame outcome
  | guest id => Room.ForGuest id frame e

theorem log_counted (o : Origin) (r : Room) : (o.counted r).log = r.log := by cases o <;> rfl

end Origin

namespace Speaker

/-- Where the frames of a speaker come from. -/
def origin : Speaker → Origin
  | session s => .connection s.link .active
  | guest id _ => .guest id

/-- A frame from somewhere is chat under the id of a speaker who takes part and is there. -/
def Says (p : Speaker) (r : Room) (o : Origin) (raw text : Text) : Prop :=
  p.TakesPart r ∧ p.origin = o ∧ Message.parse raw = .ok (.incoming p.id text)

theorem step_origin (p : Speaker) (r : Room) (raw : Text) (now : Nat) :
    r.step (p.origin.move raw now) = p.utters r raw now := by
  cases p <;> rfl

theorem hand_logs (p : Speaker) (r : Room) (frame : Text) :
    Room.Logs (p.origin.Gets frame) r (p.hand r frame) := by
  cases p with
  | session s => exact Room.write_logs r s.link frame
  | guest id nickname => exact Room.sendTo_logs r id frame

end Speaker

namespace Room

theorem ForHolder.of_counted {r : Room} (p : Speaker) {name frame : Text} {e : Event}
    (h : (p.counted r).ForHolder name frame e) : r.ForHolder name frame e := by
  cases h with
  | session holds outcome =>
    rw [Speaker.roster_counted] at holds
    exact .session holds outcome
  | guest free holds goes =>
    rw [Speaker.roster_counted] at free
    rw [Speaker.bridge_counted] at holds
    exact .guest free holds goes
  | standIn free =>
    rw [Speaker.roster_counted] at free
    exact .standIn free

/-! ## What comes of a frame -/

/-- What a frame from somewhere can bring about, with what there is in the frame that does. -/
inductive Sent (r : Room) (o : Origin) (raw : Text) : Event → Prop where
  | chat {p : Speaker} {text : Text} {s : Session} (said : p.Says r o raw text)
      (all : Chat.parse text = .broadcast text) (hears : s ∈ r.audience p.self?)
      (outcome : Outcome) :
      Sent r o raw (.wrote s.link (Message.incoming p.name text).wire outcome)
  | line {p : Speaker} {text : Text} (said : p.Says r o raw text)
      (all : Chat.parse text = .broadcast text) :
      Sent r o raw (.published (Wire.displayLine p.name text))
  | personal {p : Speaker} {text target payload : Text} {e : Event} (said : p.Says r o raw text)
      (one : Chat.parse text = .personal target payload)
      (goes : r.ForHolder target (Message.private p.name target payload).wire e) : Sent r o raw e
  | nobody {p : Speaker} {text target payload : Text} {e : Event} (said : p.Says r o raw text)
      (one : Chat.parse text = .personal target payload) (back : o.Gets (invalidName target) e) :
      Sent r o raw e
  | taken {id name : Text} {e : Event} (asks : Message.parse raw = .ok (.register id name))
      (back : o.Gets Wire.Marker.duplicated e) : Sent r o raw e
  | answered {id name reply : Text} {e : Event} (guest : o = .guest id)
      (asks : Message.parse raw = .ok (.usernameQuery name))
      (marks : reply = Wire.Marker.duplicated ∨ reply = Wire.Marker.clear)
      (back : o.Gets reply e) : Sent r o raw e
  | begins {id name : Text} (asks : Message.parse raw = .ok (.register id name)) :
      Sent r o raw (.published (connectedLine id name))
  | ends {id : Text} (asks : Message.parse raw = .ok (.logoff id)) :
      Sent r o raw (.published (disconnectedLine id))
  | closed {id : Text} {s : Session} (asks : Message.parse raw = .ok (.logoff id))
      (found : r.roster.lookup? id = some s) : Sent r o raw (.closed s.link)

variable {r : Room} {o : Origin} {raw : Text}

/-- What comes of chat from somebody who takes part. -/
theorem utters_sent {p : Speaker} {text : Text} (said : p.Says r o raw text) (now : Nat) :
    Logs (Sent r o raw) r (p.utters r raw now) := by
  obtain ⟨hp, ho, hraw⟩ := id said
  have hcounted : Logs (Sent r o raw) r (p.counted r) := .nothing (p.log_counted r)
  cases ht : Chat.parse text with
  | broadcast all =>
    obtain rfl := Chat.eq_of_parse_broadcast ht
    rw [Speaker.utters_broadcast hp hraw ht now]
    refine (hcounted.trans ((broadcast_logs (p.counted r) _ p.self?).mono ?_)).trans
      ((publish_logs _ _).mono ?_)
    · rintro e ⟨s, hs, outcome, rfl⟩
      rw [audience, Speaker.roster_counted] at hs
      exact .chat said ht hs outcome
    · rintro e rfl
      exact .line said ht
  | personal target payload =>
    rw [Speaker.utters_personal hp hraw ht now]
    have hsent : Logs (Sent r o raw) r ((p.counted r).sendPrivate p.name target payload).2 :=
      hcounted.trans ((sendPrivate_logs ..).mono fun e he => .personal said ht (.of_counted p he))
    split
    · rename_i q hq
      rw [hq] at hsent
      refine hsent.trans ((p.hand_logs q _).mono fun e he => ?_)
      exact .nobody said ht (ho ▸ he)
    · rename_i hq
      rw [hq] at hsent
      exact hsent

/-- Chat under an id that nobody who takes part has there is counted, and that is all. -/
theorem step_of_foreign {id text : Text} (hraw : Message.parse raw = .ok (.incoming id text))
    (hforeign : ∀ p : Speaker, p.TakesPart r → p.origin = o → p.id ≠ id) (now : Nat) :
    r.step (o.move raw now) = o.counted r := by
  cases o with
  | connection conn stage =>
    show (r.dispatch conn stage raw now).2 = _
    simp only [dispatch, handle, hraw]
    cases stage with
    | accepted => rfl
    | awaitingRegister => rfl
    | closed => rfl
    | active =>
      have hnone : owned? { r with tally := r.tally.frameReceived } conn id = none := by
        refine Option.eq_none_iff_forall_ne_some.2 fun s hs => ?_
        obtain ⟨hfound, hlink⟩ := Option.filter_eq_some_iff.1 hs
        have hid : s.id = id := (Roster.lookup?_some hfound).2
        refine hforeign (.session s) ?_ ?_ hid
        · show r.roster.lookup? s.id = some s
          rw [hid]
          exact hfound
        · rw [Speaker.origin, of_decide_eq_true hlink]
      simp only [handleActive, hnone]
      rfl
  | guest guest =>
    show (r.guestFrame guest raw).2 = r
    simp only [guestFrame, guestHandle, hraw, guestMessage]
    by_cases hid : id = guest
    · subst hid
      cases hn : r.bridge.nicknameOf? id with
      | none => rw [if_pos rfl]; rfl
      | some nickname => exact absurd rfl (hforeign (.guest id nickname) hn rfl)
    · rw [if_neg hid]
      rfl

/-- What comes of a registration. -/
theorem register_sent {id name : Text} (hraw : Message.parse raw = .ok (.register id name))
    (now : Nat) : Logs (Sent r o raw) r (r.step (o.move raw now)) := by
  cases o with
  | connection conn stage =>
    show Logs _ r (r.dispatch conn stage raw now).2
    simp only [dispatch, handle, hraw]
    cases stage with
    | accepted | awaitingRegister =>
      simp only [handleUnregistered]
      split
      · rename_i r1 hr
        obtain ⟨roster, -, rfl⟩ := Option.map_eq_some_iff.1 hr
        refine Logs.trans (.nothing rfl) ((publish_logs _ (connectedLine id name)).mono ?_)
        rintro e rfl
        exact .begins hraw
      · exact .single rfl (.taken hraw ⟨_, rfl⟩)
    | active => exact .nothing rfl
    | closed => exact .nothing rfl
  | guest guest =>
    show Logs _ r (r.guestFrame guest raw).2
    simp only [guestFrame, guestHandle, hraw, guestMessage]
    show Logs _ r (r.nameGuest guest name)
    unfold nameGuest
    split
    · exact .refl r
    · split
      · exact (sendTo_logs r guest _).mono fun e he => .taken hraw he
      · simp only
        split
        · exact .nothing rfl
        · exact .nothing (log_release ..)

/-- What comes of a logoff. -/
theorem logoff_sent {id : Text} (hraw : Message.parse raw = .ok (.logoff id)) (now : Nat) :
    Logs (Sent r o raw) r (r.step (o.move raw now)) := by
  cases o with
  | connection conn stage =>
    show Logs _ r (r.dispatch conn stage raw now).2
    simp only [dispatch, handle, hraw]
    cases stage with
    | accepted => exact .nothing rfl
    | awaitingRegister => exact .nothing rfl
    | closed => exact .nothing rfl
    | active =>
      simp only [handleActive]
      split
      · rename_i s r1 he
        obtain ⟨hfound, hclosed⟩ := expel?_logs he
        have hgone : Logs (Sent r (.connection conn .active) raw) r r1 :=
          Logs.trans (.nothing rfl) (hclosed.mono fun e he => he ▸ .closed hraw hfound)
        exact hgone.trans ((publish_logs r1 _).mono fun e he => he ▸ .ends hraw)
      · exact .nothing rfl
  | guest guest =>
    show Logs _ r (r.guestFrame guest raw).2
    simp only [guestFrame, guestHandle, hraw, guestMessage]
    exact .refl r

/-- What comes of a question whether a name is taken; only guests get an answer. -/
theorem query_sent {name : Text} (hraw : Message.parse raw = .ok (.usernameQuery name))
    (now : Nat) : Logs (Sent r o raw) r (r.step (o.move raw now)) := by
  cases o with
  | connection conn stage =>
    show Logs _ r (r.dispatch conn stage raw now).2
    simp only [dispatch, handle, hraw]
    cases stage <;> exact .nothing rfl
  | guest guest =>
    show Logs _ r (r.guestFrame guest raw).2
    simp only [guestFrame, guestHandle, hraw, guestMessage]
    split
    · rename_i reply hreply
      refine (sendTo_logs r guest reply).mono fun e he => ?_
      exact .answered rfl hraw (Roster.answer?_cases hreply) he
    · exact .refl r

/-- What comes of any other message, and of what is none: at most it is counted. -/
theorem other_sent (hother : ∀ message, Message.parse raw = .ok message →
    message = .debug ∨ (∃ id, message = .keepAlive id) ∨ ∃ raw, message = .unknown raw)
    (now : Nat) : Logs (Sent r o raw) r (r.step (o.move raw now)) := by
  cases o with
  | connection conn stage =>
    show Logs _ r (r.dispatch conn stage raw now).2
    simp only [dispatch, handle]
    cases hraw : Message.parse raw with
    | error e => exact .nothing rfl
    | ok message =>
      rcases hother message hraw with rfl | ⟨id, rfl⟩ | ⟨text, rfl⟩ <;>
        cases stage <;> exact .nothing rfl
  | guest guest =>
    show Logs _ r (r.guestFrame guest raw).2
    simp only [guestFrame, guestHandle]
    cases hraw : Message.parse raw with
    | error e => exact .refl r
    | ok message =>
      rcases hother message hraw with rfl | ⟨id, rfl⟩ | ⟨text, rfl⟩ <;> exact .refl r

/-- What comes of any frame. -/
theorem step_sent (r : Room) (o : Origin) (raw : Text) (now : Nat) :
    Logs (Sent r o raw) r (r.step (o.move raw now)) := by
  cases hraw : Message.parse raw with
  | error e => exact other_sent (by simp [hraw]) now
  | ok message =>
    cases message with
    | register id name => exact register_sent hraw now
    | logoff id => exact logoff_sent hraw now
    | usernameQuery name => exact query_sent hraw now
    | debug => exact other_sent (by simp [hraw]) now
    | keepAlive id => exact other_sent (by simp [hraw]) now
    | unknown text => exact other_sent (by simp [hraw]) now
    | incoming id text =>
      by_cases hown : ∃ p : Speaker, p.TakesPart r ∧ p.origin = o ∧ p.id = id
      · obtain ⟨p, hp, rfl, rfl⟩ := hown
        rw [Speaker.step_origin]
        exact utters_sent ⟨hp, rfl, hraw⟩ now
      · rw [step_of_foreign hraw (fun p hp ho hid => hown ⟨p, hp, ho, hid⟩) now]
        exact .nothing (o.log_counted r)

/-! ## The frames and lines of it -/

theorem ForGuest.frame {id : SessionId} {frame carried : Text} {e : Event}
    (h : ForGuest id frame e) (hf : e.frame? = some carried) : carried = frame := by
  rcases h with rfl | rfl
  · exact (Option.some.inj hf).symm
  · cases hf

theorem ForHolder.frame {name frame carried : Text} {e : Event} (h : r.ForHolder name frame e)
    (hf : e.frame? = some carried) : carried = frame := by
  cases h with
  | session holds outcome => exact (Option.some.inj hf).symm
  | guest free holds goes => exact goes.frame hf
  | standIn free => exact (Option.some.inj hf).symm

theorem gets_frame {frame carried : Text} {e : Event} (h : o.Gets frame e)
    (hf : e.frame? = some carried) : carried = frame := by
  cases o with
  | connection conn stage =>
    obtain ⟨outcome, rfl⟩ := h
    exact (Option.some.inj hf).symm
  | guest id => exact ForGuest.frame h hf

/-- What the server itself says to where a frame came from. -/
inductive Reply (o : Origin) (raw : Text) : Text → Prop where
  | taken {id name : Text} (asks : Message.parse raw = .ok (.register id name)) :
      Reply o raw Wire.Marker.duplicated
  | answered {id name reply : Text} (guest : o = .guest id)
      (asks : Message.parse raw = .ok (.usernameQuery name))
      (marks : reply = Wire.Marker.duplicated ∨ reply = Wire.Marker.clear) : Reply o raw reply
  | nobody {id text target payload : Text} (asks : Message.parse raw = .ok (.incoming id text))
      (one : Chat.parse text = .personal target payload) : Reply o raw (invalidName target)

/-- The frame of what a speaker says: to everybody, or to the holder of one name. -/
inductive Utterance (p : Speaker) (text : Text) : Text → Prop where
  | all (all : Chat.parse text = .broadcast text) :
      Utterance p text (Message.incoming p.name text).wire
  | one {target payload : Text} (one : Chat.parse text = .personal target payload) :
      Utterance p text (Message.private p.name target payload).wire

/-- Every frame that comes of one carries what its speaker says, or is a reply to where it came
from. -/
theorem Sent.frame {e : Event} {frame : Text} (h : Sent r o raw e) (hf : e.frame? = some frame) :
    (∃ p text, Speaker.Says p r o raw text ∧ Utterance p text frame) ∨
      o.Gets frame e ∧ Reply o raw frame := by
  cases h with
  | chat said all hears outcome =>
    obtain rfl := Option.some.inj hf
    exact .inl ⟨_, _, said, .all all⟩
  | personal said one goes =>
    obtain rfl := goes.frame hf
    exact .inl ⟨_, _, said, .one one⟩
  | nobody said one back =>
    obtain rfl := gets_frame back hf
    exact .inr ⟨back, .nobody said.2.2 one⟩
  | taken asks back =>
    obtain rfl := gets_frame back hf
    exact .inr ⟨back, .taken asks⟩
  | answered guest asks marks back =>
    obtain rfl := gets_frame back hf
    exact .inr ⟨back, .answered guest asks marks⟩
  | line said all => cases hf
  | begins asks => cases hf
  | ends asks => cases hf
  | closed asks found => cases hf

/-- Every line that comes of a frame is what its speaker says to everybody, or tells of a session
that has begun or ended. -/
theorem Sent.published {line : Text} (h : Sent r o raw (.published line)) :
    (∃ p text, Speaker.Says p r o raw text ∧ Chat.parse text = .broadcast text ∧
      line = Wire.displayLine p.name text) ∨
    (∃ id name, Message.parse raw = .ok (.register id name) ∧ line = connectedLine id name) ∨
    ∃ id, Message.parse raw = .ok (.logoff id) ∧ line = disconnectedLine id := by
  have hgets : ∀ frame, ¬ o.Gets frame (.published line) := by
    intro frame hg
    cases o with
    | connection conn stage => obtain ⟨outcome, he⟩ := hg; cases he
    | guest id => rcases hg with he | he <;> cases he
  cases h with
  | line said all => exact .inl ⟨_, _, said, all, rfl⟩
  | begins asks => exact .inr (.inl ⟨_, _, asks, rfl⟩)
  | ends asks => exact .inr (.inr ⟨_, asks, rfl⟩)
  | personal said one goes =>
    cases goes with
    | guest free holds goes => rcases goes with he | he <;> cases he
  | nobody said one back => exact absurd back (hgets _)
  | taken asks back => exact absurd back (hgets _)
  | answered guest asks marks back => exact absurd back (hgets _)

/-! ## What comes of every move -/

/-- What a move can bring about. -/
def Causes (r : Room) (m : Move) (e : Event) : Prop :=
  match m with
  | .frame conn stage raw _ => Sent r (.connection conn stage) raw e
  | .guestFrame id raw => Sent r (.guest id) raw e
  | .announce text => ∃ s ∈ r.roster.sessions, ∃ outcome,
      e = .wrote s.link (Message.notice text).wire outcome
  | .tell id text => ∃ s, r.roster.lookup? id = some s ∧ ∃ outcome,
      e = .wrote s.link (Message.notice text).wire outcome
  | .reap now threshold => ∃ s ∈ r.roster.sessions, Sweep.isSilent now threshold s = true ∧
      Sweep.Loss s e
  | .disconnectAll => ∃ s ∈ r.roster.sessions, Farewell s e
  | .disconnect id => ∃ s, r.roster.lookup? id = some s ∧
      (e = .closed s.link ∨ e = .published (disconnectedLine id))
  | .connectionLost conn => ∃ s ∈ r.roster.sessions, s.link = conn ∧
      e = .published (disconnectedLine s.id)
  | .attach id => e = .queued id (Wire.greeting id)
  | .detach id => e = .ended id
  | .deliver name frame => ∃ g, r.bridge.named? name = some g ∧ ForGuest g.id frame e
  | .forward line => r.ForListener line e
  | .publish line => e = .published line
  | .serve => ∃ d, r.feed.delivery = some d ∧
      ((∃ subscriber, e = .handed subscriber d.line) ∨ r.ForListener d.line e)
  | .register .. | .readNext _ | .read _ | .stopReading _ => False

theorem announce_causes (r : Room) (text : Text) :
    Logs (r.Causes (.announce text)) r (r.announce text).2 := by
  refine (broadcast_logs r _ none).mono ?_
  rintro e ⟨s, hs, outcome, rfl⟩
  exact ⟨s, List.mem_of_mem_filter hs, outcome, rfl⟩

theorem tell_causes (r : Room) (id : SessionId) (text : Text) :
    Logs (r.Causes (.tell id text)) r (r.tell id text).2 := by
  unfold tell
  split
  · exact .refl r
  · rename_i s hs
    have hwrite : Logs (r.Causes (.tell id text)) r
        (r.write s.link (Message.notice text).wire).2 := .single rfl ⟨s, hs, _, rfl⟩
    simp only
    split <;> exact hwrite

theorem reap_causes (r : Room) (now threshold : Nat) :
    Logs (r.Causes (.reap now threshold)) r (r.reap now threshold).2 := by
  refine (Sweep.run_logs _ r (Sweep.start r now threshold)).mono ?_
  rintro e ⟨s, hs, he⟩
  obtain ⟨hmem, hsilent⟩ := List.mem_filter.1 hs
  exact ⟨s, hmem, hsilent, he⟩

theorem disconnect?_causes {r r' : Room} {id : SessionId} {s : Session}
    (hd : r.disconnect? id = some (s, r')) : Logs (r.Causes (.disconnect id)) r r' := by
  obtain ⟨⟨s', r1⟩, he, hd⟩ := Option.map_eq_some_iff.1 hd
  cases hd
  obtain ⟨hfound, hclosed⟩ := expel?_logs he
  refine (hclosed.mono fun e he => ⟨_, hfound, .inl he⟩).trans ((publish_logs r1 _).mono ?_)
  exact fun e he => ⟨_, hfound, .inr he⟩

theorem connectionLost?_causes {r r' : Room} {conn : ConnId} {s : Session}
    (hl : r.connectionLost? conn = some (s, r')) :
    Logs (r.Causes (.connectionLost conn)) r r' := by
  unfold connectionLost? at hl
  obtain ⟨bound, hbound, hl⟩ := Option.bind_eq_some_iff.1 hl
  obtain ⟨⟨s', roster⟩, -, hl⟩ := Option.map_eq_some_iff.1 hl
  cases hl
  obtain ⟨hmem, hlink⟩ := Roster.bound?_some hbound
  refine Logs.trans (.nothing rfl) ((publish_logs _ (disconnectedLine bound.id)).mono ?_)
  exact fun e he => ⟨bound, hmem, hlink, he⟩

theorem serve?_causes {r r' : Room} (hs : r.serve? = some r') : Logs (r.Causes .serve) r r' := by
  cases serve?_serves hs with
  | feed feed => exact .nothing rfl
  | handed delivering subscriber feed => exact .single rfl ⟨_, delivering, .inl ⟨subscriber, rfl⟩⟩
  | @forwarded d delivering subscriber feed =>
    have hhanded : Logs (r.Causes .serve) r ({ r with feed }.record (.handed subscriber d.line)) :=
      .single rfl ⟨_, delivering, .inl ⟨subscriber, rfl⟩⟩
    exact hhanded.trans ((forward_logs _ d.line).mono fun e he => ⟨_, delivering, .inr he⟩)

theorem getD_logs {p : Event → Prop} {r : Room} {next : Option Room}
    (h : ∀ r', next = some r' → Logs p r r') : Logs p r (next.getD r) := by
  cases next with
  | none => exact .refl r
  | some r' => exact h r' rfl

/-- Every move brings about only what is listed for it. -/
theorem step_causes (r : Room) (m : Move) : Logs (r.Causes m) r (r.step m) := by
  cases m with
  | register id name conn mark =>
    refine getD_logs fun r' hr => ?_
    obtain ⟨roster, -, rfl⟩ := Option.map_eq_some_iff.1 hr
    exact .nothing rfl
  | frame conn stage raw now => exact step_sent r (.connection conn stage) raw now
  | guestFrame id raw => exact step_sent r (.guest id) raw 0
  | announce text => exact announce_causes r text
  | tell id text => exact tell_causes r id text
  | reap now threshold => exact reap_causes r now threshold
  | disconnectAll =>
    exact (partFrom_logs { r with roster := r.roster.clear.2 } r.roster.sessions)
  | disconnect id =>
    refine getD_logs fun r' hr => ?_
    obtain ⟨⟨s, r1⟩, hd, rfl⟩ := Option.map_eq_some_iff.1 hr
    exact disconnect?_causes hd
  | connectionLost conn =>
    refine getD_logs fun r' hr => ?_
    obtain ⟨⟨s, r1⟩, hl, rfl⟩ := Option.map_eq_some_iff.1 hr
    exact connectionLost?_causes hl
  | attach id =>
    simp only [step]
    split
    · exact .refl r
    · exact .single rfl rfl
  | detach id => exact detach_logs r id
  | deliver name frame => exact deliver_logs r name frame
  | forward line => exact forward_logs r line
  | readNext id => exact .nothing rfl
  | read id => exact .nothing rfl
  | stopReading id => exact .nothing rfl
  | publish line => exact publish_logs r line
  | serve => exact getD_logs fun r' hr => serve?_causes hr

/-! ## The frames of it -/

/-- Why a move sends out a frame: it carries what somebody says, or what the server says, to where
another frame came from, to all, to one, of a lost session, in parting or in greeting; or it was
handed in as it is, by itself or as a line. -/
inductive Carried (r : Room) (e : Event) (frame : Text) : Move → Prop where
  | said {o : Origin} {raw : Text} {now : Nat} {p : Speaker} {text : Text}
      (said : p.Says r o raw text) (utters : Utterance p text frame) :
      Carried r e frame (o.move raw now)
  | replied {o : Origin} {raw : Text} {now : Nat} (back : o.Gets frame e)
      (reply : Reply o raw frame) : Carried r e frame (o.move raw now)
  | announced {text : Text} (is : frame = (Message.notice text).wire) :
      Carried r e frame (.announce text)
  | told {id : SessionId} {text : Text} (is : frame = (Message.notice text).wire) :
      Carried r e frame (.tell id text)
  | lost {now threshold : Nat} {s : Session} (mem : s ∈ r.roster.sessions)
      (silent : Sweep.isSilent now threshold s = true)
      (is : frame = (Message.notice (Sweep.lostText s.name)).wire) :
      Carried r e frame (.reap now threshold)
  | parted (is : frame = farewell) : Carried r e frame .disconnectAll
  | greeted {id : SessionId} (goes : ForGuest id frame e) (is : frame = Wire.greeting id) :
      Carried r e frame (.attach id)
  | delivered {name : Text} {id : SessionId} (goes : ForGuest id frame e) :
      Carried r e frame (.deliver name frame)
  | forwarded {id : SessionId} (goes : ForGuest id frame e) : Carried r e frame (.forward frame)
  | served {d : Delivery} {id : SessionId} (delivers : r.feed.delivery = some d)
      (goes : ForGuest id frame e) (is : frame = d.line) : Carried r e frame .serve

theorem Sent.carried {e : Event} {frame : Text} (h : Sent r o raw e) (hf : e.frame? = some frame)
    (now : Nat) : Carried r e frame (o.move raw now) := by
  rcases h.frame hf with ⟨p, text, hsaid, hutters⟩ | ⟨hback, hreply⟩
  · exact .said hsaid hutters
  · exact .replied hback hreply

theorem Causes.carried {m : Move} {e : Event} {frame : Text} (h : r.Causes m e)
    (hf : e.frame? = some frame) : Carried r e frame m := by
  cases m with
  | frame conn stage raw now => exact Sent.carried h hf now
  | guestFrame id raw => exact Sent.carried h hf 0
  | announce text =>
    obtain ⟨s, -, outcome, rfl⟩ := h
    exact .announced (Option.some.inj hf).symm
  | tell id text =>
    obtain ⟨s, -, outcome, rfl⟩ := h
    exact .told (Option.some.inj hf).symm
  | reap now threshold =>
    obtain ⟨s, hmem, hsilent, hloss⟩ := h
    cases hloss with
    | announced conn outcome => exact .lost hmem hsilent (Option.some.inj hf).symm
    | line => cases hf
    | closed conn => cases hf
  | disconnectAll =>
    obtain ⟨s, -, ⟨outcome, rfl⟩ | rfl⟩ := h
    · exact .parted (Option.some.inj hf).symm
    · cases hf
  | attach id =>
    obtain rfl := h
    obtain rfl := Option.some.inj hf
    exact .greeted (.inl rfl) rfl
  | deliver name carried =>
    obtain ⟨g, -, hgoes⟩ := h
    obtain rfl := hgoes.frame hf
    exact .delivered hgoes
  | forward line =>
    obtain ⟨g, -, -, hgoes⟩ := h
    obtain rfl := hgoes.frame hf
    exact .forwarded hgoes
  | serve =>
    obtain ⟨d, hd, ⟨subscriber, rfl⟩ | ⟨g, -, -, hgoes⟩⟩ := h
    · cases hf
    · obtain rfl := hgoes.frame hf
      exact .served hd hgoes rfl
  -- no other move sends out frames
  | disconnect id =>
    obtain ⟨s, -, rfl | rfl⟩ := h <;> cases hf
  | connectionLost conn =>
    obtain ⟨s, -, -, rfl⟩ := h
    cases hf
  | detach id =>
    obtain rfl := h
    cases hf
  | publish line =>
    obtain rfl := h
    cases hf
  | register id name conn mark => exact h.elim
  | readNext id => exact h.elim
  | read id => exact h.elim
  | stopReading id => exact h.elim

/-! ## Runs -/

/-- Whatever has been logged on a run came of one of its moves, in the room as it was then. -/
theorem run_causes (moves : List Move) : ∀ r : Room,
    Logs (fun e => ∃ before m after, moves = before ++ m :: after ∧ (r.run before).Causes m e) r
      (r.run moves) := by
  induction moves with
  | nil => exact fun r => .refl r
  | cons m rest ih =>
    intro r
    refine ((step_causes r m).mono fun e he => ?_).trans ((ih (r.step m)).mono ?_)
    · exact ⟨[], m, rest, rfl, he⟩
    · rintro e ⟨before, m', after, hmoves, he⟩
      exact ⟨m :: before, m', after, congrArg (m :: ·) hmoves, he⟩

end Room
end Parley
