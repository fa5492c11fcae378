/-
The stay of a guest: what a room has of one id, be it the guest, what it has left unread, or what
has been logged of it. Whatever is said, a stay goes on only by the three steps of `Stay.Step`: the
guest takes a frame, for which its mailbox must have room; it goes, because its mailbox is full or
it was asked to; or it gets a nickname. Every move but those that bring a guest or read a mailbox
takes each stay some such steps further (`step_hosts`).
-/
import Parley.Proofs.Bridge.Mailboxes
import Parley.Proofs.Room.Causes
import Parley.Proofs.Room.Forwarding

namespace Parley

/-- The guest that an event is about. -/
def Event.guest? : Event → Option SessionId
  | .queued id _ | .ended id => some id
  | .wrote .. | .closed _ | .published _ | .handed .. | .told .. => none

@[simp] theorem Event.guest?_queued (id : SessionId) (frame : Text) :
    (Event.queued id frame).guest? = some id := rfl

@[simp] theorem Event.guest?_ended (id : SessionId) : (Event.ended id).guest? = some id := rfl

/-- What there is of one id: the guest, what it has left unread, and what is logged of it. -/
structure Stay where
  guest : Option Guest := none
  left : Option (List Text) := none
  log : List Event := []
  deriving DecidableEq, Repr

/-- One step of a stay; the guest goes if it is asked to, or else because its mailbox is full. -/
inductive Stay.Step (capacity : Nat) (asked : Prop) (id : SessionId) : Stay → Stay → Prop
  | takes {g : Guest} {left : Option (List Text)} {log : List Event} (frame : Text)
      (taken : g.receipt capacity = .taken) :
      Step capacity asked id ⟨some g, left, log⟩
        ⟨some (g.put frame), left, log ++ [.queued id frame]⟩
  | goes {g : Guest} {left : Option (List Text)} {log : List Event}
      (cause : g.receipt capacity = .full ∨ asked) :
      Step capacity asked id ⟨some g, left, log⟩
        ⟨none, if g.reading then some g.waiting else left, log ++ [.ended id]⟩
  | named {g : Guest} {left : Option (List Text)} {log : List Event} (name : Text)
      (unnamed : g.nickname = none) :
      Step capacity asked id ⟨some g, left, log⟩ ⟨some { g with nickname := some name }, left, log⟩

namespace Room

/-- What a room has of an id. -/
def stay (r : Room) (id : SessionId) : Stay where
  guest := r.bridge.guest? id
  left := r.bridge.left? id
  log := r.log.filter (·.guest? = some id)

/-- Every stay goes on by any number of steps, and mailboxes hold as much as before. -/
structure Hosts (asked : SessionId → Prop) (r r' : Room) : Prop where
  capacity : r'.bridge.capacity = r.bridge.capacity
  stays : ∀ id, Relation.ReflTransGen (Stay.Step r.bridge.capacity (asked id) id)
    (r.stay id) (r'.stay id)

section Hosts

variable {asked : SessionId → Prop} {a b c r r' : Room}

theorem Hosts.refl (r : Room) : Hosts asked r r := ⟨rfl, fun _ => .refl⟩

theorem Hosts.trans (h1 : Hosts asked a b) (h2 : Hosts asked b c) : Hosts asked a c :=
  ⟨h2.capacity.trans h1.capacity, fun id => (h1.stays id).trans (h1.capacity ▸ h2.stays id)⟩

/-- What leaves the bridge alone and logs nothing of guests. -/
theorem Hosts.quiet (bridge : r'.bridge = r.bridge) (logs : Logs (·.guest? = none) r r') :
    Hosts asked r r' := by
  refine ⟨by rw [bridge], fun id => ?_⟩
  obtain ⟨events, hlog, hnone⟩ := logs
  have hsame : r'.stay id = r.stay id := by
    have hfilter : events.filter (·.guest? = some id) = [] :=
      List.filter_eq_nil_iff.2 fun e he => by simp [hnone e he]
    simp only [stay, bridge, hlog, List.filter_append, hfilter, List.append_nil]
  rw [hsame]

theorem Hosts.same (bridge : r'.bridge = r.bridge) (log : r'.log = r.log) : Hosts asked r r' :=
  .quiet bridge (.nothing log)

end Hosts

variable {asked : SessionId → Prop} (r : Room)

/-! ## One guest -/

theorem log_stay_record (e : Event) (id : SessionId) :
    (r.log ++ [e]).filter (·.guest? = some id) =
      r.log.filter (·.guest? = some id) ++ if e.guest? = some id then [e] else [] := by
  rw [List.filter_append, List.filter_singleton]
  simp

/-- What is left of a guest that goes. -/
theorem stay_detach {r : Room} {gone : SessionId} {g : Guest} (h : r.bridge.guest? gone = some g)
    (id : SessionId) : (r.detach gone).stay id =
      if id = gone then
        ⟨none, if g.reading then some g.waiting else r.bridge.left? id,
          r.log.filter (·.guest? = some id) ++ [.ended id]⟩
      else r.stay id := by
  rw [detach_found h]
  simp only [stay, Bridge.guest?_without]
  rw [log_stay_record]
  cases hr : g.reading with
  | true =>
    simp only [if_true, Bridge.left?_cons]
    by_cases hid : id = gone
    · simp [hid]
    · simp [hid, Ne.symm hid]
  | false =>
    by_cases hid : id = gone
    · simp [hid, Bridge.left?]
    · simp [hid, Ne.symm hid, Bridge.left?]

theorem detach_hosts {gone : SessionId} (h : ∀ g, r.bridge.guest? gone = some g →
    g.receipt r.bridge.capacity = .full ∨ asked gone) : Hosts asked r (r.detach gone) := by
  cases hg : r.bridge.guest? gone with
  | none => rw [detach_none (by simp [Bridge.detach?, hg])]; exact .refl r
  | some g =>
    refine ⟨capacity_detach r gone, fun id => ?_⟩
    rw [stay_detach hg]
    split
    · rename_i hid
      subst hid
      rw [stay, hg]
      exact .single (.goes (h g hg))
    · exact .refl

theorem sendTo_hosts (whom : SessionId) (frame : Text) : Hosts asked r (r.sendTo whom frame).2 := by
  cases hg : r.bridge.guest? whom with
  | none => simp only [sendTo, hg]; exact .refl r
  | some g =>
    cases hc : g.receipt r.bridge.capacity with
    | full =>
      rw [sendTo_full frame hg hc]
      refine detach_hosts r fun g' hg' => .inl ?_
      rw [hg] at hg'
      exact Option.some.inj hg' ▸ hc
    | gone => rw [sendTo_gone frame hg hc]; exact .refl r
    | taken =>
      rw [sendTo_taken frame hg hc]
      refine ⟨rfl, fun id => ?_⟩
      simp only [stay, record, log_stay_record, Event.guest?_queued, Option.some.injEq,
        Bridge.guest?_update _ (Guest.id_take _ frame)]
      by_cases hid : id = whom
      · subst hid
        simp only [hg, if_true, Option.map_some, Guest.take_of_taken frame hc]
        exact .single (.takes frame hc)
      · simp only [hid, Ne.symm hid, if_false, List.append_nil]
        exact .refl

theorem deliver_hosts (name frame : Text) : Hosts asked r (r.deliver name frame).2 := by
  unfold deliver
  split
  · exact sendTo_hosts r _ frame
  · exact .refl r

theorem tellDirectory_hosts (name frame : Text) : Hosts asked r (r.tellDirectory name frame).2 := by
  unfold tellDirectory
  split
  · exact deliver_hosts r name frame
  · split
    · exact .quiet rfl (.single rfl rfl)
    · exact .refl r
  · exact .refl r
  · exact .refl r

theorem nameGuest_hosts (whom : SessionId) (name : Text) :
    Hosts asked r (r.nameGuest whom name) := by
  unfold nameGuest
  split
  · exact .refl r
  · rename_i hfirst
    split
    · exact sendTo_hosts r whom _
    · rename_i roster hr
      cases hg : r.bridge.guest? whom with
      | none =>
        simp only [hg]
        rw [release_reserve hr]
        exact .refl r
      | some g =>
        have hnone : g.nickname = none := by
          rw [Bridge.nicknameOf?, hg] at hfirst
          simpa using hfirst
        simp only [hg]
        refine ⟨rfl, fun id => ?_⟩
        simp only [stay, Bridge.nickname]
        rw [Bridge.guest?_update (f := fun g => { g with nickname := some name }) _ fun _ => rfl]
        by_cases hid : id = whom
        · subst hid
          simp only [hg, if_true, Option.map_some]
          exact .single (.named name hnone)
        · simp only [hid, if_false]
          exact .refl

/-! ## Lines -/

theorem visit_hosts (line : Text) (v : Visits) (id : SessionId) :
    Hosts asked v.room (v.visit line id).room := by
  unfold Visits.visit
  split
  · exact .refl _
  · split
    · exact .refl _
    · split
      · exact sendTo_hosts v.room id line
      · exact .refl _
      · exact .refl _

theorem visits_hosts (line : Text) (order : List Guest) :
    Hosts asked r (r.visits line order).room := by
  suffices h : ∀ v : Visits,
      Hosts asked v.room (order.foldl (fun v g => v.visit line g.id) v).room from h { room := r }
  induction order with
  | nil => exact fun v => .refl _
  | cons g rest ih => exact fun v => (visit_hosts line v g.id).trans (ih _)

/-- Guests whose mailbox is full are put out. -/
theorem without_hosts {r : Room} (hids : (r.bridge.guests.map (·.id)).Nodup) {gone : List Guest}
    (hgone : (gone.map (·.id)).Nodup) (hsub : gone ⊆ r.bridge.guests)
    (hfull : ∀ g ∈ gone, g.receipt r.bridge.capacity = .full) :
    Hosts asked r (r.without gone) := by
  induction gone using List.reverseRecOn with
  | nil => exact .same (by simp [without]) (by simp [without])
  | append_singleton gone g ih =>
    obtain ⟨hothers, hnot⟩ := of_nodup_map_concat hgone
    have hg : g ∈ r.bridge.guests := hsub (by simp)
    have hmine : g.receipt r.bridge.capacity = .full := hfull g (by simp)
    have hbefore := ih hothers (fun h hh => hsub (List.mem_append_left _ hh))
      fun h hh => hfull h (List.mem_append_left _ hh)
    rw [← detach_without hids hg (Guest.receipt_eq_full.1 hmine).1 hnot]
    refine hbefore.trans (detach_hosts _ fun g' hg' => .inl ?_)
    rw [guest?_without hids hg hnot] at hg'
    exact Option.some.inj hg' ▸ hmine

theorem forward_hosts {r : Room} (hids : (r.bridge.guests.map (·.id)).Nodup) (line : Text) :
    Hosts asked r (r.forward line).2 := by
  have hall := List.Perm.refl r.bridge.guests
  have hheard : Hosts asked r (r.heardBy line (r.takers line r.bridge.guests)) := by
    have h : Hosts asked r _ := visits_hosts r line r.bridge.guests
    rwa [visits_eq hids line hids (List.Subset.refl _)] at h
  rw [forward_eq_forwardIn hids, forwardIn_eq hids line hall]
  refine hheard.trans (without_hosts (ids_heardBy hids line _) (nodup_map_filter hids _)
    (stuck_subset line hall) fun g hg => ?_)
  exact (Guest.overflows_iff.1 (mem_stuck.1 hg).2).2

/-! ## Messages -/

theorem write_hosts (conn : ConnId) (frame : Text) : Hosts asked r (r.write conn frame).2 :=
  .quiet rfl (.single rfl rfl)

theorem broadcast_hosts (frame : Text) (sender : Option SessionId) :
    Hosts asked r (r.broadcast frame sender).2 :=
  .quiet (broadcast_onlyWrites r frame sender).bridge
    ((broadcast_logs r frame sender).mono fun _ ⟨_, _, _, he⟩ => he ▸ rfl)

theorem publish_hosts (line : Text) : Hosts asked r (r.publish line) :=
  .quiet (bridge_publish r line) ((publish_logs r line).mono fun _ he => he ▸ rfl)

theorem publishLeft_hosts (line : Option Text) : Hosts asked r (r.publishLeft line) := by
  cases line with
  | none => exact .refl r
  | some line => exact publish_hosts r line

theorem sendPrivate_hosts (sender target payload : Text) :
    Hosts asked r (r.sendPrivate sender target payload).2 := by
  unfold sendPrivate
  simp only
  split
  · rename_i s _
    have hs : Hosts asked r _ :=
      write_hosts r s.link (Wire.Message.private sender target payload).wire
    split <;> exact hs
  · exact tellDirectory_hosts r target _

theorem converse_hosts (speaker : Session) (text : Text) :
    Hosts asked r (r.converse speaker text).2 := by
  cases ht : Wire.Chat.parse text with
  | broadcast said =>
    rw [converse, ht]
    exact broadcast_hosts r _ _
  | personal target payload =>
    have hs : Hosts asked r _ := sendPrivate_hosts r speaker.name target payload
    rw [converse_personal r speaker ht]
    simp only
    split
    · exact hs.trans (write_hosts _ _ _)
    · exact hs

theorem guestConverse_hosts (id : SessionId) (nickname text : Text) :
    Hosts asked r (r.guestConverse id nickname text).2 := by
  cases ht : Wire.Chat.parse text with
  | broadcast said =>
    rw [guestConverse, ht]
    exact broadcast_hosts r _ _
  | personal target payload =>
    have hs : Hosts asked r _ := sendPrivate_hosts r nickname target payload
    rw [guestConverse_personal r id nickname ht]
    simp only
    split
    · exact hs.trans (sendTo_hosts _ id _)
    · exact hs

/-! ## Frames -/

theorem guestMessage_hosts (id : SessionId) (raw : Text) (message : Wire.Message) :
    Hosts asked r (r.guestMessage id raw message).2.2 := by
  cases message with
  | register _ name => exact nameGuest_hosts r id name
  | incoming sender text =>
    simp only [guestMessage]
    split
    · split
      · exact guestConverse_hosts r id _ text
      · exact .refl r
    · exact .refl r
  | usernameQuery _ =>
    simp only [guestMessage]
    split
    · exact sendTo_hosts r id _
    · exact .refl r
  | logoff _ => exact .refl r
  | debug => exact .refl r
  | keepAlive _ => exact .refl r
  | unknown _ => exact .refl r

theorem guestFrame_hosts (id : SessionId) (raw : Text) :
    Hosts asked r (r.guestFrame id raw).2 := by
  have hh : Hosts asked r (r.guestHandle id raw).2.2 := by
    unfold guestHandle
    split
    · exact .refl r
    · exact guestMessage_hosts r id raw _
  exact hh.trans (publishLeft_hosts _ _)

theorem handleUnregistered_hosts (conn : ConnId) (now : Nat) (message : Wire.Message) :
    Hosts asked r (r.handleUnregistered conn now message).2 := by
  unfold handleUnregistered
  split
  · split
    · rename_i r1 hr
      obtain ⟨roster, -, rfl⟩ := Option.map_eq_some_iff.1 hr
      exact .same rfl rfl
    · exact .quiet rfl (.single rfl rfl)
  · exact .refl r

theorem handleActive_hosts (conn : ConnId) (now : Nat) (message : Wire.Message) :
    Hosts asked r (r.handleActive conn now message).2 := by
  unfold handleActive
  split
  · split
    · exact converse_hosts r _ _
    · exact .refl r
  · split
    · rename_i s r1 he
      obtain ⟨roster, -, rfl⟩ := expel?_some he
      exact .quiet rfl (.single rfl rfl)
    · exact .refl r
  · exact .same rfl rfl
  · exact .refl r

theorem dispatch_hosts (conn : ConnId) (stage : Stage) (raw : Text) (now : Nat) :
    Hosts asked r (r.dispatch conn stage raw now).2 := by
  have hcounted : Hosts asked r { r with tally := r.tally.frameReceived } := .same rfl rfl
  have hh : Hosts asked r (r.handle conn stage raw now).2 := by
    unfold handle
    simp only
    split
    · exact .same rfl rfl
    · rename_i message _
      refine hcounted.trans ?_
      cases stage with
      | accepted => exact handleUnregistered_hosts _ conn now message
      | awaitingRegister => exact handleUnregistered_hosts _ conn now message
      | active => exact handleActive_hosts _ conn now message
      | closed => exact .refl _
  exact hh.trans (publishLeft_hosts _ _)

/-! ## Sessions and the feed -/

theorem bridge_sweepStep (w : Sweep) : (Sweep.step r w).1.bridge = r.bridge := by
  unfold Sweep.step
  split
  · rfl
  · exact (announce_onlyWrites r _).bridge
  · simp only
    split
    · exact bridge_publish r _
    · exact bridge_publish r _
  · rfl

theorem bridge_sweepRun (n : Nat) : ∀ (r : Room) (w : Sweep),
    (Sweep.run n r w).1.bridge = r.bridge := by
  induction n with
  | zero => exact fun _ _ => rfl
  | succ n ih => exact fun r w => (ih _ _).trans (bridge_sweepStep r w)

theorem bridge_disconnect? {r r' : Room} {id : SessionId} {s : Session}
    (hd : r.disconnect? id = some (s, r')) : r'.bridge = r.bridge := by
  obtain ⟨⟨s', r1⟩, he, hd⟩ := Option.map_eq_some_iff.1 hd
  cases hd
  obtain ⟨roster, -, rfl⟩ := expel?_some he
  exact bridge_publish _ _

theorem bridge_connectionLost? {r r' : Room} {conn : ConnId} {s : Session}
    (hl : r.connectionLost? conn = some (s, r')) : r'.bridge = r.bridge := by
  unfold connectionLost? at hl
  obtain ⟨bound, -, hl⟩ := Option.bind_eq_some_iff.1 hl
  obtain ⟨⟨s', roster⟩, -, hl⟩ := Option.map_eq_some_iff.1 hl
  cases hl
  exact bridge_publish _ _

theorem serve?_hosts {r r' : Room} (hids : (r.bridge.guests.map (·.id)).Nodup)
    (hs : r.serve? = some r') : Hosts asked r r' := by
  cases serve?_serves hs with
  | feed feed => exact .same rfl rfl
  | handed delivering subscriber feed => exact .quiet rfl (.single rfl rfl)
  | @forwarded d delivering subscriber feed =>
    -- a line handed to the bridge goes on to its guests
    have hhanded : Hosts asked r ({ r with feed }.record (.handed subscriber d.line)) :=
      .quiet rfl (.single rfl rfl)
    refine hhanded.trans (forward_hosts ?_ d.line)
    exact hids

/-! ## Every move -/

/-- The moves that bring a guest or read a mailbox. -/
inductive Move.IsOfMailbox : Move → Prop
  | attach (id : SessionId) : IsOfMailbox (.attach id)
  | readNext (id : SessionId) : IsOfMailbox (.readNext id)
  | read (id : SessionId) : IsOfMailbox (.read id)
  | stopReading (id : SessionId) : IsOfMailbox (.stopReading id)

theorem getD_hosts {r : Room} {next : Option Room}
    (h : ∀ r', next = some r' → Hosts asked r r') : Hosts asked r (next.getD r) := by
  cases next with
  | none => exact .refl r
  | some r' => exact h r' rfl

/-- Every move but those that bring a guest or read a mailbox takes each stay some steps further;
only the guest that is detached is asked to go. -/
theorem step_hosts {r : Room} (hw : r.WF) {m : Move} (hm : ¬ m.IsOfMailbox) :
    Hosts (fun id => m = .detach id) r (r.step m) := by
  have hids := hw.ids
  cases m with
  | register id name conn mark =>
    refine getD_hosts fun r' hr => ?_
    obtain ⟨roster, -, rfl⟩ := Option.map_eq_some_iff.1 hr
    exact .same rfl rfl
  | frame conn stage raw now => exact dispatch_hosts r conn stage raw now
  | announce text => exact broadcast_hosts r _ none
  | tell id text =>
    show Hosts _ r (r.tell id text).2
    unfold tell
    split
    · exact .refl r
    · rename_i s _
      have hs : Hosts (fun i => Move.tell id text = .detach i) r _ :=
        write_hosts r s.link (Wire.Message.notice text).wire
      simp only
      split <;> exact hs
  | disconnect id =>
    refine getD_hosts fun r' hr => ?_
    obtain ⟨⟨s, r1⟩, hd, rfl⟩ := Option.map_eq_some_iff.1 hr
    refine .quiet (bridge_disconnect? hd) ((disconnect?_causes hd).mono ?_)
    rintro e ⟨s, -, rfl | rfl⟩ <;> rfl
  | connectionLost conn =>
    refine getD_hosts fun r' hr => ?_
    obtain ⟨⟨s, r1⟩, hl, rfl⟩ := Option.map_eq_some_iff.1 hr
    refine .quiet (bridge_connectionLost? hl) ((connectionLost?_causes hl).mono ?_)
    rintro e ⟨s, -, -, rfl⟩
    rfl
  | reap now threshold =>
    refine .quiet (bridge_sweepRun _ r _) ((reap_causes r now threshold).mono ?_)
    rintro e ⟨s, -, -, he⟩
    cases he <;> rfl
  | disconnectAll =>
    refine .quiet (disconnectAll_eq r).2
      ((partFrom_logs { r with roster := r.roster.clear.2 } r.roster.sessions).mono ?_)
    rintro e ⟨s, -, ⟨outcome, rfl⟩ | rfl⟩ <;> rfl
  | attach id => exact absurd (.attach id) hm
  | guestFrame id raw => exact guestFrame_hosts r id raw
  | detach id => exact detach_hosts r fun g _ => .inr rfl
  | deliver name frame => exact deliver_hosts r name frame
  | forward line => exact forward_hosts hids line
  | readNext id => exact absurd (.readNext id) hm
  | read id => exact absurd (.read id) hm
  | stopReading id => exact absurd (.stopReading id) hm
  | publish line => exact publish_hosts r line
  | serve => exact getD_hosts fun r' hr => serve?_hosts hids hr

end Room
end Parley
