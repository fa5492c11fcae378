/-
Private messages. One goes to the session that has the name, else to the guest that has it; if
nobody takes it, its sender is told (`exists_recipient`). In every room that can come about exactly
one of these happens, nobody else is written to, no line is published, and a guest is put out only
if it was the one that a frame was for and its mailbox was full.
-/
import Parley.Proofs.Room.Effects
import Parley.Proofs.Room.Speakers

namespace Parley

open Wire (Message Chat)

namespace Room

/-! ## Messages to a name -/

/-- The guest with a name has not taken a frame, if there is one: it does not read, or it has been
put out because its mailbox was full. -/
inductive Declined (r : Room) (name : Text) : Room → Prop where
  | nobody (unknown : ∀ g ∈ r.bridge.guests, g.nickname ≠ some name) : Declined r name r
  | deaf {g : Guest} (named : r.bridge.named? name = some g) (deaf : g.reading = false) :
      Declined r name r
  | evicted {g : Guest} {r' : Room} (named : r.bridge.named? name = some g)
      (evicted : Evicted r g r') : Declined r name r'

namespace Declined

variable {r r' : Room} {name : Text} (h : Declined r name r')
include h

theorem onlyEvicts : OnlyEvicts r r' := by
  cases h with
  | nobody | deaf => exact .refl r
  | evicted _ hp => exact hp.onlyEvicts

theorem capacity : r'.bridge.capacity = r.bridge.capacity := by
  cases h with
  | nobody | deaf => rfl
  | evicted _ hp => exact hp.capacity

/-- Everybody else stays, and so does the guest with the name unless its mailbox is full. -/
theorem stays {g : Guest} (hg : g ∈ r.bridge.guests) :
    g ∈ r'.bridge.guests ∨ r.bridge.named? name = some g ∧ Evicted r g r' := by
  cases h with
  | nobody | deaf => exact .inl hg
  | @evicted asked _ named hp =>
    by_cases hsame : g = asked
    · subst hsame
      exact .inr ⟨named, hp⟩
    · exact .inl (hp.stays hg hsame)

/-- A guest whose mailbox has room takes the frame. -/
theorem not_queued {g : Guest} (hg : r.bridge.named? name = some g) {frame : Text} {q : Room} :
    ¬ Queued r g frame q := by
  intro hq
  cases h with
  | nobody unknown =>
    obtain ⟨hmem, hname⟩ := Bridge.named?_some hg
    exact unknown g hmem hname
  | deaf named deaf =>
    obtain rfl := Option.some.inj (hg.symm.trans named)
    exact absurd hq.reading (by simp [deaf])
  | evicted named hp =>
    obtain rfl := Option.some.inj (hg.symm.trans named)
    exact absurd hp.full (Nat.not_le.2 hq.space)

end Declined

section Sending

variable {r : Room} (sender : Text) {name : Text} (payload : Text)

theorem sendPrivate_session {s : Session} (hs : r.roster.named? name = some s) :
    (r.sendPrivate sender name payload).1 ≠ .nobody ∧
      (r.sendPrivate sender name payload).2 =
        (r.write s.link (Message.private sender name payload).wire).2 := by
  simp only [sendPrivate, hs]
  split <;> exact ⟨nofun, rfl⟩

variable (hr : r.roster.named? name = none) (hd : r.directory = .guests) (hw : r.WF)
include hr hd hw

theorem sendPrivate_guest {g : Guest} (hg : r.bridge.named? name = some g)
    (ht : g.receipt r.bridge.capacity = .taken) :
    r.sendPrivate sender name payload =
      (.delivered, (r.sendTo g.id (Message.private sender name payload).wire).2) := by
  have hfound := hw.guest?_eq_some.2 ⟨(Bridge.named?_some hg).1, rfl⟩
  simp only [sendPrivate, hr, tellDirectory, hd, deliver, hg, sendTo_taken _ hfound ht, if_true]

theorem sendPrivate_nobody
    (hg : ∀ g, r.bridge.named? name = some g → g.receipt r.bridge.capacity ≠ .taken) :
    ∃ q, Declined r name q ∧ r.sendPrivate sender name payload = (.nobody, q) := by
  simp only [sendPrivate, hr, tellDirectory, hd, deliver]
  cases hn : r.bridge.named? name with
  | none =>
    refine ⟨r, .nobody fun g hmem hname => ?_, rfl⟩
    exact List.find?_eq_none.1 hn g hmem (decide_eq_true hname)
  | some g =>
    have hmem := (Bridge.named?_some hn).1
    have hfound := hw.guest?_eq_some.2 ⟨hmem, rfl⟩
    cases h : g.receipt r.bridge.capacity with
    | taken => exact absurd h (hg g hn)
    | full =>
      refine ⟨r.detach g.id, .evicted hn (evicted_detach hw hmem h), ?_⟩
      simp [sendTo_full _ hfound h]
    | gone =>
      refine ⟨r, .deaf hn (Guest.receipt_eq_gone.1 h), ?_⟩
      simp [sendTo_gone _ hfound h]

end Sending
end Room

/-! ## Telling the sender -/

namespace Speaker

/-- There has been one try to hand a frame to a speaker. A session is written to, whatever comes of
it. A guest takes the frame into its mailbox, or is put out because that is full; one who does not
read, or who has gone, is handed nothing. -/
inductive Tried (frame : Text) (r : Room) : Speaker → Room → Prop where
  | written {s : Session} {outcome : Outcome} {r' : Room}
      (wrote : Room.Wrote r s.link frame outcome r') : Tried frame r (.session s) r'
  | queued {g : Guest} {nickname : Text} {r' : Room} (queued : Room.Queued r g frame r') :
      Tried frame r (.guest g.id nickname) r'
  | evicted {g : Guest} {nickname : Text} {r' : Room} (evicted : Room.Evicted r g r') :
      Tried frame r (.guest g.id nickname) r'
  | deaf {g : Guest} {nickname : Text} (there : g ∈ r.bridge.guests) (deaf : g.reading = false) :
      Tried frame r (.guest g.id nickname) r
  | gone {id : SessionId} {nickname : Text} (gone : ∀ g ∈ r.bridge.guests, g.id ≠ id) :
      Tried frame r (.guest id nickname) r

theorem tried_hand {r : Room} (hw : r.WF) (p : Speaker) (frame : Text) :
    p.Tried frame r (p.hand r frame) := by
  cases p with
  | session s => exact .written (Room.wrote_write r s.link frame)
  | guest id nickname =>
    rw [hand]
    cases hg : r.bridge.guest? id with
    | none =>
      have hnobody : (r.sendTo id frame).2 = r := by simp only [Room.sendTo, hg]
      rw [hnobody]
      exact .gone fun g hmem hid => List.find?_eq_none.1 hg g hmem (decide_eq_true hid)
    | some g =>
      obtain ⟨hmem, rfl⟩ := Bridge.guest?_some hg
      cases h : g.receipt r.bridge.capacity with
      | taken => exact .queued (Room.queued_sendTo hw hmem h frame)
      | full =>
        rw [Room.sendTo_full frame hg h]
        exact .evicted (Room.evicted_detach hw hmem h)
      | gone =>
        rw [Room.sendTo_gone frame hg h]
        exact .deaf hmem (Guest.receipt_eq_gone.1 h)

namespace Tried

variable {p : Speaker} {r r' : Room} {frame : Text} (h : p.Tried frame r r')
include h

theorem feed : r'.feed = r.feed := by
  cases h with
  | written hw => exact hw.feed
  | queued hq => exact hq.feed
  | evicted hp => exact hp.feed
  | deaf | gone => rfl

theorem sessions : r'.roster.sessions = r.roster.sessions := by
  cases h with
  | written hw => rw [hw.roster]
  | queued hq => rw [hq.roster]
  | evicted hp => exact hp.onlyEvicts.sessions
  | deaf | gone => rfl

theorem links {conn : ConnId} (hconn : p.link? ≠ some conn) : r'.links conn = r.links conn := by
  cases h with
  | written hw => exact hw.others conn fun e => hconn (congrArg some e.symm)
  | queued hq => rw [hq.links]
  | evicted hp => rw [hp.links]
  | deaf | gone => rfl

variable {g : Guest} (hg : g ∈ r.bridge.guests)
include hg

theorem stays (hself : p.guest? ≠ some g.id) : g ∈ r'.bridge.guests := by
  cases h with
  | written hw => exact hw.bridge ▸ hg
  | queued hq => exact hq.stays hg fun e => hself (e ▸ rfl)
  | evicted hp => exact hp.stays hg fun e => hself (e ▸ rfl)
  | deaf | gone => exact hg

/-- Whoever is gone after a frame for it had a full mailbox. -/
theorem full_of_gone (hgone : ∀ g' ∈ r'.bridge.guests, g'.id ≠ g.id) :
    p.guest? = some g.id ∧ g.reading = true ∧ r.bridge.capacity ≤ g.waiting.length := by
  cases h with
  | written hw => exact absurd rfl (hgone g (hw.bridge ▸ hg))
  | queued hq =>
    obtain ⟨g', hg', hsame⟩ := hq.remains hg
    exact absurd hsame (hgone g' hg')
  | @evicted gone _ _ hp =>
    by_cases hsame : g = gone
    · subst hsame
      exact ⟨rfl, hp.reading, hp.full⟩
    · exact absurd rfl (hgone g (hp.stays hg hsame))
  | deaf | gone => exact absurd rfl (hgone g hg)

end Tried
end Speaker

/-! ## One way of three -/

/-- Who gets a private message. -/
inductive Recipient where
  | session (s : Session)
  | guest (g : Guest)
  | nobody
  deriving DecidableEq, Repr

namespace Recipient

/-- What a private message does in a room if this is who gets it: the session that has the name is
written to once, whatever becomes of it; else the guest that has it takes the frame; and if there is
no such guest, or it cannot take the frame, there is one try to tell the sender, and nothing else
but that a guest whose mailbox is full is put out. -/
def Gets (p : Speaker) (name payload : Text) (r r' : Room) : Recipient → Prop
  | session s => s ∈ r.roster.sessions ∧ s.name = name ∧ ∃ outcome, Room.Wrote r s.link
      (Message.incoming (p.name ++ " -> ".toList ++ name) payload).wire outcome r'
  | guest g => (∀ s ∈ r.roster.sessions, s.name ≠ name) ∧ r.bridge.named? name = some g ∧
      Room.Queued r g (Message.incoming (p.name ++ " -> ".toList ++ name) payload).wire r'
  | nobody => (∀ s ∈ r.roster.sessions, s.name ≠ name) ∧ ∃ q, Room.Declined r name q ∧
      p.Tried (Message.incoming "SERVER".toList ("Invalid username: ".toList ++ name)).wire q r'

section Gets

variable {p : Speaker} {name payload : Text} {r r' : Room} {a : Recipient}
  (ha : a.Gets p name payload r r')

include ha

theorem Gets.feed : r'.feed = r.feed := by
  cases a with
  | session s =>
    obtain ⟨-, -, outcome, hwrote⟩ := ha
    exact hwrote.feed
  | guest g => exact ha.2.2.feed
  | nobody =>
    obtain ⟨-, q, hdeclined, htried⟩ := ha
    exact htried.feed.trans hdeclined.onlyEvicts.feed

theorem Gets.sessions : r'.roster.sessions = r.roster.sessions := by
  cases a with
  | session s =>
    obtain ⟨-, -, outcome, hwrote⟩ := ha
    rw [hwrote.roster]
  | guest g => rw [ha.2.2.roster]
  | nobody =>
    obtain ⟨-, q, hdeclined, htried⟩ := ha
    exact htried.sessions.trans hdeclined.onlyEvicts.sessions

/-- Only the session with the name is written to or, if there is none, the sender. -/
theorem Gets.links {conn : ConnId} (hconn : r'.links conn ≠ r.links conn) :
    (∃ s ∈ r.roster.sessions, s.name = name ∧ s.link = conn) ∨
      (∀ s ∈ r.roster.sessions, s.name ≠ name) ∧ p.link? = some conn := by
  cases a with
  | session s =>
    obtain ⟨hs, hname, outcome, hwrote⟩ := ha
    refine .inl ⟨s, hs, hname, ?_⟩
    by_contra hne
    exact hconn (hwrote.others conn fun e => hne e.symm)
  | guest g => exact absurd (congrFun ha.2.2.links conn) hconn
  | nobody =>
    obtain ⟨hfree, q, hdeclined, htried⟩ := ha
    refine .inr ⟨hfree, ?_⟩
    by_contra hne
    exact hconn ((htried.links hne).trans (congrFun hdeclined.onlyEvicts.links conn))

/-- Every guest but the one with the name and the sender stays as it is. -/
theorem Gets.stays {g : Guest} (hg : g ∈ r.bridge.guests) (hname : r.bridge.named? name ≠ some g)
    (hself : p.guest? ≠ some g.id) : g ∈ r'.bridge.guests := by
  cases a with
  | session s =>
    obtain ⟨-, -, outcome, hwrote⟩ := ha
    exact hwrote.bridge ▸ hg
  | guest h =>
    obtain ⟨-, hnamed, hqueued⟩ := ha
    refine hqueued.stays hg ?_
    rintro rfl
    exact hname hnamed
  | nobody =>
    obtain ⟨-, q, hdeclined, htried⟩ := ha
    rcases hdeclined.stays hg with hstays | ⟨hnamed, -⟩
    · exact htried.stays hstays hself
    · exact absurd hnamed hname

/-- Whoever is gone is the guest with the name or the sender, and had a full mailbox. -/
theorem Gets.full_of_gone {g : Guest} (hg : g ∈ r.bridge.guests)
    (hgone : ∀ g' ∈ r'.bridge.guests, g'.id ≠ g.id) :
    (r.bridge.named? name = some g ∨ p.guest? = some g.id) ∧
      g.reading = true ∧ r.bridge.capacity ≤ g.waiting.length := by
  cases a with
  | session s =>
    obtain ⟨-, -, outcome, hwrote⟩ := ha
    exact absurd rfl (hgone g (hwrote.bridge ▸ hg))
  | guest h =>
    obtain ⟨g', hg', hsame⟩ := ha.2.2.remains hg
    exact absurd hsame (hgone g' hg')
  | nobody =>
    obtain ⟨-, q, hdeclined, htried⟩ := ha
    -- gone as the one with the name, or afterwards as the sender
    rcases hdeclined.stays hg with hstays | ⟨hnamed, hevicted⟩
    · obtain ⟨hself, hreading, hfull⟩ := htried.full_of_gone hstays hgone
      exact ⟨.inr hself, hreading, hdeclined.capacity ▸ hfull⟩
    · exact ⟨.inl hnamed, hevicted.reading, hevicted.full⟩

/-- No two ways can be gone. -/
theorem Gets.unique (hw : r.WF) {b : Recipient} (hb : b.Gets p name payload r r') : a = b := by
  cases a with
  | session s =>
    obtain ⟨hs, hname, -⟩ := ha
    cases b with
    | session t =>
      obtain ⟨ht, htname, -⟩ := hb
      rw [eq_of_key_eq hw.roster.names hs ht (hname.trans htname.symm)]
    | guest g => exact absurd hname (hb.1 s hs)
    | nobody => exact absurd hname (hb.1 s hs)
  | guest g =>
    obtain ⟨hfree, hg, hqueued⟩ := ha
    cases b with
    | session t => exact absurd hb.2.1 (hfree t hb.1)
    | guest h => rw [Option.some.inj (hg.symm.trans hb.2.1)]
    | nobody =>
      obtain ⟨-, q, hdeclined, -⟩ := hb
      exact absurd hqueued (hdeclined.not_queued hg)
  | nobody =>
    obtain ⟨hfree, q, hdeclined, -⟩ := ha
    cases b with
    | session t => exact absurd hb.2.1 (hfree t hb.1)
    | guest h => exact absurd hb.2.2 (hdeclined.not_queued hb.2.1)
    | nobody => rfl

end Gets
end Recipient

namespace Room

theorem counted_wf {r : Room} (hw : r.WF) (p : Speaker) : (p.counted r).WF :=
  ⟨by simpa using hw.roster, by simpa using hw.guests⟩

section Ways

variable {p : Speaker} {r : Room} {raw name payload : Text} (hp : p.TakesPart r)
  (hraw : Message.parse raw = .ok (.incoming p.id (Chat.addressed name payload)))
  (hname : name ≠ []) (hmark : Wire.Marker.addressEnd ∉ name)

include hp hraw hname hmark

theorem utters_to_session {s : Session} (hs : (p.counted r).roster.named? name = some s)
    (now : Nat) : p.utters r raw now =
      ((p.counted r).write s.link (Message.private p.name name payload).wire).2 := by
  obtain ⟨hsomebody, hwritten⟩ := sendPrivate_session p.name payload hs
  rw [Speaker.utters_personal hp hraw (Chat.parse_addressed hname hmark payload) now, ← hwritten]
  split
  · rename_i q e
    exact absurd (congrArg Prod.fst e) hsomebody
  · rename_i q e
    exact (congrArg Prod.snd e).symm

variable (hw : r.WF) (hd : r.directory = .guests) (hr : (p.counted r).roster.named? name = none)

include hw hd hr

theorem utters_to_guest {g : Guest} (hg : (p.counted r).bridge.named? name = some g)
    (ht : g.receipt (p.counted r).bridge.capacity = .taken) (now : Nat) :
    p.utters r raw now =
      ((p.counted r).sendTo g.id (Message.private p.name name payload).wire).2 := by
  have hdq : (p.counted r).directory = .guests := by simpa using hd
  rw [Speaker.utters_personal hp hraw (Chat.parse_addressed hname hmark payload) now,
    sendPrivate_guest p.name payload hr hdq (counted_wf hw p) hg ht]

theorem utters_to_nobody (hnot : ∀ g, (p.counted r).bridge.named? name = some g →
      g.receipt (p.counted r).bridge.capacity ≠ .taken) (now : Nat) :
    ∃ q, Declined (p.counted r) name q ∧ p.Tried (invalidName name) q (p.utters r raw now) := by
  have hq := counted_wf hw p
  have hdq : (p.counted r).directory = .guests := by simpa using hd
  obtain ⟨q, hdeclined, hsent⟩ := sendPrivate_nobody p.name payload hr hdq hq hnot
  refine ⟨q, hdeclined, ?_⟩
  rw [Speaker.utters_personal hp hraw (Chat.parse_addressed hname hmark payload) now, hsent]
  refine Speaker.tried_hand ?_ p _
  have hchanges := sendPrivate_changes (p.counted r) p.name name payload
  rw [hsent] at hchanges
  exact hchanges.wf hq

end Ways

/-- What a private message does, from the room in which its frame has been counted. -/
theorem exists_recipient {p : Speaker} {r : Room} {raw name payload : Text} (hw : r.WF)
    (hd : r.directory = .guests) (hp : p.TakesPart r)
    (hraw : Message.parse raw = .ok (.incoming p.id (Chat.addressed name payload)))
    (hname : name ≠ []) (hmark : Wire.Marker.addressEnd ∉ name) (now : Nat) :
    ∃ a : Recipient, a.Gets p name payload (p.counted r) (p.utters r raw now) := by
  have hq := counted_wf hw p
  cases hs : (p.counted r).roster.named? name with
  | some s =>
    obtain ⟨hmem, hhas⟩ := (Roster.named?_eq_some hq.roster).1 hs
    rw [utters_to_session hp hraw hname hmark hs now]
    exact ⟨.session s, hmem, hhas, _, wrote_write (p.counted r) s.link _⟩
  | none =>
    have hfree := (Roster.named?_eq_none hq.roster).1 hs
    by_cases htaken : ∃ g, (p.counted r).bridge.named? name = some g ∧
        g.receipt (p.counted r).bridge.capacity = .taken
    · obtain ⟨g, hg, ht⟩ := htaken
      refine ⟨.guest g, hfree, hg, ?_⟩
      rw [utters_to_guest hp hraw hname hmark hw hd hs hg ht]
      exact queued_sendTo hq (Bridge.named?_some hg).1 ht _
    · have hnot := fun g hg ht => htaken ⟨g, hg, ht⟩
      exact ⟨.nobody, hfree, utters_to_nobody hp hraw hname hmark hw hd hs hnot now⟩

/-- In every room that can come about, with the guests, in whatever order, as those who are asked for
a name that no session has, a private message goes exactly one way, publishes no line and leaves the
sessions as they are. Nothing comes over any connection but that of the session with the name or, if
there is none, of the sender; no guest but the one with the name and the sender changes; and only
these two can be put out, each because its own mailbox was full. -/
theorem private_goes_one_way (room : Room) (moves : List Move) {order : List Guest}
    (horder : order.Perm (room.emptied.run moves).bridge.guests) :
    let came := room.emptied.run moves
    let r : Room := { came with bridge := { came.bridge with guests := order } }
    ∀ {p : Speaker} {raw name payload : Text}, r.directory = .guests → p.TakesPart r →
      Message.parse raw = .ok (.incoming p.id ('@' :: (name ++ '#' :: payload))) → name ≠ [] →
      '#' ∉ name → ∀ now,
      let r' := p.utters r raw now
      r'.feed = r.feed ∧ r'.roster.sessions = r.roster.sessions ∧
      (∃! a : Recipient, a.Gets p name payload (p.counted r) r') ∧
      (∀ conn, r'.links conn ≠ r.links conn →
        (∃ s ∈ r.roster.sessions, s.name = name ∧ s.link = conn) ∨
        (∀ s ∈ r.roster.sessions, s.name ≠ name) ∧ p.link? = some conn) ∧
      (∀ g ∈ r.bridge.guests, r.bridge.named? name ≠ some g → p.guest? ≠ some g.id →
        g ∈ r'.bridge.guests) ∧
      (∀ g ∈ r.bridge.guests, (∀ g' ∈ r'.bridge.guests, g'.id ≠ g.id) →
        (r.bridge.named? name = some g ∨ p.guest? = some g.id) ∧
        g.reading = true ∧ r.bridge.capacity ≤ g.waiting.length) := by
  intro came r p raw name payload hd hp hraw hname hmark now r'
  have hcame : came.WF := run_wf (emptied_wf room) moves
  have hw : r.WF := ⟨hcame.roster, ((horder.map _).map _).nodup_iff.2 hcame.guests⟩
  have hq : (p.counted r).WF := counted_wf hw p
  obtain ⟨a, ha⟩ := exists_recipient hw hd hp hraw hname hmark now
  -- counting the frame changes nothing that matters from here on
  rw [← Speaker.feed_counted p r, ← Speaker.roster_counted p r, ← Speaker.links_counted p r,
    ← Speaker.bridge_counted p r]
  exact ⟨ha.feed, ha.sessions, ⟨a, ha, fun b hb => (ha.unique hq hb).symm⟩, fun conn => ha.links,
    fun g => ha.stays, fun g => ha.full_of_gone⟩

/-- A session sends a guest a private message. -/
theorem private_goes_to_guest :
    let bob : Session := ⟨"1".toList, "bob".toList, ⟨1⟩, 1, 0⟩
    let room : Room := { directory := .guests, bridge := .new 4 }
    let r := room.emptied.run [.register bob.id bob.name bob.link 0, .attach "7".toList,
      .guestFrame "7".toList (Message.register "7".toList "ann".toList).wire]
    let raw := (Message.incoming bob.id (Chat.addressed "ann".toList "hi".toList)).wire
    let r' := (Speaker.session bob).utters r raw 0
    r.directory = .guests ∧ r.roster.lookup? bob.id = some bob ∧
    Message.parse raw = .ok (.incoming bob.id (Chat.addressed "ann".toList "hi".toList)) ∧
    r'.feed = r.feed ∧ r'.roster.sessions = r.roster.sessions ∧
    (∃! a : Recipient, a.Gets (.session bob) "ann".toList "hi".toList
      ((Speaker.session bob).counted r) r') ∧
    r'.bridge.guests = [⟨"7".toList, some "ann".toList, [Wire.greeting "7".toList,
      (Message.incoming "bob -> ann".toList "hi".toList).wire], true⟩] := by
  intro bob room r raw r'
  have hd : r.directory = .guests := by decide
  have hp : r.roster.lookup? bob.id = some bob := by decide
  have hraw : Message.parse raw =
      .ok (.incoming bob.id (Chat.addressed "ann".toList "hi".toList)) := by decide
  have h := private_goes_one_way room
    [.register bob.id bob.name bob.link 0, .attach "7".toList,
      .guestFrame "7".toList (Message.register "7".toList "ann".toList).wire]
    (.refl _) (p := .session bob) hd hp hraw (by decide) (by decide) 0
  exact ⟨hd, hp, hraw, h.1, h.2.1, h.2.2.1, by decide⟩

end Room
end Parley
