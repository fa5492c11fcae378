/-
One conversation of sessions and guests. What anybody says to everybody is written once to each
session but its own. The guests get it as a line, and whom that line passes over is read off the
line again: the guests that answer to what stands before its first colon (`deliverAll_utters`). So
exactly the others hear it if the speaker alone answers to that, which is so for a name without
colons and outer blanks (`heard_by_others`), but not for every name.
-/
import Mathlib.Data.List.TakeWhile
import Parley.Proofs.Room.Logs
import Parley.Proofs.Room.Names

namespace Parley

open Wire (Message Chat)

/-! ## Who speaks on a line -/

theorem Wire.takeWhile_displayLine (name text : Text) :
    (displayLine name text).takeWhile (· ≠ ':') = name.takeWhile (· ≠ ':') := by
  induction name with
  | nil => rfl
  | cons c rest ih =>
    show ((c :: displayLine rest text).takeWhile (· ≠ ':')) = _
    rw [List.takeWhile_cons, List.takeWhile_cons, ih]

/-- Of the name under which a line was said, only what comes before a colon is left. -/
theorem Wire.displaySpeaker_displayLine (name text : Text) :
    displaySpeaker (displayLine name text) = Text.trim (name.takeWhile (· ≠ ':')) := by
  rw [displaySpeaker, takeWhile_displayLine]

/-! ## Everybody can hear -/

/-- Whether a link takes every frame. -/
def Link.Accepts (l : Link) : Prop := l.isClosed = false ∧ ∀ n frame, l.react n frame = .accepted

theorem Link.Accepts.outcome {l : Link} (h : l.Accepts) (frame : Text) :
    l.outcome frame = .accepted := by
  rw [Link.outcome, h.1]
  exact h.2 ..

namespace Room

/-- Everybody in a room can hear: the feed goes on and has the bridge as one subscriber, the link of
each session takes every frame, and each mailbox has room for the lines on their way and one
more. -/
structure Hearing (r : Room) (b : SubscriberId) : Prop where
  going : r.feed.stopped = false
  working : r.feed.ended = false
  subscribed : r.bridgeSubscription = some b
  once : r.feed.subscribers.count b = 1
  links : ∀ s ∈ r.roster.sessions, (r.links s.link).Accepts
  mailboxes : ∀ g ∈ r.bridge.guests, g.HasRoom r.bridge.capacity ((r.feed.coming b).length + 1)

theorem accepts_write {r : Room} {c : ConnId} (h : (r.links c).Accepts) (conn : ConnId)
    (frame : Text) : ((r.write conn frame).2.links c).Accepts := by
  refine ⟨(isClosed_write r conn c frame).trans h.1, ?_⟩
  by_cases hc : c = conn
  · subst hc
    simpa [write, record, Link.write] using h.2
  · simpa [write, record, Links.set_of_ne _ _ hc] using h.2

/-- On links that take every frame, every try is accepted. -/
theorem tries_accepted (frame : Text) (sessions : List Session) : ∀ r : Room,
    (∀ s ∈ sessions, (r.links s.link).Accepts) →
    r.tries frame sessions = sessions.map fun s => (s, .accepted) := by
  induction sessions with
  | nil => exact fun _ _ => rfl
  | cons s rest ih =>
    intro r h
    rw [tries, (h s List.mem_cons_self).outcome, ih _ fun t ht =>
      accepts_write (h t (List.mem_cons_of_mem _ ht)) s.link frame]
    rfl

theorem written_broadcast {r : Room} (h : ∀ s ∈ r.roster.sessions, (r.links s.link).Accepts)
    (frame : Text) (sender : Option SessionId) :
    (r.broadcast frame sender).2.written =
      r.written ++ (r.audience sender).map fun s => (s.link, frame, .accepted) := by
  have htries : r.tries frame (r.audience sender) = _ :=
    tries_accepted frame _ r fun s hs => h s (List.mem_of_mem_filter hs)
  rw [written_broadcast_tries, htries, List.map_map]
  rfl

/-! ## What everybody hears -/

/-- What a guest hears of one line. -/
theorem hear_singleton (line : Text) (g : Guest) : g.hear [line] = { g with
    waiting := g.waiting ++ if g.answersTo (Wire.displaySpeaker line) then [] else [line] } := by
  cases h : g.answersTo (Wire.displaySpeaker line) <;> simp [Guest.hear, Guest.hears, h]

/-- Two ways to pass a line over come to the same for a guest only if they agree about it. -/
theorem passes_over_iff {p q : Prop} [Decidable p] [Decidable q] (g : Guest) (line : Text) :
    ({ g with waiting := g.waiting ++ if p then [] else [line] } : Guest) =
      { g with waiting := g.waiting ++ if q then [] else [line] } ↔ (p ↔ q) := by
  by_cases hp : p <;> by_cases hq : q <;> simp [hp, hq]

section Hearing

variable {r : Room} {b : SubscriberId} (hr : r.Hearing b)
include hr

/-- The room after something was said to everybody: the line comes last of those on their way, and
all the sessions but the speaker's have been written to. -/
theorem utters_hearing {p : Speaker} {raw text : Text} (hp : p.TakesPart r)
    (hraw : Message.parse raw = .ok (.incoming p.id text)) (ht : Chat.parse text = .broadcast text)
    (now : Nat) :
    let r' := p.utters r raw now
    r'.roster = r.roster ∧ r'.bridge = r.bridge ∧ r'.bridgeSubscription = some b ∧
    r'.feed.stopped = false ∧
    r'.feed.coming b = r.feed.coming b ++ [Wire.displayLine p.name text] ∧
    r'.written = r.written ++ (r.audience p.self?).map fun s =>
      (s.link, (Message.incoming p.name text).wire, .accepted) := by
  intro r'
  let frame := (Message.incoming p.name text).wire
  let sent := ((p.counted r).broadcast frame p.self?).2
  have honly : OnlyWrites (p.counted r) sent := broadcast_onlyWrites ..
  have hfeed : sent.feed = r.feed := honly.feed.trans (Speaker.feed_counted p r)
  have hr' : r' = { sent with
      feed := { r.feed with queue := r.feed.queue ++ [Wire.displayLine p.name text] } }.record
        (.published (Wire.displayLine p.name text)) := by
    rw [← hfeed]
    exact (Speaker.utters_broadcast hp hraw ht now).trans
      (publish_running (hfeed ▸ hr.going) (hfeed ▸ hr.working) _)
  rw [hr']
  refine ⟨honly.roster.trans (by simp), honly.bridge.trans (by simp),
    honly.subscription.trans (by simpa using hr.subscribed), hr.going, ?_, ?_⟩
  · simp [record, Feed.coming, hr.once]
  · have hlinks : ∀ s ∈ (p.counted r).roster.sessions, ((p.counted r).links s.link).Accepts := by
      simpa using hr.links
    have hwritten : sent.written = _ := written_broadcast hlinks frame p.self?
    simp only [written, record, List.filterMap_append] at hwritten ⊢
    rw [hwritten]
    simp [Event.written?, audience, frame]

theorem deliverAll_hearing : OnlyHeard (r.feed.coming b) r r.deliverAll :=
  (deliverAll_heard hr.going hr.subscribed fun g hg =>
    (hr.mailboxes g hg).mono (Nat.le_succ _)).1

/-- The room when the feed has been drained after something was said to everybody. -/
theorem deliverAll_utters {p : Speaker} {raw text : Text} (hp : p.TakesPart r)
    (hraw : Message.parse raw = .ok (.incoming p.id text)) (ht : Chat.parse text = .broadcast text)
    (now : Nat) :
    let after := (p.utters r raw now).deliverAll
    after.feed.queue = [] ∧ after.feed.delivery = none ∧ after.roster = r.roster ∧
    after.written = r.deliverAll.written ++ (r.audience p.self?).map (fun s =>
      (s.link, (Message.incoming p.name text).wire, .accepted)) ∧
    after.bridge.guests = r.deliverAll.bridge.guests.map (fun g => { g with
      waiting := g.waiting ++ if g.answersTo (Text.trim (p.name.takeWhile (· ≠ ':'))) then []
        else [Wire.displayLine p.name text] }) := by
  intro after
  obtain ⟨hroster, hbridge, hsubscribed, hgoing, hcoming, hwritten⟩ :=
    utters_hearing hr hp hraw ht now
  obtain ⟨hafter, hqueue, hdelivery⟩ := deliverAll_heard hgoing hsubscribed fun g hg => by
    rw [hcoming, List.length_append, hbridge]
    exact hr.mailboxes g (hbridge ▸ hg)
  have hbefore := deliverAll_hearing hr
  refine ⟨hqueue, hdelivery, hafter.roster.trans hroster, ?_, ?_⟩
  · rw [hafter.written, hwritten, hbefore.written]
  · rw [hafter.guests, hcoming, hbridge, hbefore.guests, List.map_map]
    refine List.map_congr_left fun g _ => (g.hear_append _ _).trans ?_
    rw [hear_singleton, Wire.displaySpeaker_displayLine]
    rfl

/-- A line passes the same guests over in two ways exactly if these agree about every guest. -/
theorem map_passes_over_iff (p : Speaker) (name line : Text) :
    (r.deliverAll.bridge.guests.map (fun g => { g with
        waiting := g.waiting ++ if g.answersTo name then [] else [line] }) =
      r.deliverAll.bridge.guests.map (fun g => { g with
        waiting := g.waiting ++ if p.guest? = some g.id then [] else [line] })) ↔
      ∀ g ∈ r.bridge.guests, g.answersTo name = true ↔ p.guest? = some g.id := by
  rw [List.map_inj_left, (deliverAll_hearing hr).guests, List.forall_mem_map]
  exact forall₂_congr fun g _ => passes_over_iff _ line

end Hearing

/-- In a room in which everybody can hear, what one says to everybody has been written once to each
session but its own, with its name, when the feed has been drained, and every guest has heard one
line more, unless it answers to what comes before a colon in that name. So all the others hear it,
and the speaker does not, exactly if the speaker is the one guest that answers to that. -/
theorem heard_by_others_iff {r : Room} {b : SubscriberId} (hr : r.Hearing b) {p : Speaker}
    {raw text : Text} (hp : p.TakesPart r)
    (hraw : Message.parse raw = .ok (.incoming p.id text))
    (htext : ∀ target payload, target ≠ [] → Wire.Marker.addressEnd ∉ target →
      text ≠ Chat.addressed target payload) (now : Nat) :
    let frame := (Message.incoming p.name text).wire
    let line := Wire.displayLine p.name text
    let before := r.deliverAll
    let after := (p.utters r raw now).deliverAll
    let speaker := Text.trim (p.name.takeWhile (· ≠ ':'))
    after.feed.queue = [] ∧ after.feed.delivery = none ∧ after.roster = r.roster ∧
    after.written = before.written ++
      (r.audience p.self?).map (fun s => (s.link, frame, .accepted)) ∧
    after.bridge.guests = before.bridge.guests.map (fun g => { g with
      waiting := g.waiting ++ if g.answersTo speaker then [] else [line] }) ∧
    (after.bridge.guests = before.bridge.guests.map (fun g => { g with
        waiting := g.waiting ++ if p.guest? = some g.id then [] else [line] }) ↔
      ∀ g ∈ r.bridge.guests, g.answersTo speaker = true ↔ p.guest? = some g.id) := by
  intro frame line before after speaker
  obtain ⟨hqueue, hdelivery, hroster, hwritten, hheard⟩ :=
    deliverAll_utters hr hp hraw (Chat.parse_of_not_addressed htext) now
  refine ⟨hqueue, hdelivery, hroster, hwritten, hheard, ?_⟩
  rw [show after.bridge.guests = _ from hheard]
  exact map_passes_over_iff hr p speaker line

/-- A session is heard by the only guest there is. -/
theorem heard_by_one_guest :
    let bob : Session := ⟨"1".toList, "bob".toList, ⟨1⟩, 1, 0⟩
    let room : Room := {
      bridge := .new 4, feed := { subscribers := [1], nextId := 2 }, bridgeSubscription := some 1 }
    let r := room.run [.register bob.id bob.name bob.link 0, .attach "7".toList,
      .guestFrame "7".toList (Message.register "7".toList "ann".toList).wire]
    let raw := (Message.incoming bob.id "hi".toList).wire
    let heard := fun g : Guest => { g with waiting := g.waiting ++
      if (Speaker.session bob).guest? = some g.id then [] else ["bob: hi".toList] }
    r.Hearing 1 ∧ r.roster.lookup? bob.id = some bob ∧
    Message.parse raw = .ok (.incoming bob.id "hi".toList) ∧
    (((Speaker.session bob).utters r raw 0).deliverAll.bridge.guests =
      r.deliverAll.bridge.guests.map heard) := by
  intro bob room r raw heard
  have hr : r.Hearing 1 := by
    refine ⟨by decide, by decide, by decide, by decide, fun s hs => ⟨?_, ?_⟩, fun g hg => ⟨?_, ?_⟩⟩
    · revert s
      decide
    · exact fun _ _ => rfl
    · revert g
      decide
    · revert g
      decide
  have hp : r.roster.lookup? bob.id = some bob := by decide
  have hraw : Message.parse raw = .ok (.incoming bob.id "hi".toList) := by decide
  have h := heard_by_others_iff hr (p := .session bob) hp hraw
    (fun target payload _ _ e => absurd (List.cons.inj e).1 (by decide)) 0
  exact ⟨hr, hp, hraw, h.2.2.2.2.2.2 (by decide)⟩

/-- A guest with a colon in its name hears itself, and of a session with one, the guest whose
nickname stands before the colon hears that it came, but not what it says. -/
theorem colon_misleads :
    let room : Room := {
      bridge := .new 4, feed := { subscribers := [1], nextId := 2 }, bridgeSubscription := some 1 }
    let mailboxes := fun moves => (room.run moves).deliverAll.bridge.guests.map (·.waiting)
    mailboxes [.attach "7".toList,
      .guestFrame "7".toList (Message.register "7".toList "a:b".toList).wire,
      .read "7".toList,
      .guestFrame "7".toList (Message.incoming "7".toList "hi".toList).wire] =
        [["a:b: hi".toList]] ∧
    mailboxes [.attach "7".toList,
      .guestFrame "7".toList (Message.register "7".toList "ann".toList).wire,
      .read "7".toList,
      .frame ⟨1⟩ .awaitingRegister (Message.register "1".toList "ann: b".toList).wire 0,
      .frame ⟨1⟩ .active (Message.incoming "1".toList "hi".toList).wire 0] =
        [["Client: 1 (ann: b) Connected.".toList]] := by
  decide

/-! ## Plain names -/

/-- In a room where the names are unique, the one guest that answers to a speaker's name is the
speaker, unless that name is the id of another. -/
theorem answersTo_name_iff {r : Room} (hw : r.WF) (hn : r.names.Nodup) {p : Speaker}
    (hp : p.TakesPart r) (hids : ∀ g ∈ r.bridge.guests, g.id = p.name → p.guest? = some g.id)
    {g : Guest} (hg : g ∈ r.bridge.guests) :
    g.answersTo p.name = true ↔ p.guest? = some g.id := by
  obtain ⟨-, hnicknames, hapart⟩ := List.nodup_append.1 hn
  simp only [Guest.answersTo, Bool.or_eq_true, decide_eq_true_eq]
  constructor
  · rintro (hid | hnick)
    · exact hids g hg hid
    · cases p with
      | session s =>
        have hs := (Roster.lookup?_some hp).1
        exact absurd rfl (hapart _ (List.mem_map_of_mem hs) _ (List.mem_filterMap.2 ⟨g, hg, hnick⟩))
      | guest id nickname =>
        obtain ⟨speaker, hfound, hname⟩ := Option.bind_eq_some_iff.1 hp
        obtain ⟨hmem, rfl⟩ := Bridge.guest?_some hfound
        rw [eq_of_filterMap_nodup hnicknames hg hmem hnick hname]
        rfl
  · cases p with
    | session s => exact nofun
    | guest id nickname =>
      intro hself
      obtain rfl : id = g.id := Option.some.inj hself
      have hname : r.bridge.nicknameOf? g.id = some nickname := hp
      rw [Bridge.nicknameOf?, hw.guest?_eq_some.2 ⟨hg, rfl⟩] at hname
      exact .inr hname

/-- Under a name without colons and outer blanks, which is not the id of another guest, one is heard
by all the others and not by oneself, as long as everybody is disconnected at once only while no
guest has a nickname. -/
theorem heard_by_others (room : Room) {moves : List Move} (hm : Spares room.emptied moves) :
    let r := room.emptied.run moves
    ∀ {b : SubscriberId} {p : Speaker} {raw text : Text}, r.Hearing b → p.TakesPart r →
      Message.parse raw = .ok (.incoming p.id text) →
      (∀ target payload, target ≠ [] → Wire.Marker.addressEnd ∉ target →
        text ≠ Chat.addressed target payload) →
      ':' ∉ p.name → Text.trim p.name = p.name →
      (∀ g ∈ r.bridge.guests, g.id = p.name → p.guest? = some g.id) →
      ∀ now, (p.utters r raw now).deliverAll.bridge.guests =
        r.deliverAll.bridge.guests.map fun g => { g with
          waiting := g.waiting ++
            if p.guest? = some g.id then [] else [Wire.displayLine p.name text] } := by
  intro r b p raw text hr hp hraw htext hcolon htrim hids now
  have h : Housed r := spares_housed (emptied_housed room) hm
  have hspeaker : Text.trim (p.name.takeWhile (· ≠ ':')) = p.name := by
    rw [List.takeWhile_eq_self_iff.2, htrim]
    intro c hc
    have : c ≠ ':' := fun e => hcolon (e ▸ hc)
    simpa using this
  obtain ⟨-, -, -, -, hheard⟩ :=
    deliverAll_utters hr hp hraw (Chat.parse_of_not_addressed htext) now
  rw [hheard, hspeaker, map_passes_over_iff hr]
  exact fun g hg => answersTo_name_iff ⟨h.wf, h.ids⟩ h.names_nodup hp hids hg

end Room
end Parley
