/-
What the operations of a room leave as it was. Whatever is written, and however the links react,
nobody comes or goes and no link is closed (`OnlyWrites`). What is put into mailboxes may put
guests out, which frees their nicknames, but sessions and links stay as they are (`OnlyEvicts`).
-/
import Parley.Proofs.Roster.Index
import Parley.Room.Delivery
import Parley.Room.GuestFrames
import Parley.Room.Sweep

namespace Parley

/-! ## Publishing -/

/-- The lines among some that a feed takes: all of them while it goes on, and none once it has been
stopped or its worker has ended. -/
def Feed.taken (f : Feed) (lines : List Text) : List Text :=
  if f.stopped || f.ended then [] else lines

theorem Feed.taken_append (f : Feed) (before after : List Text) :
    f.taken (before ++ after) = f.taken before ++ f.taken after := by
  unfold Feed.taken
  split <;> rfl

namespace Room

theorem publish_taken (r : Room) (line : Text) : r.publish line = { r with
    feed := { r.feed with queue := r.feed.queue ++ r.feed.taken [line] }
    log := r.log ++ (r.feed.taken [line]).map .published } := by
  have hpublish : r.feed.publish? line = if r.feed.stopped || r.feed.ended then none
      else some { r.feed with queue := r.feed.queue ++ [line] } := by
    unfold Feed.publish? Feed.enqueue?
    cases hs : r.feed.stopped <;> simp [hs]
  rw [publish, publish?, hpublish, Feed.taken]
  split
  · simp
  · rfl

theorem publish_eq (r : Room) (line : Text) :
    ∃ feed log, r.publish line = { r with feed, log } :=
  ⟨_, _, publish_taken r line⟩

theorem publishLeft_eq (r : Room) (line : Option Text) :
    ∃ feed log, r.publishLeft line = { r with feed, log } := by
  cases line with
  | none => exact ⟨r.feed, r.log, rfl⟩
  | some line => exact publish_eq r line

@[simp] theorem bridge_publish (r : Room) (line : Text) : (r.publish line).bridge = r.bridge := by
  obtain ⟨feed, log, h⟩ := publish_eq r line
  rw [h]

@[simp] theorem links_publish (r : Room) (line : Text) : (r.publish line).links = r.links := by
  obtain ⟨feed, log, h⟩ := publish_eq r line
  rw [h]

/-! ## Private messages, and what is done if there is nobody of that name -/

theorem converse_personal (r : Room) (speaker : Session) {text target payload : Text}
    (ht : Wire.Chat.parse text = .personal target payload) :
    r.converse speaker text = (none,
      if (r.sendPrivate speaker.name target payload).1 = .nobody
        then (r.sendPrivate speaker.name target payload).2.notifyInvalid speaker.link target
        else (r.sendPrivate speaker.name target payload).2) := by
  simp only [converse, ht]
  obtain ⟨handover, q⟩ := r.sendPrivate speaker.name target payload
  cases handover <;> rfl

theorem guestConverse_personal (r : Room) (id : SessionId) (nickname : Text)
    {text target payload : Text} (ht : Wire.Chat.parse text = .personal target payload) :
    r.guestConverse id nickname text = (none,
      if (r.sendPrivate nickname target payload).1 = .nobody
        then ((r.sendPrivate nickname target payload).2.sendTo id (invalidName target)).2
        else (r.sendPrivate nickname target payload).2) := by
  simp only [guestConverse, ht]
  obtain ⟨handover, q⟩ := r.sendPrivate nickname target payload
  cases handover <;> rfl

/-! ## Writing -/

/-- Nothing but frames written to links, what is counted of them, and the log. -/
structure OnlyWrites (r r' : Room) : Prop where
  roster : r'.roster = r.roster
  bridge : r'.bridge = r.bridge
  feed : r'.feed = r.feed
  subscription : r'.bridgeSubscription = r.bridgeSubscription
  directory : r'.directory = r.directory
  isClosed : ∀ c, (r'.links c).isClosed = (r.links c).isClosed

theorem OnlyWrites.refl (r : Room) : OnlyWrites r r := ⟨rfl, rfl, rfl, rfl, rfl, fun _ => rfl⟩

theorem OnlyWrites.trans {a b c : Room} (h1 : OnlyWrites a b) (h2 : OnlyWrites b c) :
    OnlyWrites a c :=
  ⟨h2.roster.trans h1.roster, h2.bridge.trans h1.bridge, h2.feed.trans h1.feed,
    h2.subscription.trans h1.subscription, h2.directory.trans h1.directory,
    fun conn => (h2.isClosed conn).trans (h1.isClosed conn)⟩

theorem write_onlyWrites (r : Room) (conn : ConnId) (frame : Text) :
    OnlyWrites r (r.write conn frame).2 :=
  ⟨rfl, rfl, rfl, rfl, rfl, fun c => isClosed_write r conn c frame⟩

theorem closes_write (r : Room) (conn : ConnId) (frame : Text) (c : ConnId) :
    ((r.write conn frame).2.links c).closes = (r.links c).closes := by
  by_cases h : c = conn
  · subst h
    simp [write, record, Link.write]
  · simp [write, record, Links.set_of_ne _ _ h]

theorem writeAll_onlyWrites (frame : Text) (sessions : List Session) :
    ∀ r : Room, OnlyWrites r (r.writeAll frame sessions).2 := by
  induction sessions with
  | nil => exact OnlyWrites.refl
  | cons s rest ih => exact fun r => (write_onlyWrites r s.link frame).trans (ih _)

theorem closes_writeAll (frame : Text) (c : ConnId) (sessions : List Session) : ∀ r : Room,
    ((r.writeAll frame sessions).2.links c).closes = (r.links c).closes := by
  induction sessions with
  | nil => exact fun _ => rfl
  | cons s rest ih => exact fun r => (ih _).trans (closes_write r s.link frame c)

theorem broadcast_onlyWrites (r : Room) (frame : Text) (sender : Option SessionId) :
    OnlyWrites r (r.broadcast frame sender).2 :=
  writeAll_onlyWrites frame _ r

theorem announce_onlyWrites (r : Room) (text : Text) : OnlyWrites r (r.announce text).2 :=
  broadcast_onlyWrites r _ none

theorem notifyInvalid_onlyWrites (r : Room) (conn : ConnId) (target : Text) :
    OnlyWrites r (r.notifyInvalid conn target) :=
  write_onlyWrites r conn _

/-! ## Mailboxes -/

/-- Nothing but frames put into mailboxes, guests put out with their nicknames, and the log. -/
structure OnlyEvicts (r r' : Room) : Prop where
  sessions : r'.roster.sessions = r.roster.sessions
  holders : r'.roster.holders = r.roster.holders
  registered : r'.roster.registered = r.roster.registered
  reserved : r'.roster.reserved.Sublist r.roster.reserved
  links : r'.links = r.links
  feed : r'.feed = r.feed
  tally : r'.tally = r.tally
  subscription : r'.bridgeSubscription = r.bridgeSubscription
  directory : r'.directory = r.directory

theorem OnlyEvicts.refl (r : Room) : OnlyEvicts r r :=
  ⟨rfl, rfl, rfl, List.Sublist.refl _, rfl, rfl, rfl, rfl, rfl⟩

theorem OnlyEvicts.trans {a b c : Room} (h1 : OnlyEvicts a b) (h2 : OnlyEvicts b c) :
    OnlyEvicts a c :=
  ⟨h2.sessions.trans h1.sessions, h2.holders.trans h1.holders,
    h2.registered.trans h1.registered, h2.reserved.trans h1.reserved, h2.links.trans h1.links,
    h2.feed.trans h1.feed, h2.tally.trans h1.tally, h2.subscription.trans h1.subscription,
    h2.directory.trans h1.directory⟩

theorem OnlyEvicts.wf {r r' : Room} (h : OnlyEvicts r r') (hw : r.roster.WF) : r'.roster.WF := by
  refine ⟨?_, ?_, ?_, fun n hn s hs => ?_, h.reserved.nodup hw.reservedOnce⟩
  · rw [h.sessions]; exact hw.ids
  · rw [h.sessions]; exact hw.names
  · rw [h.sessions, h.holders]; exact hw.index
  · rw [h.sessions] at hs
    exact hw.apart n (h.reserved.subset hn) s hs

theorem record_onlyEvicts (r : Room) (e : Event) : OnlyEvicts r (r.record e) :=
  ⟨rfl, rfl, rfl, List.Sublist.refl _, rfl, rfl, rfl, rfl, rfl⟩

theorem filter_ne_of_not_mem {names : List Text} {name : Text} (h : name ∉ names) :
    names.filter (· ≠ name) = names := by
  rw [List.filter_eq_self]
  intro n hn
  have : n ≠ name := by rintro rfl; exact h hn
  simpa using this

theorem release_eq (r : Room) (name : Text) :
    r.release name = { r with
      roster := { r.roster with reserved := r.roster.reserved.filter (· ≠ name) } } := by
  unfold release Roster.release?
  split
  · rfl
  · rename_i hn
    rw [filter_ne_of_not_mem (by simpa using hn)]
    rfl

theorem release_onlyEvicts (r : Room) (name : Text) : OnlyEvicts r (r.release name) := by
  rw [release_eq]
  exact ⟨rfl, rfl, rfl, List.filter_sublist, rfl, rfl, rfl, rfl, rfl⟩

theorem bridge_onlyEvicts (r : Room) (bridge : Bridge) : OnlyEvicts r { r with bridge } :=
  ⟨rfl, rfl, rfl, List.Sublist.refl _, rfl, rfl, rfl, rfl, rfl⟩

theorem detach_onlyEvicts (r : Room) (id : SessionId) : OnlyEvicts r (r.detach id) := by
  unfold detach
  cases r.bridge.detach? id with
  | none => exact OnlyEvicts.refl r
  | some p =>
    obtain ⟨⟨_, nickname, _, _⟩, bridge⟩ := p
    cases nickname with
    | none => exact (bridge_onlyEvicts r bridge).trans (record_onlyEvicts _ _)
    | some name =>
      exact ((bridge_onlyEvicts r bridge).trans (release_onlyEvicts _ name)).trans
        (record_onlyEvicts _ _)

theorem sendTo_onlyEvicts (r : Room) (id : SessionId) (frame : Text) :
    OnlyEvicts r (r.sendTo id frame).2 := by
  unfold sendTo
  split
  · exact OnlyEvicts.refl r
  · split
    · exact (bridge_onlyEvicts r _).trans (record_onlyEvicts _ _)
    · exact detach_onlyEvicts r id
    · exact OnlyEvicts.refl r

theorem deliver_onlyEvicts (r : Room) (name frame : Text) :
    OnlyEvicts r (r.deliver name frame).2 := by
  unfold deliver
  split
  · exact sendTo_onlyEvicts r _ frame
  · exact OnlyEvicts.refl r

theorem tellDirectory_onlyEvicts (r : Room) (name frame : Text) :
    OnlyEvicts r (r.tellDirectory name frame).2 := by
  unfold tellDirectory
  split
  · exact deliver_onlyEvicts r name frame
  · split
    · exact record_onlyEvicts r _
    · exact OnlyEvicts.refl r
  · exact OnlyEvicts.refl r
  · exact OnlyEvicts.refl r

theorem foldl_onlyEvicts {f : Room → Guest → Room} (hf : ∀ r g, OnlyEvicts r (f r g))
    (guests : List Guest) : ∀ r : Room, OnlyEvicts r (guests.foldl f r) := by
  induction guests with
  | nil => exact OnlyEvicts.refl
  | cons g rest ih => exact fun r => (hf r g).trans (ih _)

theorem forward_onlyEvicts (r : Room) (line : Text) : OnlyEvicts r (r.forward line).2 := by
  unfold forward
  -- those who take the line are put down one by one, then those who cannot are put out
  refine OnlyEvicts.trans ?_ (foldl_onlyEvicts (fun r g => detach_onlyEvicts r g.id) _ _)
  exact (bridge_onlyEvicts r _).trans
    (foldl_onlyEvicts (f := fun r g => r.record (.queued g.id line))
      (fun r g => record_onlyEvicts r _) _ _)

/-! ## The worker of the feed -/

/-- What one move of the worker of the feed comes to: only the feed changes, or a line is handed
over, and goes on to the guests if it was handed to the bridge. -/
inductive Serves (r : Room) : Room → Prop where
  | feed (feed : Feed) : Serves r { r with feed }
  | handed {d : Delivery} (delivering : r.feed.delivery = some d) (subscriber : SubscriberId)
      (feed : Feed) : Serves r ({ r with feed }.record (.handed subscriber d.line))
  | forwarded {d : Delivery} (delivering : r.feed.delivery = some d) (subscriber : SubscriberId)
      (feed : Feed) :
      Serves r (({ r with feed }.record (.handed subscriber d.line)).forward d.line).2

theorem serve?_serves {r r' : Room} (hs : r.serve? = some r') : Serves r r' := by
  have hfeed : ∀ f : Option Feed, (f.map fun feed => { r with feed }) = some r' → Serves r r' := by
    intro f hf
    obtain ⟨feed, -, rfl⟩ := Option.map_eq_some_iff.1 hf
    exact .feed feed
  unfold serve? at hs
  rcases Option.or_eq_some_iff.1 hs with hs | ⟨-, hs⟩
  · rcases Option.or_eq_some_iff.1 hs with hs | ⟨-, hs⟩
    · rcases Option.or_eq_some_iff.1 hs with hs | ⟨-, hs⟩
      · obtain ⟨p, hp, rfl⟩ := Option.map_eq_some_iff.1 hs
        obtain ⟨⟨subscriber, line, feed⟩, hf, hp⟩ := Option.map_eq_some_iff.1 hp
        subst hp
        obtain ⟨left, hd, -⟩ := Feed.hand?_some hf
        simp only
        split
        · exact .forwarded hd subscriber feed
        · exact .handed hd subscriber feed
      · exact hfeed _ hs
    · exact hfeed _ hs
  · exact hfeed _ hs

end Room
end Parley
