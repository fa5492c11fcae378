/-
The worker of a running feed, let go on until it has to wait. Each of its moves takes some work
away, so that it is done after as many as it is given; and while every mailbox has room, all that
comes of a move is that the guests hear a line that was on its way to the bridge. In the end each
guest has heard all of them in order, but those whose speaker it answers to (`deliverAll_heard`).
-/
import Parley.Proofs.Feed.Runs
import Parley.Proofs.Room.Unchanged
import Parley.Room.Delivery

namespace Parley

/-! ## Lines that guests hear -/

namespace Guest

/-- The lines that a guest gets to hear of some that are forwarded. -/
def hears (g : Guest) (lines : List Text) : List Text :=
  lines.filter fun line => !g.answersTo (Wire.displaySpeaker line)

/-- The guest after it got to hear some lines. -/
def hear (lines : List Text) (g : Guest) : Guest := { g with waiting := g.waiting ++ g.hears lines }

/-- Whether a guest reads, and its mailbox has room for a number of frames. -/
def HasRoom (capacity count : Nat) (g : Guest) : Prop :=
  g.reading = true ∧ g.waiting.length + count ≤ capacity

theorem map_hear_nil (guests : List Guest) : guests.map (hear []) = guests := by
  refine (List.map_congr_left fun g _ => ?_).trans (List.map_id' _)
  simp [hear, hears]

theorem hear_append (a b : List Text) (g : Guest) : g.hear (a ++ b) = (g.hear a).hear b := by
  rw [hear, hears, List.filter_append, ← List.append_assoc]
  rfl

theorem length_hears_le (g : Guest) (lines : List Text) :
    (g.hears lines).length ≤ lines.length := List.length_filter_le ..

/-- Who has room for some lines and more has room for the others after it heard the first. -/
theorem HasRoom.hear {capacity count : Nat} {lines : List Text} {g : Guest}
    (h : g.HasRoom capacity (lines.length + count)) : (g.hear lines).HasRoom capacity count := by
  refine ⟨h.1, ?_⟩
  have hle := g.length_hears_le lines
  have hroom := h.2
  simp only [Guest.hear, List.length_append]
  omega

theorem HasRoom.mono {capacity count less : Nat} {g : Guest} (h : g.HasRoom capacity count)
    (hle : less ≤ count) : g.HasRoom capacity less :=
  ⟨h.1, Nat.le_trans (Nat.add_le_add_left hle _) h.2⟩

theorem HasRoom.receipt {capacity count : Nat} {g : Guest}
    (h : g.HasRoom capacity (count + 1)) : g.receipt capacity = .taken := by
  have hlt : g.waiting.length < capacity := by
    have := h.2
    omega
  simp [Guest.receipt, h.1, hlt]

end Guest

/-- A frame that was written: to which connection, and what became of it. -/
def Event.written? : Event → Option (ConnId × Text × Outcome)
  | .wrote conn frame outcome => some (conn, frame, outcome)
  | _ => none

namespace Room

/-- All frames that have been written. -/
def written (r : Room) : List (ConnId × Text × Outcome) := r.log.filterMap Event.written?

/-- Nothing but lines that the guests got to hear, the feed, and what is logged of them. -/
structure OnlyHeard (lines : List Text) (r r' : Room) : Prop where
  roster : r'.roster = r.roster
  links : r'.links = r.links
  guests : r'.bridge.guests = r.bridge.guests.map (Guest.hear lines)
  capacity : r'.bridge.capacity = r.bridge.capacity
  subscription : r'.bridgeSubscription = r.bridgeSubscription
  written : r'.written = r.written

/-- What leaves guests, links and sessions alone, and writes nothing. -/
theorem OnlyHeard.nothing {r r' : Room} (roster : r'.roster = r.roster) (links : r'.links = r.links)
    (bridge : r'.bridge = r.bridge) (subscription : r'.bridgeSubscription = r.bridgeSubscription)
    (written : r'.written = r.written) : OnlyHeard [] r r' :=
  ⟨roster, links, by rw [bridge, Guest.map_hear_nil], by rw [bridge], subscription, written⟩

theorem OnlyHeard.trans {a b : List Text} {r r' r'' : Room} (h1 : OnlyHeard a r r')
    (h2 : OnlyHeard b r' r'') : OnlyHeard (a ++ b) r r'' := by
  refine ⟨h2.roster.trans h1.roster, h2.links.trans h1.links, ?_, h2.capacity.trans h1.capacity,
    h2.subscription.trans h1.subscription, h2.written.trans h1.written⟩
  rw [h2.guests, h1.guests, List.map_map]
  exact List.map_congr_left fun g _ => (g.hear_append a b).symm

theorem feed_onlyHeard (r : Room) (feed : Feed) : OnlyHeard [] r { r with feed } :=
  .nothing rfl rfl rfl rfl rfl

theorem handed_onlyHeard (r : Room) (subscriber : SubscriberId) (line : Text) :
    OnlyHeard [] r (r.record (.handed subscriber line)) :=
  .nothing rfl rfl rfl rfl (by simp [written, Event.written?])

/-! ## One line -/

theorem foldl_queued (line : Text) (guests : List Guest) : ∀ r : Room,
    guests.foldl (fun r g => r.record (.queued g.id line)) r =
      { r with log := r.log ++ guests.map fun g => .queued g.id line } := by
  induction guests with
  | nil => exact fun r => by simp
  | cons g rest ih =>
    intro r
    rw [List.foldl_cons, ih]
    simp [record]

/-- While every mailbox has room, a line that is forwarded puts nobody out. -/
theorem forward_eq {r : Room} (line : Text)
    (hroom : ∀ g ∈ r.bridge.guests, g.HasRoom r.bridge.capacity 1) :
    ∃ takers : List Guest, (r.forward line).2 = { r with
      bridge := { r.bridge with guests := r.bridge.guests.map (Guest.hear [line]) }
      log := r.log ++ takers.map fun g => .queued g.id line } := by
  have htaken : ∀ g ∈ r.bridge.guests, g.receipt r.bridge.capacity = .taken :=
    fun g hg => (hroom g hg).receipt
  let listeners := r.bridge.guests.filter fun g => !g.answersTo (Wire.displaySpeaker line)
  have hstuck : listeners.filter (fun g => g.receipt r.bridge.capacity = .full) = [] := by
    refine List.filter_eq_nil_iff.2 fun g hg => ?_
    simp [htaken g (List.mem_of_mem_filter hg)]
  have hguests : (r.bridge.guests.map fun g =>
      if g.answersTo (Wire.displaySpeaker line) then g else g.take r.bridge.capacity line) =
        r.bridge.guests.map (Guest.hear [line]) := by
    refine List.map_congr_left fun g hg => ?_
    cases ha : g.answersTo (Wire.displaySpeaker line) with
    | true => simp [Guest.hear, Guest.hears, ha]
    | false => simp [Guest.hear, Guest.hears, Guest.take, ha, htaken g hg]
  refine ⟨listeners.filter fun g => g.receipt r.bridge.capacity = .taken, ?_⟩
  simp only [listeners] at hstuck
  simp only [forward, hstuck, List.foldl_nil, foldl_queued, hguests, listeners]

theorem forward_heard {r : Room} (line : Text)
    (hroom : ∀ g ∈ r.bridge.guests, g.HasRoom r.bridge.capacity 1) :
    OnlyHeard [line] r (r.forward line).2 ∧ (r.forward line).2.feed = r.feed := by
  obtain ⟨takers, hforward⟩ := forward_eq line hroom
  rw [hforward]
  refine ⟨⟨rfl, rfl, rfl, rfl, rfl, ?_⟩, rfl⟩
  have hnone : (takers.map fun g => Event.queued g.id line).filterMap Event.written? = [] :=
    List.filterMap_eq_nil_iff.2 fun e he => by
      obtain ⟨g, -, rfl⟩ := List.mem_map.1 he
      rfl
  simp only [written, List.filterMap_append, hnone, List.append_nil]

/-! ## One move of the worker -/

section Serve

variable {r : Room} {line : Text}

theorem serve?_hand {s : SubscriberId} {left : List SubscriberId}
    (h : r.feed.delivery = some ⟨line, s :: left⟩) :
    r.serve? =
      let handed := { r with feed := { r.feed with delivery := some ⟨line, left⟩ } }.record
        (.handed s line)
      some (if r.bridgeSubscription = some s then (handed.forward line).2 else handed) := by
  simp [serve?, hand?, Feed.hand?, Feed.handOn_taken, h]
  rfl

theorem serve?_finish (h : r.feed.delivery = some ⟨line, []⟩) :
    r.serve? = some { r with feed := { r.feed with delivery := none } } := by
  simp [serve?, hand?, Feed.hand?, finish?, Feed.finish?, h]

variable (h : r.feed.delivery = none) (hs : r.feed.stopped = false)
include h hs

theorem serve?_dequeue {rest : List Text} (hq : r.feed.queue = line :: rest) :
    r.serve? = some { r with feed := { r.feed with
      queue := rest, delivery := some ⟨line, r.feed.subscribers⟩ } } := by
  simp [serve?, hand?, Feed.hand?, finish?, Feed.finish?, dequeue?, Feed.dequeue?, h, hs, hq]

theorem serve?_idle (hq : r.feed.queue = []) : r.serve? = none := by
  simp [serve?, hand?, Feed.hand?, finish?, Feed.finish?, dequeue?, Feed.dequeue?, exit?,
    Feed.exit?, h, hs, hq]

end Serve

/-- What comes of a move of the worker of a running feed: there is less to do, and what the guests
heard, if anything, was the next on its way to the bridge. -/
structure Served (b : SubscriberId) (lines : List Text) (r r' : Room) : Prop where
  heard : OnlyHeard lines r r'
  coming : r.feed.coming b = lines ++ r'.feed.coming b
  work : r'.feed.work < r.feed.work
  going : r'.feed.stopped = false

section Served

variable {r : Room} {b : SubscriberId} {line : Text} (hs : r.feed.stopped = false)
include hs

theorem dequeue_served {rest : List Text} (hd : r.feed.delivery = none)
    (hq : r.feed.queue = line :: rest) :
    Served b [] r { r with feed := { r.feed with
      queue := rest, delivery := some ⟨line, r.feed.subscribers⟩ } } := by
  exact ⟨feed_onlyHeard r _, (Feed.coming_dequeue b hd hq).symm, Feed.work_dequeue hd hq, hs⟩

theorem finish_served (hd : r.feed.delivery = some ⟨line, []⟩) :
    Served b [] r { r with feed := { r.feed with delivery := none } } := by
  exact ⟨feed_onlyHeard r _, (Feed.coming_finish b hd).symm, Feed.work_finish hd, hs⟩

variable (hb : r.bridgeSubscription = some b)
include hb

/-- The guests hear a line when it is the turn of the bridge. -/
theorem hand_served {s : SubscriberId} {left : List SubscriberId}
    (hroom : ∀ g ∈ r.bridge.guests, g.HasRoom r.bridge.capacity (r.feed.coming b).length)
    (hd : r.feed.delivery = some ⟨line, s :: left⟩) :
    ∃ r' lines, r.serve? = some r' ∧ Served b lines r r' := by
  let handed := { r with feed := { r.feed with delivery := some ⟨line, left⟩ } }.record
    (.handed s line)
  have hhanded : OnlyHeard [] r handed := (feed_onlyHeard r _).trans (handed_onlyHeard _ s line)
  have hwork : handed.feed.work < r.feed.work := Feed.work_hand hd
  rw [serve?_hand hd]
  by_cases hsb : s = b
  · subst hsb
    have hcoming : r.feed.coming s = [line] ++ handed.feed.coming s := by
      rw [Feed.coming_hand s hd, if_pos rfl]
      rfl
    have hline : ∀ g ∈ handed.bridge.guests, g.HasRoom handed.bridge.capacity 1 := by
      refine fun g hg => (hroom g hg).mono ?_
      rw [hcoming, List.length_append, List.length_singleton]
      omega
    obtain ⟨hheard, hfeed⟩ := forward_heard line hline
    refine ⟨_, [line], congrArg some (if_pos hb), hhanded.trans hheard, ?_, ?_, ?_⟩
    · rw [hfeed, hcoming]
    · rw [hfeed]; exact hwork
    · rw [hfeed]; exact hs
  · have hother : r.bridgeSubscription ≠ some s := fun e =>
      hsb (Option.some.inj (e.symm.trans hb))
    refine ⟨handed, [], congrArg some (if_neg hother), hhanded, ?_, hwork, hs⟩
    rw [Feed.coming_hand b hd, if_neg hsb]
    rfl

/-- The worker has to wait only if there is nothing left to do. -/
theorem serve?_served
    (hroom : ∀ g ∈ r.bridge.guests, g.HasRoom r.bridge.capacity (r.feed.coming b).length) :
    (r.serve? = none ∧ r.feed.queue = [] ∧ r.feed.delivery = none) ∨
      ∃ r' lines, r.serve? = some r' ∧ Served b lines r r' := by
  cases hd : r.feed.delivery with
  | none =>
    cases hq : r.feed.queue with
    | nil => exact .inl ⟨serve?_idle hd hs hq, rfl, rfl⟩
    | cons line rest => exact .inr ⟨_, [], serve?_dequeue hd hs hq, dequeue_served hs hd hq⟩
  | some d =>
    obtain ⟨line, left⟩ := d
    cases left with
    | nil => exact .inr ⟨_, [], serve?_finish hd, finish_served hs hd⟩
    | cons s left => exact .inr (hand_served hs hb hroom hd)

end Served

/-! ## To the end of the work -/

variable {r : Room} {b : SubscriberId}

/-- With more moves than there is work, the worker of a running feed gets to the end of it. -/
theorem serve_heard {n : Nat} (hn : r.feed.work < n) (hs : r.feed.stopped = false)
    (hb : r.bridgeSubscription = some b)
    (hroom : ∀ g ∈ r.bridge.guests, g.HasRoom r.bridge.capacity (r.feed.coming b).length) :
    OnlyHeard (r.feed.coming b) r (serve n r) ∧
      (serve n r).feed.queue = [] ∧ (serve n r).feed.delivery = none := by
  induction n generalizing r with
  | zero => omega
  | succ n ih =>
    rw [serve]
    rcases serve?_served hs hb hroom with ⟨hidle, hq, hd⟩ | ⟨r', lines, hr', h⟩
    · rw [hidle]
      have hnothing : r.feed.coming b = [] := Feed.coming_eq_nil b hd hq
      rw [hnothing]
      exact ⟨.nothing rfl rfl rfl rfl rfl, hq, hd⟩
    · rw [hr']
      have hroom' : ∀ g ∈ r'.bridge.guests,
          g.HasRoom r'.bridge.capacity (r'.feed.coming b).length := by
        rw [h.heard.guests, h.heard.capacity]
        intro g hg
        obtain ⟨g0, hg0, rfl⟩ := List.mem_map.1 hg
        have h0 := hroom g0 hg0
        rw [h.coming, List.length_append] at h0
        exact h0.hear
      obtain ⟨hrest, hdrained⟩ := ih (Nat.lt_of_lt_of_le h.work (Nat.le_of_lt_succ hn)) h.going
        (h.heard.subscription.trans hb) hroom'
      rw [h.coming]
      exact ⟨h.heard.trans hrest, hdrained⟩

theorem deliverAll_heard (hs : r.feed.stopped = false) (hb : r.bridgeSubscription = some b)
    (hroom : ∀ g ∈ r.bridge.guests, g.HasRoom r.bridge.capacity (r.feed.coming b).length) :
    OnlyHeard (r.feed.coming b) r r.deliverAll ∧
      r.deliverAll.feed.queue = [] ∧ r.deliverAll.feed.delivery = none :=
  serve_heard (Nat.lt_succ_self _) hs hb hroom

end Room
end Parley
