/-
What it comes to when a frame is sent: it is written to a connection (`Wrote`), a guest's mailbox
takes it (`Queued`), or the guest it was for is put out because its mailbox is full (`Evicted`).
Each says of every part of a room what it holds afterwards, by what it held before.
-/
import Parley.Proofs.Room.Changes

namespace Parley

namespace Guest

variable {capacity : Nat} {g : Guest}

theorem receipt_eq_taken :
    g.receipt capacity = .taken ↔ g.reading = true ∧ g.waiting.length < capacity := by
  unfold receipt
  cases g.reading <;> simp

theorem receipt_eq_full :
    g.receipt capacity = .full ↔ g.reading = true ∧ capacity ≤ g.waiting.length := by
  unfold receipt
  cases g.reading <;> simp

theorem receipt_eq_gone : g.receipt capacity = .gone ↔ g.reading = false := by
  unfold receipt
  cases g.reading <;> simp
  split <;> simp

end Guest

namespace Room

/-! ## Connections -/

/-- A frame has been written to a connection, and this is what became of it: a link that has been
closed refuses it, any other reacts as it does to a frame after so many. The link has had one frame
more to take, one more counts as sent or as failed, and it is logged; every other link and all else
stay as they were. -/
structure Wrote (r : Room) (conn : ConnId) (frame : Text) (outcome : Outcome) (r' : Room) :
    Prop where
  reaction : outcome =
    if (r.links conn).closes = 0 then (r.links conn).react (r.links conn).tries frame
    else .refused .connectionClosed
  link : r'.links conn = { r.links conn with
    tries := (r.links conn).tries + 1
    taken := (r.links conn).taken + if outcome = .accepted then 1 else 0 }
  others : ∀ c ≠ conn, r'.links c = r.links c
  tally : r'.tally =
    if outcome = .accepted then { r.tally with framesSent := r.tally.framesSent + 1 }
    else { r.tally with sendFailures := r.tally.sendFailures + 1 }
  log : r'.log = r.log ++ [.wrote conn frame outcome]
  roster : r'.roster = r.roster
  bridge : r'.bridge = r.bridge
  feed : r'.feed = r.feed
  subscription : r'.bridgeSubscription = r.bridgeSubscription
  directory : r'.directory = r.directory

theorem wrote_write (r : Room) (conn : ConnId) (frame : Text) :
    Wrote r conn frame (r.write conn frame).1 (r.write conn frame).2 := by
  constructor
  case reaction =>
    by_cases h : (r.links conn).closes = 0 <;>
      simp [write, Link.write, Link.outcome, Link.isClosed, h]
  case link =>
    refine (Links.set_self ..).trans ?_
    have houtcome : (r.write conn frame).1 = (r.links conn).outcome frame := rfl
    rw [houtcome]
    by_cases h : (r.links conn).outcome frame = .accepted <;> simp [h]
  case others => exact fun c hc => Links.set_of_ne _ _ hc
  case tally =>
    have hcounted : ∀ outcome : Outcome, r.tally.writeEnded outcome =
        if outcome = .accepted then { r.tally with framesSent := r.tally.framesSent + 1 }
        else { r.tally with sendFailures := r.tally.sendFailures + 1 } := by
      rintro (_ | _ | _) <;> rfl
    exact hcounted _
  all_goals rfl

/-! ## Mailboxes -/

/-- A guest that reads has been sent a frame for which its mailbox had room: the frame is the last
in its mailbox, and it is logged; every other guest and all else stay as they were. -/
structure Queued (r : Room) (g : Guest) (frame : Text) (r' : Room) : Prop where
  reading : g.reading = true
  space : g.waiting.length < r.bridge.capacity
  guests : ∃ before after, r.bridge.guests = before ++ g :: after ∧
    r'.bridge.guests = before ++ { g with waiting := g.waiting ++ [frame] } :: after
  departed : r'.bridge.departed = r.bridge.departed
  capacity : r'.bridge.capacity = r.bridge.capacity
  log : r'.log = r.log ++ [.queued g.id frame]
  roster : r'.roster = r.roster
  links : r'.links = r.links
  tally : r'.tally = r.tally
  feed : r'.feed = r.feed
  subscription : r'.bridgeSubscription = r.bridgeSubscription
  directory : r'.directory = r.directory

/-- A guest that reads has been put out, its mailbox being full: it is gone with its nickname, what
waits for it stays readable, and its end is logged; every other guest and all else stay as they
were. -/
structure Evicted (r : Room) (g : Guest) (r' : Room) : Prop where
  reading : g.reading = true
  full : r.bridge.capacity ≤ g.waiting.length
  guests : ∃ before after, r.bridge.guests = before ++ g :: after ∧
    r'.bridge.guests = before ++ after
  departed : r'.bridge.departed = (g.id, g.waiting) :: r.bridge.departed
  capacity : r'.bridge.capacity = r.bridge.capacity
  log : r'.log = r.log ++ [.ended g.id]
  roster : r'.roster = { r.roster with
    reserved := r.roster.reserved.filter fun name => g.nickname ≠ some name }
  links : r'.links = r.links
  tally : r'.tally = r.tally
  feed : r'.feed = r.feed
  subscription : r'.bridgeSubscription = r.bridgeSubscription
  directory : r'.directory = r.directory

/-- All that it means for a guest to go. -/
theorem detach_found {r : Room} {id : SessionId} {g : Guest} (h : r.bridge.guest? id = some g) :
    r.detach id = { r with
      roster := { r.roster with
        reserved := r.roster.reserved.filter fun name => g.nickname ≠ some name }
      bridge := { r.bridge with
        guests := r.bridge.guests.filter (·.id ≠ id)
        departed := if g.reading then (id, g.waiting) :: r.bridge.departed
          else r.bridge.departed }
      log := r.log ++ [.ended id] } := by
  obtain ⟨gid, nickname, waiting, reading⟩ := g
  simp only [detach, Bridge.detach?, h, Option.map_some]
  cases nickname with
  | none => simp [record]
  | some name => simp [release_eq, record, eq_comm]

theorem capacity_detach (r : Room) (id : SessionId) :
    (r.detach id).bridge.capacity = r.bridge.capacity := by
  cases hd : r.bridge.detach? id with
  | none => rw [detach_none hd]
  | some p =>
    obtain ⟨g, bridge⟩ := p
    rw [(detach_some hd).1, (Bridge.detach?_some hd).2.2]

section Receipts

variable {r : Room} {id : SessionId} {g : Guest} (frame : Text)
  (hg : r.bridge.guest? id = some g)
include hg

theorem sendTo_taken (h : g.receipt r.bridge.capacity = .taken) :
    r.sendTo id frame = (true, { r with
      bridge := r.bridge.update id (Guest.take r.bridge.capacity frame) }.record
        (.queued id frame)) := by
  simp only [sendTo, hg, h]

theorem sendTo_full (h : g.receipt r.bridge.capacity = .full) :
    r.sendTo id frame = (false, r.detach id) := by
  simp only [sendTo, hg, h]

theorem sendTo_gone (h : g.receipt r.bridge.capacity = .gone) :
    r.sendTo id frame = (false, r) := by
  simp only [sendTo, hg, h]

end Receipts

section Guests

variable {r : Room} (hw : r.WF) {g : Guest} (hg : g ∈ r.bridge.guests)
include hw hg

theorem queued_sendTo (ht : g.receipt r.bridge.capacity = .taken) (frame : Text) :
    Queued r g frame (r.sendTo g.id frame).2 := by
  rw [sendTo_taken frame (hw.guest?_eq_some.2 ⟨hg, rfl⟩) ht]
  have htake : g.take r.bridge.capacity frame = { g with waiting := g.waiting ++ [frame] } :=
    if_pos ht
  constructor
  case reading => exact (Guest.receipt_eq_taken.1 ht).1
  case space => exact (Guest.receipt_eq_taken.1 ht).2
  case guests =>
    rw [← htake]
    exact exists_split_map hw.ids hg _
  all_goals rfl

theorem evicted_detach (hf : g.receipt r.bridge.capacity = .full) :
    Evicted r g (r.detach g.id) := by
  obtain ⟨hreading, hfull⟩ := Guest.receipt_eq_full.1 hf
  rw [detach_found (hw.guest?_eq_some.2 ⟨hg, rfl⟩)]
  constructor
  case reading => exact hreading
  case full => exact hfull
  case guests => exact exists_split_filter hw.ids hg
  case departed => exact if_pos hreading
  all_goals rfl

end Guests

/-! ## What stays -/

section Stay

variable {r r' : Room} {g h : Guest} {frame : Text}

theorem Evicted.onlyEvicts (hp : Evicted r g r') : OnlyEvicts r r' where
  sessions := by rw [hp.roster]
  holders := by rw [hp.roster]
  registered := by rw [hp.roster]
  reserved := by
    rw [hp.roster]
    exact List.filter_sublist
  links := hp.links
  feed := hp.feed
  tally := hp.tally
  subscription := hp.subscription
  directory := hp.directory

/-- Whoever is not sent a frame has its mailbox as it was. -/
theorem Queued.stays (hq : Queued r g frame r') (hh : h ∈ r.bridge.guests) (hne : h ≠ g) :
    h ∈ r'.bridge.guests := by
  obtain ⟨before, after, hbefore, hafter⟩ := hq.guests
  rw [hbefore] at hh
  have hother : h ∈ before ++ after := by simpa [hne] using hh
  rw [hafter]
  exact ((List.sublist_cons_self _ after).append_left before).subset hother

/-- Nobody is gone because of a frame that was taken. -/
theorem Queued.remains (hq : Queued r g frame r') (hh : h ∈ r.bridge.guests) :
    ∃ h' ∈ r'.bridge.guests, h'.id = h.id := by
  by_cases hne : h = g
  · obtain ⟨before, after, -, hafter⟩ := hq.guests
    rw [hafter, hne]
    exact ⟨_, List.mem_append_right _ List.mem_cons_self, rfl⟩
  · exact ⟨h, hq.stays hh hne, rfl⟩

/-- Only one is put out. -/
theorem Evicted.stays (hp : Evicted r g r') (hh : h ∈ r.bridge.guests) (hne : h ≠ g) :
    h ∈ r'.bridge.guests := by
  obtain ⟨before, after, hbefore, hafter⟩ := hp.guests
  rw [hbefore] at hh
  rw [hafter]
  simpa [hne] using hh

end Stay
end Room
end Parley
