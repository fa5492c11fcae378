/-
Lines that are forwarded to every guest. The guests are visited one after the other, in whatever
order they come: whose mailbox has room takes the line, whose mailbox is full is noted and put out
once the visits are over. What comes of it depends on each guest alone, so it is the same in every
order (`forward_exact`).

While the visits last, the room is that in which those who were visited and have room have heard the
line (`visits_eq`); while guests are put out, it is that without the ones put out so far
(`detachAll_eq`).
-/
import Mathlib.Data.List.Induction
import Parley.Proofs.Room.Draining
import Parley.Proofs.Room.Private

namespace Parley

/-! ## Who takes a line, and who is put out over it -/

namespace Guest

variable (capacity : Nat) (speaker line : Text) (g : Guest)

/-- What a speaker says is for the guest: it goes by another id and another nickname. -/
def ListensTo : Prop := g.id ≠ speaker ∧ g.nickname ≠ some speaker

/-- The guest takes what a speaker says: it listens, it reads, and its mailbox has room. -/
def Takes : Prop := g.ListensTo speaker ∧ g.reading = true ∧ g.waiting.length < capacity

/-- What a speaker says is too much for the guest: it listens and reads, but its mailbox is full. -/
def Overflows : Prop := g.ListensTo speaker ∧ g.reading = true ∧ capacity ≤ g.waiting.length

/-- The guest with one more frame to read. -/
def put : Guest := { g with waiting := g.waiting ++ [line] }

instance : Decidable (g.ListensTo speaker) := inferInstanceAs (Decidable (_ ∧ _))

instance : Decidable (g.Takes capacity speaker) := inferInstanceAs (Decidable (_ ∧ _))

instance : Decidable (g.Overflows capacity speaker) := inferInstanceAs (Decidable (_ ∧ _))

variable {capacity speaker g}

theorem answersTo_eq_false : g.answersTo speaker = false ↔ g.ListensTo speaker := by
  simp [answersTo, ListensTo]

theorem takes_iff :
    g.Takes capacity speaker ↔ g.answersTo speaker = false ∧ g.receipt capacity = .taken := by
  rw [answersTo_eq_false, receipt_eq_taken, Takes]

theorem overflows_iff :
    g.Overflows capacity speaker ↔ g.answersTo speaker = false ∧ g.receipt capacity = .full := by
  rw [answersTo_eq_false, receipt_eq_full, Overflows]

/-- Nobody takes a line that is too much for it. -/
theorem Takes.not_overflows (h : g.Takes capacity speaker) : ¬ g.Overflows capacity speaker :=
  fun full => Nat.not_lt.2 full.2.2 h.2.2

theorem take_of_taken (h : g.receipt capacity = .taken) : g.take capacity line = g.put line :=
  if_pos h

end Guest

namespace Room

/-! ## Visiting the guests -/

/-- Visits on their way: how many guests have taken the line, who is to be put out, and the room. -/
structure Visits where
  taken : Nat := 0
  stuck : List SessionId := []
  room : Room

/-- Visits the guest with an id. -/
def Visits.visit (line : Text) (v : Visits) (id : SessionId) : Visits :=
  match v.room.bridge.guest? id with
  | none => v
  | some g =>
    if g.answersTo (Wire.displaySpeaker line) then v
    else
      match g.receipt v.room.bridge.capacity with
      | .taken => { v with taken := v.taken + 1, room := (v.room.sendTo id line).2 }
      | .full => { v with stuck := v.stuck ++ [id] }
      | .gone => v

/-- Visits guests in some order. -/
def visits (r : Room) (line : Text) (order : List Guest) : Visits :=
  order.foldl (fun v g => v.visit line g.id) { room := r }

/-- Forwards a line to guests in some order, and puts out those whose mailbox is full; says how many
took the line. -/
def forwardIn (r : Room) (order : List Guest) (line : Text) : Nat × Room :=
  let v := r.visits line order
  (v.taken, v.stuck.foldl detach v.room)

/-! ## The room while it lasts -/

/-- The guests among some who take a line. -/
def takers (r : Room) (line : Text) (order : List Guest) : List Guest :=
  order.filter fun g => g.Takes r.bridge.capacity (Wire.displaySpeaker line)

/-- The guests among some for whom a line is too much. -/
def stuck (r : Room) (line : Text) (order : List Guest) : List Guest :=
  order.filter fun g => g.Overflows r.bridge.capacity (Wire.displaySpeaker line)

/-- The room in which some guests have heard a line. -/
def heardBy (r : Room) (line : Text) (takers : List Guest) : Room :=
  { r with
    bridge := { r.bridge with
      guests := r.bridge.guests.map fun g => if g ∈ takers then g.put line else g }
    log := r.log ++ takers.map fun g => .queued g.id line }

/-- The room without some guests, who go on reading what waits for them. -/
def without (r : Room) (gone : List Guest) : Room :=
  { r with
    roster := { r.roster with
      reserved := r.roster.reserved.filter fun name => ∀ g ∈ gone, g.nickname ≠ some name }
    bridge := { r.bridge with
      guests := r.bridge.guests.filter (· ∉ gone)
      departed := (gone.map fun g => (g.id, g.waiting)).reverse ++ r.bridge.departed }
    log := r.log ++ gone.map fun g => .ended g.id }

theorem mem_takers {r : Room} {line : Text} {order : List Guest} {g : Guest} :
    g ∈ r.takers line order ↔
      g ∈ order ∧ g.Takes r.bridge.capacity (Wire.displaySpeaker line) := by
  simp [takers]

theorem mem_stuck {r : Room} {line : Text} {order : List Guest} {g : Guest} :
    g ∈ r.stuck line order ↔
      g ∈ order ∧ g.Overflows r.bridge.capacity (Wire.displaySpeaker line) := by
  simp [stuck]

theorem not_stuck_of_taker {r : Room} {line : Text} {order : List Guest} {g : Guest}
    (h : g ∈ r.takers line order) : g ∉ r.stuck line order :=
  fun hs => (mem_takers.1 h).2.not_overflows (mem_stuck.1 hs).2

section Guests

variable {r : Room} (hids : (r.bridge.guests.map (·.id)).Nodup)
include hids

theorem ids_heardBy (line : Text) (takers : List Guest) :
    ((r.heardBy line takers).bridge.guests.map (·.id)).Nodup := by
  have hsame : (r.heardBy line takers).bridge.guests.map (·.id) = r.bridge.guests.map (·.id) := by
    simp only [heardBy, List.map_map]
    refine List.map_congr_left fun g _ => ?_
    simp only [Function.comp_apply]
    split <;> rfl
  rwa [hsame]

/-- Whoever has not heard a line is still found as it was. -/
theorem guest?_heardBy {g : Guest} (hg : g ∈ r.bridge.guests) (line : Text) {takers : List Guest}
    (hnot : g ∉ takers) : (r.heardBy line takers).bridge.guest? g.id = some g :=
  (find?_key_eq_some (ids_heardBy hids line takers)).2
    ⟨List.mem_map.2 ⟨g, hg, if_neg hnot⟩, rfl⟩

/-- One more guest takes the line. -/
theorem sendTo_heardBy {g : Guest} (hg : g ∈ r.bridge.guests) (line : Text) {takers : List Guest}
    (hnot : g ∉ takers) (htaken : g.receipt r.bridge.capacity = .taken) :
    ((r.heardBy line takers).sendTo g.id line).2 = r.heardBy line (takers ++ [g]) := by
  have hguests : ((r.bridge.guests.map fun h => if h ∈ takers then h.put line else h).map fun h =>
      if h.id = g.id then h.take r.bridge.capacity line else h) =
        r.bridge.guests.map fun h => if h ∈ takers ++ [g] then h.put line else h := by
    rw [List.map_map]
    refine List.map_congr_left fun h hh => ?_
    by_cases hid : h.id = g.id
    · obtain rfl : h = g := eq_of_key_eq hids hh hg hid
      simp [hnot, Guest.take_of_taken line htaken]
    · have hne : h ≠ g := fun e => hid (congrArg _ e)
      have hout : (if h ∈ takers then h.put line else h).id ≠ g.id := by
        split <;> exact hid
      simp [hne, hout]
  rw [sendTo_taken line (guest?_heardBy hids hg line hnot) htaken]
  simp only [heardBy, Bridge.update, record, hguests, List.map_append, List.map_singleton,
    List.append_assoc]

/-- A visit to a guest who has not taken the line. -/
theorem visit_eq {g : Guest} (hg : g ∈ r.bridge.guests) (line : Text) {heard : List Guest}
    (hnot : g ∉ heard) (taken : Nat) (full : List SessionId) :
    (⟨taken, full, r.heardBy line heard⟩ : Visits).visit line g.id =
      ⟨taken + (r.takers line [g]).length, full ++ (r.stuck line [g]).map (·.id),
        r.heardBy line (heard ++ r.takers line [g])⟩ := by
  let speaker := Wire.displaySpeaker line
  have hcap : (r.heardBy line heard).bridge.capacity = r.bridge.capacity := rfl
  simp only [Visits.visit]
  rw [guest?_heardBy hids hg line hnot]
  cases ha : g.answersTo speaker with
  | true =>
    have ht : ¬ g.Takes r.bridge.capacity speaker := by simp [Guest.takes_iff, ha]
    have hf : ¬ g.Overflows r.bridge.capacity speaker := by simp [Guest.overflows_iff, ha]
    simp [takers, stuck, speaker, ha, ht, hf]
  | false =>
    cases hc : g.receipt r.bridge.capacity with
    | taken =>
      have ht : g.Takes r.bridge.capacity speaker := Guest.takes_iff.2 ⟨ha, hc⟩
      have hsent := sendTo_heardBy hids hg line hnot hc
      simp [takers, stuck, speaker, ha, hcap, hc, ht, ht.not_overflows, hsent]
    | full =>
      have hf : g.Overflows r.bridge.capacity speaker := Guest.overflows_iff.2 ⟨ha, hc⟩
      have ht : ¬ g.Takes r.bridge.capacity speaker := fun ht => ht.not_overflows hf
      simp [takers, stuck, speaker, ha, hcap, hc, ht, hf]
    | gone =>
      have ht : ¬ g.Takes r.bridge.capacity speaker := by simp [Guest.takes_iff, hc]
      have hf : ¬ g.Overflows r.bridge.capacity speaker := by simp [Guest.overflows_iff, hc]
      simp [takers, stuck, speaker, ha, hcap, hc, ht, hf]

/-- Who has been visited has taken the line, or is to be put out, or was left as it is. -/
theorem visits_eq (line : Text) {done : List Guest} (hdone : (done.map (·.id)).Nodup)
    (hsub : done ⊆ r.bridge.guests) :
    r.visits line done = ⟨(r.takers line done).length, (r.stuck line done).map (·.id),
      r.heardBy line (r.takers line done)⟩ := by
  induction done using List.reverseRecOn with
  | nil => simp [visits, heardBy, takers, stuck]
  | append_singleton done g ih =>
    have hg : g ∈ r.bridge.guests := hsub (by simp)
    obtain ⟨hbefore, hnot⟩ := of_nodup_map_concat hdone
    have hnew : g ∉ r.takers line done := fun hm => hnot (List.mem_of_mem_filter hm)
    have hlast : r.visits line (done ++ [g]) = (r.visits line done).visit line g.id := by
      simp [visits]
    rw [hlast, ih hbefore fun h hh => hsub (List.mem_append_left _ hh), visit_eq hids hg line hnew]
    simp only [takers, stuck, List.filter_append, List.length_append, List.map_append]

/-! ## Putting guests out -/

/-- Whoever has not been put out is still found as it was. -/
theorem guest?_without {g : Guest} (hg : g ∈ r.bridge.guests) {gone : List Guest}
    (hnot : g ∉ gone) : (r.without gone).bridge.guest? g.id = some g :=
  (find?_key_eq_some (nodup_map_filter hids _)).2
    ⟨List.mem_filter.2 ⟨hg, by simpa using hnot⟩, rfl⟩

/-- Whoever has been put out is not found any more. -/
theorem guest?_put_out {g : Guest} (hg : g ∈ r.bridge.guests) {gone : List Guest}
    (hgone : g ∈ gone) : (r.without gone).bridge.guest? g.id = none := by
  refine List.find?_eq_none.2 fun h hh => ?_
  obtain ⟨hmem, hleft⟩ := List.mem_filter.1 hh
  rw [decide_eq_true_eq]
  intro hid
  rw [eq_of_key_eq hids hmem hg hid] at hleft
  exact of_decide_eq_true hleft hgone

/-- One more guest is put out. -/
theorem detach_without {g : Guest} (hg : g ∈ r.bridge.guests) (hreading : g.reading = true)
    {gone : List Guest} (hnot : g ∉ gone) :
    (r.without gone).detach g.id = r.without (gone ++ [g]) := by
  have hguests : (r.bridge.guests.filter (· ∉ gone)).filter (·.id ≠ g.id) =
      r.bridge.guests.filter (· ∉ gone ++ [g]) := by
    rw [List.filter_filter]
    refine List.filter_congr fun h hh => ?_
    have hid : h.id = g.id ↔ h = g := ⟨eq_of_key_eq hids hh hg, fun e => e ▸ rfl⟩
    simp only [ne_eq, hid, List.mem_append, List.mem_singleton, not_or, Bool.decide_and,
      Bool.and_comm]
  have hreserved : (r.roster.reserved.filter fun name => ∀ h ∈ gone, h.nickname ≠ some name).filter
      (fun name => g.nickname ≠ some name) =
        r.roster.reserved.filter fun name => ∀ h ∈ gone ++ [g], h.nickname ≠ some name := by
    rw [List.filter_filter]
    refine List.filter_congr fun name _ => ?_
    simp only [List.forall_mem_append, List.forall_mem_singleton, Bool.decide_and, Bool.and_comm]
  rw [detach_found (guest?_without hids hg hnot), hreading]
  simp only [without, hguests, hreserved, if_true, List.map_append, List.reverse_append,
    List.map_singleton, List.reverse_singleton, List.nil_append, List.cons_append,
    List.append_assoc]

/-- Who reads is put out, one after the other. -/
theorem detachAll_eq {gone : List Guest} (hgone : (gone.map (·.id)).Nodup)
    (hsub : gone ⊆ r.bridge.guests) (hreading : ∀ g ∈ gone, g.reading = true) :
    (gone.map (·.id)).foldl detach r = r.without gone := by
  induction gone using List.reverseRecOn with
  | nil => simp [without]
  | append_singleton gone g ih =>
    obtain ⟨hbefore, hnot⟩ := of_nodup_map_concat hgone
    rw [List.map_append, List.foldl_append,
      ih hbefore (fun h hh => hsub (List.mem_append_left _ hh))
        fun h hh => hreading h (List.mem_append_left _ hh)]
    exact detach_without hids (hsub (by simp)) (hreading g (by simp)) hnot

/-! ## All of it -/

section Order

variable (line : Text) {order : List Guest} (horder : order.Perm r.bridge.guests)
include horder

omit hids in
/-- Whoever is stuck has not heard the line. -/
theorem stuck_subset :
    r.stuck line order ⊆ (r.heardBy line (r.takers line order)).bridge.guests := by
  intro g hg
  have hmem : g ∈ r.bridge.guests := horder.mem_iff.1 (mem_stuck.1 hg).1
  exact List.mem_map.2 ⟨g, hmem, if_neg fun ht => not_stuck_of_taker ht hg⟩

/-- Once everybody has been visited, those whose mailbox is full are put out. -/
theorem putOut_eq :
    ((r.stuck line order).map (·.id)).foldl detach (r.heardBy line (r.takers line order)) =
      (r.heardBy line (r.takers line order)).without (r.stuck line order) := by
  have horderIds : (order.map (·.id)).Nodup := (horder.map _).nodup_iff.2 hids
  exact detachAll_eq (ids_heardBy hids line _) (nodup_map_filter horderIds _)
    (stuck_subset line horder) fun g hg => (mem_stuck.1 hg).2.2.1

/-- What comes of a line in some order of the guests. -/
theorem forwardIn_eq :
    r.forwardIn order line = ((r.takers line order).length,
      (r.heardBy line (r.takers line order)).without (r.stuck line order)) := by
  have horderIds : (order.map (·.id)).Nodup := (horder.map _).nodup_iff.2 hids
  simp only [forwardIn, visits_eq hids line horderIds horder.subset]
  rw [putOut_eq hids line horder]

/-- Who is left in the end: everybody who was not stuck, and the takers with the line. -/
theorem guests_left :
    (r.heardBy line (r.takers line order)).bridge.guests.filter (· ∉ r.stuck line order) =
      (r.bridge.guests.filter (· ∉ r.stuck line order)).map fun g =>
        if g ∈ r.takers line order then g.put line else g := by
  simp only [heardBy]
  rw [List.filter_map]
  refine congrArg _ (List.filter_congr fun g hg => ?_)
  simp only [Function.comp_apply]
  split
  · rename_i ht
    -- the guest is found with the line and without it only if these are the same
    have hput : g.put line ∉ r.stuck line order := fun hs => by
      have hsame : g.put line = g := eq_of_key_eq hids (horder.subset (mem_stuck.1 hs).1) hg rfl
      rw [hsame] at hs
      exact not_stuck_of_taker ht hs
    simp only [hput, not_stuck_of_taker ht]
  · rfl

end Order

/-- A line is forwarded by visits to the guests in the order in which they came. -/
theorem forward_eq_forwardIn (line : Text) :
    r.forward line = r.forwardIn r.bridge.guests line := by
  have htakers : (r.bridge.guests.filter fun g => !g.answersTo (Wire.displaySpeaker line)).filter
      (fun g => g.receipt r.bridge.capacity = .taken) = r.takers line r.bridge.guests := by
    rw [takers, List.filter_filter]
    refine List.filter_congr fun g _ => ?_
    simp [Guest.takes_iff, Bool.and_comm]
  have hstuck : (r.bridge.guests.filter fun g => !g.answersTo (Wire.displaySpeaker line)).filter
      (fun g => g.receipt r.bridge.capacity = .full) = r.stuck line r.bridge.guests := by
    rw [stuck, List.filter_filter]
    refine List.filter_congr fun g _ => ?_
    simp [Guest.overflows_iff, Bool.and_comm]
  have hguests : (r.bridge.guests.map fun g =>
      if g.answersTo (Wire.displaySpeaker line) then g else g.take r.bridge.capacity line) =
        r.bridge.guests.map fun g =>
          if g ∈ r.takers line r.bridge.guests then g.put line else g := by
    refine List.map_congr_left fun g hg => ?_
    simp only [takers, List.mem_filter, hg, true_and, decide_eq_true_eq, Guest.takes_iff,
      Guest.take, Guest.put]
    cases g.answersTo (Wire.displaySpeaker line) <;> simp
  have hputOut := putOut_eq hids line (List.Perm.refl r.bridge.guests)
  rw [List.foldl_map] at hputOut
  rw [forwardIn_eq hids line (List.Perm.refl r.bridge.guests), ← hputOut]
  simp only [forward, htakers, hstuck, hguests, foldl_queued]
  rfl

end Guests

/-- However the guests are gone through: a line goes to every guest whose id and nickname differ
from what stands before its first colon and whose mailbox, read and not full, has room, and they are
counted; of the others with such an id and nickname, those whose mailbox is full are put out, which
ends the reservation of their nickname and leaves them what they have yet to read; and nobody and
nothing else changes. Only the order in which this is logged, and in which those who have gone are
listed, is that of the guests. -/
theorem forward_exact {r : Room} (hids : (r.bridge.guests.map (·.id)).Nodup) (line : Text)
    {order : List Guest} (horder : order.Perm r.bridge.guests) :
    let speaker := Text.trim (line.takeWhile (· ≠ ':'))
    let takers := r.bridge.guests.filter fun g => g.Takes r.bridge.capacity speaker
    let stuck := r.bridge.guests.filter fun g => g.Overflows r.bridge.capacity speaker
    r.forward line = r.forwardIn r.bridge.guests line ∧
    (r.forwardIn order line).1 = takers.length ∧
    ∃ left events,
      left.Perm (stuck.map fun g => (g.id, g.waiting)) ∧
      events.Perm ((takers.map fun g => .queued g.id line) ++ stuck.map fun g => .ended g.id) ∧
      (r.forwardIn order line).2 = { r with
        roster := { r.roster with
          reserved := r.roster.reserved.filter fun name => ∀ g ∈ stuck, g.nickname ≠ some name }
        bridge := { r.bridge with
          guests := (r.bridge.guests.filter (· ∉ stuck)).map fun g =>
            if g ∈ takers then { g with waiting := g.waiting ++ [line] } else g
          departed := left ++ r.bridge.departed }
        log := r.log ++ events } := by
  intro speaker takers stuck
  have htakers : (r.takers line order).Perm takers := horder.filter _
  have hstuck : (r.stuck line order).Perm stuck := horder.filter _
  have hforwardIn := forwardIn_eq hids line horder
  refine ⟨forward_eq_forwardIn hids line, ?_, ((r.stuck line order).map _).reverse,
    (r.takers line order).map _ ++ (r.stuck line order).map _,
    (List.reverse_perm _).trans (hstuck.map _), (htakers.map _).append (hstuck.map _), ?_⟩
  · rw [hforwardIn]
    exact htakers.length_eq
  · have hguests := guests_left hids line horder
    simp only [hstuck.mem_iff, htakers.mem_iff] at hguests
    rw [hforwardIn]
    simp only [without, hstuck.mem_iff, hguests]
    simp only [heardBy, Guest.put, List.append_assoc]

/-- Ann says something while one guest listens, one has a full mailbox, and one does not read. -/
theorem forward_from_last_to_first :
    let r : Room := {
      roster := { reserved := ["ann".toList, "bob".toList] }
      bridge := { capacity := 1, guests := [⟨"1".toList, some "ann".toList, [], true⟩,
        ⟨"2".toList, none, [], true⟩, ⟨"3".toList, some "bob".toList, [[]], true⟩,
        ⟨"4".toList, none, [], false⟩] } }
    let line := " ann: hi".toList
    let q := r.forwardIn r.bridge.guests.reverse line
    (r.bridge.guests.map (·.id)).Nodup ∧ r.bridge.guests.reverse.Perm r.bridge.guests ∧
    r.forward line = r.forwardIn r.bridge.guests line ∧ q.1 = 1 ∧
    q.2.roster.reserved = ["ann".toList] ∧
    q.2.bridge.guests = [⟨"1".toList, some "ann".toList, [], true⟩,
      ⟨"2".toList, none, [line], true⟩, ⟨"4".toList, none, [], false⟩] := by
  intro r line q
  obtain ⟨hforward, htaken, left, events, -, -, hroom⟩ :=
    forward_exact (r := r) (by decide) line (List.reverse_perm _)
  refine ⟨by decide, List.reverse_perm _, hforward, htaken.trans (by decide), ?_, ?_⟩
  · rw [hroom]
    rfl
  · rw [hroom]
    rfl

end Room
end Parley
