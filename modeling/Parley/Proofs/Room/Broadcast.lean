/-
Messages to everybody. The frame is tried once on the link of each session but the sender's, in the
order of registration and whatever becomes of the tries before; their outcomes are what is logged,
counted and reported (`broadcast_reach`), and the line goes to observers once, after them.
-/
import Parley.Proofs.Room.Speakers
import Parley.Proofs.Room.Unchanged
import Parley.Proofs.Roster.Run

namespace Parley.Room

open Wire (Message Chat)

/-! ## Writes to some sessions -/

/-- The tries to write a frame to each of some sessions, one after the other, with what becomes of
them. -/
def tries (r : Room) (frame : Text) : List Session → List (Session × Outcome)
  | [] => []
  | s :: rest => (s, (r.links s.link).outcome frame) :: (r.write s.link frame).2.tries frame rest

/-- A try as it is logged. -/
def tried (frame : Text) (t : Session × Outcome) : Event := .wrote t.1.link frame t.2

section Writes

variable (frame : Text) (sessions : List Session)

theorem map_fst_tries : ∀ r : Room, (r.tries frame sessions).map (·.1) = sessions := by
  induction sessions with
  | nil => exact fun _ => rfl
  | cons s rest ih => exact fun r => congrArg (s :: ·) (ih _)

theorem length_tries (r : Room) : (r.tries frame sessions).length = sessions.length := by
  rw [← List.length_map (·.1), map_fst_tries]

/-- The tries follow one another as the sessions do. -/
theorem map_sequence_tries (r : Room) :
    (r.tries frame sessions).map (·.1.sequence) = sessions.map (·.sequence) := by
  have h := congrArg (List.map (·.sequence)) (map_fst_tries frame sessions r)
  rwa [List.map_map] at h

theorem writeAll_outcomes : ∀ r : Room,
    (r.writeAll frame sessions).1 = (r.tries frame sessions).map fun (s, o) => (s.id, o) := by
  induction sessions with
  | nil => exact fun _ => rfl
  | cons s rest ih => exact fun r => congrArg (_ :: ·) (ih _)

theorem log_writeAll : ∀ r : Room,
    (r.writeAll frame sessions).2.log = r.log ++ (r.tries frame sessions).map (tried frame) := by
  induction sessions with
  | nil => exact fun r => (List.append_nil _).symm
  | cons s rest ih =>
    intro r
    show ((r.write s.link frame).2.writeAll frame rest).2.log = _
    rw [ih]
    show (r.log ++ [tried frame (s, (r.links s.link).outcome frame)]) ++ _ = _
    rw [List.append_assoc]
    rfl

theorem tries_write (r : Room) (conn c : ConnId) :
    ((r.write conn frame).2.links c).tries =
      (r.links c).tries + if conn = c then 1 else 0 := by
  by_cases h : conn = c
  · subst h
    simp [write, record, Link.write]
  · simp [write, record, Links.set_of_ne _ _ (Ne.symm h), h]

/-- The tries on a link are as many as the sessions that are bound to it. -/
theorem tries_writeAll (c : ConnId) : ∀ r : Room,
    ((r.writeAll frame sessions).2.links c).tries =
      (r.links c).tries + sessions.countP (·.link = c) := by
  induction sessions with
  | nil => exact fun _ => rfl
  | cons s rest ih =>
    intro r
    show (((r.write s.link frame).2.writeAll frame rest).2.links c).tries = _
    rw [ih, tries_write, List.countP_cons]
    simp only [decide_eq_true_eq]
    omega

/-- A try on one link changes nothing for another. -/
theorem tries_congr : ∀ {r r' : Room}, (∀ s ∈ sessions, r'.links s.link = r.links s.link) →
    (sessions.map (·.link)).Nodup →
    r'.tries frame sessions = sessions.map fun s => (s, (r.links s.link).outcome frame) := by
  induction sessions with
  | nil => exact fun _ _ => rfl
  | cons s rest ih =>
    intro r r' hl hn
    obtain ⟨hs, hrest⟩ := List.nodup_cons.1 hn
    have hhead : (r'.links s.link).outcome frame = (r.links s.link).outcome frame := by
      rw [hl s List.mem_cons_self]
    have htail := @ih r (r'.write s.link frame).2 (fun t ht => ?_) hrest
    · rw [tries, htail, hhead]
      rfl
    · have hne : t.link ≠ s.link := fun e => hs (List.mem_map.2 ⟨t, ht, e⟩)
      show (r'.links.set s.link _) t.link = r.links t.link
      rw [Links.set_of_ne _ _ hne, hl t (List.mem_cons_of_mem _ ht)]

/-- On links of their own, what becomes of each try is up to its link alone. -/
theorem tries_of_nodup (r : Room) (hn : (sessions.map (·.link)).Nodup) :
    r.tries frame sessions = sessions.map fun s => (s, (r.links s.link).outcome frame) :=
  tries_congr frame sessions (fun _ _ => rfl) hn

end Writes

/-! ## What is reported -/

/-- The failures among some tries, in their order. -/
def reportedFailures (tries : List (Session × Outcome)) : List (SessionId × Text) :=
  tries.filterMap fun (s, o) => o.failure?.map fun e => (s.id, e.text)

theorem failures_tries (tries : List (Session × Outcome)) :
    Reach.failures (tries.map fun (s, o) => (s.id, o)) = reportedFailures tries := by
  rw [Reach.failures, List.filterMap_map]
  rfl

/-- A try is accepted, or it is reported. -/
theorem countP_accepted (tries : List (Session × Outcome)) :
    tries.countP (·.2 = .accepted) + (reportedFailures tries).length = tries.length := by
  induction tries with
  | nil => rfl
  | cons t rest ih =>
    obtain ⟨s, o⟩ := t
    have hfailed (e : ServerError) (he : o.failure? = some e) :
        reportedFailures ((s, o) :: rest) = (s.id, e.text) :: reportedFailures rest := by
      simp [reportedFailures, he]
    rw [List.countP_cons, List.length_cons]
    cases o with
    | accepted =>
      have hnone : reportedFailures ((s, .accepted) :: rest) = reportedFailures rest := rfl
      rw [hnone, if_pos (by rfl)]
      omega
    | _ =>
      rw [hfailed _ rfl, List.length_cons, if_neg (by simp)]
      omega

/-- The report of a message to everybody. -/
theorem broadcast_reach (r : Room) (frame : Text) (sender : Option SessionId) :
    (r.broadcast frame sender).1 =
      let tries := r.tries frame (r.audience sender)
      { total := tries.length
        succeeded := tries.countP (·.2 = .accepted)
        failed := (reportedFailures tries).length
        errors := reportedFailures tries } := by
  have hcount := countP_accepted (r.tries frame (r.audience sender))
  simp only [broadcast, Reach.ofOutcomes, writeAll_outcomes, failures_tries, List.length_map]
  congr 1
  omega

/-! ## Everybody else -/

theorem publish_running {r : Room} (hs : r.feed.stopped = false) (he : r.feed.ended = false)
    (line : Text) :
    r.publish line = { r with
      feed := { r.feed with queue := r.feed.queue ++ [line] } }.record (.published line) := by
  simp [publish, publish?, Feed.publish?, Feed.enqueue?, hs, he]

/-- What a session says to everybody is tried once on the link of every other session, whatever
becomes of the tries, and never for the session itself; the line is published once; nothing else
changes, and the connection stays active. The report counts every other session, and lists those
that failed in the order of registration. -/
theorem broadcast_tries {r : Room} {s : Session} {raw text : Text}
    (hs : r.roster.lookup? s.id = some s)
    (hraw : Message.parse raw = .ok (.incoming s.id text))
    (htext : ∀ target payload, target ≠ [] → Wire.Marker.addressEnd ∉ target →
      text ≠ Chat.addressed target payload) (now : Nat) :
    let frame := (Message.incoming s.name text).wire
    let line := Wire.displayLine s.name text
    let others := r.roster.sessions.filter (·.id ≠ s.id)
    let handled := r.dispatch s.link .active raw now
    let sending := ({ r with tally := r.tally.frameReceived } : Room).broadcast frame (some s.id)
    let reach := sending.1
    handled.1 = .active ∧ handled.2 = sending.2.publish line ∧
    handled.2.roster = r.roster ∧ handled.2.bridge = r.bridge ∧
    (r.feed.stopped = false → r.feed.ended = false →
      handled.2.feed.queue = r.feed.queue ++ [line] ∧
      handled.2.log = sending.2.log ++ [.published line]) ∧
    (∀ c, (handled.2.links c).tries = (r.links c).tries + others.countP (·.link = c)) ∧
    ∃ tries : List (Session × Outcome), tries.map (·.1) = others ∧
      (r.roster.InOrder → (tries.map (·.1.sequence)).Pairwise (· < ·)) ∧
      ((others.map (·.link)).Nodup →
        tries = others.map fun o => (o, (r.links o.link).outcome frame)) ∧
      sending.2.log = r.log ++ tries.map (tried frame) ∧
      reach.total = others.length ∧ reach.succeeded + reach.failed = reach.total ∧
      reach.succeeded = tries.countP (·.2 = .accepted) ∧
      reach.errors = reportedFailures tries ∧ reach.failed = reach.errors.length := by
  intro frame line others handled sending reach
  let p := Speaker.session s
  let q := p.counted r
  have hothers : r.roster.InOrder → (others.map (·.sequence)).Pairwise (· < ·) := fun ho =>
    ho.ascending.sublist (List.filter_sublist.map _)
  have haudience : q.audience (some s.id) = others := List.filter_congr fun o _ => by simp
  have hhandled : handled = (.active, sending.2.publish line) := by
    have h := Speaker.dispatch_eq (p := p) hs hraw rfl now
    rw [Room.converse, Chat.parse_of_not_addressed htext] at h
    exact h
  have honly : q.OnlyWrites sending.2 := broadcast_onlyWrites q frame (some s.id)
  have hreach : reach = _ := broadcast_reach q frame (some s.id)
  rw [haudience] at hreach
  rw [hhandled, hreach]
  refine ⟨rfl, rfl, ?_, ?_, fun hgoing hnotEnded => ?_, fun c => ?_,
    q.tries frame others, map_fst_tries .., map_sequence_tries frame others q ▸ hothers,
    tries_of_nodup frame others q, ?_,
    length_tries .., countP_accepted _, rfl, rfl, rfl⟩
  · exact (roster_publish ..).trans honly.roster
  · exact (bridge_publish ..).trans honly.bridge
  · rw [publish_running (by rw [honly.feed]; exact hgoing) (by rw [honly.feed]; exact hnotEnded)]
    exact ⟨congrArg (fun feed : Feed => feed.queue ++ [line]) honly.feed, rfl⟩
  · rw [links_publish, ← haudience]
    exact tries_writeAll frame _ c q
  · rw [← haudience]
    exact log_writeAll frame _ q

/-- One of two listeners stalls; the other one is written to all the same, and the speaker is
not. -/
theorem broadcast_tries_of_stalled :
    let ann : Session := ⟨"1".toList, "ann".toList, ⟨1⟩, 1, 0⟩
    let bob : Session := ⟨"2".toList, "bob".toList, ⟨2⟩, 2, 0⟩
    let cal : Session := ⟨"3".toList, "cal".toList, ⟨3⟩, 3, 0⟩
    let r : Room := {
      roster := { sessions := [ann, bob, cal] }
      links := fun c => if c = ⟨2⟩ then { react := fun _ _ => .stalled } else {} }
    let raw := (Message.incoming ann.id "hi".toList).wire
    r.roster.lookup? ann.id = some ann ∧
    Message.parse raw = .ok (.incoming ann.id "hi".toList) ∧
    (r.dispatch ann.link .active raw 0).1 = .active ∧
    ∀ c, ((r.dispatch ann.link .active raw 0).2.links c).tries =
      (r.links c).tries + [bob, cal].countP (·.link = c) := by
  intro ann bob cal r raw
  have hs : r.roster.lookup? ann.id = some ann := by decide
  have hraw : Message.parse raw = .ok (.incoming ann.id "hi".toList) := by decide
  have h := broadcast_tries hs hraw
    (fun target payload _ _ e => absurd (List.cons.inj e).1 (by decide)) 0
  exact ⟨hs, hraw, h.1, h.2.2.2.2.2.1⟩

end Parley.Room
