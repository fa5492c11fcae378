/-
A sweep that nothing comes between. It takes out the sessions that have been silent for too long,
in the order of registration, and each of them is lost in the same way: everybody who is still
there is told, the line goes out, the session is taken out, its link is closed, and it is counted
(`lose`). Three steps of the sweep lose one session, so the whole of it loses them one after the
other (`reap_eq`), and what comes of that is what comes of each (`reap_exact`).
-/
import Parley.Proofs.Room.Attendance
import Parley.Proofs.Room.Broadcast
import Parley.Proofs.Roster.Marks

namespace Parley

namespace Room

/-! ## One session -/

/-- What a roster is without a session. -/
def rosterWithout (r : Room) (s : Session) : Roster :=
  { r.roster with
    sessions := r.roster.sessions.filter (·.id ≠ s.id)
    holders := r.roster.holders.filter (·.1 ≠ s.name) }

/-- What everybody is told of a session that is lost. -/
def lostNotice (s : Session) : Text := (Wire.Message.notice (Sweep.lostText s.name)).wire

/-- Loses a session: everybody is told, the line goes out, the session is taken out, its link is
closed, and it is counted. -/
def lose (r : Room) (s : Session) : Room :=
  let q := (r.announce (Sweep.lostText s.name)).2.publish (Sweep.lostLine s.name)
  { ({ q with roster := r.rosterWithout s } : Room).close s.link with
    tally := q.tally.sessionReaped }

section Lose

variable {r : Room} {s : Session}

/-- Three steps of a sweep lose a session. -/
theorem run_lose (hw : r.roster.WF) (hs : s ∈ r.roster.sessions) (n removed : Nat)
    (rest : List Session) : Sweep.run (n + 3) r ⟨s :: rest, .announce, removed⟩ =
      Sweep.run n (r.lose s) ⟨rest, .announce, removed + 1⟩ := by
  have hroster : ((r.announce (Sweep.lostText s.name)).2.publish
      (Sweep.lostLine s.name)).roster = r.roster :=
    (roster_publish ..).trans (announce_onlyWrites r _).roster
  have hfound : r.roster.lookup? s.id = some s := (Roster.lookup?_eq_some hw).2 ⟨hs, rfl⟩
  have hr : r.roster.remove? s.id = some (s, r.rosterWithout s) := Roster.remove?_eq hw hfound
  simp only [Sweep.run, Sweep.step, hroster, hr]
  rfl

variable (r s)

theorem roster_lose : (r.lose s).roster = r.rosterWithout s := rfl

theorem bridge_lose : (r.lose s).bridge = r.bridge :=
  (bridge_publish ..).trans (announce_onlyWrites r _).bridge

theorem feed_lose : (r.lose s).feed =
    { r.feed with queue := r.feed.queue ++ r.feed.taken [Sweep.lostLine s.name] } := by
  have hfeed : (r.announce (Sweep.lostText s.name)).2.feed = r.feed :=
    (announce_onlyWrites r _).feed
  simp only [lose, publish_taken, close, record, hfeed]

theorem log_lose : (r.lose s).log = r.log ++
    ((r.tries (lostNotice s) r.roster.sessions).map (tried (lostNotice s)) ++
    (r.feed.taken [Sweep.lostLine s.name]).map .published ++ [.closed s.link]) := by
  have hfeed : (r.announce (Sweep.lostText s.name)).2.feed = r.feed :=
    (announce_onlyWrites r _).feed
  have haudience : r.audience none = r.roster.sessions := by simp [audience]
  have hlog : (r.announce (Sweep.lostText s.name)).2.log = r.log ++
      (r.tries (lostNotice s) r.roster.sessions).map (tried (lostNotice s)) := by
    rw [← haudience]
    exact log_writeAll ..
  simp only [lose, publish_taken, close, record, hfeed, hlog, List.append_assoc]

theorem closes_lose (c : ConnId) : ((r.lose s).links c).closes =
    (r.links c).closes + if s.link = c then 1 else 0 := by
  have htold : ((r.announce (Sweep.lostText s.name)).2.links c).closes = (r.links c).closes :=
    closes_writeAll _ c _ r
  simp only [lose, close, record, links_publish]
  by_cases h : s.link = c
  · subst h
    simp [Link.close, htold]
  · simp [Links.set_of_ne _ _ (Ne.symm h), htold, h]

theorem sessionsReaped_lose :
    (r.lose s).tally.sessionsReaped = r.tally.sessionsReaped + 1 := by
  have htalks : Talks r ((r.announce (Sweep.lostText s.name)).2.publish (Sweep.lostLine s.name)) :=
    (announce_talks r _).trans (publish_quiet _ _).talks
  exact congrArg (·.reaped + 1) htalks.attendance

end Lose

/-! ## One session after the other -/

/-- Who is there when each of some sessions is lost, if the ones before it have been taken out. -/
def hearings (sessions : List Session) : List Session → List (Session × List Session)
  | [] => []
  | s :: rest => (s, sessions) :: hearings (sessions.filter (·.id ≠ s.id)) rest

/-- What is logged when a session is lost and everybody else is told. -/
def lossEvents (f : Feed) (loss : Session × List (Session × Outcome)) : List Event :=
  loss.2.map (tried (lostNotice loss.1)) ++
    (f.taken [Sweep.lostLine loss.1.name]).map .published ++ [.closed loss.1.link]

section LoseAll

variable {r : Room} {s : Session}

theorem lose_wf (hw : r.roster.WF) (hs : s ∈ r.roster.sessions) :
    (r.lose s).roster.WF :=
  Roster.remove?_wf hw (Roster.remove?_eq hw ((Roster.lookup?_eq_some hw).2 ⟨hs, rfl⟩))

/-- Whoever else is there stays when a session is lost. -/
theorem subset_lose {rest : List Session} (hfirst : s.id ∉ rest.map (·.id))
    (hsub : rest ⊆ r.roster.sessions) : rest ⊆ (r.lose s).roster.sessions := fun t ht =>
  List.mem_filter.2 ⟨hsub ht, decide_eq_true fun hid =>
    hfirst (List.mem_map.2 ⟨t, ht, hid⟩)⟩

/-- A sweep loses all the sessions that it has left. -/
theorem run_loseAll (left : List Session) : ∀ {r : Room} (removed : Nat), r.roster.WF →
    left ⊆ r.roster.sessions → (left.map (·.id)).Nodup →
    Sweep.run (3 * left.length) r ⟨left, .announce, removed⟩ =
      (left.foldl lose r, ⟨[], .announce, removed + left.length⟩) := by
  induction left with
  | nil => exact fun _ _ _ _ => rfl
  | cons s rest ih =>
    intro r removed hw hsub hids
    obtain ⟨hs, hrest⟩ := List.cons_subset.1 hsub
    obtain ⟨hfirst, hids⟩ := List.nodup_cons.1 hids
    rw [List.length_cons, Nat.mul_succ, run_lose hw hs,
      ih (removed + 1) (lose_wf hw hs) (subset_lose hfirst hrest) hids, List.foldl_cons,
      Nat.add_assoc, Nat.add_comm 1]

/-- The books of a room after some sessions have been lost in it. -/
structure Lost (left : List Session) (r r' : Room) : Prop where
  roster : r'.roster = { r.roster with
    sessions := r.roster.sessions.filter fun t => ∀ s ∈ left, t.id ≠ s.id
    holders := r.roster.holders.filter fun h => ∀ s ∈ left, h.1 ≠ s.name }
  bridge : r'.bridge = r.bridge
  feed : r'.feed = { r.feed with
    queue := r.feed.queue ++ r.feed.taken (left.map (Sweep.lostLine ·.name)) }
  closes : ∀ c, (r'.links c).closes = (r.links c).closes + left.countP (·.link = c)
  reaped : r'.tally.sessionsReaped = r.tally.sessionsReaped + UInt64.ofNat left.length
  log : ∃ losses : List (Session × List (Session × Outcome)),
    losses.map (fun loss => (loss.1, loss.2.map (·.1))) = hearings r.roster.sessions left ∧
    r'.log = r.log ++ losses.flatMap (lossEvents r.feed)

theorem lost_nil (r : Room) : Lost [] r r := by
  refine ⟨by simp, rfl, ?_, fun _ => rfl, by simp, [], rfl, by simp⟩
  simp [Feed.taken]

theorem lost_cons {rest : List Session} {r' : Room} (h : Lost rest (r.lose s) r') :
    Lost (s :: rest) r r' := by
  have htaken : ∀ lines, (r.lose s).feed.taken lines = r.feed.taken lines := fun lines => by
    rw [feed_lose]
    rfl
  refine ⟨?_, h.bridge.trans (bridge_lose r s), ?_, fun c => ?_, ?_, ?_⟩
  · rw [h.roster, roster_lose, rosterWithout]
    simp only [List.filter_filter, List.forall_mem_cons, Bool.decide_and, Bool.and_comm]
  · have hlines : r.feed.taken ((s :: rest).map (Sweep.lostLine ·.name)) =
        r.feed.taken [Sweep.lostLine s.name] ++ r.feed.taken (rest.map (Sweep.lostLine ·.name)) :=
      Feed.taken_append r.feed [_] _
    rw [h.feed, htaken, feed_lose, hlines, ← List.append_assoc]
  · rw [h.closes, closes_lose, List.countP_cons]
    simp only [decide_eq_true_eq]
    omega
  · rw [h.reaped, sessionsReaped_lose, List.length_cons, UInt64.ofNat_add, UInt64.add_assoc,
      UInt64.add_comm 1]
    rfl
  · obtain ⟨losses, hheard, hlog⟩ := h.log
    refine ⟨(s, r.tries (lostNotice s) r.roster.sessions) :: losses, ?_, ?_⟩
    · rw [List.map_cons, hheard, map_fst_tries]
      rfl
    · have hevents : lossEvents (r.lose s).feed = lossEvents r.feed := by
        funext loss
        simp only [lossEvents, htaken]
      rw [hlog, log_lose, hevents, List.flatMap_cons, List.append_assoc]
      rfl

theorem loseAll_lost (left : List Session) : ∀ r : Room, Lost left r (left.foldl lose r) := by
  induction left with
  | nil => exact lost_nil
  | cons s rest ih => exact fun r => lost_cons (ih (r.lose s))

end LoseAll

/-! ## Who hears of whom -/

/-- The sessions that are lost are taken out in the order of registration, so those who hear of one
are all but those that are lost and came before it. -/
theorem hearings_filter {r : Roster} (hw : r.WF) (ho : r.InOrder) (lost : Session → Bool) :
    hearings r.sessions (r.sessions.filter lost) = (r.sessions.filter lost).map fun s =>
      (s, r.sessions.filter fun t => !(lost t && t.sequence < s.sequence)) := by
  have hascending : (r.sessions.filter lost).Pairwise (·.sequence < ·.sequence) :=
    (List.pairwise_map.1 ho.ascending).sublist List.filter_sublist
  -- what is left of the lost sessions, after those before them have been taken out
  suffices h : ∀ (left done : List Session), r.sessions.filter lost = done ++ left →
      hearings (r.sessions.filter fun t => ∀ s ∈ done, t.id ≠ s.id) left = left.map fun s =>
        (s, r.sessions.filter fun t => !(lost t && t.sequence < s.sequence)) by
    simpa using h (r.sessions.filter lost) [] rfl
  intro left
  induction left with
  | nil => exact fun _ _ => rfl
  | cons s rest ih =>
    intro done hsplit
    have hbefore : ∀ t ∈ r.sessions,
        (∀ d ∈ done, t.id ≠ d.id) ↔ ¬ (lost t = true ∧ t.sequence < s.sequence) := by
      rw [hsplit] at hascending
      obtain ⟨-, hfrom, hacross⟩ := List.pairwise_append.1 hascending
      intro t ht
      constructor
      · rintro hnone ⟨hlost, hearlier⟩
        have hmem : t ∈ done ++ s :: rest := hsplit ▸ List.mem_filter.2 ⟨ht, hlost⟩
        rcases List.mem_append.1 hmem with hdone | hlater
        · exact hnone t hdone rfl
        · rcases List.mem_cons.1 hlater with rfl | hlater
          · exact Nat.lt_irrefl _ hearlier
          · exact Nat.lt_asymm hearlier ((List.pairwise_cons.1 hfrom).1 t hlater)
      · intro hnot d hd hid
        have hmem : d ∈ r.sessions.filter lost := hsplit ▸ List.mem_append_left _ hd
        have hsame : t = d := eq_of_key_eq hw.ids ht (List.mem_of_mem_filter hmem) hid
        exact hnot ⟨hsame ▸ List.of_mem_filter hmem, hsame ▸ hacross d hd s List.mem_cons_self⟩
    have hhead : (r.sessions.filter fun t => ∀ d ∈ done, t.id ≠ d.id) =
        r.sessions.filter fun t => !(lost t && t.sequence < s.sequence) := by
      refine List.filter_congr fun t ht => ?_
      refine Bool.eq_iff_iff.2 (decide_eq_true_iff.trans ((hbefore t ht).trans ?_))
      cases lost t <;> simp
    have hnext : (r.sessions.filter fun t => ∀ d ∈ done, t.id ≠ d.id).filter (·.id ≠ s.id) =
        r.sessions.filter fun t => ∀ d ∈ done ++ [s], t.id ≠ d.id := by
      rw [List.filter_filter]
      refine List.filter_congr fun t _ => ?_
      simp only [List.forall_mem_append, List.forall_mem_singleton, Bool.decide_and, Bool.and_comm]
    rw [hearings, hnext, ih (done ++ [s]) (by simpa using hsplit), List.map_cons, hhead]

/-- Who is not lost has another id than all who are. -/
theorem filter_not_lost {r : Roster} (hw : r.WF) (lost : Session → Bool) :
    (r.sessions.filter fun t => ∀ s ∈ r.sessions.filter lost, t.id ≠ s.id) =
      r.sessions.filter fun t => !lost t := by
  refine List.filter_congr fun t ht => ?_
  cases hlost : lost t with
  | true =>
    have hmem : t ∈ r.sessions.filter lost := List.mem_filter.2 ⟨ht, hlost⟩
    exact decide_eq_false fun hnone => hnone t hmem rfl
  | false =>
    refine decide_eq_true fun s hs hid => ?_
    rw [eq_of_key_eq hw.ids ht (List.mem_of_mem_filter hs) hid, List.of_mem_filter hs] at hlost
    cases hlost

/-- A sweep loses all the silent sessions, and counts them. -/
theorem reap_eq {r : Room} (hw : r.roster.WF) (now threshold : Nat) :
    let lost := r.roster.sessions.filter (Sweep.isSilent now threshold)
    r.reap now threshold = (lost.length, lost.foldl lose r) := by
  intro lost
  have hrun := run_loseAll (r := r) lost 0 hw (List.filter_subset_self _)
    (nodup_map_filter hw.ids _)
  simp only [reap, Sweep.start, Sweep.steps]
  rw [hrun, Nat.zero_add]

/-! ## All of it -/

/-- Whatever has happened to a roster, and whatever else there is in a room, a sweep that nothing
comes between takes out exactly the sessions whose mark is older than the threshold allows, says how
many, and counts them; the mark is the latest of the one that the session began with and its signs
of life since. Each of them is lost in the order of registration: everybody but the lost ones before
it is told once, whatever becomes of it, its line goes out once if the feed goes on, and its link is
closed. The other sessions and the reservations stay as they are, and no link is closed but those of
the lost. -/
theorem reap_exact (room : Room) (ops : List Roster.Op) (now threshold : Nat) :
    let r : Room := { room with roster := Roster.run {} ops }
    let lost := fun s : Session => decide (now - s.mark > threshold)
    let gone := r.roster.sessions.filter lost
    let text := fun s : Session => "LOST connection to ".toList ++ s.name
    let line := fun s : Session => Wire.displayLine Wire.Marker.server (text s)
    let taken := fun lines : List Text => if r.feed.stopped || r.feed.ended then [] else lines
    let q := r.reap now threshold
    (∀ s ∈ r.roster.sessions, ∃ before mark after, Roster.Began ops s before mark after) ∧
    q.1 = gone.length ∧
    q.2.roster = { r.roster with
      sessions := r.roster.sessions.filter (!lost ·)
      holders := r.roster.holders.filter fun h => ∀ s ∈ gone, h.1 ≠ s.name } ∧
    q.2.tally.sessionsReaped = r.tally.sessionsReaped + UInt64.ofNat gone.length ∧
    q.2.bridge = r.bridge ∧
    q.2.feed = { r.feed with queue := r.feed.queue ++ taken (gone.map line) } ∧
    (∀ c, (q.2.links c).closes = (r.links c).closes + gone.countP (·.link = c)) ∧
    ∃ losses : List (Session × List (Session × Outcome)),
      (losses.map fun loss => (loss.1, loss.2.map (·.1))) = (gone.map fun s =>
        (s, r.roster.sessions.filter fun t => !(lost t && t.sequence < s.sequence))) ∧
      q.2.log = r.log ++ losses.flatMap fun loss =>
        (loss.2.map fun t => .wrote t.1.link (Wire.Message.notice (text loss.1)).wire t.2) ++
          (taken [line loss.1]).map .published ++ [.closed loss.1.link] := by
  intro r lost gone text line taken q
  have hw : r.roster.WF := Roster.run_wf ops (Roster.empty_wf 0)
  have ho : r.roster.InOrder := Roster.run_inOrder ops (Roster.empty_inOrder 0)
  have hreap : q = (gone.length, gone.foldl lose r) := reap_eq hw now threshold
  obtain ⟨hroster, hbridge, hfeed, hcloses, hreaped, losses, hheard, hlog⟩ := loseAll_lost gone r
  rw [filter_not_lost hw] at hroster
  rw [hearings_filter hw ho] at hheard
  rw [hreap]
  exact ⟨Roster.mark_of_run ops, rfl, hroster, hreaped, hbridge, hfeed, hcloses, losses, hheard,
    hlog⟩

end Room
end Parley
