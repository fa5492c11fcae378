/-
Sweeps that others act in between. Which sessions are silent is decided when a sweep begins, and
each of them is then taken out by its id, without a second look. So whoever is taken out was
silent when the sweep began; but it is alive by now exactly if it has given a sign of life since,
or if its id has begun again (`removed_alive_iff`).
-/
import Parley.Proofs.Room.Attendance
import Parley.Proofs.Room.Changes

namespace Parley

/-- The session that a deed is a sign of life of, and the time of it. -/
def Deed.sign? : Deed → Option (SessionId × Nat)
  | .begins id _ _ mark _ => some (id, mark)
  | .marks id mark => some (id, mark)
  | .closes _ | .reaps _ | .clears => none

namespace Room

/-! ## Turns -/

/-- What happens while a sweep is on its way: the next step of it, or something else in the
room. -/
inductive Turn where
  | sweep
  | other (m : Move)
  deriving DecidableEq, Repr

/-- The room and the sweep after a turn. -/
def turn (p : Room × Sweep) : Turn → Room × Sweep
  | .sweep => Sweep.step p.1 p.2
  | .other m => (p.1.step m, p.2)

/-- The room and the sweep after several turns. -/
def turns (p : Room × Sweep) (ts : List Turn) : Room × Sweep := ts.foldl turn p

/-- Whether a move is a sign of life of a session at some time: the session begins, or gives one. -/
def Signs (r : Room) (id : SessionId) (m : Move) (time : Nat) : Prop :=
  ∃ d ∈ r.deeds m, d.sign? = some (id, time)

instance (r : Room) (id : SessionId) (m : Move) (time : Nat) : Decidable (Signs r id m time) :=
  inferInstanceAs (Decidable (∃ d ∈ r.deeds m, _ = _))

/-- Whether there is a session with an id before, between and after some turns. -/
def Stays (p : Room × Sweep) (id : SessionId) : List Turn → Prop
  | [] => p.1.roster.contains id = true
  | t :: rest => p.1.roster.contains id = true ∧ Stays (turn p t) id rest

theorem Stays.contains {p : Room × Sweep} {id : SessionId} {ts : List Turn} (h : Stays p id ts) :
    p.1.roster.contains id = true := by
  cases ts with
  | nil => exact h
  | cons t rest => exact h.1

/-! ## The steps of a sweep -/

/-- A step of a sweep changes the sessions only by taking out those with the id of a session that
is left. -/
theorem sessions_sweepStep (r : Room) (w : Sweep) :
    (Sweep.step r w).1.roster.sessions = r.roster.sessions ∨
    ∃ s ∈ w.left, (Sweep.step r w).1.roster.sessions =
      r.roster.sessions.filter (·.id ≠ s.id) := by
  unfold Sweep.step
  split
  · exact .inl rfl
  · exact .inl (congrArg Roster.sessions (announce_onlyWrites r _).roster)
  · rename_i s rest hleft _
    have hroster : (r.publish (Sweep.lostLine s.name)).roster = r.roster := roster_publish r _
    simp only
    split
    · exact .inl (congrArg Roster.sessions hroster)
    · rename_i gone roster hr
      rw [hroster] at hr
      obtain ⟨-, hsessions, -, -⟩ := Roster.remove?_sessions hr
      exact .inr ⟨s, by rw [hleft]; exact List.mem_cons_self, hsessions⟩
  · exact .inl rfl

theorem left_sweepStep (r : Room) (w : Sweep) : (Sweep.step r w).2.left ⊆ w.left := by
  unfold Sweep.step
  split
  · exact List.Subset.refl _
  · exact List.Subset.refl _
  · rename_i s rest hleft _
    rw [hleft]
    simp only
    split
    · exact List.subset_cons_self s rest
    · exact (hleft ▸ List.Subset.refl _)
  · rename_i s rest hleft _
    rw [hleft]
    exact List.subset_cons_self s rest

theorem left_turns (ts : List Turn) :
    ∀ p : Room × Sweep, (turns p ts).2.left ⊆ p.2.left := by
  induction ts with
  | nil => exact fun p => List.Subset.refl _
  | cons t rest ih =>
    intro p
    have hfirst : (turn p t).2.left ⊆ p.2.left := by
      cases t with
      | sweep => exact left_sweepStep p.1 p.2
      | other m => exact List.Subset.refl _
    exact List.Subset.trans (ih _) hfirst

theorem turn_wf {p : Room × Sweep} (hw : p.1.WF) (t : Turn) : (turn p t).1.WF := by
  cases t with
  | sweep => exact (sweepStep_changes p.1 p.2).wf hw
  | other m => exact run_wf hw [m]

/-! ## Signs of life -/

section Marks

variable {r : Room} (hw : r.WF)
include hw

/-- Where no session is there that was not there before, and nobody gave a sign of life, the marks
are those from before. -/
theorem mark_of_subset {sessions : List Session} (hsub : sessions ⊆ r.roster.sessions)
    {s : Session} (hs : s ∈ sessions) (x : Nat) :
    x ≤ s.mark ↔ ∃ s' ∈ r.roster.sessions, s'.id = s.id ∧ x ≤ s'.mark := by
  refine ⟨fun h => ⟨s, hsub hs, rfl, h⟩, ?_⟩
  rintro ⟨s', hs', hid, h⟩
  rwa [eq_of_key_eq hw.roster.ids hs' (hsub hs) hid] at h

/-- After a move, the mark of a session is as late as some time if it was so before, or if the move
is a sign of life as late as that. -/
theorem mark_step (m : Move) {s : Session} (hs : s ∈ (r.step m).roster.sessions) (x : Nat) :
    x ≤ s.mark ↔ (∃ s' ∈ r.roster.sessions, s'.id = s.id ∧ x ≤ s'.mark) ∨
      ∃ time, Signs r s.id m time ∧ x ≤ time := by
  have hsessions : s ∈ ((r.deeds m).foldl Attendance.after r.attendance).sessions := by
    rw [← attendance_step hw.roster m]
    exact hs
  cases does r m with
  | begins id name conn mark counted hdeeds fresh =>
    have hsign : ∀ time, Signs r s.id m time ↔ id = s.id ∧ mark = time := by
      simp [Signs, hdeeds, Deed.sign?]
    have habsent : ∀ s' ∈ r.roster.sessions, s'.id ≠ id := by
      intro s' hs' hid
      rw [Attendance.has_iff.2 ⟨s', hs', hid⟩] at fresh
      cases fresh
    rw [hdeeds] at hsessions
    rcases List.mem_append.1 hsessions with hold | hnew
    · have hne := (habsent s hold).symm
      rw [mark_of_subset hw (List.Subset.refl _) hold x]
      simp only [hsign, hne, false_and, exists_false, or_false]
    · obtain rfl := List.mem_singleton.1 hnew
      simp only [hsign, true_and, exists_eq_left']
      refine ⟨.inr, fun h => h.resolve_left ?_⟩
      rintro ⟨s', hs', hid, -⟩
      exact habsent s' hs' hid
  | marks id mark hdeeds =>
    have hsign : ∀ id' time, Signs r id' m time ↔ id = id' ∧ mark = time := by
      simp [Signs, hdeeds, Deed.sign?]
    rw [hdeeds] at hsessions
    obtain ⟨old, hold, rfl⟩ := List.mem_map.1 hsessions
    have hbefore := mark_of_subset hw (List.Subset.refl _) hold x
    simp only [hsign]
    by_cases hid : old.id = id
    · subst hid
      have hmax : x ≤ max old.mark mark ↔ x ≤ old.mark ∨ x ≤ mark := by omega
      simp only [if_true, true_and, exists_eq_left', hmax, hbefore]
    · simp only [if_neg hid, Ne.symm hid, false_and, exists_false, or_false]
      exact hbefore
  | ends hends =>
    have hsub := ((Attendance.foldl_ends hends r.attendance).1).subset
    have hsign : ∀ time, ¬ Signs r s.id m time := by
      rintro time ⟨d, hd, hd'⟩
      obtain ⟨id, rfl | rfl⟩ := hends d hd <;> cases hd'
    rw [mark_of_subset hw hsub hsessions x]
    simp only [hsign, false_and, exists_false, or_false]
  | clears hall =>
    subst hall
    cases hsessions

end Marks

theorem mark_turn {p : Room × Sweep} (hw : p.1.WF) (t : Turn) {s : Session}
    (hs : s ∈ (turn p t).1.roster.sessions) (x : Nat) :
    x ≤ s.mark ↔ (∃ s' ∈ p.1.roster.sessions, s'.id = s.id ∧ x ≤ s'.mark) ∨
      ∃ m time, t = .other m ∧ Signs p.1 s.id m time ∧ x ≤ time := by
  cases t with
  | sweep =>
    have hsub : (turn p .sweep).1.roster.sessions ⊆ p.1.roster.sessions := by
      rcases sessions_sweepStep p.1 p.2 with h | ⟨_, -, h⟩
      · exact fun s hs => h ▸ hs
      · exact fun s hs => List.mem_of_mem_filter (h ▸ hs)
    rw [mark_of_subset hw hsub hs x]
    simp
  | other m =>
    rw [mark_step hw m hs x]
    simp

/-- After some turns, the mark of a session is as late as some time exactly if it was so before and
the session has been there since, or if a turn was a sign of life as late as that, and the session
has been there since then. -/
theorem mark_turns (ts : List Turn) (x : Nat) : ∀ {p : Room × Sweep}, p.1.WF →
    ∀ {s : Session}, s ∈ (turns p ts).1.roster.sessions →
    (x ≤ s.mark ↔
      (Stays p s.id ts ∧ ∃ s' ∈ p.1.roster.sessions, s'.id = s.id ∧ x ≤ s'.mark) ∨
      ∃ before m after time, ts = before ++ .other m :: after ∧
        Signs (turns p before).1 s.id m time ∧ x ≤ time ∧
        Stays (turns p (before ++ [.other m])) s.id after) := by
  induction ts with
  | nil =>
    intro p hw s hs
    have hthere : p.1.roster.contains s.id = true := Roster.contains_iff.2 ⟨s, hs, rfl⟩
    rw [mark_of_subset hw (List.Subset.refl _) hs x]
    simp [Stays, hthere]
  | cons t rest ih =>
    intro p hw s hs
    have hfirst : ∀ s1 ∈ (turn p t).1.roster.sessions, _ := fun s1 hs1 => mark_turn hw t hs1 x
    -- a sign of life is in the rest, or the mark was so after the first turn already: there it is
    -- that turn itself, or it was so before
    rw [ih (turn_wf hw t) hs]
    constructor
    · rintro (⟨hstays, s1, hs1, hid, hx⟩ | ⟨before, m, after, time, rfl, hsign, hx, hstays⟩)
      · rcases (hfirst s1 hs1).1 hx with ⟨s0, hs0, hid0, hx0⟩ | ⟨m, time, rfl, hsign, hx⟩
        · have hthere : p.1.roster.contains s.id = true :=
            Roster.contains_iff.2 ⟨s0, hs0, hid0.trans hid⟩
          exact .inl ⟨⟨hthere, hstays⟩, s0, hs0, hid0.trans hid, hx0⟩
        · exact .inr ⟨[], m, rest, time, rfl, hid ▸ hsign, hx, hstays⟩
      · exact .inr ⟨t :: before, m, after, time, rfl, hsign, hx, hstays⟩
    · rintro (⟨⟨-, hstays⟩, s0, hs0, hid0, hx0⟩ | ⟨before, m, after, time, hts, hsign, hx, hstays⟩)
      · obtain ⟨s1, hs1, hid⟩ := Roster.contains_iff.1 hstays.contains
        exact .inl ⟨hstays, s1, hs1, hid, (hfirst s1 hs1).2 (.inl ⟨s0, hs0, hid0.trans hid.symm, hx0⟩)⟩
      · cases before with
        | nil =>
          cases hts
          obtain ⟨s1, hs1, hid⟩ := Roster.contains_iff.1 hstays.contains
          exact .inl ⟨hstays, s1, hs1, hid,
            (hfirst s1 hs1).2 (.inr ⟨m, time, rfl, hid.symm ▸ hsign, hx⟩)⟩
        | cons t' before =>
          cases hts
          exact .inr ⟨before, m, after, time, rfl, hsign, hx, hstays⟩

/-! ## Who is taken out -/

/-- Whatever happens while a sweep is on its way, whoever it takes out has the id of a session that
was silent when it began. It is alive when it is taken out exactly if meanwhile there was a sign of
life of it within the threshold, be it that it was given one or that it began again, and it has been
there since then. -/
theorem removed_alive_iff (room : Room) (moves : List Move) (now threshold : Nat)
    (ts : List Turn) {gone : Session} :
    let r := room.emptied.run moves
    let start := (r, Sweep.start r now threshold)
    let p := turns start ts
    gone ∈ p.1.roster.sessions → gone ∉ (Sweep.step p.1 p.2).1.roster.sessions →
    (∃ s ∈ r.roster.sessions, s.id = gone.id ∧ now - s.mark > threshold) ∧
    (now - gone.mark ≤ threshold ↔
      ∃ before m after time, ts = before ++ .other m :: after ∧
        Signs (turns start before).1 gone.id m time ∧ now - time ≤ threshold ∧
        Stays (turns start (before ++ [.other m])) gone.id after) := by
  intro r start p hgone hout
  have hw : r.WF := run_wf (emptied_wf room) moves
  -- what is taken out has the id of a session that is left, and so of one that was silent
  obtain ⟨s, hs, hid, hsilent⟩ : ∃ s ∈ r.roster.sessions, s.id = gone.id ∧
      now - s.mark > threshold := by
    rcases sessions_sweepStep p.1 p.2 with h | ⟨s, hs, h⟩
    · exact absurd (h ▸ hgone) hout
    · obtain ⟨hmem, hsilent⟩ := List.mem_filter.1 (left_turns ts start hs)
      refine ⟨s, hmem, ?_, of_decide_eq_true hsilent⟩
      by_contra hne
      rw [h, List.mem_filter] at hout
      exact hout ⟨hgone, by simpa using Ne.symm hne⟩
  refine ⟨⟨s, hs, hid, hsilent⟩, ?_⟩
  have hlate : ∀ time : Nat, now - time ≤ threshold ↔ now - threshold ≤ time := by omega
  have hsilent' : ¬ now - threshold ≤ s.mark := by
    rw [← hlate]
    omega
  simp only [hlate]
  rw [mark_turns ts (now - threshold) hw hgone]
  refine ⟨fun h => h.resolve_left ?_, .inr⟩
  rintro ⟨-, s', hs', hid', hx⟩
  rw [eq_of_key_eq hw.roster.ids hs' hs (hid'.trans hid.symm)] at hx
  exact hsilent' hx

/-- One session comes, and its only sign of life is at the time 5. -/
def annComes : List Move :=
  [.frame ⟨1⟩ .awaitingRegister (Wire.Message.register "1".toList "ann".toList).wire 5]

/-- A session logs off and registers again while it is announced as lost, and its new self is taken
out instead of the old one. -/
theorem removed_alive_of_return :
    let back := .frame ⟨2⟩ .awaitingRegister (Wire.Message.register "1".toList "ann".toList).wire 95
    let before := [.sweep, .other (.frame ⟨1⟩ .active (Wire.Message.logoff "1".toList).wire 90)]
    let r := (emptied {}).run annComes
    let p := turns (r, Sweep.start r 100 30) (before ++ [.other back])
    let gone : Session := ⟨"1".toList, "ann".toList, ⟨2⟩, 2, 95⟩
    gone ∈ p.1.roster.sessions ∧ gone ∉ (Sweep.step p.1 p.2).1.roster.sessions ∧
    (∃ s ∈ r.roster.sessions, s.id = gone.id ∧ 100 - s.mark > 30) ∧
    100 - gone.mark ≤ 30 := by
  intro back before r p gone
  obtain ⟨hsilent, halive⟩ :=
    @removed_alive_iff {} annComes 100 30 (before ++ [.other back]) gone (by decide) (by decide)
  refine ⟨by decide, by decide, hsilent, halive.2 ⟨before, back, [], 95, rfl, ?_, by decide, ?_⟩⟩
  · show Signs (turns (r, Sweep.start r 100 30) before).1 gone.id back 95
    decide
  · show p.1.roster.contains gone.id = true
    decide

/-- A sign of life that comes while a session is announced as lost is too late: the session is taken
out, though by then it has not been silent for too long. -/
theorem removed_after_keepAlive :
    let r := (emptied {}).run annComes
    let p := turns (r, Sweep.start r 100 30)
      [.sweep, .other (.frame ⟨1⟩ .active (Wire.Message.keepAlive "1".toList).wire 95)]
    ∃ gone ∈ p.1.roster.sessions, gone ∉ (Sweep.step p.1 p.2).1.roster.sessions ∧
      ¬ 100 - gone.mark > 30 := by
  decide

end Room
end Parley
