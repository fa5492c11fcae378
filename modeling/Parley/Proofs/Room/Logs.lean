/-
What the operations of a room log. Nothing that was logged is ever taken back, so an operation is
described by what comes after it (`Logs`), and each one has a lemma that says which events it can
add: frames for those that it is for, lines, and the ends of links and guests.
-/
import Parley.Proofs.Room.Bindings
import Parley.Proofs.Room.Broadcast
import Parley.Proofs.Room.Draining
import Parley.Proofs.Room.Moves

namespace Parley

open Wire (Message Chat)

/-- The frame that an event carries to somebody who takes part. -/
def Event.frame? : Event → Option Text
  | .wrote _ frame _ => some frame
  | .queued _ frame => some frame
  | .told _ frame => some frame
  | .closed _ | .published _ | .handed .. | .ended _ => none

namespace Room

/-- What is logged on the way from one room to another comes after all that was there, and every
event of it has a property. -/
def Logs (p : Event → Prop) (r r' : Room) : Prop :=
  ∃ events, r'.log = r.log ++ events ∧ ∀ e ∈ events, p e

section Logs

variable {p q : Event → Prop} {a b c : Room}

theorem Logs.nothing (h : b.log = a.log) : Logs p a b :=
  ⟨[], by rw [h, List.append_nil], nofun⟩

theorem Logs.refl (a : Room) : Logs p a a := .nothing rfl

theorem Logs.single {e : Event} (h : b.log = a.log ++ [e]) (he : p e) : Logs p a b := by
  refine ⟨[e], h, fun e' he' => ?_⟩
  rw [List.mem_singleton.1 he']
  exact he

theorem Logs.mono (h : Logs p a b) (hpq : ∀ e, p e → q e) : Logs q a b := by
  obtain ⟨events, hlog, hp⟩ := h
  exact ⟨events, hlog, fun e he => hpq e (hp e he)⟩

theorem Logs.trans (h1 : Logs p a b) (h2 : Logs p b c) : Logs p a c := by
  obtain ⟨first, hb, hfirst⟩ := h1
  obtain ⟨second, hc, hsecond⟩ := h2
  refine ⟨first ++ second, by rw [hc, hb, List.append_assoc], fun e he => ?_⟩
  rcases List.mem_append.1 he with he | he
  · exact hfirst e he
  · exact hsecond e he

/-- What each step of a loop logs, the loop logs. -/
theorem foldl_logs {α : Type} {f : Room → α → Room} {items : List α}
    (hf : ∀ x ∈ items, ∀ r, Logs p r (f r x)) : ∀ r : Room, Logs p r (items.foldl f r) := by
  induction items with
  | nil => exact fun r => .refl r
  | cons x rest ih =>
    intro r
    have hx := hf x List.mem_cons_self r
    exact hx.trans (ih (fun y hy => hf y (List.mem_cons_of_mem _ hy)) _)

end Logs

variable (r : Room)

/-! ## Lines and links -/

theorem publish_logs (line : Text) : Logs (· = .published line) r (r.publish line) := by
  unfold publish publish?
  cases r.feed.publish? line with
  | none => exact .refl r
  | some feed => exact .single rfl rfl

theorem write_logs (conn : ConnId) (frame : Text) :
    Logs (fun e => ∃ outcome, e = .wrote conn frame outcome) r (r.write conn frame).2 :=
  .single rfl ⟨_, rfl⟩

theorem close_logs (conn : ConnId) : Logs (· = .closed conn) r (r.close conn) := .single rfl rfl

/-- What is written to everybody else, and to nobody but them. -/
theorem broadcast_logs (frame : Text) (sender : Option SessionId) :
    Logs (fun e => ∃ s ∈ r.audience sender, ∃ outcome, e = .wrote s.link frame outcome) r
      (r.broadcast frame sender).2 := by
  refine ⟨(r.tries frame (r.audience sender)).map (tried frame), log_writeAll .., fun e he => ?_⟩
  obtain ⟨⟨s, outcome⟩, ht, rfl⟩ := List.mem_map.1 he
  have hs : s ∈ (r.tries frame (r.audience sender)).map (·.1) := List.mem_map_of_mem ht
  rw [map_fst_tries] at hs
  exact ⟨s, hs, outcome, rfl⟩

/-! ## Frames that are written -/

theorem written_publish (line : Text) : (r.publish line).written = r.written := by
  unfold publish publish?
  cases r.feed.publish? line with
  | none => rfl
  | some feed =>
    show (r.log ++ [Event.published line]).filterMap Event.written? = _
    rw [List.filterMap_append]
    exact List.append_nil _

theorem written_broadcast_tries (frame : Text) (sender : Option SessionId) :
    (r.broadcast frame sender).2.written =
      r.written ++ (r.tries frame (r.audience sender)).map fun (s, outcome) =>
        (s.link, frame, outcome) := by
  have hlog : (r.broadcast frame sender).2.log = _ := log_writeAll frame (r.audience sender) r
  have hwritten : ∀ t : Session × Outcome,
      (tried frame t).written? = some (t.1.link, frame, t.2) := fun _ => rfl
  rw [written, hlog, List.filterMap_append, List.filterMap_map, written]
  congr 1
  exact congrFun (List.filterMap_eq_map (f := fun t : Session × Outcome =>
    (t.1.link, frame, t.2))) _

/-! ## Guests -/

theorem log_release (name : Text) : (r.release name).log = r.log := by rw [release_eq]

theorem detach_logs (id : SessionId) : Logs (· = .ended id) r (r.detach id) := by
  unfold detach
  cases r.bridge.detach? id with
  | none => exact .refl r
  | some p =>
    obtain ⟨⟨_, nickname, _, _⟩, bridge⟩ := p
    cases nickname with
    | none => exact .single rfl rfl
    | some name =>
      refine .single ?_ rfl
      show (release _ name).log ++ _ = _
      rw [log_release]

/-- A frame for a guest is put into its mailbox, or the guest is put out. -/
def ForGuest (id : SessionId) (frame : Text) (e : Event) : Prop :=
  e = .queued id frame ∨ e = .ended id

theorem sendTo_logs (id : SessionId) (frame : Text) :
    Logs (ForGuest id frame) r (r.sendTo id frame).2 := by
  unfold sendTo
  split
  · exact .refl r
  · split
    · exact .single rfl (.inl rfl)
    · exact (detach_logs r id).mono fun e he => .inr he
    · exact .refl r

theorem deliver_logs (name frame : Text) :
    Logs (fun e => ∃ g, r.bridge.named? name = some g ∧ ForGuest g.id frame e) r
      (r.deliver name frame).2 := by
  unfold deliver
  split
  · rename_i g hg
    exact (sendTo_logs r g.id frame).mono fun e he => ⟨g, hg, he⟩
  · exact .refl r

/-- A line goes to guests that do not answer to its speaker. -/
def ForListener (line : Text) (e : Event) : Prop :=
  ∃ g ∈ r.bridge.guests, g.answersTo (Wire.displaySpeaker line) = false ∧ ForGuest g.id line e

theorem forward_logs (line : Text) : Logs (r.ForListener line) r (r.forward line).2 := by
  unfold forward
  simp only
  refine Logs.trans ?_ (foldl_logs (fun g hg r' => ?_) _)
  · refine Logs.trans (.nothing rfl) (foldl_logs (fun g hg r' => ?_) _)
    obtain ⟨hlistens, -⟩ := List.mem_filter.1 hg
    obtain ⟨hmem, hother⟩ := List.mem_filter.1 hlistens
    exact .single rfl ⟨g, hmem, by simpa using hother, .inl rfl⟩
  · obtain ⟨hlistens, -⟩ := List.mem_filter.1 hg
    obtain ⟨hmem, hother⟩ := List.mem_filter.1 hlistens
    refine (detach_logs r' g.id).mono fun e he => ?_
    exact ⟨g, hmem, by simpa using hother, .inr he⟩

/-! ## Messages to one name -/

/-- A frame for the holder of a name: it is written to the session that has it, or else put before
the guest that has it or whoever stands in for one. -/
inductive ForHolder (name frame : Text) : Event → Prop where
  | session {s : Session} (holds : r.roster.named? name = some s) (outcome : Outcome) :
      ForHolder name frame (.wrote s.link frame outcome)
  | guest {g : Guest} {e : Event} (free : r.roster.named? name = none)
      (holds : r.bridge.named? name = some g) (goes : ForGuest g.id frame e) :
      ForHolder name frame e
  | standIn (free : r.roster.named? name = none) : ForHolder name frame (.told name frame)

theorem sendPrivate_logs (sender target payload : Text) :
    Logs (r.ForHolder target (Message.private sender target payload).wire) r
      (r.sendPrivate sender target payload).2 := by
  unfold sendPrivate
  simp only
  split
  · rename_i s hs
    have hwrite : Logs (r.ForHolder target (Message.private sender target payload).wire) r
        (r.write s.link (Message.private sender target payload).wire).2 :=
      .single rfl (.session hs _)
    split <;> exact hwrite
  · rename_i hfree
    unfold tellDirectory
    split
    · exact (deliver_logs r target _).mono fun e ⟨g, hg, he⟩ => .guest hfree hg he
    · split
      · exact .single rfl (.standIn hfree)
      · exact .refl r
    · exact .refl r
    · exact .refl r

/-! ## The ends of sessions -/

/-- Whoever is expelled has its link closed. -/
theorem expel?_logs {r r' : Room} {id : SessionId} {s : Session}
    (he : r.expel? id = some (s, r')) :
    r.roster.lookup? id = some s ∧ Logs (· = .closed s.link) r r' := by
  obtain ⟨roster, hr, rfl⟩ := expel?_some he
  obtain ⟨found, -, -, -⟩ := Roster.remove?_sessions hr
  exact ⟨found, .single rfl rfl⟩

/-- What taking leave of a session comes to. -/
def Farewell (s : Session) (e : Event) : Prop :=
  (∃ outcome, e = .wrote s.link farewell outcome) ∨ e = .closed s.link

theorem leave_logs (p : List ConnId × Room) (s : Session) :
    Logs (Farewell s) p.2 (leave p s).2 := by
  have hwrite := (write_logs p.2 s.link farewell).mono (q := Farewell s) fun e he => .inl he
  unfold leave
  simp only
  split
  · exact hwrite
  · exact hwrite.trans ((close_logs _ s.link).mono fun e he => .inr he)

/-- Only the links of those who are taken leave of can stall. -/
theorem stalled_leaveAll (sessions : List Session) : ∀ p : List ConnId × Room,
    ∀ c ∈ (sessions.foldl leave p).1, c ∈ p.1 ∨ ∃ s ∈ sessions, s.link = c := by
  induction sessions with
  | nil => exact fun p c hc => .inl hc
  | cons s rest ih =>
    intro p c hc
    rcases ih _ c hc with hc | ⟨t, ht, rfl⟩
    · unfold leave at hc
      simp only at hc
      split at hc
      · rcases List.mem_append.1 hc with hc | hc
        · exact .inl hc
        · exact .inr ⟨s, List.mem_cons_self, (List.mem_singleton.1 hc).symm⟩
      · exact .inl hc
    · exact .inr ⟨t, List.mem_cons_of_mem _ ht, rfl⟩

theorem leaveAll_logs {everybody : List Session} : ∀ (sessions : List Session),
    sessions ⊆ everybody → ∀ p : List ConnId × Room,
    Logs (fun e => ∃ s ∈ everybody, Farewell s e) p.2 (sessions.foldl leave p).2
  | [], _, p => .refl p.2
  | s :: rest, hall, p => by
    have hs := (leave_logs p s).mono (q := fun e => ∃ s ∈ everybody, Farewell s e)
      fun e he => ⟨s, hall List.mem_cons_self, he⟩
    exact hs.trans (leaveAll_logs rest (List.subset_of_cons_subset hall) _)

theorem partFrom_logs (sessions : List Session) :
    Logs (fun e => ∃ s ∈ sessions, Farewell s e) r (r.partFrom sessions) := by
  rw [partFrom_eq]
  have hleft := leaveAll_logs sessions (List.Subset.refl _) ([], r)
  refine hleft.trans (foldl_logs (fun c hc r' => ?_) _)
  rcases stalled_leaveAll sessions _ c hc with hc | ⟨s, hs, rfl⟩
  · cases hc
  · exact (close_logs r' s.link).mono fun e he => ⟨s, hs, .inr he⟩

end Room

/-! ## Sweeps -/

namespace Sweep

/-- What a sweep comes to for a silent session: everybody is told that it is lost, the line goes
out, and its link is closed. -/
inductive Loss (s : Session) : Event → Prop where
  | announced (conn : ConnId) (outcome : Outcome) :
      Loss s (.wrote conn (Message.notice (lostText s.name)).wire outcome)
  | line : Loss s (.published (lostLine s.name))
  | closed (conn : ConnId) : Loss s (.closed conn)

theorem step_logs (r : Room) (w : Sweep) :
    Room.Logs (fun e => ∃ s ∈ w.left, Loss s e) r (step r w).1 ∧ (step r w).2.left ⊆ w.left := by
  obtain ⟨left, phase, removed⟩ := w
  cases left with
  | nil => exact ⟨.refl r, List.Subset.refl _⟩
  | cons s rest =>
    have hs : s ∈ s :: rest := List.mem_cons_self
    cases phase with
    | announce =>
      refine ⟨(Room.broadcast_logs r _ none).mono ?_, List.Subset.refl _⟩
      rintro e ⟨t, -, outcome, rfl⟩
      exact ⟨s, hs, .announced t.link outcome⟩
    | remove =>
      have hline : Room.Logs (fun e => ∃ s' ∈ s :: rest, Loss s' e) r
          (r.publish (lostLine s.name)) :=
        (Room.publish_logs r _).mono fun e he => ⟨s, hs, he ▸ .line⟩
      simp only [step]
      split
      · exact ⟨hline, List.subset_cons_self s rest⟩
      · rename_i gone roster _
        have hclosed := Room.close_logs { r.publish (lostLine s.name) with roster } gone.link
        refine ⟨hline.trans (.trans (.nothing rfl) (hclosed.mono ?_)), List.Subset.refl _⟩
        rintro e rfl
        exact ⟨s, hs, .closed gone.link⟩
    | account => exact ⟨.nothing rfl, List.subset_cons_self s rest⟩

theorem run_logs (n : Nat) : ∀ (r : Room) (w : Sweep),
    Room.Logs (fun e => ∃ s ∈ w.left, Loss s e) r (run n r w).1 := by
  induction n with
  | zero => exact fun r _ => .refl r
  | succ n ih =>
    intro r w
    obtain ⟨hfirst, hleft⟩ := step_logs r w
    refine hfirst.trans ((ih _ _).mono ?_)
    rintro e ⟨s, hs, he⟩
    exact ⟨s, hleft hs, he⟩

end Sweep
end Parley
