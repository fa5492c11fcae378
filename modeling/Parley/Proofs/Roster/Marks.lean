/-
Who is there after a run of operations, and with which signs of life: those who have begun in it and
whom nothing has taken out since, in the order in which they began, and each with the latest of the
mark that it began with and all that came for its id since then (`sessions_run`). What came before
it began, or for another id, does not count.
-/
import Mathlib.Data.List.Induction
import Parley.Proofs.Roster.Run

namespace Parley.Roster

/-- The signs of life for an id among some operations. -/
def touches (id : SessionId) (ops : List Op) : List Nat :=
  ops.filterMap fun
    | .touch touched mark => if touched = id then some mark else none
    | _ => none

/-- Whether an operation takes out the session with an id. -/
def Op.TakesOut (id : SessionId) (op : Op) : Prop := op = .remove id ∨ op = .clear

instance (id : SessionId) (op : Op) : Decidable (op.TakesOut id) :=
  inferInstanceAs (Decidable (op = .remove id ∨ op = .clear))

theorem touches_append (id : SessionId) (before after : List Op) :
    touches id (before ++ after) = touches id before ++ touches id after :=
  List.filterMap_append ..

/-- The session after an operation that it is still there after. -/
def Op.mark (op : Op) (s : Session) : Session :=
  { s with mark := (touches s.id [op]).foldl max s.mark }

theorem mark_of_touches_nil {op : Op} {s : Session} (h : touches s.id [op] = []) :
    op.mark s = s := by
  rw [Op.mark, h]
  rfl

/-! ## One operation -/

/-- The session that an operation begins, as it stands right after it. -/
def begun? (r : Roster) : Op → Option Session
  | .register id name link mark => (r.register? id name link mark).bind (·.lookup? id)
  | .remove _ | .reserve _ | .release _ | .touch .. | .clear => none

section Perform

variable {r : Roster}

/-- Whoever registers is found right after it, with the next number. -/
theorem begun?_register {id : SessionId} {name : Text} {link : ConnId} {mark : Nat} {r' : Roster}
    (h : r.register? id name link mark = some r') :
    r.begun? (.register id name link mark) = some ⟨id, name, link, r.registered + 1, mark⟩ := by
  obtain ⟨-, hid, rfl⟩ := register?_some h
  have hnone : r.sessions.find? (·.id = id) = none := by
    simpa [contains, lookup?] using hid
  rw [begun?, h, Option.bind_some, lookup?, List.find?_append, hnone]
  simp

theorem begun?_eq_some {op : Op} {s : Session} :
    r.begun? op = some s ↔ op = .register s.id s.name s.link s.mark ∧
      (r.perform? op).isSome = true ∧ s.sequence = r.registered + 1 := by
  constructor
  · intro h
    cases op with
    | register id name link mark =>
      cases hr : r.register? id name link mark with
      | none => simp [begun?, hr] at h
      | some r' =>
        rw [begun?_register hr] at h
        cases h
        exact ⟨rfl, by rw [perform?, hr]; rfl, rfl⟩
    | remove _ | reserve _ | release _ | touch _ _ | clear => cases h
  · rintro ⟨rfl, hdone, hsequence⟩
    obtain ⟨r', hr⟩ := Option.isSome_iff_exists.1 hdone
    rw [begun?_register hr, ← hsequence]

/-- Whatever is refused begins nothing. -/
theorem begun?_of_refused {op : Op} (h : r.perform? op = none) : r.begun? op = none := by
  cases hb : r.begun? op with
  | none => rfl
  | some s =>
    have hsome := (begun?_eq_some.1 hb).2.1
    rw [h] at hsome
    cases hsome

/-- Whatever is refused is for nobody who is there. -/
theorem spares_of_refused {op : Op} (h : r.perform? op = none) {s : Session}
    (hs : s ∈ r.sessions) : ¬ op.TakesOut s.id ∧ op.mark s = s := by
  cases op with
  | register _ _ _ _ | reserve _ | release _ => exact ⟨by simp [Op.TakesOut], rfl⟩
  | remove id =>
    have hid : id ≠ s.id := by
      rintro rfl
      have hrefused := remove?_eq_none.1 (Option.map_eq_none_iff.1 h)
      rw [contains_iff.2 ⟨s, hs, rfl⟩] at hrefused
      cases hrefused
    exact ⟨by simp [Op.TakesOut, hid], rfl⟩
  | touch id mark =>
    have hid : id ≠ s.id := by
      rintro rfl
      rw [perform?, touch?, if_pos (contains_iff.2 ⟨s, hs, rfl⟩)] at h
      cases h
    exact ⟨by simp [Op.TakesOut], mark_of_touches_nil (by simp [touches, hid])⟩
  | clear => cases h

/-- Whom an operation neither takes out nor marks, it leaves as they are. -/
theorem kept_eq {op : Op} {sessions : List Session}
    (hspares : ∀ s ∈ sessions, ¬ op.TakesOut s.id ∧ op.mark s = s) :
    (sessions.filter fun s => ¬ op.TakesOut s.id).map op.mark = sessions := by
  rw [List.filter_eq_self.2 fun s hs => decide_eq_true (hspares s hs).1,
    List.map_congr_left fun s hs => (hspares s hs).2, List.map_id']

/-- A sign of life marks whom it is for, and changes nothing else. -/
theorem perform_touch (r : Roster) (id : SessionId) (mark : Nat) :
    r.perform (.touch id mark) = { r with sessions := r.sessions.map (Op.touch id mark).mark } := by
  cases hdone : r.perform? (.touch id mark) with
  | none =>
    have hsame : r.sessions.map (Op.touch id mark).mark = r.sessions :=
      (List.map_congr_left fun s hs => (spares_of_refused hdone hs).2).trans (List.map_id' _)
    rw [hsame, perform_none hdone]
  | some r' =>
    rw [perform_some hdone]
    obtain ⟨-, rfl⟩ := touch?_some hdone
    congr 1
    refine List.map_congr_left fun s _ => ?_
    by_cases hid : s.id = id
    · simp [Op.mark, touches, hid]
    · simp [Op.mark, touches, hid, Ne.symm hid]

/-- An operation takes out whom it says, marks the others, and begins at most one session, which
comes last. -/
theorem sessions_perform (r : Roster) (op : Op) : (r.perform op).sessions =
    (r.sessions.filter fun s => ¬ op.TakesOut s.id).map op.mark ++ (r.begun? op).toList := by
  cases hdone : r.perform? op with
  | none =>
    rw [perform_none hdone, begun?_of_refused hdone, kept_eq fun s => spares_of_refused hdone,
      Option.toList_none, List.append_nil]
  | some r' =>
    cases op with
    | register id name link mark =>
      rw [perform_some hdone, begun?_register hdone,
        kept_eq fun _ _ => ⟨by simp [Op.TakesOut], rfl⟩]
      obtain ⟨-, -, rfl⟩ := register?_some hdone
      rfl
    | remove id =>
      obtain ⟨⟨t, r'⟩, hr, rfl⟩ := Option.map_eq_some_iff.1 hdone
      rw [perform_some hdone, begun?, Option.toList_none, List.append_nil,
        List.map_congr_left fun s _ => mark_of_touches_nil rfl, List.map_id',
        (remove?_sessions hr).2.1]
      exact List.filter_congr fun s _ => by simp [Op.TakesOut, eq_comm]
    | reserve name =>
      rw [perform_some hdone, begun?, Option.toList_none, List.append_nil,
        kept_eq fun _ _ => ⟨by simp [Op.TakesOut], rfl⟩]
      obtain ⟨-, rfl⟩ := reserve?_some hdone
      rfl
    | release name =>
      rw [perform_some hdone, begun?, Option.toList_none, List.append_nil,
        kept_eq fun _ _ => ⟨by simp [Op.TakesOut], rfl⟩]
      obtain ⟨-, rfl⟩ := release?_some hdone
      rfl
    | touch id mark =>
      have hall : r.sessions.filter (fun s => ¬ (Op.touch id mark).TakesOut s.id) = r.sessions :=
        List.filter_eq_self.2 fun s _ => by simp [Op.TakesOut]
      rw [hall, begun?, Option.toList_none, List.append_nil, perform_touch]
    | clear =>
      rw [List.filter_eq_nil_iff.2 fun s _ => by simp [Op.TakesOut]]
      rfl

/-- Registrations are counted as they succeed. -/
theorem registered_perform (r : Roster) (op : Op) :
    (r.perform op).registered = r.registered + (r.begun? op).toList.length := by
  cases hdone : r.perform? op with
  | none =>
    rw [begun?_of_refused hdone, perform_none hdone]
    rfl
  | some r' =>
    rw [perform_some hdone]
    cases op with
    | register id name link mark =>
      rw [begun?_register hdone]
      obtain ⟨-, -, rfl⟩ := register?_some hdone
      rfl
    | remove id =>
      obtain ⟨⟨s, r1⟩, hr, rfl⟩ := Option.map_eq_some_iff.1 hdone
      exact (remove?_sessions hr).2.2.2
    | reserve name =>
      obtain ⟨-, rfl⟩ := reserve?_some hdone
      rfl
    | release name =>
      obtain ⟨-, rfl⟩ := release?_some hdone
      rfl
    | touch id mark =>
      obtain ⟨-, rfl⟩ := touch?_some hdone
      rfl
    | clear =>
      cases hdone
      rfl

end Perform

/-! ## Whole runs -/

/-- A session as it began in a run, and the operations that came after. -/
structure Beginning where
  session : Session
  later : List Op
  deriving DecidableEq, Repr

namespace Beginning

/-- Whether nothing has taken the session out since. -/
def Stays (b : Beginning) : Prop := ∀ op ∈ b.later, ¬ op.TakesOut b.session.id

instance (b : Beginning) : Decidable b.Stays :=
  inferInstanceAs (Decidable (∀ op ∈ b.later, ¬ op.TakesOut b.session.id))

/-- The session with the latest sign of life that has come for it. -/
def now (b : Beginning) : Session :=
  { b.session with mark := (touches b.session.id b.later).foldl max b.session.mark }

/-- The same beginning, one operation later. -/
def after (b : Beginning) (op : Op) : Beginning := { b with later := b.later ++ [op] }

theorem stays_after {b : Beginning} {op : Op} :
    (b.after op).Stays ↔ b.Stays ∧ ¬ op.TakesOut b.session.id := by
  simp only [Stays, after, List.forall_mem_append, List.forall_mem_singleton]

theorem now_after (b : Beginning) (op : Op) : (b.after op).now = op.mark b.now := by
  simp only [now, after, Op.mark, touches_append, List.foldl_append]

end Beginning

/-- The sessions that begin in a run, in the order in which they do. -/
def beginnings (r : Roster) : List Op → List Beginning
  | [] => []
  | op :: ops => ((r.begun? op).map fun s => ⟨s, ops⟩).toList ++ (r.perform op).beginnings ops

theorem run_append (r : Roster) (before after : List Op) :
    r.run (before ++ after) = (r.run before).run after :=
  List.foldl_append ..

theorem beginnings_concat (op : Op) (ops : List Op) : ∀ r : Roster,
    r.beginnings (ops ++ [op]) = (r.beginnings ops).map (·.after op) ++
      (((r.run ops).begun? op).map fun s => ⟨s, []⟩).toList := by
  induction ops with
  | nil =>
    intro r
    simp [beginnings, run]
  | cons first ops ih =>
    intro r
    rw [List.cons_append, beginnings, ih, beginnings, List.map_append, List.append_assoc]
    congr 1
    cases r.begun? first <;> rfl

/-- Each beginning of a run is a registration that succeeded in its place. -/
theorem mem_beginnings {b : Beginning} {ops : List Op} : ∀ {r : Roster}, b ∈ r.beginnings ops ↔
    ∃ before op, ops = before ++ op :: b.later ∧ (r.run before).begun? op = some b.session := by
  induction ops with
  | nil =>
    intro r
    simp [beginnings]
  | cons first ops ih =>
    intro r
    rw [beginnings, List.mem_append, ih, Option.mem_toList, Option.map_eq_some_iff]
    constructor
    · rintro (⟨s, hs, rfl⟩ | ⟨before, op, rfl, hs⟩)
      · exact ⟨[], first, rfl, hs⟩
      · exact ⟨first :: before, op, rfl, hs⟩
    · rintro ⟨before, op, hops, hs⟩
      cases before with
      | nil =>
        obtain ⟨rfl, rfl⟩ := List.cons.inj hops
        exact .inl ⟨b.session, hs, rfl⟩
      | cons _ before =>
        obtain ⟨rfl, rfl⟩ := List.cons.inj hops
        exact .inr ⟨before, op, rfl, hs⟩

/-- After a run those are there who have begun in it and whom nothing has taken out since, in the
order in which they began, and each with the latest sign of life that has come for it. -/
theorem sessions_run (ops : List Op) :
    (run {} ops).sessions = ((beginnings {} ops).filter (·.Stays)).map (·.now) := by
  induction ops using List.reverseRecOn with
  | nil => rfl
  | append_singleton ops op ih =>
    have hlast : run {} (ops ++ [op]) = (run {} ops).perform op := run_append ..
    have hkept : ((beginnings {} ops).map (·.after op)).filter (·.Stays) =
        (((beginnings {} ops).filter (·.Stays)).filter
          fun b => ¬ op.TakesOut b.session.id).map (·.after op) := by
      rw [List.filter_map, List.filter_filter]
      congr 1
      refine List.filter_congr fun b _ => ?_
      simp only [Function.comp_apply, Beginning.stays_after, Bool.decide_and, Bool.and_comm]
    have hnew : ((((run {} ops).begun? op).map fun s => (⟨s, []⟩ : Beginning)).toList.filter
        (·.Stays)).map (·.now) = ((run {} ops).begun? op).toList := by
      cases (run {} ops).begun? op with
      | none => rfl
      | some s => simp [Beginning.Stays, Beginning.now, touches]
    rw [hlast, sessions_perform, ih, beginnings_concat, List.filter_append, List.map_append, hkept,
      hnew, List.map_map, List.filter_map, List.map_map]
    congr 1
    exact List.map_congr_left fun b _ => (Beginning.now_after b op).symm

/-- The operation that a session began with, and those after it. -/
structure Began (ops : List Op) (s : Session) (before : List Op) (mark : Nat) (after : List Op) :
    Prop where
  split : ops = before ++ .register s.id s.name s.link mark :: after
  sequence : s.sequence = (run {} before).registered + 1
  stays : ∀ op ∈ after, ¬ op.TakesOut s.id
  latest : s.mark = (touches s.id after).foldl max mark

/-- Whoever is there has begun with a mark, nothing has taken it out since, and its mark is the
latest of that one and of the signs of life that came for its id since. -/
theorem mark_of_run (ops : List Op) : ∀ s ∈ (run {} ops).sessions,
    ∃ before mark after, Began ops s before mark after := by
  intro s hs
  rw [sessions_run] at hs
  obtain ⟨b, hb, rfl⟩ := List.mem_map.1 hs
  obtain ⟨hmem, hstays⟩ := List.mem_filter.1 hb
  obtain ⟨before, op, hsplit, hbegun⟩ := mem_beginnings.1 hmem
  obtain ⟨rfl, -, hsequence⟩ := begun?_eq_some.1 hbegun
  exact ⟨before, b.session.mark, b.later, hsplit, hsequence, of_decide_eq_true hstays, rfl⟩

end Parley.Roster
