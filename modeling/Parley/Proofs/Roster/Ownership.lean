/-
A name is a lock. Whoever registers or reserves it owns it, until that session is removed, that
reservation is released, or everything is cleared; in between, every claim of it is refused
(`claims_exclude`).

An owner stays as long as nothing frees the name (`Owns.kept`), and a free name stays free as long
as no claim of it succeeds (`free_kept`): the rest is induction on the operations in between.
-/
import Parley.Proofs.Roster.Run

namespace Parley.Roster

/-! ## Claims and owners -/

/-- Who owns a name: a session, which its number tells from others under the same id, or a
reservation. -/
inductive Owner where
  | session (id : SessionId) (sequence : Nat)
  | reservation
  deriving DecidableEq, Repr

/-- Whether a name has an owner. -/
def Owns (r : Roster) (name : Text) : Owner → Prop
  | .session id sequence => ∃ s ∈ r.sessions, s.name = name ∧ s.id = id ∧ s.sequence = sequence
  | .reservation => name ∈ r.reserved

/-- Whether an operation claims a name. -/
def Op.Claims (name : Text) : Op → Prop
  | .register _ n _ _ | .reserve n => n = name
  | .remove _ | .release _ | .touch .. | .clear => False

/-- Whom a claim makes the owner if it succeeds. -/
def claimant (r : Roster) : Op → Owner
  | .register id _ _ _ => .session id (r.registered + 1)
  | .remove _ | .reserve _ | .release _ | .touch .. | .clear => .reservation

/-- Whether no session stands in the way of an operation by having its id. -/
def AdmitsId (r : Roster) : Op → Prop
  | .register id _ _ _ => r.contains id = false
  | .remove _ | .reserve _ | .release _ | .touch .. | .clear => True

/-- Whether an operation on a roster claims a name and succeeds. -/
def Wins (name : Text) (a : Roster × Op) : Prop :=
  a.2.Claims name ∧ (a.1.perform? a.2).isSome = true

/-- Whether an operation on a roster takes a name from an owner: it takes out that very session, it
ends the reservation, or it takes everything out. -/
def Frees (name : Text) (o : Owner) : Roster × Op → Prop
  | (r, .remove id) => ∃ s, r.lookup? id = some s ∧ s.name = name ∧ o = .session s.id s.sequence
  | (r, .release n) => n = name ∧ o = .reservation ∧ (r.release? n).isSome = true
  | (_, .clear) => True
  | (_, .register ..) | (_, .reserve _) | (_, .touch ..) => False

/-- The operations of a run, each with the roster it is made on. -/
def trace (r : Roster) : List Op → List (Roster × Op)
  | [] => []
  | op :: ops => (r, op) :: trace (r.perform op) ops

/-! ## One operation -/

section Operations

variable {r : Roster} {name : Text} {o : Owner} {op : Op}

theorem isActive_iff_owns (hw : r.WF) : r.isActive name = true ↔ ∃ o, r.Owns name o := by
  rw [active_iff hw]
  constructor
  · rintro (⟨s, hs, hname⟩ | h)
    · exact ⟨.session s.id s.sequence, s, hs, hname, rfl, rfl⟩
    · exact ⟨.reservation, h⟩
  · rintro ⟨⟨id, sequence⟩ | _, h⟩
    · obtain ⟨s, hs, hname, -⟩ := h
      exact .inl ⟨s, hs, hname⟩
    · exact .inr h

theorem owns_session {id : SessionId} {sequence : Nat} :
    r.Owns name (.session id sequence) ↔
      (name, id, sequence) ∈ r.sessions.map fun s => (s.name, s.id, s.sequence) := by
  simp [Owns]

/-- A sign of life leaves every name with its owner. -/
theorem touch?_owns {r' : Roster} {id : SessionId} {mark : Nat}
    (h : r.touch? id mark = some r') : r'.Owns name o ↔ r.Owns name o := by
  obtain ⟨-, rfl⟩ := touch?_some h
  cases o with
  | session i n => rw [owns_session, owns_session, map_touch _ fun _ _ => rfl]
  | reservation => exact .rfl

/-- A claim succeeds exactly if the name is free and no other session has the id. -/
theorem wins_iff (hc : op.Claims name) :
    Wins name (r, op) ↔ r.isActive name = false ∧ r.AdmitsId op := by
  rw [Wins, and_iff_right hc]
  cases op with
  | register id n link mark =>
    obtain rfl : n = name := hc
    rw [← Option.ne_none_iff_isSome, ne_eq, perform?, register?_eq_none]
    simp [AdmitsId]
  | reserve n =>
    obtain rfl : n = name := hc
    rw [perform?, reserve?]
    by_cases h : r.isActive n = true <;> simp [AdmitsId, h]
  | remove _ | release _ | touch _ _ | clear => exact hc.elim

theorem owns_of_wins (h : Wins name (r, op)) : (r.perform op).Owns name (r.claimant op) := by
  obtain ⟨hc, hdone⟩ := h
  obtain ⟨r', hdone⟩ := Option.isSome_iff_exists.1 hdone
  rw [perform_some hdone]
  cases op with
  | register id n link mark =>
    obtain rfl : n = name := hc
    obtain ⟨-, -, rfl⟩ := register?_some hdone
    exact ⟨_, List.mem_append_right _ (List.mem_singleton.2 rfl), rfl, rfl, rfl⟩
  | reserve n =>
    obtain rfl : n = name := hc
    obtain ⟨-, rfl⟩ := reserve?_some hdone
    exact List.mem_cons_self
  | remove _ | release _ | touch _ _ | clear => exact hc.elim

/-- An owner stays as long as the name is not freed. -/
theorem Owns.kept (h : r.Owns name o) (hf : ¬ Frees name o (r, op)) (hw : r.WF) :
    (r.perform op).Owns name o := by
  cases hdone : r.perform? op with
  | none => rwa [perform_none hdone]
  | some r' =>
    rw [perform_some hdone]
    cases op with
    | register id n link mark =>
      obtain ⟨-, -, rfl⟩ := register?_some hdone
      cases o with
      | session i k =>
        obtain ⟨s, hs, hname⟩ := h
        exact ⟨s, List.mem_append_left _ hs, hname⟩
      | reservation => exact h
    | remove id =>
      obtain ⟨⟨s, r1⟩, hr, rfl⟩ := Option.map_eq_some_iff.1 hdone
      obtain ⟨found, hsessions, hreserved, -⟩ := remove?_sessions hr
      cases o with
      | session i k =>
        obtain ⟨t, ht, hname, rfl, rfl⟩ := h
        have hother : t.id ≠ id := by
          rintro rfl
          exact hf ⟨t, (lookup?_eq_some hw).2 ⟨ht, rfl⟩, hname, rfl⟩
        exact ⟨t, hsessions ▸ List.mem_filter.2 ⟨ht, by simpa using hother⟩, hname, rfl, rfl⟩
      | reservation => exact (hreserved ▸ h : name ∈ r1.reserved)
    | reserve n =>
      obtain ⟨-, rfl⟩ := reserve?_some hdone
      cases o with
      | session i k => exact h
      | reservation => exact List.mem_cons_of_mem _ h
    | release n =>
      have hreleased : r.release? n = some r' := hdone
      obtain ⟨-, rfl⟩ := release?_some hreleased
      cases o with
      | session i k => exact h
      | reservation =>
        have hother : name ≠ n := by
          rintro rfl
          exact hf ⟨rfl, rfl, by rw [hreleased]; rfl⟩
        exact List.mem_filter.2 ⟨h, by simpa using hother⟩
    | touch id mark => exact (touch?_owns hdone).2 h
    | clear => exact absurd trivial hf

/-- Whoever owns a name after an operation owned it before, unless the operation claimed it. -/
theorem owned_before (h : (r.perform op).Owns name o) : Wins name (r, op) ∨ r.Owns name o := by
  cases hdone : r.perform? op with
  | none => rw [perform_none hdone] at h; exact .inr h
  | some r' =>
    have hsome : (r.perform? op).isSome = true := by rw [hdone]; rfl
    rw [perform_some hdone] at h
    cases op with
    | register id n link mark =>
      obtain ⟨-, -, rfl⟩ := register?_some hdone
      cases o with
      | session i k =>
        obtain ⟨s, hs, hname, hid⟩ := h
        rcases List.mem_append.1 hs with hs | hs
        · exact .inr ⟨s, hs, hname, hid⟩
        · rw [List.mem_singleton.1 hs] at hname
          exact .inl ⟨hname, hsome⟩
      | reservation => exact .inr h
    | remove id =>
      obtain ⟨⟨s, r1⟩, hr, rfl⟩ := Option.map_eq_some_iff.1 hdone
      obtain ⟨-, hsessions, hreserved, -⟩ := remove?_sessions hr
      cases o with
      | session i k =>
        obtain ⟨t, ht, hname⟩ := h
        exact .inr ⟨t, (List.mem_filter.1 (hsessions ▸ ht)).1, hname⟩
      | reservation => exact .inr (hreserved ▸ h : name ∈ r.reserved)
    | reserve n =>
      obtain ⟨-, rfl⟩ := reserve?_some hdone
      cases o with
      | session i k => exact .inr h
      | reservation =>
        rcases List.mem_cons.1 h with rfl | h
        · exact .inl ⟨rfl, hsome⟩
        · exact .inr h
    | release n =>
      obtain ⟨-, rfl⟩ := release?_some hdone
      cases o with
      | session i k => exact .inr h
      | reservation => exact .inr (List.mem_filter.1 h).1
    | touch id mark => exact .inr ((touch?_owns hdone).1 h)
    | clear => cases hdone; cases o <;> simp [Owns] at h

variable (hw : r.WF)
include hw

/-- A free name stays free as long as no claim of it succeeds. -/
theorem free_kept (h : r.isActive name = false) (hc : ¬ Wins name (r, op)) :
    (r.perform op).isActive name = false := by
  rw [← Bool.not_eq_true, isActive_iff_owns (perform_wf hw op)]
  rintro ⟨o, ho⟩
  have hbefore : r.Owns name o := (owned_before ho).resolve_left hc
  rw [(isActive_iff_owns hw).2 ⟨o, hbefore⟩] at h
  cases h

/-- A freed name has no owner: nobody else could have had it. -/
theorem free_of_frees (h : Frees name o (r, op)) : (r.perform op).isActive name = false := by
  cases op with
  | remove id =>
    obtain ⟨s, found, rfl, -⟩ := h
    have hdone := remove?_eq hw found
    rw [perform_some (by rw [perform?, hdone]; rfl), ← Bool.not_eq_true, isActive_iff]
    rintro (hheld | hreserved)
    · simp at hheld
    · exact hw.apart _ hreserved s (lookup?_some found).1 rfl
  | release n =>
    obtain ⟨rfl, -, hdone⟩ := h
    obtain ⟨r', hdone⟩ := Option.isSome_iff_exists.1 hdone
    have hafter : r.perform (.release n) = r' := perform_some hdone
    obtain ⟨hn, rfl⟩ := release?_some hdone
    rw [hafter, ← Bool.not_eq_true, isActive_iff]
    rintro (hheld | hreserved)
    · rw [(hw.index.map _).mem_iff, List.map_map] at hheld
      obtain ⟨s, hs, hname⟩ := List.mem_map.1 hheld
      exact hw.apart _ hn s hs hname
    · simp at hreserved
  | clear => rfl
  | register _ _ _ _ | reserve _ | touch _ _ => exact h.elim

end Operations

/-! ## Whole runs -/

section Runs

variable {name : Text} {o : Owner}

theorem owns_run {ops : List Op} : ∀ {r : Roster}, r.WF → r.Owns name o →
    (∀ a ∈ trace r ops, ¬ Frees name o a) → (r.run ops).Owns name o := by
  induction ops with
  | nil => exact fun _ h _ => h
  | cons op ops ih =>
    intro r hw h hf
    obtain ⟨hnow, hlater⟩ := List.forall_mem_cons.1 hf
    exact ih (perform_wf hw op) (h.kept hnow hw) hlater

theorem free_run {ops : List Op} : ∀ {r : Roster}, r.WF → r.isActive name = false →
    (∀ a ∈ trace r ops, ¬ Wins name a) → (r.run ops).isActive name = false := by
  induction ops with
  | nil => exact fun _ h _ => h
  | cons op ops ih =>
    intro r hw h hc
    obtain ⟨hnow, hlater⟩ := List.forall_mem_cons.1 hc
    exact ih (perform_wf hw op) (free_kept hw h hnow) hlater

/-- Where nothing frees a name, one successful claim is enough for it to have an owner at the
end. -/
theorem active_run {ops : List Op} {a : Roster × Op} (hwins : Wins name a) :
    ∀ {r : Roster}, r.WF → (∀ b ∈ trace r ops, ∀ o, ¬ Frees name o b) → a ∈ trace r ops →
      (r.run ops).isActive name = true := by
  induction ops with
  | nil => exact fun _ _ ha => absurd ha List.not_mem_nil
  | cons op ops ih =>
    intro r hw hf ha
    obtain ⟨-, hlater⟩ := List.forall_mem_cons.1 hf
    rcases List.mem_cons.1 ha with rfl | ha
    · have howns := owns_run (perform_wf hw op) (owns_of_wins hwins) fun b hb => hlater b hb _
      exact (isActive_iff_owns (run_wf ops (perform_wf hw op))).2 ⟨_, howns⟩
    · exact ih (perform_wf hw op) hlater ha

/-- What stands before an operation in a trace is the trace of the operations before it. -/
theorem trace_split {earlier later : List (Roster × Op)} {a : Roster × Op} :
    ∀ {ops : List Op} {r : Roster}, trace r ops = earlier ++ a :: later →
      ∃ before, earlier = trace r before ∧ a.1 = r.run before := by
  induction earlier with
  | nil =>
    intro ops r h
    cases ops with
    | nil => cases h
    | cons op ops => cases h; exact ⟨[], rfl, rfl⟩
  | cons b earlier ih =>
    intro ops r h
    cases ops with
    | nil => cases h
    | cons op ops =>
      obtain ⟨rfl, hrest⟩ := List.cons.inj h
      obtain ⟨before, rfl, ha⟩ := ih hrest
      exact ⟨op :: before, rfl, ha⟩

end Runs

/-- A name is a lock, in every run of operations. Between two successful claims of it, something
took it from whom the first claim made its owner. Where it was free and nothing frees it, a claim
succeeds exactly if none did before and no other session has the id. Once it is freed, the next
claim succeeds, again unless another session has the id. -/
theorem claims_exclude (name : Text) (before ops : List Op) :
    let r := run {} before
    (∀ c c', Wins name (r, c) → Wins name ((r.perform c).run ops, c') →
      ∃ a ∈ trace (r.perform c) ops, Frees name (r.claimant c) a) ∧
    (r.isActive name = false → (∀ a ∈ trace r ops, ∀ o, ¬ Frees name o a) →
      ∀ earlier a later, trace r ops = earlier ++ a :: later → a.2.Claims name →
        (Wins name a ↔ a.1.AdmitsId a.2 ∧ ∀ b ∈ earlier, ¬ Wins name b)) ∧
    ∀ f o, Frees name o (r, f) → (∀ a ∈ trace (r.perform f) ops, ¬ Wins name a) →
      ∀ c, c.Claims name →
        (Wins name ((r.perform f).run ops, c) ↔ ((r.perform f).run ops).AdmitsId c) := by
  intro r
  have hw : r.WF := run_wf before (empty_wf 0)
  refine ⟨fun c c' hfirst hsecond => ?_, fun hfree hf earlier a later hsplit ha => ?_,
    fun f o hfrees hbetween c hc => ?_⟩
  · -- otherwise the first owner is still there at the second claim
    by_contra hnone
    push Not at hnone
    have howns := owns_run (perform_wf hw c) (owns_of_wins hfirst) hnone
    have hactive := (isActive_iff_owns (run_wf ops (perform_wf hw c))).2 ⟨_, howns⟩
    rw [((wins_iff hsecond.1).1 hsecond).1] at hactive
    cases hactive
  · obtain ⟨xs, rfl, ha1⟩ := trace_split hsplit
    have hf' : ∀ b ∈ trace r xs, ∀ o, ¬ Frees name o b := fun b hb =>
      hf b (hsplit ▸ List.mem_append_left _ hb)
    obtain ⟨r', op⟩ := a
    obtain rfl : r' = r.run xs := ha1
    constructor
    · intro hwins
      obtain ⟨hinactive, hid⟩ := (wins_iff ha).1 hwins
      refine ⟨hid, fun b hb hb' => ?_⟩
      rw [active_run hb' hw hf' hb] at hinactive
      cases hinactive
    · rintro ⟨hid, hnone⟩
      exact (wins_iff ha).2 ⟨free_run hw hfree hnone, hid⟩
  · have hinactive := free_run (perform_wf hw f) (free_of_frees hw hfrees) hbetween
    rw [wins_iff hc, and_iff_right hinactive]

/-- Ann registers, her name cannot be reserved, she leaves, and then it can be. -/
theorem claims_exclude_until_return :
    let ann := "Ann".toList
    let arrival : Op := .register "u1".toList ann ⟨1⟩ 0
    let departure : Op := .remove "u1".toList
    let r : Roster := run {} [arrival]
    Wins ann ({}, arrival) ∧ ¬ Wins ann (r, .reserve ann) ∧
    Wins ann (r.run [.reserve ann, departure], .reserve ann) ∧
    (∃ a ∈ trace r [.reserve ann, departure], Frees ann (.session "u1".toList 1) a) ∧
    Wins ann (r.perform departure, .reserve ann) := by
  intro ann arrival departure r
  have hfirst : Wins ann ({}, arrival) := ⟨rfl, rfl⟩
  have hlast : Wins ann (r.run [.reserve ann, departure], .reserve ann) := ⟨rfl, rfl⟩
  have hfrees : Frees ann (.session "u1".toList 1) (r, departure) := ⟨_, rfl, rfl, rfl⟩
  obtain ⟨-, hone, -⟩ := claims_exclude ann [] [arrival, .reserve ann]
  obtain ⟨-, -, hnext⟩ := claims_exclude ann [arrival] []
  refine ⟨hfirst, fun hrefused => ?_, hlast, (claims_exclude ann [] _).1 arrival _ hfirst hlast,
    (hnext departure _ hfrees (fun _ h => absurd h List.not_mem_nil) (.reserve ann) rfl).2 trivial⟩
  have hunfreed : ∀ a ∈ trace {} [arrival, .reserve ann], ∀ o, ¬ Frees ann o a := by
    simp [trace, arrival, Frees]
  exact ((hone rfl hunfreed [({}, arrival)] (r, .reserve ann) [] rfl rfl).1 hrefused).2 _
    List.mem_cons_self hfirst

end Parley.Roster
