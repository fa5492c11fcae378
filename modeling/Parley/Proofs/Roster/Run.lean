/-
Runs of a roster: any operations in any order, where one that is refused changes nothing. What
each operation keeps, every run keeps; it also keeps the sessions in the order of registration
(`perform?_inOrder`).
-/
import Parley.Proofs.Roster.Index

namespace Parley.Roster

/-- An operation that changes a roster. -/
inductive Op where
  | register (id : SessionId) (name : Text) (link : ConnId) (mark : Nat)
  | remove (id : SessionId)
  | reserve (name : Text)
  | release (name : Text)
  | touch (id : SessionId) (mark : Nat)
  | clear
  deriving DecidableEq, Repr

/-- What an operation makes of a roster, unless it is refused. -/
def perform? (r : Roster) : Op → Option Roster
  | .register id name link mark => r.register? id name link mark
  | .remove id => (r.remove? id).map (·.2)
  | .reserve name => r.reserve? name
  | .release name => r.release? name
  | .touch id mark => r.touch? id mark
  | .clear => some r.clear.2

/-- The roster after an operation; one that is refused leaves it as it was. -/
def perform (r : Roster) (op : Op) : Roster := (r.perform? op).getD r

/-- The roster after several operations, one after the other. -/
def run (r : Roster) (ops : List Op) : Roster := ops.foldl perform r

theorem perform_some {r r' : Roster} {op : Op} (h : r.perform? op = some r') :
    r.perform op = r' := by
  rw [perform, h, Option.getD_some]

theorem perform_none {r : Roster} {op : Op} (h : r.perform? op = none) : r.perform op = r := by
  rw [perform, h, Option.getD_none]

theorem perform?_wf {r r' : Roster} (hw : r.WF) {op : Op} (h : r.perform? op = some r') :
    r'.WF := by
  cases op with
  | register id name link mark => exact register?_wf hw h
  | remove id =>
    obtain ⟨⟨s, r1⟩, hr, rfl⟩ := Option.map_eq_some_iff.1 h
    exact remove?_wf hw hr
  | reserve name => exact reserve?_wf hw h
  | release name => exact release?_wf hw h
  | touch id mark => exact touch?_wf hw h
  | clear => cases h; exact clear_wf r

theorem perform_wf {r : Roster} (hw : r.WF) (op : Op) : (r.perform op).WF := by
  unfold perform
  cases h : r.perform? op with
  | none => exact hw
  | some r' => exact perform?_wf hw h

theorem run_wf (ops : List Op) : ∀ {r : Roster}, r.WF → (r.run ops).WF := by
  induction ops with
  | nil => exact id
  | cons op ops ih => exact fun hw => ih (perform_wf hw op)

/-! ## The order of registration -/

/-- The sessions stand in the order of registration: each has a higher number than those before it,
and none a number that has yet to be given out. -/
structure InOrder (r : Roster) : Prop where
  ascending : (r.sessions.map (·.sequence)).Pairwise (· < ·)
  given : ∀ n ∈ r.sessions.map (·.sequence), n ≤ r.registered

theorem empty_inOrder (registered : Nat) : ({ registered } : Roster).InOrder :=
  ⟨.nil, by simp⟩

theorem perform?_inOrder {r r' : Roster} (ho : r.InOrder) {op : Op}
    (h : r.perform? op = some r') : r'.InOrder := by
  cases op with
  | register id name link mark =>
    obtain ⟨-, -, rfl⟩ := register?_some h
    refine ⟨?_, fun n hn => ?_⟩
    · simp only [List.map_append, List.map_singleton]
      refine List.pairwise_append.2 ⟨ho.ascending, List.pairwise_singleton .., fun n hn m hm => ?_⟩
      rw [List.mem_singleton.1 hm]
      exact Nat.lt_succ_of_le (ho.given n hn)
    · simp only [List.map_append, List.map_singleton] at hn
      rcases List.mem_append.1 hn with hn | hn
      · exact Nat.le_succ_of_le (ho.given n hn)
      · exact Nat.le_of_eq (List.mem_singleton.1 hn)
  | remove id =>
    obtain ⟨⟨s, r1⟩, hr, rfl⟩ := Option.map_eq_some_iff.1 h
    obtain ⟨-, hsessions, -, hregistered⟩ := remove?_sessions hr
    have hsub : (r1.sessions.map (·.sequence)).Sublist (r.sessions.map (·.sequence)) := by
      rw [hsessions]
      exact List.filter_sublist.map _
    exact ⟨ho.ascending.sublist hsub, fun n hn => hregistered ▸ ho.given n (hsub.subset hn)⟩
  | reserve name => obtain ⟨-, rfl⟩ := reserve?_some h; exact ⟨ho.ascending, ho.given⟩
  | release name => obtain ⟨-, rfl⟩ := release?_some h; exact ⟨ho.ascending, ho.given⟩
  | touch id mark =>
    obtain ⟨-, rfl⟩ := touch?_some h
    constructor
    · simp only; rw [map_touch _ fun _ _ => rfl]; exact ho.ascending
    · simp only; rw [map_touch _ fun _ _ => rfl]; exact ho.given
  | clear => cases h; exact empty_inOrder _

theorem perform_inOrder {r : Roster} (ho : r.InOrder) (op : Op) : (r.perform op).InOrder := by
  unfold perform
  cases h : r.perform? op with
  | none => exact ho
  | some r' => exact perform?_inOrder ho h

theorem run_inOrder (ops : List Op) : ∀ {r : Roster}, r.InOrder → (r.run ops).InOrder := by
  induction ops with
  | nil => exact id
  | cons op ops ih => exact fun ho => ih (perform_inOrder ho op)

end Parley.Roster
