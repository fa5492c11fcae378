/-
Snapshots of a roster. A table of sessions has no order of its own, and a snapshot puts it in the
order of the numbers; whatever order the table gives them in, that lists whoever has registered and
has not been taken out since, once each, in the order in which they registered
(`snapshots_in_order`).

The numbers carry this: a registration gets the next one as it succeeds, so those of all that ever
succeeded are 1, 2, 3 and so on without a gap (`sequences_beginnings`), and a part of them is
still in order.
-/
import Parley.Proofs.Roster.Marks

namespace Parley.Roster

/-! ## Numbers -/

/-- The sessions that begin in a run get the numbers that come next, one after the other. -/
theorem sequences_beginnings (ops : List Op) : ∀ r : Roster,
    (r.beginnings ops).map (·.session.sequence) =
      List.range' (r.registered + 1) (r.beginnings ops).length := by
  induction ops with
  | nil => exact fun _ => rfl
  | cons op ops ih =>
    intro r
    have hcount := registered_perform r op
    rw [beginnings]
    cases hb : r.begun? op with
    | none =>
      rw [hb] at hcount
      rw [Option.map_none, Option.toList_none, List.nil_append, ih, hcount]
      rfl
    | some s =>
      rw [hb] at hcount
      simp only [Option.map_some, Option.toList_some, List.singleton_append, List.map_cons,
        List.length_cons, List.range'_succ]
      rw [ih, hcount, (begun?_eq_some.1 hb).2.2]
      rfl

theorem registered_run (ops : List Op) : ∀ r : Roster,
    (r.run ops).registered = r.registered + (r.beginnings ops).length := by
  induction ops with
  | nil => exact fun _ => rfl
  | cons op ops ih =>
    intro r
    have hcount : ((r.begun? op).map fun s => (⟨s, ops⟩ : Beginning)).toList.length =
        (r.begun? op).toList.length := by
      cases r.begun? op <;> rfl
    show ((r.perform op).run ops).registered = _
    rw [ih, registered_perform, beginnings, List.length_append, hcount, Nat.add_assoc]

/-! ## Snapshots -/

/-- A snapshot of a table of sessions, which has no order of its own: they are put in the order of
their numbers. -/
def snapshot (table : List Session) : List Session :=
  table.mergeSort fun s t => s.sequence ≤ t.sequence

/-- Whatever order a table gives the sessions in, a snapshot of it has them in the order in which
they registered: no two of them have the same number, so there is only one way to sort them. -/
theorem snapshot_of_perm {r : Roster} (ho : r.InOrder) {table : List Session}
    (h : table.Perm r.sessions) : snapshot table = r.sessions := by
  have hascending : r.sessions.Pairwise (·.sequence < ·.sequence) :=
    List.pairwise_map.1 ho.ascending
  have hsame : ∀ s t, s ∈ snapshot table → t ∈ r.sessions →
      decide (s.sequence ≤ t.sequence) = true → decide (t.sequence ≤ s.sequence) = true →
      s = t := by
    intro s t hs ht hle hge
    have hs : s ∈ r.sessions := h.mem_iff.1 (List.mem_mergeSort.1 hs)
    have hequal : s.sequence = t.sequence :=
      Nat.le_antisymm (of_decide_eq_true hle) (of_decide_eq_true hge)
    exact eq_of_key_eq (ho.ascending.imp Nat.ne_of_lt) hs ht hequal
  refine List.Perm.eq_of_pairwise hsame ?_ ?_ ((List.mergeSort_perm table _).trans h)
  · apply List.pairwise_mergeSort
    · simp only [decide_eq_true_eq]
      omega
    · simp only [Bool.or_eq_true, decide_eq_true_eq]
      omega
  · exact hascending.imp fun hlt => decide_eq_true (Nat.le_of_lt hlt)

/-- The snapshots that can be taken along a run: one before each operation, and one at the end. -/
def snapshots (r : Roster) : List Op → List (List Session)
  | [] => [r.sessions]
  | op :: ops => r.sessions :: (r.perform op).snapshots ops

/-- A snapshot shows the sessions of its time, and goes on to do so whatever comes later. -/
theorem getElem?_snapshots (more : List Op) (ops : List Op) : ∀ (r : Roster) {k : Nat},
    k ≤ ops.length → (r.snapshots (ops ++ more))[k]? = some (r.run (ops.take k)).sessions := by
  induction ops with
  | nil =>
    intro r k hk
    obtain rfl : k = 0 := Nat.le_zero.1 hk
    cases more <;> rfl
  | cons op ops ih =>
    intro r k hk
    cases k with
    | zero => rfl
    | succ k => exact ih (r.perform op) (Nat.le_of_succ_le_succ hk)

/-- After any operations, a snapshot of the table, in whatever order it is, lists exactly the
sessions that have registered and have not been taken out since, once each, in the order in which
they registered and by ascending numbers; clearing returns the same list. The numbers of all that
ever registered are 1, 2, 3 and so on, so none comes twice, be it after a removal or after
everything was cleared; the next one to succeed gets the next number, and one that is refused gets
none. As long as there are fewer than 64 bits can count, they have room in 64 bits. A snapshot that
has been taken stays as it was, whatever comes later. -/
theorem snapshots_in_order (ops : List Op) :
    let r := run {} ops
    let all := beginnings {} ops
    let present := (all.filter (·.Stays)).map (·.now)
    (∀ table, table.Perm r.sessions → snapshot table = present ∧ r.clear.1 = snapshot table) ∧
    (∀ id, r.contains id = true ↔ ∃ s ∈ present, s.id = id) ∧
    (present.map (·.id)).Nodup ∧ (present.map (·.sequence)).Pairwise (· < ·) ∧
    all.map (·.session.sequence) = List.range' 1 all.length ∧
    (∀ id name link mark, (r.perform? (.register id name link mark)).isSome = true →
      r.begun? (.register id name link mark) = some ⟨id, name, link, all.length + 1, mark⟩) ∧
    (∀ op, r.perform? op = none → r.begun? op = none ∧ r.perform op = r) ∧
    (r.perform .clear).sessions = [] ∧ (r.perform .clear).registered = all.length ∧
    (all.length < UInt64.size → ∀ s ∈ present, (UInt64.ofNat s.sequence).toNat = s.sequence) ∧
    ∀ more, ∀ k ≤ ops.length,
      (snapshots {} (ops ++ more))[k]? = some (run {} (ops.take k)).sessions := by
  intro r all present
  have hw : r.WF := run_wf ops (empty_wf 0)
  have ho : r.InOrder := run_inOrder ops (empty_inOrder 0)
  have hpresent : r.sessions = present := sessions_run ops
  have hregistered : r.registered = all.length :=
    (registered_run ops {}).trans (Nat.zero_add _)
  refine ⟨fun table h => ?_, fun id => ?_, hpresent ▸ hw.ids, hpresent ▸ ho.ascending,
    sequences_beginnings ops {}, fun id name link mark hdone => ?_, fun op hnone => ?_, rfl,
    hregistered, fun hfew s hs => ?_, fun more k hk => getElem?_snapshots more ops {} hk⟩
  · have hshot := snapshot_of_perm ho h
    exact ⟨hshot.trans hpresent, hshot.symm⟩
  · rw [contains_iff, hpresent]
  · obtain ⟨r', hr⟩ := Option.isSome_iff_exists.1 hdone
    rw [begun?_register hr, hregistered]
  · exact ⟨begun?_of_refused hnone, perform_none hnone⟩
  · have hgiven : s.sequence ≤ r.registered :=
      ho.given _ (List.mem_map_of_mem (hpresent ▸ hs : s ∈ r.sessions))
    rw [UInt64.toNat_ofNat']
    apply Nat.mod_eq_of_lt
    rw [hregistered] at hgiven
    exact Nat.lt_of_le_of_lt hgiven hfew

/-- Somebody comes back under an id, and the table has it before one who was there all along. -/
theorem snapshots_in_order_of_return :
    let bob : Session := ⟨"2".toList, "bob".toList, ⟨2⟩, 2, 0⟩
    let back : Session := ⟨"1".toList, "eve".toList, ⟨3⟩, 3, 0⟩
    let ops : List Op := [.register "1".toList "ann".toList ⟨1⟩ 0,
      .register bob.id bob.name bob.link 0, .register "3".toList bob.name ⟨3⟩ 0,
      .remove "1".toList, .register back.id back.name back.link 0]
    [back, bob].Perm (run {} ops).sessions ∧ snapshot [back, bob] = [bob, back] ∧
    (run {} ops).clear.1 = [bob, back] := by
  intro bob back ops
  have hperm : [back, bob].Perm (run {} ops).sessions := .swap bob back []
  have hpresent : ((beginnings {} ops).filter (·.Stays)).map (·.now) = [bob, back] := by decide
  obtain ⟨hsnapshot, hclear⟩ := (snapshots_in_order ops).1 [back, bob] hperm
  rw [hpresent] at hsnapshot
  exact ⟨hperm, hsnapshot, hclear.trans hsnapshot⟩

end Parley.Roster
