/-
The invariant of rosters: ids and names are unique among the sessions, the index of names lists
exactly the sessions by name and id, and no reserved name is held. Every operation keeps it; on
such a roster each question about a name or an id is a question about the list of sessions.
-/
import Parley.Proofs.Keyed
import Parley.Roster

namespace Parley.Roster

/-- The invariant of rosters. -/
structure WF (r : Roster) : Prop where
  ids : (r.sessions.map (·.id)).Nodup
  names : (r.sessions.map (·.name)).Nodup
  index : r.holders.Perm (r.sessions.map fun s => (s.name, s.id))
  apart : ∀ name ∈ r.reserved, ∀ s ∈ r.sessions, s.name ≠ name
  reservedOnce : r.reserved.Nodup

/-! ## Questions on a roster that keeps the invariant -/

section Questions

variable {r : Roster} (hw : r.WF)
include hw

theorem mem_holders {name : Text} {id : SessionId} :
    (name, id) ∈ r.holders ↔ ∃ s ∈ r.sessions, s.id = id ∧ s.name = name := by
  rw [hw.index.mem_iff, List.mem_map]
  constructor
  · rintro ⟨s, hs, h⟩; cases h; exact ⟨s, hs, rfl, rfl⟩
  · rintro ⟨s, hs, rfl, rfl⟩; exact ⟨s, hs, rfl⟩

theorem holder?_eq_some {name : Text} {id : SessionId} :
    r.holder? name = some id ↔ ∃ s ∈ r.sessions, s.id = id ∧ s.name = name := by
  have hn : (r.holders.map (·.1)).Nodup := by
    rw [(hw.index.map _).nodup_iff, List.map_map]
    exact hw.names
  rw [← mem_holders hw, holder?, Option.map_eq_some_iff]
  constructor
  · rintro ⟨⟨n, i⟩, hf, rfl⟩
    obtain ⟨hm, rfl⟩ := (find?_key_eq_some hn).1 hf
    exact hm
  · exact fun hm => ⟨_, (find?_key_eq_some hn).2 ⟨hm, rfl⟩, rfl⟩

theorem active_iff {name : Text} :
    r.isActive name = true ↔ (∃ s ∈ r.sessions, s.name = name) ∨ name ∈ r.reserved := by
  rw [isActive_iff, (hw.index.map _).mem_iff]
  simp

theorem lookup?_eq_some {id : SessionId} {s : Session} :
    r.lookup? id = some s ↔ s ∈ r.sessions ∧ s.id = id :=
  find?_key_eq_some hw.ids

theorem named?_eq_some {name : Text} {s : Session} :
    r.named? name = some s ↔ s ∈ r.sessions ∧ s.name = name := by
  rw [named?, Option.bind_eq_some_iff]
  constructor
  · rintro ⟨id, hid, hs⟩
    obtain ⟨t, ht, rfl, rfl⟩ := (holder?_eq_some hw).1 hid
    rw [(lookup?_eq_some hw).2 ⟨ht, rfl⟩] at hs
    cases hs
    exact ⟨ht, rfl⟩
  · rintro ⟨hs, rfl⟩
    exact ⟨s.id, (holder?_eq_some hw).2 ⟨s, hs, rfl, rfl⟩, (lookup?_eq_some hw).2 ⟨hs, rfl⟩⟩

theorem named?_eq_none {name : Text} :
    r.named? name = none ↔ ∀ s ∈ r.sessions, s.name ≠ name := by
  simp only [Option.eq_none_iff_forall_ne_some, ne_eq, named?_eq_some hw, not_and]

end Questions

/-! ## Every operation keeps the invariant -/

theorem empty_wf (registered : Nat) : ({ registered } : Roster).WF :=
  ⟨by simp, by simp, by simp, by simp, by simp⟩

theorem register?_wf {r r' : Roster} (hw : r.WF) {id : SessionId} {name : Text} {link : ConnId}
    {mark : Nat} (h : r.register? id name link mark = some r') : r'.WF := by
  obtain ⟨hname, hid, rfl⟩ := register?_some h
  rw [← Bool.not_eq_true, active_iff hw] at hname
  rw [← Bool.not_eq_true, contains_iff] at hid
  push Not at hname hid
  refine ⟨nodup_map_concat hw.ids hid, nodup_map_concat hw.names hname.1, ?_, ?_,
    hw.reservedOnce⟩
  · simp only [List.map_append, List.map_cons, List.map_nil]
    exact (hw.index.cons _).trans (List.perm_append_singleton _ _).symm
  · intro n hn s hs
    rcases List.mem_append.1 hs with hs | hs
    · exact hw.apart n hn s hs
    · rw [List.mem_singleton.1 hs]; rintro rfl; exact hname.2 hn

/-- Taking a session out frees its name in the index, and no other. -/
theorem remove?_eq {r : Roster} (hw : r.WF) {id : SessionId} {s : Session}
    (h : r.lookup? id = some s) :
    r.remove? id = some (s, { r with
      sessions := r.sessions.filter (·.id ≠ id)
      holders := r.holders.filter (·.1 ≠ s.name) }) := by
  obtain ⟨hs, hid⟩ := lookup?_some h
  rw [remove?, h, Option.map_some, if_pos ((holder?_eq_some hw).2 ⟨s, hs, hid, rfl⟩)]

theorem remove?_wf {r r' : Roster} (hw : r.WF) {id : SessionId} {s : Session}
    (h : r.remove? id = some (s, r')) : r'.WF := by
  obtain ⟨hl, -⟩ := remove?_sessions h
  rw [remove?_eq hw hl] at h
  cases h
  obtain ⟨hs, rfl⟩ := lookup?_some hl
  refine ⟨nodup_map_filter hw.ids _, nodup_map_filter hw.names _, ?_,
    fun n hn t ht => hw.apart n hn t (List.mem_filter.1 ht).1, hw.reservedOnce⟩
  -- by uniqueness, the other names are the names of the other ids
  have hsame : r.sessions.filter (·.id ≠ s.id) = r.sessions.filter (·.name ≠ s.name) := by
    refine List.filter_congr fun t ht => ?_
    have hiff : t.id = s.id ↔ t.name = s.name :=
      ⟨fun e => by rw [eq_of_key_eq hw.ids ht hs e],
        fun e => by rw [eq_of_key_eq hw.names ht hs e]⟩
    simp [hiff]
  simp only
  rw [hsame]
  have := hw.index.filter (·.1 ≠ s.name)
  rwa [List.filter_map] at this

theorem reserve?_wf {r r' : Roster} (hw : r.WF) {name : Text} (h : r.reserve? name = some r') :
    r'.WF := by
  obtain ⟨hname, rfl⟩ := reserve?_some h
  rw [← Bool.not_eq_true, active_iff hw] at hname
  push Not at hname
  refine ⟨hw.ids, hw.names, hw.index, fun n hn s hs => ?_,
    List.nodup_cons.2 ⟨hname.2, hw.reservedOnce⟩⟩
  rcases List.mem_cons.1 hn with rfl | hn
  · exact hname.1 s hs
  · exact hw.apart n hn s hs

theorem release?_wf {r r' : Roster} (hw : r.WF) {name : Text} (h : r.release? name = some r') :
    r'.WF := by
  obtain ⟨-, rfl⟩ := release?_some h
  exact ⟨hw.ids, hw.names, hw.index, fun n hn => hw.apart n (List.mem_filter.1 hn).1,
    hw.reservedOnce.filter _⟩

theorem touch?_some {r r' : Roster} {id : SessionId} {mark : Nat} (h : r.touch? id mark = some r') :
    r.contains id = true ∧ r' = { r with sessions := r.sessions.map fun s =>
      if s.id = id then { s with mark := max s.mark mark } else s } := by
  unfold touch? at h
  split at h
  · rename_i hc; exact ⟨hc, (Option.some.inj h).symm⟩
  · cases h

/-- A sign of life changes nothing but a mark. -/
theorem map_touch {β : Type} (f : Session → β) (hf : ∀ s m, f { s with mark := m } = f s)
    (sessions : List Session) (id : SessionId) (mark : Nat) :
    (sessions.map fun s => if s.id = id then { s with mark := max s.mark mark } else s).map f =
      sessions.map f := by
  rw [List.map_map]
  refine List.map_congr_left fun s _ => ?_
  simp only [Function.comp_apply]
  split
  · exact hf ..
  · rfl

theorem touch?_wf {r r' : Roster} (hw : r.WF) {id : SessionId} {mark : Nat}
    (h : r.touch? id mark = some r') : r'.WF := by
  obtain ⟨-, rfl⟩ := touch?_some h
  refine ⟨?_, ?_, ?_, fun n hn s hs => ?_, hw.reservedOnce⟩
  · simp only; rw [map_touch _ fun _ _ => rfl]; exact hw.ids
  · simp only; rw [map_touch _ fun _ _ => rfl]; exact hw.names
  · simp only; rw [map_touch _ fun _ _ => rfl]; exact hw.index
  · have hm : s.name ∈ r.sessions.map (·.name) := by
      rw [← map_touch _ (fun _ _ => rfl) r.sessions id mark]
      exact List.mem_map_of_mem hs
    obtain ⟨t, ht, he⟩ := List.mem_map.1 hm
    rw [← he]; exact hw.apart n hn t ht

theorem clear_wf (r : Roster) : r.clear.2.WF := empty_wf _

end Parley.Roster
