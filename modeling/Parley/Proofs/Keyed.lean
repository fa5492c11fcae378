/-
Lists in which no key comes twice: an entry is found by its key, and there is at most one.
-/
import Mathlib.Data.List.Nodup
import Mathlib.Data.List.Pairwise

namespace Parley

section Keyed

variable {α κ : Type} {key : α → κ} {l : List α}

theorem eq_of_key_eq (h : (l.map key).Nodup) {a b : α} (ha : a ∈ l) (hb : b ∈ l)
    (hk : key a = key b) : a = b :=
  List.inj_on_of_nodup_map h ha hb hk

theorem find?_key_eq_some [DecidableEq κ] (h : (l.map key).Nodup) {k : κ} {a : α} :
    l.find? (fun x => key x = k) = some a ↔ a ∈ l ∧ key a = k := by
  refine ⟨fun hf => ⟨List.mem_of_find?_eq_some hf, by simpa using List.find?_some hf⟩, ?_⟩
  rintro ⟨ha, rfl⟩
  cases hf : l.find? (fun x => key x = key a) with
  | none => rw [List.find?_eq_none] at hf; simpa using hf a ha
  | some b =>
    have hb : key b = key a := by simpa using List.find?_some hf
    rw [eq_of_key_eq h (List.mem_of_find?_eq_some hf) ha hb]

/-- Where only some entries have a key, no two have the same one. -/
theorem eq_of_filterMap_nodup {optional : α → Option κ} (h : (l.filterMap optional).Nodup)
    {a b : α} (ha : a ∈ l) (hb : b ∈ l) {k : κ} (hka : optional a = some k)
    (hkb : optional b = some k) : a = b := by
  have : Std.Symm fun a b => ∀ x, optional a = some x → ∀ y, optional b = some y → x ≠ y :=
    ⟨fun _ _ hab x hx y hy e => hab y hy x hx e.symm⟩
  by_contra hne
  exact (List.pairwise_filterMap.1 h).forall ha hb hne k hka k hkb rfl

theorem nodup_map_concat (h : (l.map key).Nodup) {a : α} (ha : ∀ b ∈ l, key b ≠ key a) :
    ((l ++ [a]).map key).Nodup := by
  rw [List.map_append, List.map_singleton]
  refine List.nodup_append.2 ⟨h, List.nodup_singleton _, fun x hx y hy => ?_⟩
  obtain ⟨b, hb, rfl⟩ := List.mem_map.1 hx
  rw [List.mem_singleton.1 hy]; exact ha b hb

theorem of_nodup_map_concat {a : α} (h : ((l ++ [a]).map key).Nodup) :
    (l.map key).Nodup ∧ a ∉ l := by
  rw [List.map_append, List.nodup_append] at h
  exact ⟨h.1, fun ha => h.2.2 (key a) (List.mem_map_of_mem ha) (key a) (by simp) rfl⟩

theorem nodup_map_filter (h : (l.map key).Nodup) (p : α → Bool) :
    ((l.filter p).map key).Nodup :=
  (List.filter_sublist.map key).nodup h

theorem exists_split (h : (l.map key).Nodup) {a : α} (ha : a ∈ l) :
    ∃ before after, l = before ++ a :: after ∧ ∀ b ∈ before ++ after, key b ≠ key a := by
  obtain ⟨before, after, rfl⟩ := List.append_of_mem ha
  refine ⟨before, after, rfl, fun b hb e => ?_⟩
  have hn : (key a :: (before ++ after).map key).Nodup := by
    rw [← List.map_cons, ← (List.perm_middle.map key).nodup_iff]
    exact h
  exact (List.nodup_cons.1 hn).1 (e ▸ List.mem_map_of_mem hb)

/-- Without the entry of some key, those before it and after it are left. -/
theorem exists_split_filter [DecidableEq κ] (h : (l.map key).Nodup) {a : α} (ha : a ∈ l) :
    ∃ before after, l = before ++ a :: after ∧
      l.filter (key · ≠ key a) = before ++ after := by
  obtain ⟨before, after, rfl, hothers⟩ := exists_split h ha
  refine ⟨before, after, rfl, ?_⟩
  rw [List.filter_append, List.filter_cons_of_neg (by simp), ← List.filter_append,
    List.filter_eq_self]
  exact fun b hb => by simpa using hothers b hb

/-- Where the entry of some key is changed, those before it and after it are left. -/
theorem exists_split_map [DecidableEq κ] (h : (l.map key).Nodup) {a : α} (ha : a ∈ l)
    (change : α → α) : ∃ before after, l = before ++ a :: after ∧
      (l.map fun b => if key b = key a then change b else b) =
        before ++ change a :: after := by
  obtain ⟨before, after, rfl, hothers⟩ := exists_split h ha
  refine ⟨before, after, rfl, ?_⟩
  have hleft : ∀ rest ⊆ before ++ after,
      (rest.map fun b => if key b = key a then change b else b) = rest := fun rest hrest =>
    (List.map_congr_left fun b hb => if_neg (hothers b (hrest hb))).trans (List.map_id rest)
  rw [List.map_append, List.map_cons, if_pos rfl, hleft before (List.subset_append_left ..),
    hleft after (List.subset_append_right ..)]

/-- Of entries that have a key each, one fewer are left without the one of some key. -/
theorem length_filter_key [DecidableEq κ] (h : (l.map key).Nodup) {a : α} (ha : a ∈ l) :
    (l.filter (key · ≠ key a)).length + 1 = l.length := by
  obtain ⟨before, after, hsplit, hkept⟩ := exists_split_filter h ha
  rw [hkept, hsplit, List.length_append, List.length_append, List.length_cons]
  rfl

/-- Without the entries of some key, every other one is found as before. -/
theorem find?_key_filter_ne [DecidableEq κ] (l : List α) (gone k : κ) :
    (l.filter (key · ≠ gone)).find? (key · = k) =
      if k = gone then none else l.find? (key · = k) := by
  rw [List.find?_filter]
  split
  · rename_i hgone
    rw [List.find?_eq_none]
    simp [hgone]
  · rename_i hother
    refine congrArg (List.find? · l) (funext fun a => ?_)
    by_cases ha : key a = k
    · simp [ha, hother]
    · simp [ha]

end Keyed
end Parley
