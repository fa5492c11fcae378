/-
Signs of life may come late and out of order: the mark of a session is the greatest of the one that
it registered with and those that came for it since, so their order does not show in the roster
(`marks_are_greatest`).

Signs of life one after the other do to each session what the greatest of them does (`run_touches`),
which a rearrangement of them does not change. That those before a session began do not count is
shown by forgetting the marks under its id: every operation goes through with it forgotten
(`perform_forget`), and where nobody has the id there is nothing to forget.
-/
import Mathlib.Order.Bounds.Basic
import Mathlib.Order.MinMax
import Parley.Proofs.Roster.Marks

namespace Parley.Roster

/-! ## The greatest of them -/

theorem isGreatest_foldl_max (given : Nat) (marks : List Nat) :
    IsGreatest {m | m = given ∨ m ∈ marks} (marks.foldl max given) := by
  have hmax : (given :: marks).max? = some (marks.foldl max given) := List.max?_cons'
  obtain ⟨hmem, hle⟩ := List.max?_eq_some_iff.1 hmax
  constructor
  · exact List.mem_cons.1 hmem
  · intro m hm
    exact hle m (List.mem_cons.2 hm)

theorem le_mark (op : Op) (s : Session) : s.mark ≤ (op.mark s).mark :=
  (isGreatest_foldl_max s.mark (touches s.id [op])).2 (.inl rfl)

/-- Who is there after a run, said by the operations of the run. -/
theorem mem_sessions_run {ops : List Op} {s : Session} : s ∈ (run {} ops).sessions ↔
    ∃ before given after, ops = before ++ .register s.id s.name s.link given :: after ∧
      ((run {} before).perform? (.register s.id s.name s.link given)).isSome = true ∧
      s.sequence = (run {} before).registered + 1 ∧ (∀ op ∈ after, ¬ op.TakesOut s.id) ∧
      IsGreatest {m | m = given ∨ m ∈ touches s.id after} s.mark := by
  rw [sessions_run, List.mem_map]
  constructor
  · rintro ⟨b, hb, rfl⟩
    obtain ⟨hmem, hstays⟩ := List.mem_filter.1 hb
    obtain ⟨before, op, hsplit, hbegun⟩ := mem_beginnings.1 hmem
    obtain ⟨rfl, hdone, hsequence⟩ := begun?_eq_some.1 hbegun
    exact ⟨before, b.session.mark, b.later, hsplit, hdone, hsequence, of_decide_eq_true hstays,
      isGreatest_foldl_max ..⟩
  · rintro ⟨before, given, after, hsplit, hdone, hsequence, hstays, hgreatest⟩
    refine ⟨⟨{ s with mark := given }, after⟩, List.mem_filter.2 ⟨?_, decide_eq_true hstays⟩, ?_⟩
    · exact mem_beginnings.2 ⟨before, _, hsplit, begun?_eq_some.2 ⟨rfl, hdone, hsequence⟩⟩
    · have hmark : (touches s.id after).foldl max given = s.mark :=
        (isGreatest_foldl_max _ _).unique hgreatest
      rw [Beginning.now, hmark]

/-! ## Any order -/

/-- Whether an operation is a sign of life. -/
def Op.IsTouch : Op → Prop
  | .touch .. => True
  | .register .. | .remove _ | .reserve _ | .release _ | .clear => False

/-- Two runs differ only in the order of the signs of life between two other operations. -/
inductive Reordered : List Op → List Op → Prop where
  | last {marks marks' : List Op} (touch : ∀ op ∈ marks, op.IsTouch) (perm : marks.Perm marks') :
      Reordered marks marks'
  | next {marks marks' ops ops' : List Op} (touch : ∀ op ∈ marks, op.IsTouch)
      (perm : marks.Perm marks') (op : Op) (rest : Reordered ops ops') :
      Reordered (marks ++ op :: ops) (marks' ++ op :: ops')

/-- Signs of life one after the other give each session the greatest of them. -/
theorem run_touches {marks : List Op} (touch : ∀ op ∈ marks, op.IsTouch) : ∀ r : Roster,
    r.run marks = { r with sessions := r.sessions.map fun s =>
      { s with mark := (touches s.id marks).foldl max s.mark } } := by
  induction marks with
  | nil =>
    intro r
    simp [run, touches]
  | cons op marks ih =>
    intro r
    obtain ⟨hop, hrest⟩ := List.forall_mem_cons.1 touch
    cases op with
    | touch id mark =>
      show (r.perform (.touch id mark)).run marks = _
      rw [ih hrest, perform_touch, List.map_map]
      congr 1
      refine List.map_congr_left fun s _ => ?_
      have hsplit : touches s.id (.touch id mark :: marks) =
          touches s.id [.touch id mark] ++ touches s.id marks := touches_append s.id [_] marks
      rw [hsplit, List.foldl_append]
      rfl
    | register _ _ _ _ | remove _ | reserve _ | release _ | clear => exact hop.elim

theorem run_touches_perm {marks marks' : List Op} (touch : ∀ op ∈ marks, op.IsTouch)
    (perm : marks.Perm marks') (r : Roster) : r.run marks = r.run marks' := by
  have touch' : ∀ op ∈ marks', op.IsTouch := fun op hop => touch op (perm.mem_iff.2 hop)
  rw [run_touches touch, run_touches touch']
  congr 1
  refine List.map_congr_left fun s _ => ?_
  have hsame : (touches s.id marks).Perm (touches s.id marks') := perm.filterMap _
  rw [hsame.foldl_eq' (fun _ _ _ _ _ => max_right_comm ..) s.mark]

theorem run_reordered {ops ops' : List Op} (h : Reordered ops ops') :
    ∀ r : Roster, r.run ops = r.run ops' := by
  induction h with
  | last touch perm => exact run_touches_perm touch perm
  | @next marks marks' ops ops' touch perm op rest ih =>
    intro r
    rw [run_append, run_append, run_touches_perm touch perm]
    exact ih _

/-! ## Marks from before -/

/-- A session whose mark is forgotten if it has some id. -/
def forgotten (id : SessionId) (s : Session) : Session :=
  if s.id = id then { s with mark := 0 } else s

/-- A roster with the mark under an id forgotten. -/
def forget (r : Roster) (id : SessionId) : Roster :=
  { r with sessions := r.sessions.map (forgotten id) }

section Forget

variable (r : Roster) (id : SessionId)

@[simp] theorem id_forgotten (s : Session) : (forgotten id s).id = s.id := by
  unfold forgotten
  split <;> rfl

@[simp] theorem name_forgotten (s : Session) : (forgotten id s).name = s.name := by
  unfold forgotten
  split <;> rfl

@[simp] theorem forgotten_forgotten (s : Session) :
    forgotten id (forgotten id s) = forgotten id s := by
  unfold forgotten
  by_cases h : s.id = id <;> simp [h]

@[simp] theorem forget_forget : (r.forget id).forget id = r.forget id := by
  simp only [forget, List.map_map, Function.comp_def, forgotten_forgotten]

theorem lookup?_forget (other : SessionId) :
    (r.forget id).lookup? other = (r.lookup? other).map (forgotten id) := by
  simp only [lookup?, forget, List.find?_map, Function.comp_def, id_forgotten]

theorem contains_forget (other : SessionId) :
    (r.forget id).contains other = r.contains other := by
  rw [contains, lookup?_forget, Option.isSome_map]
  rfl

theorem forget_of_absent {r : Roster} {id : SessionId} (h : r.contains id = false) :
    r.forget id = r := by
  rw [← Bool.not_eq_true, contains_iff] at h
  push Not at h
  have hsame : r.sessions.map (forgotten id) = r.sessions := by
    refine (List.map_congr_left fun s hs => ?_).trans (List.map_id' _)
    exact if_neg (h s hs)
  rw [forget, hsame]

/-- A sign of life for an id leaves no trace once the mark under it is forgotten. -/
theorem forget_touch (mark : Nat) : (r.perform (.touch id mark)).forget id = r.forget id := by
  rw [perform_touch, forget, List.map_map]
  unfold forget
  congr 1
  refine List.map_congr_left fun s _ => ?_
  by_cases h : s.id = id
  · simp [forgotten, Op.mark, h]
  · have hnone : (Op.touch id mark).mark s = s :=
      mark_of_touches_nil (by simp [touches, Ne.symm h])
    rw [Function.comp_apply, hnone]

/-- Nothing but signs of life looks at a mark, so every operation does the same where the mark under
an id is forgotten. -/
theorem perform_forget (op : Op) :
    ((r.forget id).perform op).forget id = (r.perform op).forget id := by
  cases op with
  | register new name link mark =>
    -- what it is refused for, a name or an id, is there with the mark and without it
    have hfree : ((r.forget id).isActive name || (r.forget id).contains new) =
        (r.isActive name || r.contains new) := by
      rw [contains_forget]
      rfl
    simp only [perform, perform?, register?, hfree]
    split
    · exact forget_forget r id
    · simp [forget]
  | remove gone =>
    simp only [perform, perform?, remove?, lookup?_forget]
    cases r.lookup? gone with
    | none => exact forget_forget r id
    | some s =>
      have hkept : ((r.forget id).sessions.filter (·.id ≠ gone)).map (forgotten id) =
          (r.sessions.filter (·.id ≠ gone)).map (forgotten id) := by
        simp only [forget, List.filter_map, List.map_map, Function.comp_def, id_forgotten,
          forgotten_forgotten]
      simp only [Option.map_some, Option.getD_some, name_forgotten]
      unfold forget at hkept ⊢
      simp only [hkept]
      rfl
  | reserve name =>
    have hfree : (r.forget id).isActive name = r.isActive name := rfl
    simp only [perform, perform?, reserve?, hfree]
    split
    · exact forget_forget r id
    · simp [forget]
  | release name =>
    have hreserved : (r.forget id).reserved = r.reserved := rfl
    simp only [perform, perform?, release?, hreserved]
    split
    · simp [forget]
    · exact forget_forget r id
  | touch touched mark =>
    rw [perform_touch, perform_touch]
    simp only [forget, List.map_map]
    congr 1
    refine List.map_congr_left fun s _ => ?_
    by_cases h : s.id = id
    · simp [forgotten, Op.mark, h]
    · simp [forgotten, h]
  | clear => rfl

/-- With the mark under an id forgotten, a run is the same without the signs of life for it. -/
theorem run_forget (ops : List Op) : ∀ {r r' : Roster}, r'.forget id = r.forget id →
    (r'.run (ops.filter (touches id [·] = []))).forget id = (r.run ops).forget id := by
  induction ops with
  | nil => exact fun h => h
  | cons op ops ih =>
    intro r r' h
    have hnow : r.run (op :: ops) = (r.perform op).run ops := rfl
    rw [hnow]
    -- both runs make this step, or only the one that has the sign of life
    by_cases htouch : touches id [op] = []
    · have hkept : (op :: ops).filter (touches id [·] = []) =
          op :: ops.filter (touches id [·] = []) := by
        simp [htouch]
      rw [hkept]
      show ((r'.perform op).run _).forget id = _
      apply ih
      rw [← perform_forget, h, perform_forget]
    · have hleft : (op :: ops).filter (touches id [·] = []) =
          ops.filter (touches id [·] = []) := by
        simp [htouch]
      rw [hleft]
      apply ih
      rw [h]
      cases op with
      | touch touched mark =>
        by_cases hid : touched = id
        · rw [hid, forget_touch]
        · exact absurd (by simp [touches, hid]) htouch
      | register _ _ _ _ | remove _ | reserve _ | release _ | clear => exact absurd rfl htouch

end Forget

/-! ## As time goes on -/

theorem registered_le_run (more : List Op) : ∀ r : Roster,
    r.registered ≤ (r.run more).registered := by
  induction more with
  | nil => exact fun _ => Nat.le_refl _
  | cons op more ih =>
    intro r
    have hnow : r.registered ≤ (r.perform op).registered := by
      rw [registered_perform]
      omega
    exact Nat.le_trans hnow (ih _)

/-- Who has the number of somebody that was there before is the same session, and its mark has not
gone back. -/
theorem mark_le_run {r : Roster} (ho : r.InOrder) {s : Session} (hs : s ∈ r.sessions)
    (more : List Op) : ∀ t ∈ (r.run more).sessions, t.sequence = s.sequence →
      t = { s with mark := t.mark } ∧ s.mark ≤ t.mark := by
  induction more using List.reverseRecOn with
  | nil =>
    intro t ht hsequence
    obtain rfl : t = s := eq_of_key_eq (ho.ascending.imp Nat.ne_of_lt) ht hs hsequence
    exact ⟨rfl, Nat.le_refl _⟩
  | append_singleton more op ih =>
    intro t ht hsequence
    have hlast : r.run (more ++ [op]) = (r.run more).perform op := run_append ..
    rw [hlast, sessions_perform] at ht
    rcases List.mem_append.1 ht with ht | ht
    · obtain ⟨u, hu, rfl⟩ := List.mem_map.1 ht
      obtain ⟨hsame, hle⟩ := ih u (List.mem_of_mem_filter hu) hsequence
      refine ⟨?_, Nat.le_trans hle (le_mark op u)⟩
      rw [Op.mark, hsame]
    · -- whoever begins later gets a number that nobody had before
      have hnew := (begun?_eq_some.1 (Option.mem_toList.1 ht)).2.2
      have hgiven := ho.given s.sequence (List.mem_map_of_mem hs)
      have hcount := registered_le_run more r
      omega

/-- After any operations, those are there who have registered and have not been taken out since, and
the mark of each is the greatest of the one that it registered with and the signs of life that came
for its id since. Where nobody has an id, a sign of life for it is refused and changes nothing, and
those that came before make no difference to the roster, nor to whoever registers under it next. Any
two runs that differ only in the order of the signs of life between two other operations end in the
same roster; and whatever comes later, as long as a session is there its mark does not go back. -/
theorem marks_are_greatest (ops : List Op) :
    let r := run {} ops
    (∀ s, s ∈ r.sessions ↔ ∃ before given after,
      ops = before ++ .register s.id s.name s.link given :: after ∧
      ((run {} before).perform? (.register s.id s.name s.link given)).isSome = true ∧
      s.sequence = (run {} before).registered + 1 ∧ (∀ op ∈ after, ¬ op.TakesOut s.id) ∧
      IsGreatest {m | m = given ∨ m ∈ touches s.id after} s.mark) ∧
    (∀ id, r.contains id = false →
      (∀ mark, r.perform? (.touch id mark) = none ∧ r.perform (.touch id mark) = r) ∧
      run {} (ops.filter (touches id [·] = [])) = r) ∧
    (∀ ops', Reordered ops ops' → run {} ops' = r) ∧
    ∀ more, ∀ s ∈ r.sessions, ∀ t ∈ (r.run more).sessions, t.sequence = s.sequence →
      t = { s with mark := t.mark } ∧ s.mark ≤ t.mark := by
  intro r
  have ho : r.InOrder := run_inOrder ops (empty_inOrder 0)
  refine ⟨fun s => mem_sessions_run, fun id habsent => ⟨fun mark => ?_, ?_⟩,
    fun ops' h => (run_reordered h {}).symm, fun more s hs => mark_le_run ho hs more⟩
  · have hrefused : r.perform? (.touch id mark) = none := by
      rw [perform?, touch?, habsent]
      rfl
    exact ⟨hrefused, perform_none hrefused⟩
  · have hforgot : (run {} (ops.filter (touches id [·] = []))).forget id = r.forget id :=
      run_forget id ops rfl
    have habsent' : (run {} (ops.filter (touches id [·] = []))).contains id = false := by
      rw [← contains_forget _ id, hforgot, contains_forget, habsent]
    rwa [forget_of_absent habsent', forget_of_absent habsent] at hforgot

/-- A sign of life that is overtaken by a later one. -/
theorem marks_are_greatest_of_overtaken :
    let begins : Op := .register "1".toList "ann".toList ⟨1⟩ 5
    let ops : List Op := [begins, .touch "1".toList 7, .touch "1".toList 9]
    let overtaken : List Op := [begins, .touch "1".toList 9, .touch "1".toList 7]
    Reordered ops overtaken ∧ run {} overtaken = run {} ops ∧
    (run {} ops).markOf? "1".toList = some 9 := by
  intro begins ops overtaken
  have hmarks : ∀ op ∈ [Op.touch "1".toList 7, .touch "1".toList 9], op.IsTouch := by
    simp [Op.IsTouch]
  have hnone : ∀ op ∈ ([] : List Op), op.IsTouch := by simp
  have hordered : Reordered ops overtaken :=
    .next hnone (.refl []) begins (.last hmarks (.swap ..))
  exact ⟨hordered, (marks_are_greatest ops).2.2.1 overtaken hordered, by decide⟩

end Parley.Roster
