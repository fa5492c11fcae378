/-
What happens at the table of open connections: all that a task can do next is listed once (`Turn`),
and so is all that a move can come to (`Comes`).
-/
import Parley.Manager
import Parley.Proofs.Keyed

namespace Parley.Manager

/-- The connection that the shutdown has taken out and is closing. -/
def closing? (m : Manager) : Option ConnId := m.shutdown.bind (·.closing)

/-! ## What a move comes to -/

/-- What a task does next: what becomes of it, and what is counted. -/
inductive Turn (t : Task) : Task → Option Count → Prop where
  | launched (new : t.opened = false) : Turn t { t with opened := true } (some (.opened t.conn))
  | ended (opened : t.opened = true) (running : t.phase = .running) :
      Turn t { t with phase := .ended } none
  | forgotten (ended : t.phase = .ended) : Turn t { t with phase := .forgotten } none
  | counted (forgotten : t.phase = .forgotten) (lasted : Duration) :
      Turn t { t with phase := .counted } (some (.ended t.conn lasted))
  | aborted (ordered : t.abort = true) (running : t.phase = .running) :
      Turn t { t with phase := .aborted } none

/-- What a move comes to, and what it counts: a connection enters, a task makes its turn, the
shutdown takes an entry out or counts what it has taken out, or entries only go. -/
inductive Comes (m : Manager) : Manager → Option Count → Prop where
  | entered : Comes m m.enter.2 none
  | turned {t t' : Task} {count : Option Count} {entries : List ConnId} (found : t ∈ m.tasks)
      (turn : Turn t t' count) (fewer : entries ⊆ m.entries) :
      Comes m { m.updateTask t.conn (fun _ => t') with entries } count
  | taken {conn : ConnId} {left : List ConnId} (idle : m.closing? = none)
      (there : conn ∈ m.entries) :
      Comes m { (m.erase conn).updateTask conn (fun t => { t with abort := true }) with
        shutdown := some ⟨left, some conn⟩ } none
  | told {conn : ConnId} {left : List ConnId} (closing : m.closing? = some conn)
      (lasted : Duration) :
      Comes m { m with shutdown := some ⟨left, none⟩ } (some (.ended conn lasted))
  | still {entries : List ConnId} {shutdown : Option Shutdown} (fewer : entries ⊆ m.entries)
      (same : shutdown.bind (·.closing) = m.closing?) :
      Comes m { m with entries, shutdown } none

section Moves

variable {m m' : Manager} {conn : ConnId}

theorem mem_updateTask {change : Task → Task} {s : Task}
    (hs : s ∈ (m.updateTask conn change).tasks) :
    (∃ t ∈ m.tasks, t.conn = conn ∧ s = change t) ∨ (s ∈ m.tasks ∧ s.conn ≠ conn) := by
  obtain ⟨t, ht, rfl⟩ := List.mem_map.1 hs
  by_cases hconn : t.conn = conn
  · exact .inl ⟨t, ht, hconn, by rw [if_pos hconn]⟩
  · rw [if_neg hconn]
    exact .inr ⟨ht, hconn⟩

theorem map_conn_updateTask {change : Task → Task}
    (hchange : ∀ t ∈ m.tasks, t.conn = conn → (change t).conn = conn) :
    (m.updateTask conn change).tasks.map (·.conn) = m.tasks.map (·.conn) := by
  rw [updateTask, List.map_map]
  refine List.map_congr_left fun t ht => ?_
  by_cases hconn : t.conn = conn
  · rw [Function.comp_apply, if_pos hconn, hchange t ht hconn, hconn]
  · rw [Function.comp_apply, if_neg hconn]

theorem mem_updateTask_self {t : Task} (ht : t ∈ m.tasks) (change : Task → Task) :
    change t ∈ (m.updateTask t.conn change).tasks :=
  List.mem_map.2 ⟨t, ht, if_pos rfl⟩

theorem mem_updateTask_of_ne {t : Task} (ht : t ∈ m.tasks) (hconn : t.conn ≠ conn)
    (change : Task → Task) : t ∈ (m.updateTask conn change).tasks :=
  List.mem_map.2 ⟨t, ht, if_neg hconn⟩

theorem task?_some {t : Task} (h : m.task? conn = some t) : t ∈ m.tasks ∧ t.conn = conn :=
  ⟨List.mem_of_find?_eq_some h, by simpa using List.find?_some h⟩

/-- Where no two tasks have the same connection, changing the task of one puts another task in its
place. -/
theorem updateTask_eq (hd : (m.tasks.map (·.conn)).Nodup) {t : Task} (ht : t ∈ m.tasks)
    (change : Task → Task) :
    m.updateTask t.conn change = m.updateTask t.conn (fun _ => change t) := by
  have hmap : (m.tasks.map fun s => if s.conn = t.conn then change s else s) =
      m.tasks.map fun s => if s.conn = t.conn then change t else s := by
    refine List.map_congr_left fun s hs => ?_
    by_cases hconn : s.conn = t.conn
    · rw [if_pos hconn, if_pos hconn, eq_of_key_eq hd hs ht hconn]
    · rw [if_neg hconn, if_neg hconn]
  rw [updateTask, hmap]
  rfl

theorem advance?_some {before after : TaskPhase} (hd : (m.tasks.map (·.conn)).Nodup)
    (h : m.advance? conn before after = some m') :
    ∃ t ∈ m.tasks, t.conn = conn ∧ t.phase = before ∧
      m' = m.updateTask t.conn (fun _ => { t with phase := after }) := by
  obtain ⟨t, ht, h⟩ := Option.bind_eq_some_iff.1 h
  obtain ⟨hmem, rfl⟩ := task?_some ht
  split at h
  · rename_i hphase
    refine ⟨t, hmem, rfl, hphase, ?_⟩
    rw [← updateTask_eq hd hmem fun t => { t with phase := after }]
    exact (Option.some.inj h).symm
  · cases h

theorem launch?_comes (hd : (m.tasks.map (·.conn)).Nodup) (h : m.launch? conn = some m') :
    Comes m m' (some (.opened conn)) := by
  obtain ⟨t, ht, h⟩ := Option.bind_eq_some_iff.1 h
  obtain ⟨hmem, rfl⟩ := task?_some ht
  split at h
  · cases h
  · rename_i hopened
    obtain rfl := Option.some.inj h
    rw [updateTask_eq hd hmem]
    exact .turned hmem (.launched (by simpa using hopened)) (List.Subset.refl _)

theorem runEnds?_comes (hd : (m.tasks.map (·.conn)).Nodup) (h : m.runEnds? conn = some m') :
    Comes m m' none := by
  obtain ⟨s, hs, h⟩ := Option.bind_eq_some_iff.1 h
  split at h
  · rename_i hopened
    obtain ⟨t, hmem, hconn, hphase, rfl⟩ := advance?_some hd h
    obtain ⟨hs, hsconn⟩ := task?_some hs
    obtain rfl := eq_of_key_eq hd hs hmem (hsconn.trans hconn.symm)
    exact .turned hmem (.ended hopened hphase) (List.Subset.refl _)
  · cases h

theorem abort?_comes (hd : (m.tasks.map (·.conn)).Nodup) (h : m.abort? conn = some m') :
    Comes m m' none := by
  obtain ⟨s, hs, h⟩ := Option.bind_eq_some_iff.1 h
  split at h
  · rename_i hordered
    obtain ⟨t, hmem, hconn, hphase, rfl⟩ := advance?_some hd h
    obtain ⟨hs, hsconn⟩ := task?_some hs
    obtain rfl := eq_of_key_eq hd hs hmem (hsconn.trans hconn.symm)
    exact .turned hmem (.aborted hordered hphase) (List.Subset.refl _)
  · cases h

theorem remove?_comes (h : m.remove? conn = some m') : Comes m m' none := by
  unfold remove? at h
  split at h
  · obtain rfl := Option.some.inj h
    exact .still (List.filter_subset_self _) rfl
  · cases h

theorem beginShutdown?_comes (h : m.beginShutdown? = some m') : Comes m m' none := by
  unfold beginShutdown? at h
  split at h
  · rename_i hnone
    obtain rfl := Option.some.inj h
    exact .still (List.Subset.refl _) (by rw [closing?, Option.isNone_iff_eq_none.1 hnone]; rfl)
  · cases h

theorem take?_comes (h : m.take? conn = some m') : Comes m m' none := by
  unfold take? at h
  split at h
  · rename_i left hshutdown
    have hidle : m.closing? = none := by rw [closing?, hshutdown]; rfl
    split at h
    · split at h
      · rename_i hthere
        obtain rfl := Option.some.inj h
        exact .taken hidle (by simpa using hthere)
      · obtain rfl := Option.some.inj h
        exact .still (List.Subset.refl _) hidle.symm
    · cases h
  · cases h

theorem countTaken?_comes {lasted : Duration} {count : Count}
    (h : m.countTaken? lasted = some (m', count)) : Comes m m' (some count) := by
  unfold countTaken? at h
  split at h
  · rename_i left conn hshutdown
    cases h
    exact .told (by rw [closing?, hshutdown]; rfl) lasted
  · cases h

theorem endShutdown?_comes (h : m.endShutdown? = some m') : Comes m m' none := by
  unfold endShutdown? at h
  split at h
  · rename_i hshutdown
    obtain rfl := Option.some.inj h
    exact .still (List.Subset.refl _) (by rw [closing?, hshutdown]; rfl)
  · cases h

theorem move?_comes (hd : (m.tasks.map (·.conn)).Nodup) {move : Move} {count : Option Count}
    (hmove : m.move? move = some (m', count)) : Comes m m' count := by
  cases move with
  | enter =>
    cases hmove
    exact .entered
  | launch conn =>
    obtain ⟨m₁, h, he⟩ := Option.map_eq_some_iff.1 hmove
    cases he
    exact launch?_comes hd h
  | runEnds conn =>
    obtain ⟨m₁, h, he⟩ := Option.map_eq_some_iff.1 hmove
    cases he
    exact runEnds?_comes hd h
  | forget conn =>
    obtain ⟨m₁, h, he⟩ := Option.map_eq_some_iff.1 hmove
    cases he
    obtain ⟨t, hmem, -, hphase, rfl⟩ := advance?_some hd h
    exact .turned hmem (.forgotten hphase) (List.filter_subset_self _)
  | count conn lasted =>
    obtain ⟨m₁, h, he⟩ := Option.map_eq_some_iff.1 hmove
    cases he
    obtain ⟨t, hmem, rfl, hphase, rfl⟩ := advance?_some hd h
    exact .turned hmem (.counted hphase lasted) (List.Subset.refl _)
  | abort conn =>
    obtain ⟨m₁, h, he⟩ := Option.map_eq_some_iff.1 hmove
    cases he
    exact abort?_comes hd h
  | remove conn =>
    obtain ⟨m₁, h, he⟩ := Option.map_eq_some_iff.1 hmove
    cases he
    exact remove?_comes h
  | beginShutdown =>
    obtain ⟨m₁, h, he⟩ := Option.map_eq_some_iff.1 hmove
    cases he
    exact beginShutdown?_comes h
  | take conn =>
    obtain ⟨m₁, h, he⟩ := Option.map_eq_some_iff.1 hmove
    cases he
    exact take?_comes h
  | countTaken lasted =>
    obtain ⟨⟨m₁, c⟩, h, he⟩ := Option.map_eq_some_iff.1 hmove
    cases he
    exact countTaken?_comes h
  | endShutdown =>
    obtain ⟨m₁, h, he⟩ := Option.map_eq_some_iff.1 hmove
    cases he
    exact endShutdown?_comes h

theorem run?_cons {move : Move} {rest : List Move} {more : List Count} :
    m.run? (move :: rest) = some (m', more) ↔
      ∃ m₁ count after, m.move? move = some (m₁, count) ∧ m₁.run? rest = some (m', after) ∧
        more = count.toList ++ after := by
  constructor
  · intro h
    obtain ⟨⟨m₁, count⟩, hmove, h⟩ := Option.bind_eq_some_iff.1 h
    obtain ⟨⟨m₂, after⟩, hrest, h⟩ := Option.bind_eq_some_iff.1 h
    cases h
    exact ⟨m₁, count, after, hmove, hrest, rfl⟩
  · rintro ⟨m₁, count, after, hmove, hrest, rfl⟩
    rw [run?, hmove]
    show (m₁.run? rest).bind _ = _
    rw [hrest]
    rfl

end Moves

theorem Turn.conn {t t' : Task} {count : Option Count} (h : Turn t t' count) :
    t'.conn = t.conn := by
  cases h <;> rfl

theorem Turn.abort {t t' : Task} {count : Option Count} (h : Turn t t' count) :
    t'.abort = t.abort := by
  cases h <;> rfl

end Parley.Manager
