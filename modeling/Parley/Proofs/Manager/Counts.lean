/-
What is counted of connections. Of each connection the opening is counted once, when it is launched;
its end is counted by its task, if that comes to its end, and by the shutdown that has ordered its
task aborted. Nothing keeps these apart: a task whose run has ended before it could be aborted
counts the end although the shutdown does so too, and a shutdown may come before the opening was
counted (`ends_counted`). The number of open connections is right exactly while no end was counted
before or beyond its opening.
-/
import Mathlib.Algebra.BigOperators.Group.List.Basic
import Mathlib.Algebra.GroupWithZero.Nat
import Mathlib.Algebra.Order.BigOperators.Group.Finset
import Parley.Proofs.Manager.Moves

namespace Parley

/-! ## Counts -/

namespace Count

/-- The connection whose opening is counted. -/
def opened? : Count → Option ConnId
  | .opened conn => some conn
  | .ended .. => none

/-- The connection whose end is counted. -/
def ended? : Count → Option ConnId
  | .opened _ => none
  | .ended conn _ => some conn

end Count

/-- How often a connection was counted as opened. -/
def opens (counts : List Count) (conn : ConnId) : Nat :=
  (counts.filterMap Count.opened?).count conn

/-- How often the end of a connection was counted. -/
def ends (counts : List Count) (conn : ConnId) : Nat :=
  (counts.filterMap Count.ended?).count conn

theorem opens_append (counts more : List Count) (conn : ConnId) :
    opens (counts ++ more) conn = opens counts conn + opens more conn := by
  rw [opens, List.filterMap_append, List.count_append]
  rfl

theorem ends_append (counts more : List Count) (conn : ConnId) :
    ends (counts ++ more) conn = ends counts conn + ends more conn := by
  rw [ends, List.filterMap_append, List.count_append]
  rfl

theorem opens_opened (conn conn' : ConnId) :
    opens [.opened conn] conn' = if conn = conn' then 1 else 0 := by
  simp [opens, Count.opened?, List.count_singleton]

theorem opens_ended (conn conn' : ConnId) (lasted : Duration) :
    opens [.ended conn lasted] conn' = 0 :=
  rfl

theorem ends_ended (conn conn' : ConnId) (lasted : Duration) :
    ends [.ended conn lasted] conn' = if conn = conn' then 1 else 0 := by
  simp [ends, Count.ended?, List.count_singleton]

namespace Task

/-- How often the end of a task's connection has been counted: by the task, and by the shutdown that
has ordered it aborted, once that has closed the connection. -/
def ends (closing : Option ConnId) (t : Task) : Nat :=
  (decide (t.phase = .counted)).toNat + (t.abort && closing ≠ some t.conn).toNat

/-- A task is over. -/
def IsOver (t : Task) : Prop := t.phase = .counted ∨ t.phase = .aborted

instance (t : Task) : Decidable t.IsOver := inferInstanceAs (Decidable (_ ∨ _))

/-- A task runs only when its connection has been launched, and is aborted only by order. -/
structure Fits (t : Task) : Prop where
  begun : t.phase ≠ .running → t.phase ≠ .aborted → t.opened = true
  ordered : t.phase = .aborted → t.abort = true

/-- A task that was to be aborted and has come to its end all the same. -/
def Escaped (t : Task) : Prop := t.phase = .counted ∧ t.abort = true

instance (t : Task) : Decidable t.Escaped := inferInstanceAs (Decidable (_ ∧ _))

theorem Fits.ends_le {t : Task} (h : t.Fits) (closing : Option ConnId) :
    t.ends closing ≤ t.opened.toNat + 1 := by
  have hshutdown := Bool.toNat_le (t.abort && closing ≠ some t.conn)
  by_cases hcounted : t.phase = .counted
  · have hopened : t.opened = true := h.begun (by rw [hcounted]; nofun) (by rw [hcounted]; nofun)
    simp only [ends, hcounted, hopened, decide_true, Bool.toNat_true]
    omega
  · simp only [ends, hcounted, decide_false, Bool.toNat_false]
    omega

theorem ends_eq_two_iff {t : Task} {closing : Option ConnId} :
    t.ends closing = 2 ↔ t.Escaped ∧ closing ≠ some t.conn := by
  by_cases hcounted : t.phase = .counted <;> by_cases hordered : t.abort = true <;>
    by_cases hclosing : closing = some t.conn <;>
      simp [ends, Escaped, hcounted, hordered, hclosing]

/-- A task that is over was counted, once or twice, when the shutdown is not at it any more. -/
theorem Fits.ends_of_isOver {t : Task} (h : t.Fits) (hover : t.IsOver)
    {closing : Option ConnId} (hclosing : closing ≠ some t.conn) :
    1 ≤ t.ends closing ∧ (t.ends closing = 1 ↔ ¬ t.Escaped) := by
  rcases hover with hcounted | haborted
  · by_cases hordered : t.abort = true <;>
      simp [ends, Escaped, hcounted, hordered, hclosing]
  · simp [ends, Escaped, haborted, h.ordered haborted, hclosing]

end Task

namespace Manager

/-! ## The books -/

/-- The tasks of a table, and what has been counted, fit together. -/
structure Accounted (m : Manager) (counts : List Count) : Prop where
  distinct : (m.tasks.map (·.conn)).Nodup
  numbered : ∀ t ∈ m.tasks, t.conn.number < m.next
  fits : ∀ t ∈ m.tasks, t.Fits
  waiting : ∀ conn ∈ m.entries, ∃ t ∈ m.tasks, t.conn = conn ∧ t.abort = false
  closing : ∀ conn, m.closing? = some conn → ∃ t ∈ m.tasks, t.conn = conn ∧ t.abort = true
  opens : ∀ t ∈ m.tasks, opens counts t.conn = t.opened.toNat
  ends : ∀ t ∈ m.tasks, ends counts t.conn = t.ends m.closing?
  others : ∀ conn, (∀ t ∈ m.tasks, t.conn ≠ conn) →
    Parley.opens counts conn = 0 ∧ Parley.ends counts conn = 0

theorem accounted_empty : Accounted {} [] :=
  ⟨List.nodup_nil, nofun, nofun, nofun, nofun, nofun, nofun, fun _ _ => ⟨rfl, rfl⟩⟩

section Accounts

variable {m m' : Manager} {counts : List Count}

/-- A connection that enters has not been counted yet. -/
theorem Accounted.enter (h : Accounted m counts) : Accounted m.enter.2 counts := by
  have hfresh : ∀ t ∈ m.tasks, t.conn ≠ ⟨m.next⟩ := by
    intro t ht hconn
    have hlt := h.numbered t ht
    rw [hconn] at hlt
    exact Nat.lt_irrefl _ hlt
  obtain ⟨hopens, hends⟩ := h.others _ hfresh
  have hall : ∀ {p : Task → Prop}, (∀ t ∈ m.tasks, p t) → p { conn := ⟨m.next⟩ } →
      ∀ t ∈ m.enter.2.tasks, p t := by
    intro p hold hnew t ht
    rcases List.mem_append.1 ht with ht | ht
    · exact hold t ht
    · rw [List.mem_singleton.1 ht]
      exact hnew
  have hkeep : ∀ {p : Task → Prop}, (∃ t ∈ m.tasks, p t) → ∃ t ∈ m.enter.2.tasks, p t :=
    fun ⟨t, ht, hp⟩ => ⟨t, List.mem_append_left _ ht, hp⟩
  refine ⟨nodup_map_concat h.distinct hfresh, ?_, ?_, fun conn hconn => ?_, ?_, ?_, ?_, ?_⟩
  · exact hall (fun t ht => Nat.lt_succ_of_lt (h.numbered t ht)) (Nat.lt_succ_self _)
  · exact hall h.fits ⟨fun hrunning => absurd rfl hrunning, nofun⟩
  · rcases List.mem_append.1 hconn with hconn | hconn
    · exact hkeep (h.waiting conn hconn)
    · rw [List.mem_singleton.1 hconn]
      exact ⟨_, List.mem_append_right _ (List.mem_singleton_self _), rfl, rfl⟩
  · exact fun conn hconn => hkeep (h.closing conn hconn)
  · exact hall h.opens hopens
  · exact hall h.ends hends
  · exact fun conn hothers => h.others conn fun t ht => hothers t (List.mem_append_left _ ht)

theorem Turn.fits {t t' : Task} {count : Option Count} (h : Turn t t' count) (ht : t.Fits) :
    t'.Fits := by
  cases h with
  | launched new => exact ⟨fun _ _ => rfl, ht.ordered⟩
  | ended opened running => exact ⟨fun _ _ => opened, nofun⟩
  | forgotten ended =>
    exact ⟨fun _ _ => ht.begun (by rw [ended]; nofun) (by rw [ended]; nofun), nofun⟩
  | counted forgotten lasted =>
    exact ⟨fun _ _ => ht.begun (by rw [forgotten]; nofun) (by rw [forgotten]; nofun), nofun⟩
  | aborted ordered running => exact ⟨fun _ h => absurd rfl h, fun _ => ordered⟩

/-- A turn counts what its task then stands for. -/
theorem Turn.adds {t t' : Task} {count : Option Count} (h : Turn t t' count)
    (closing : Option ConnId) :
    t'.opened.toNat = t.opened.toNat + Parley.opens count.toList t.conn ∧
      t'.ends closing = t.ends closing + Parley.ends count.toList t.conn := by
  cases h with
  | launched new =>
    refine ⟨?_, rfl⟩
    rw [new, Option.toList_some, opens_opened, if_pos rfl]
    rfl
  | ended opened running => exact ⟨rfl, by simp [Task.ends, running, Parley.ends]⟩
  | forgotten ended => exact ⟨rfl, by simp [Task.ends, ended, Parley.ends]⟩
  | counted forgotten lasted =>
    refine ⟨rfl, ?_⟩
    rw [Option.toList_some, ends_ended, if_pos rfl]
    simp [Task.ends, forgotten, Nat.add_comm]
  | aborted ordered running => exact ⟨rfl, by simp [Task.ends, running, Parley.ends]⟩

/-- A turn counts nothing of other connections. -/
theorem Turn.adds_other {t t' : Task} {count : Option Count} (h : Turn t t' count)
    {conn : ConnId} (hconn : t.conn ≠ conn) :
    Parley.opens count.toList conn = 0 ∧ Parley.ends count.toList conn = 0 := by
  cases h with
  | launched new => exact ⟨by rw [Option.toList_some, opens_opened, if_neg hconn], rfl⟩
  | counted forgotten lasted =>
    exact ⟨rfl, by rw [Option.toList_some, ends_ended, if_neg hconn]⟩
  | ended | forgotten | aborted => exact ⟨rfl, rfl⟩

/-- One task changes: what is counted of it is what it then stands for, and nothing is counted of
others. -/
theorem Accounted.change (h : Accounted m counts) {t t' : Task} {more : List Count}
    {entries : List ConnId} {shutdown : Option Shutdown} (found : t ∈ m.tasks)
    (conn : t'.conn = t.conn) (fits : t'.Fits)
    (waiting : ∀ conn ∈ entries, conn ∈ m.entries ∧ (conn = t.conn → t'.abort = t.abort))
    (closing : ∀ conn, shutdown.bind (·.closing) = some conn →
      if conn = t.conn then t'.abort = true else m.closing? = some conn)
    (opens : t'.opened.toNat = t.opened.toNat + Parley.opens more t.conn)
    (ends : t'.ends (shutdown.bind (·.closing)) = t.ends m.closing? + Parley.ends more t.conn)
    (others : ∀ conn, t.conn ≠ conn → Parley.opens more conn = 0 ∧ Parley.ends more conn = 0)
    (apart : ∀ s : Task, s.conn ≠ t.conn →
      s.ends (shutdown.bind (·.closing)) = s.ends m.closing?) :
    Accounted { m.updateTask t.conn (fun _ => t') with entries, shutdown } (counts ++ more) := by
  have hself : t' ∈ (m.updateTask t.conn fun _ => t').tasks :=
    mem_updateTask_self found fun _ => t'
  have hall : ∀ {p : Task → Prop}, p t' → (∀ s ∈ m.tasks, s.conn ≠ t.conn → p s) →
      ∀ s ∈ (m.updateTask t.conn fun _ => t').tasks, p s := by
    intro p hp hothers s hs
    rcases mem_updateTask hs with ⟨_, _, _, rfl⟩ | ⟨hs, hconn⟩
    · exact hp
    · exact hothers s hs hconn
  refine ⟨?_, ?_, ?_, fun conn' hconn' => ?_, fun conn' hconn' => ?_, ?_, ?_,
    fun conn' hothers => ?_⟩
  · show ((m.updateTask t.conn fun _ => t').tasks.map (·.conn)).Nodup
    rw [map_conn_updateTask fun _ _ _ => conn]
    exact h.distinct
  · exact hall (by rw [conn]; exact h.numbered t found) fun s hs _ => h.numbered s hs
  · exact hall fits fun s hs _ => h.fits s hs
  · obtain ⟨hthere, hsame⟩ := waiting conn' hconn'
    obtain ⟨s, hs, rfl, hkept⟩ := h.waiting conn' hthere
    by_cases hs' : s.conn = t.conn
    · obtain rfl := eq_of_key_eq h.distinct hs found hs'
      exact ⟨t', hself, conn, (hsame rfl).trans hkept⟩
    · exact ⟨s, mem_updateTask_of_ne hs hs' _, rfl, hkept⟩
  · have hclosing := closing conn' hconn'
    split at hclosing
    · rename_i heq
      exact ⟨t', hself, conn.trans heq.symm, hclosing⟩
    · rename_i hne
      obtain ⟨s, hs, rfl, hordered⟩ := h.closing conn' hclosing
      exact ⟨s, mem_updateTask_of_ne hs hne _, rfl, hordered⟩
  · refine hall ?_ fun s hs hconn => ?_
    · rw [conn, opens_append, h.opens t found, opens]
    · rw [opens_append, h.opens s hs, (others _ hconn.symm).1, Nat.add_zero]
  · refine hall ?_ fun s hs hconn => ?_
    · rw [conn, ends_append, h.ends t found]
      exact ends.symm
    · rw [ends_append, h.ends s hs, (others _ hconn.symm).2, Nat.add_zero]
      exact (apart s hconn).symm
  · have hold : ∀ s ∈ m.tasks, s.conn ≠ conn' := by
      intro s hs
      by_cases hs' : s.conn = t.conn
      · rw [hs', ← conn]
        exact hothers t' hself
      · exact hothers s (mem_updateTask_of_ne hs hs' _)
    obtain ⟨hopens, hends⟩ := h.others conn' hold
    obtain ⟨hopens', hends'⟩ := others conn' (hold t found)
    rw [opens_append, ends_append, hopens, hends, hopens', hends']
    exact ⟨rfl, rfl⟩

/-- The turn of a task. -/
theorem Accounted.turn (h : Accounted m counts) {t t' : Task} {count : Option Count}
    {entries : List ConnId} (found : t ∈ m.tasks) (turn : Turn t t' count)
    (fewer : entries ⊆ m.entries) :
    Accounted { m.updateTask t.conn (fun _ => t') with entries } (counts ++ count.toList) := by
  obtain ⟨hopens, hends⟩ := turn.adds m.closing?
  refine h.change found turn.conn (turn.fits (h.fits t found))
    (fun conn hconn => ⟨fewer hconn, fun _ => turn.abort⟩) (fun conn hconn => ?_) hopens hends
    (fun conn => turn.adds_other) (fun s _ => rfl)
  split
  · rename_i heq
    subst heq
    obtain ⟨s, hs, hconn', hordered⟩ := h.closing t.conn hconn
    obtain rfl := eq_of_key_eq h.distinct hs found hconn'
    exact turn.abort.trans hordered
  · exact hconn

/-- The shutdown takes out an entry: nothing is counted yet of the task that it orders aborted. -/
theorem Accounted.take (h : Accounted m counts) {conn : ConnId} {left : List ConnId}
    (idle : m.closing? = none) (there : conn ∈ m.entries) :
    Accounted { (m.erase conn).updateTask conn (fun t => { t with abort := true }) with
      shutdown := some ⟨left, some conn⟩ } counts := by
  obtain ⟨t, ht, rfl, hkept⟩ := h.waiting conn there
  have hupdate := updateTask_eq (m := m.erase t.conn) h.distinct ht
    fun t => { t with abort := true }
  rw [hupdate, ← List.append_nil counts]
  refine h.change ht rfl ⟨(h.fits t ht).begun, fun _ => rfl⟩ (fun conn hconn => ?_)
    (fun conn hconn => ?_) rfl ?_ (fun _ _ => ⟨rfl, rfl⟩) (fun s hne => ?_)
  · obtain ⟨hconn, hne⟩ := List.mem_filter.1 hconn
    exact ⟨hconn, fun heq => absurd heq (by simpa using hne)⟩
  · rw [if_pos (Option.some.inj hconn).symm]
  · simp [Task.ends, hkept, Parley.ends]
  · simp [Task.ends, idle, Ne.symm hne]

/-- The shutdown counts the end of the connection that it has closed. -/
theorem Accounted.tell (h : Accounted m counts) {conn : ConnId} {left : List ConnId}
    (closing : m.closing? = some conn) (lasted : Duration) :
    Accounted { m with shutdown := some ⟨left, none⟩ } (counts ++ [.ended conn lasted]) := by
  obtain ⟨t, ht, rfl, hordered⟩ := h.closing conn closing
  refine ⟨h.distinct, h.numbered, h.fits, h.waiting, nofun, fun s hs => ?_, fun s hs => ?_,
    fun conn hothers => ?_⟩
  · rw [opens_append, opens_ended, Nat.add_zero]
    exact h.opens s hs
  · show Parley.ends _ s.conn = Task.ends none s
    rw [ends_append, ends_ended, h.ends s hs, closing]
    by_cases hconn : t.conn = s.conn
    · obtain rfl := eq_of_key_eq h.distinct ht hs hconn
      simp [Task.ends, hordered]
    · simp [Task.ends, hconn]
  · obtain ⟨hopens, hends⟩ := h.others conn hothers
    rw [opens_append, ends_append, hopens, hends, opens_ended, ends_ended,
      if_neg (hothers t ht)]
    exact ⟨rfl, rfl⟩

theorem Comes.accounted {count : Option Count} (hm : Accounted m counts) (h : Comes m m' count) :
    Accounted m' (counts ++ count.toList) := by
  cases h with
  | entered =>
    rw [Option.toList_none, List.append_nil]
    exact hm.enter
  | turned found turn fewer => exact hm.turn found turn fewer
  | taken idle there =>
    rw [Option.toList_none, List.append_nil]
    exact hm.take idle there
  | told closing lasted => exact hm.tell closing lasted
  | @still entries shutdown fewer same =>
    rw [Option.toList_none, List.append_nil]
    refine ⟨hm.distinct, hm.numbered, hm.fits, fun conn hconn => hm.waiting conn (fewer hconn),
      fun conn hconn => hm.closing conn (same.symm.trans hconn), hm.opens, fun t ht => ?_,
      hm.others⟩
    show Parley.ends counts t.conn = t.ends (shutdown.bind (·.closing))
    rw [same]
    exact hm.ends t ht

theorem Accounted.run {moves : List Move} {more : List Count} (hm : Accounted m counts)
    (h : m.run? moves = some (m', more)) : Accounted m' (counts ++ more) := by
  induction moves generalizing m counts more with
  | nil =>
    cases h
    rw [List.append_nil]
    exact hm
  | cons move rest ih =>
    obtain ⟨m₁, count, after, hmove, hrest, rfl⟩ := run?_cons.1 h
    rw [← List.append_assoc]
    exact ih ((move?_comes hm.distinct hmove).accounted hm) hrest

end Accounts

/-! ## All connections together -/

/-- The connections whose opening was counted more often than their end. -/
def openNow (m : Manager) : Nat := m.tasks.countP fun t => t.ends m.closing? < t.opened.toNat

/-- The connections whose end was counted more often than their opening. -/
def excess (m : Manager) : Nat := m.tasks.countP fun t => t.opened.toNat < t.ends m.closing?

/-- What is counted of connections that have tasks adds up over these. -/
theorem length_eq_sum {tasks : List Task} {conns : List ConnId} {times : Task → Nat}
    (hd : (tasks.map (·.conn)).Nodup) (htimes : ∀ t ∈ tasks, conns.count t.conn = times t)
    (hothers : ∀ conn, (∀ t ∈ tasks, t.conn ≠ conn) → conns.count conn = 0) :
    conns.length = (tasks.map times).sum := by
  have hall : ∀ conn ∈ (conns : Multiset ConnId), conn ∈ (tasks.map (·.conn)).toFinset := by
    intro conn hconn
    rw [List.mem_toFinset]
    by_contra hnone
    refine absurd (hothers conn fun t ht heq => hnone ?_) (List.count_pos_iff.2 hconn).ne'
    exact heq ▸ List.mem_map_of_mem ht
  calc conns.length
    _ = ∑ conn ∈ (tasks.map (·.conn)).toFinset, conns.count conn :=
        by simpa using (Multiset.sum_count_eq_card hall).symm
    _ = ((tasks.map (·.conn)).map conns.count).sum := List.sum_toFinset _ hd
    _ = (tasks.map times).sum := by
        rw [List.map_map]
        exact congrArg List.sum (List.map_congr_left htimes)

theorem sum_balance {tasks : List Task} {opened ended : Task → Nat}
    (hopened : ∀ t ∈ tasks, opened t ≤ 1) (hended : ∀ t ∈ tasks, ended t ≤ opened t + 1) :
    (tasks.map opened).sum + tasks.countP (fun t => opened t < ended t) =
      (tasks.map ended).sum + tasks.countP (fun t => ended t < opened t) := by
  induction tasks with
  | nil => rfl
  | cons t rest ih =>
    have hrest := ih (fun s hs => hopened s (List.mem_cons_of_mem _ hs))
      fun s hs => hended s (List.mem_cons_of_mem _ hs)
    have hone : opened t + (if opened t < ended t then 1 else 0) =
        ended t + (if ended t < opened t then 1 else 0) := by
      have h₁ := hopened t List.mem_cons_self
      have h₂ := hended t List.mem_cons_self
      split <;> split <;> omega
    simp only [List.map_cons, List.sum_cons, List.countP_cons, decide_eq_true_eq]
    omega

/-- Over all connections, the openings and what was counted beyond them make up for the ends and
what is open. -/
theorem Accounted.balance {m : Manager} {counts : List Count} (h : Accounted m counts) :
    (counts.filterMap Count.opened?).length + m.excess =
      (counts.filterMap Count.ended?).length + m.openNow := by
  rw [length_eq_sum h.distinct h.opens fun conn hconn => (h.others conn hconn).1,
    length_eq_sum h.distinct h.ends fun conn hconn => (h.others conn hconn).2]
  exact sum_balance (fun t _ => Bool.toNat_le t.opened) fun t ht => (h.fits t ht).ends_le _

end Manager

/-- The number of open connections, with the ends added that were counted, is what it was before with
the openings added. -/
theorem Tally.connectionsOpen_counts (counts : List Count) (t : Tally) :
    (counts.foldl Tally.count t).connectionsOpen +
        .ofNat (counts.filterMap Count.ended?).length =
      t.connectionsOpen + .ofNat (counts.filterMap Count.opened?).length := by
  induction counts generalizing t with
  | nil => rfl
  | cons c rest ih =>
    cases c with
    | opened conn =>
      show (rest.foldl Tally.count t.connectionOpened).connectionsOpen +
        .ofNat (rest.filterMap Count.ended?).length =
          t.connectionsOpen + .ofNat ((rest.filterMap Count.opened?).length + 1)
      rw [ih, UInt64.ofNat_add, UInt64.add_comm (.ofNat _) (.ofNat 1), ← UInt64.add_assoc]
      rfl
    | ended conn lasted =>
      show (rest.foldl Tally.count (t.connectionClosed lasted)).connectionsOpen +
        .ofNat ((rest.filterMap Count.ended?).length + 1) =
          t.connectionsOpen + .ofNat (rest.filterMap Count.opened?).length
      rw [UInt64.ofNat_add, ← UInt64.add_assoc, ih]
      show t.connectionsOpen - 1 + _ + 1 = _
      rw [UInt64.add_assoc, UInt64.add_comm (.ofNat _) 1, ← UInt64.add_assoc,
        UInt64.sub_add_cancel]

namespace Manager

/-- The number of open connections that a server shows. -/
def shown (counts : List Count) : Nat := (counts.foldl Tally.count {}).connectionsOpen.toNat

theorem Accounted.shown {m : Manager} {counts : List Count} (h : Accounted m counts)
    (hfew : m.tasks.length < UInt64.size) :
    Manager.shown counts = if m.excess ≤ m.openNow then m.openNow - m.excess
      else UInt64.size - (m.excess - m.openNow) := by
  have hbalance := h.balance
  have hopen : m.openNow ≤ m.tasks.length := List.countP_le_length
  have hexcess : m.excess ≤ m.tasks.length := List.countP_le_length
  have hlt : Manager.shown counts < UInt64.size := UInt64.toNat_lt_size _
  have hsum : (Manager.shown counts + (counts.filterMap Count.ended?).length) % UInt64.size =
      (counts.filterMap Count.opened?).length % UInt64.size := by
    have hcounts := congrArg UInt64.toNat (Tally.connectionsOpen_counts counts {})
    rw [UInt64.toNat_add, UInt64.toNat_add, UInt64.toNat_ofNat', UInt64.toNat_ofNat'] at hcounts
    simpa [Manager.shown, UInt64.size] using hcounts
  simp only [UInt64.size] at *
  split <;> omega

/-- When all connections have been opened and have ended, none is open, and those whose task escaped
were counted too often. -/
theorem Accounted.of_all_over {m : Manager} {counts : List Count} (h : Accounted m counts)
    (hover : ∀ t ∈ m.tasks, t.opened = true ∧ t.IsOver) (hidle : m.closing? = none) :
    m.openNow = 0 ∧ (m.excess = 0 ↔ ∀ t ∈ m.tasks, ¬ t.Escaped) := by
  have hends : ∀ t ∈ m.tasks, 1 ≤ t.ends m.closing? ∧ (t.ends m.closing? = 1 ↔ ¬ t.Escaped) :=
    fun t ht => (h.fits t ht).ends_of_isOver (hover t ht).2 (by rw [hidle]; nofun)
  constructor
  · refine List.countP_eq_zero.2 fun t ht => ?_
    rw [(hover t ht).1, decide_eq_true_eq, Bool.toNat_true, Nat.not_lt]
    exact (hends t ht).1
  · refine List.countP_eq_zero.trans (forall₂_congr fun t ht => ?_)
    obtain ⟨hone, hescaped⟩ := hends t ht
    rw [(hover t ht).1, decide_eq_true_eq, Bool.toNat_true, ← hescaped]
    omega

/-- However connections enter, run, are removed and are shut down: the opening of a connection is
counted once, and its end never more than twice; twice exactly if its task was to be aborted and
came to its end all the same, and the shutdown has closed the connection. Of a connection whose task
is over and that the shutdown is not closing, the end was counted, and just once unless its task
escaped. The number of open connections that is shown lacks whatever was counted beyond an opening,
and wraps when that is more than is open; when all are over, it is zero exactly if no task
escaped. -/
theorem ends_counted {moves : List Move} {m : Manager} {counts : List Count}
    (h : ({} : Manager).run? moves = some (m, counts)) :
    (∀ t ∈ m.tasks,
      opens counts t.conn = t.opened.toNat ∧ ends counts t.conn ≤ 2 ∧
      (ends counts t.conn = 2 ↔ t.Escaped ∧ m.closing? ≠ some t.conn) ∧
      (t.IsOver → m.closing? ≠ some t.conn →
        1 ≤ ends counts t.conn ∧ (ends counts t.conn = 1 ↔ ¬ t.Escaped))) ∧
    (∀ conn, (∀ t ∈ m.tasks, t.conn ≠ conn) → opens counts conn = 0 ∧ ends counts conn = 0) ∧
    (m.tasks.length < UInt64.size →
      shown counts = (if m.excess ≤ m.openNow then m.openNow - m.excess
        else UInt64.size - (m.excess - m.openNow)) ∧
      ((∀ t ∈ m.tasks, t.opened = true ∧ t.IsOver) → m.closing? = none →
        (shown counts = 0 ↔ ∀ t ∈ m.tasks, ¬ t.Escaped))) := by
  have hm : Accounted m counts := accounted_empty.run h
  refine ⟨fun t ht => ?_, hm.others, fun hfew => ⟨hm.shown hfew, fun hover hidle => ?_⟩⟩
  · have hfits := hm.fits t ht
    rw [hm.ends t ht]
    refine ⟨hm.opens t ht, ?_, Task.ends_eq_two_iff, fun hover hidle =>
      hfits.ends_of_isOver hover hidle⟩
    exact (hfits.ends_le _).trans (Nat.succ_le_succ (Bool.toNat_le t.opened))
  · obtain ⟨hopen, hexcess⟩ := hm.of_all_over hover hidle
    have hle : m.excess ≤ m.tasks.length := List.countP_le_length
    rw [← hexcess, hm.shown hfew, hopen]
    split <;> omega

/-- Of two connections one ends by itself and the other is aborted by a shutdown: each end is
counted once, and none is left open. -/
theorem ends_counted_of_abort :
    let moves : List Move := [.enter, .launch ⟨1⟩, .enter, .launch ⟨2⟩] ++
      Manager.endOfTask ⟨1⟩ ⟨5⟩ ++
      [.beginShutdown, .take ⟨2⟩, .abort ⟨2⟩, .countTaken ⟨7⟩, .endShutdown]
    let counts : List Count :=
      [.opened ⟨1⟩, .opened ⟨2⟩, .ended ⟨1⟩ ⟨5⟩, .ended ⟨2⟩ ⟨7⟩]
    ∃ m, ({} : Manager).run? moves = some (m, counts) ∧
      (∀ t ∈ m.tasks, ends counts t.conn = 1) ∧ shown counts = 0 := by
  intro moves counts
  let m : Manager := {
    next := 3
    tasks := [⟨⟨1⟩, true, .counted, false⟩, ⟨⟨2⟩, true, .aborted, true⟩] }
  have hrun : ({} : Manager).run? moves = some (m, counts) := by decide
  obtain ⟨hends, -, hshown⟩ := ends_counted hrun
  have hover : ∀ t ∈ m.tasks, t.opened = true ∧ t.IsOver := by decide
  have hescaped : ∀ t ∈ m.tasks, ¬ t.Escaped := by decide
  refine ⟨m, hrun, fun t ht => ?_, ((hshown (by decide)).2 hover rfl).2 hescaped⟩
  exact ((hends t ht).2.2.2 (hover t ht).2 nofun).2.2 (hescaped t ht)

/-- A shutdown takes the entry of a connection out after its worker's run has ended, which an abort
no longer stops: both count its end, and the number of open connections wraps. -/
theorem end_counted_twice :
    let moves : List Move := [.enter, .launch ⟨1⟩, .beginShutdown, .runEnds ⟨1⟩, .take ⟨1⟩,
      .forget ⟨1⟩, .count ⟨1⟩ ⟨0⟩, .countTaken ⟨0⟩, .endShutdown]
    let counts : List Count := [.opened ⟨1⟩, .ended ⟨1⟩ ⟨0⟩, .ended ⟨1⟩ ⟨0⟩]
    ∃ m, ({} : Manager).run? moves = some (m, counts) ∧ m.shutdown = none ∧
      (∀ t ∈ m.tasks, t.opened = true ∧ t.IsOver) ∧
      opens counts ⟨1⟩ = 1 ∧ ends counts ⟨1⟩ = 2 ∧ shown counts = UInt64.size - 1 :=
  ⟨{ next := 2, tasks := [⟨⟨1⟩, true, .counted, true⟩] }, by decide, rfl, by decide, rfl, rfl, rfl⟩

end Manager
end Parley
