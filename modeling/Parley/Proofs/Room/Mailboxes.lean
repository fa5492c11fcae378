/-
What comes of the frames for guests. A guest is greeted when it comes; from then on, what its reader
has been given and what still waits for it are together the frames that were accepted for it, in
order, and never more of them wait than its mailbox holds. A frame that finds the mailbox full puts
the guest out, and with that the last thing about it has been logged (`mailboxes_exact`).

The invariant is that of one stay: `Stay.Kept` says what the log, the mailbox and the reader have of
it while the guest is there and once it has gone. Every step of a stay keeps it, and so does every
reading of its mailbox.
-/
import Parley.Proofs.Room.Isolation
import Parley.Proofs.Room.Stays

namespace Parley

/-! ## Stays whose mailbox is read -/

namespace Stay

/-- What waits in the mailbox of a stay, for as long as somebody reads it. -/
def mailbox? (s : Stay) : Option (List Text) :=
  match s.guest with
  | some g => if g.reading then some g.waiting else none
  | none => s.left

/-- The next frame is taken out of the mailbox. -/
def readNext (s : Stay) : Stay :=
  match s.guest with
  | some g => { s with guest := some { g with waiting := g.waiting.tail } }
  | none => { s with left := s.left.map List.tail }

/-- All frames are taken out of the mailbox. -/
def read (s : Stay) : Stay :=
  match s.guest with
  | some g => if g.reading then { s with guest := some { g with waiting := [] } } else s
  | none => { s with left := s.left.map fun _ => [] }

/-- Nobody reads the mailbox any more. -/
def stopReading (s : Stay) : Stay :=
  match s.guest with
  | some g =>
    if g.reading then { s with guest := some { g with waiting := [], reading := false } } else s
  | none => { s with left := none }

/-- What is true of a stay once its guest has come: its log begins with the greeting and ends when
the guest goes; what its reader has been given and what waits are what was accepted, and no more
waits than the mailbox holds. -/
inductive Kept (capacity : Nat) (readOn : Prop) (id : SessionId) (given : List Text) : Stay → Prop
  | here {g : Guest} {later : List Text}
      (books : g.reading = true → given ++ g.waiting = Wire.greeting id :: later ∧
        g.waiting.length ≤ capacity)
      (reads : readOn → g.reading = true) :
      Kept capacity readOn id given
        ⟨some g, none, (Wire.greeting id :: later).map (.queued id)⟩
  | gone {left : Option (List Text)} {later : List Text}
      (books : ∀ waiting, left = some waiting → given ++ waiting = Wire.greeting id :: later ∧
        waiting.length ≤ capacity)
      (reads : readOn → left.isSome) :
      Kept capacity readOn id given
        ⟨none, left, (Wire.greeting id :: later).map (.queued id) ++ [.ended id]⟩

section Kept

variable {capacity : Nat} {asked readOn : Prop} {id : SessionId} {given : List Text} {s s' : Stay}

theorem Kept.step (hstep : Step capacity asked id s s') (h : Kept capacity readOn id given s) :
    Kept capacity readOn id given s' := by
  cases hstep with
  | takes frame taken =>
    obtain ⟨hreads, hroom⟩ := Guest.receipt_eq_taken.1 taken
    cases h with
    | @here g later books reads =>
      obtain ⟨hsum, -⟩ := books hreads
      have hlog : (Wire.greeting id :: later).map (Event.queued id) ++ [.queued id frame] =
          (Wire.greeting id :: (later ++ [frame])).map (.queued id) := by simp
      rw [hlog]
      refine .here (fun _ => ⟨?_, ?_⟩) fun _ => hreads
      · rw [Guest.put, ← List.append_assoc, hsum, List.cons_append]
      · simpa [Guest.put] using Nat.succ_le_of_lt hroom
  | @goes g _ _ cause =>
    cases h with
    | here books reads =>
      refine .gone (fun waiting hleft => ?_) fun hopen => ?_
      · cases hr : g.reading with
        | false => simp [hr] at hleft
        | true =>
          simp only [hr, if_true, Option.some.injEq] at hleft
          exact hleft ▸ books hr
      · simp [reads hopen]
  | named name unnamed =>
    cases h with
    | here books reads => exact .here books reads

theorem Kept.steps (hsteps : Relation.ReflTransGen (Step capacity asked id) s s')
    (h : Kept capacity readOn id given s) : Kept capacity readOn id given s' := by
  induction hsteps with
  | refl => exact h
  | tail _ hstep ih => exact ih.step hstep

/-- The next frame goes from the mailbox to the reader. -/
theorem Kept.readNext (h : Kept capacity readOn id given s) :
    Kept capacity readOn id (given ++ (s.mailbox?.getD []).take 1) s.readNext := by
  have hone : ∀ {waiting all : List Text}, given ++ waiting = all ∧ waiting.length ≤ capacity →
      given ++ waiting.take 1 ++ waiting.tail = all ∧ waiting.tail.length ≤ capacity := by
    intro waiting all ⟨hsum, hfew⟩
    refine ⟨?_, by rw [List.length_tail]; omega⟩
    rw [List.append_assoc, ← List.drop_one, List.take_append_drop, hsum]
  cases h with
  | @here g later books reads =>
    refine .here (fun hr => ?_) reads
    have hr : g.reading = true := hr
    have hmailbox : (mailbox? ⟨some g, none, (Wire.greeting id :: later).map (.queued id)⟩) =
        some g.waiting := if_pos hr
    rw [hmailbox]
    exact hone (books hr)
  | @gone left later books reads =>
    refine .gone (fun waiting hleft => ?_) fun hopen => by simpa using reads hopen
    obtain ⟨before, rfl, rfl⟩ := Option.map_eq_some_iff.1 hleft
    exact hone (books before rfl)

/-- All that waits goes to the reader. -/
theorem Kept.read (h : Kept capacity readOn id given s) :
    Kept capacity readOn id (given ++ s.mailbox?.getD []) s.read := by
  cases h with
  | @here g later books reads =>
    cases hr : g.reading with
    | false =>
      simp only [Stay.read, mailbox?, hr]
      exact .here (fun hr' => absurd (hr.symm.trans hr') Bool.false_ne_true) reads
    | true =>
      simp only [Stay.read, mailbox?, hr, if_true, Option.getD_some]
      exact .here (fun _ => ⟨by simpa using (books hr).1, Nat.zero_le _⟩) fun _ => rfl
  | @gone left later books reads =>
    refine .gone (fun waiting hleft => ?_) fun hopen => by simpa using reads hopen
    obtain ⟨before, rfl, rfl⟩ := Option.map_eq_some_iff.1 hleft
    exact ⟨by simpa [mailbox?] using (books before rfl).1, Nat.zero_le _⟩

theorem Kept.stopReading (h : Kept capacity readOn id given s) (hclosed : ¬ readOn) :
    Kept capacity readOn id given s.stopReading := by
  cases h with
  | @here g later books reads =>
    cases hr : g.reading with
    | false =>
      simp only [Stay.stopReading, hr]
      exact .here books fun hopen => absurd hopen hclosed
    | true =>
      simp only [Stay.stopReading, hr, if_true]
      exact .here (fun hr' => by cases hr') fun hopen => absurd hopen hclosed
  | gone books reads =>
    exact .gone (fun _ hleft => by cases hleft) fun hopen => absurd hopen hclosed

end Kept
end Stay

namespace Room

/-! ## One move -/

/-- A room that nobody is in, and nobody has been in, with a bridge of its own. -/
def vacant (r : Room) (capacity : Nat) : Room :=
  { r with roster := {}, bridge := .new capacity, log := [] }

/-- The frames that were accepted for a guest. -/
def accepted (r : Room) (id : SessionId) : List Text := r.log.filterMap (Event.queuedFor? id)

/-- What the reader of a mailbox is given by a move. -/
def yields (r : Room) (id : SessionId) : Move → List Text
  | .readNext read => if id = read then ((r.bridge.mailbox? id).getD []).take 1 else []
  | .read read => if id = read then ((r.bridge.read? id).map (·.1)).getD [] else []
  | _ => []

/-- What the reader of a mailbox is given by several moves, one after the other. -/
def yielded (r : Room) (id : SessionId) : List Move → List Text
  | [] => []
  | m :: rest => r.yields id m ++ (r.step m).yielded id rest

theorem run_append (before after : List Move) : ∀ r : Room,
    r.run (before ++ after) = (r.run before).run after := by
  induction before with
  | nil => exact fun r => rfl
  | cons m rest ih => exact fun r => ih _

theorem yielded_append (id : SessionId) (before after : List Move) : ∀ r : Room,
    r.yielded id (before ++ after) = r.yielded id before ++ (r.run before).yielded id after := by
  induction before with
  | nil => exact fun r => rfl
  | cons m rest ih =>
    intro r
    simp only [List.cons_append, yielded, ih, run, List.append_assoc]

section Readings

variable (r : Room) (read id : SessionId)

theorem mailbox?_stay : (r.stay id).mailbox? = r.bridge.mailbox? id := rfl

theorem read?_fst : ((r.bridge.read? id).map (·.1)).getD [] = (r.bridge.mailbox? id).getD [] := by
  unfold Bridge.read? Bridge.mailbox?
  cases r.bridge.guest? id with
  | none => simp [Bridge.left?, Option.map_map, Function.comp_def]
  | some g => cases hr : g.reading <;> simp [hr]

theorem stay_update {f : Guest → Guest} (hf : ∀ g, (f g).id = g.id) :
    ({ r with bridge := r.bridge.update read f } : Room).stay id =
      if id = read then { r.stay id with guest := (r.stay id).guest.map f } else r.stay id := by
  simp only [stay, Bridge.guest?_update _ hf]
  by_cases hid : id = read <;> simp [hid, Bridge.left?, Bridge.update]

theorem stay_mapLeft (f : List Text → List Text) :
    ({ r with bridge := { r.bridge with departed := r.bridge.departed.map fun d =>
        if d.1 = read then (read, f d.2) else d } } : Room).stay id =
      if id = read then { r.stay id with left := (r.stay id).left.map f } else r.stay id := by
  simp only [stay, Bridge.left?_map]
  by_cases hid : id = read <;> simp [hid, Bridge.guest?]

theorem stay_dropLeft :
    ({ r with bridge := { r.bridge with
        departed := r.bridge.departed.filter (·.1 ≠ read) } } : Room).stay id =
      if id = read then { r.stay id with left := none } else r.stay id := by
  simp only [stay, Bridge.left?_drop]
  by_cases hid : id = read <;> simp [hid, Bridge.guest?]

theorem stay_readNext : (r.step (.readNext read)).stay id =
    if id = read then (r.stay id).readNext else r.stay id := by
  simp only [step, Bridge.readNext]
  cases hg : r.bridge.guest? read with
  | some g =>
    simp only [stay_update _ _ _ (f := fun g => { g with waiting := g.waiting.tail }) fun _ => rfl]
    refine ite_congr rfl (fun hid => ?_) fun _ => rfl
    simp [hid, stay, hg, Stay.readNext]
  | none =>
    simp only [stay_mapLeft _ _ _ List.tail]
    refine ite_congr rfl (fun hid => ?_) fun _ => rfl
    simp [hid, stay, hg, Stay.readNext]

/-- Where nothing is done, nothing changes. -/
theorem eq_ite_stay {s : Stay} (h : id = read → r.stay id = s) :
    r.stay id = if id = read then s else r.stay id := by
  split
  · rename_i hid
    exact h hid
  · rfl

theorem stay_read : (r.step (.read read)).stay id =
    if id = read then (r.stay id).read else r.stay id := by
  simp only [step, Bridge.read?]
  cases hg : r.bridge.guest? read with
  | some g =>
    cases hr : g.reading with
    | true =>
      simp only [hr, if_true, Option.map_some, Option.getD_some]
      rw [stay_update _ _ _ (f := fun g => { g with waiting := [] }) fun _ => rfl]
      refine ite_congr rfl (fun hid => ?_) fun _ => rfl
      simp [hid, stay, hg, hr, Stay.read]
    | false =>
      simp only [hr, Bool.false_eq_true, if_false, Option.map_none, Option.getD_none]
      exact eq_ite_stay r read id fun hid => by simp [hid, stay, hg, hr, Stay.read]
  | none =>
    cases hd : r.bridge.departed.find? (·.1 = read) with
    | some d =>
      simp only [Option.map_some, Option.getD_some]
      rw [stay_mapLeft _ _ _ fun _ => []]
      refine ite_congr rfl (fun hid => ?_) fun _ => rfl
      simp [hid, stay, hg, Stay.read]
    | none =>
      exact eq_ite_stay r read id fun hid => by
        simp [hid, stay, hg, Bridge.left?, hd, Stay.read]

theorem stay_stopReading : (r.step (.stopReading read)).stay id =
    if id = read then (r.stay id).stopReading else r.stay id := by
  simp only [step, Bridge.stopReading?]
  cases hg : r.bridge.guest? read with
  | some g =>
    cases hr : g.reading with
    | true =>
      simp only [hr, if_true, Option.getD_some]
      rw [stay_update _ _ _ (f := fun g => { g with waiting := [], reading := false }) fun _ => rfl]
      refine ite_congr rfl (fun hid => ?_) fun _ => rfl
      simp [hid, stay, hg, hr, Stay.stopReading]
    | false =>
      simp only [hr, Bool.false_eq_true, if_false, Option.getD_none]
      exact eq_ite_stay r read id fun hid => by simp [hid, stay, hg, hr, Stay.stopReading]
  | none =>
    cases hd : r.bridge.departed.any (·.1 = read) with
    | true =>
      simp only [if_true, Option.getD_some]
      rw [stay_dropLeft]
      refine ite_congr rfl (fun hid => ?_) fun _ => rfl
      simp [hid, stay, hg, Stay.stopReading]
    | false =>
      refine eq_ite_stay r read id fun hid => ?_
      have hleft : r.bridge.left? read = none := by
        rw [Bridge.left?, List.find?_eq_none.2 fun d hm => List.any_eq_false.1 hd d hm]
        rfl
      simp [hid, stay, hg, hleft, Stay.stopReading]

theorem stay_attach {r : Room} (h : r.bridge.guest? read = none) :
    (r.step (.attach read)).stay id =
      if id = read then
        ⟨some { id, waiting := [Wire.greeting id] }, none,
          (r.stay id).log ++ [.queued id (Wire.greeting id)]⟩
      else r.stay id := by
  simp only [step, h, Option.isSome_none, Bool.false_eq_true, if_false, attach, stay, record,
    log_stay_record, Bridge.guest?_attach, Bridge.left?_attach, Event.guest?_queued,
    Option.some.injEq]
  by_cases hid : id = read
  · simp [hid]
  · simp [hid, Ne.symm hid]

theorem stay_attach_ne (hid : id ≠ read) : (r.step (.attach read)).stay id = r.stay id := by
  cases hn : r.bridge.guest? read with
  | none => rw [stay_attach read id hn, if_neg hid]
  | some g => rw [step, hn, Option.isSome_some, if_pos rfl]

end Readings

/-! ## Every move and every run -/

theorem capacity_step {r : Room} (hw : r.WF) (m : Move) :
    (r.step m).bridge.capacity = r.bridge.capacity := by
  by_cases hm : m.IsOfMailbox
  · cases hm with
    | attach id =>
      simp only [step]
      split <;> rfl
    | readNext id =>
      simp only [step, Bridge.readNext]
      split <;> rfl
    | read id =>
      simp only [step, Bridge.read?]
      split
      · split <;> rfl
      · cases r.bridge.departed.find? (·.1 = id) <;> rfl
    | stopReading id =>
      simp only [step, Bridge.stopReading?]
      split
      · split <;> rfl
      · split <;> rfl
  · exact (step_hosts hw hm).capacity

section Runs

variable {capacity : Nat} {readOn : Prop} {id : SessionId} {given : List Text} {r : Room}

/-- Every move keeps a stay, unless it brings the guest once more or the reader stops. -/
theorem kept_step (hw : r.WF) (hcap : r.bridge.capacity = capacity) {m : Move}
    (hcomes : m ≠ .attach id) (hstops : readOn → m ≠ .stopReading id)
    (h : (r.stay id).Kept capacity readOn id given) :
    ((r.step m).stay id).Kept capacity readOn id (given ++ r.yields id m) := by
  by_cases hm : m.IsOfMailbox
  · cases hm with
    | attach new =>
      have hne : id ≠ new := fun e => hcomes (e ▸ rfl)
      show Stay.Kept capacity readOn id (given ++ []) _
      rwa [List.append_nil, stay_attach_ne r new id hne]
    | readNext read =>
      rw [stay_readNext, yields]
      split
      · exact h.readNext
      · rwa [List.append_nil]
    | read read =>
      rw [stay_read, yields, read?_fst]
      split
      · exact h.read
      · rwa [List.append_nil]
    | stopReading read =>
      show Stay.Kept capacity readOn id (given ++ []) _
      rw [stay_stopReading, List.append_nil]
      split
      · rename_i hid
        exact h.stopReading fun hopen => hstops hopen (hid ▸ rfl)
      · exact h
  · have hyields : r.yields id m = [] := by
      cases m <;> first | rfl | exact absurd (by constructor) hm
    rw [hyields, List.append_nil]
    exact h.steps (hcap ▸ (step_hosts hw hm).stays id)

theorem kept_run {moves : List Move} (hcomes : .attach id ∉ moves)
    (hstops : readOn → .stopReading id ∉ moves) : ∀ {r : Room} {given : List Text}, r.WF →
    r.bridge.capacity = capacity → (r.stay id).Kept capacity readOn id given →
    ((r.run moves).stay id).Kept capacity readOn id (given ++ r.yielded id moves) := by
  induction moves with
  | nil =>
    intro r given _ _ h
    rwa [yielded, List.append_nil]
  | cons m rest ih =>
    intro r given hw hcap h
    rw [List.mem_cons, not_or] at hcomes
    have hm : readOn → m ≠ .stopReading id ∧ .stopReading id ∉ rest := fun hopen => by
      have hboth := hstops hopen
      rw [List.mem_cons, not_or] at hboth
      exact ⟨Ne.symm hboth.1, hboth.2⟩
    rw [yielded, ← List.append_assoc]
    exact ih hcomes.2 (fun hopen => (hm hopen).2) (run_wf hw [m]) ((capacity_step hw m).trans hcap)
      (kept_step hw hcap (Ne.symm hcomes.1) (fun hopen => (hm hopen).1) h)

/-- Before a guest comes there is nothing of it, and its reader is given nothing. -/
theorem unseen_step (hw : r.WF) {m : Move} (hcomes : m ≠ .attach id) (h : r.stay id = {}) :
    (r.step m).stay id = {} ∧ r.yields id m = [] := by
  have hmailbox : r.bridge.mailbox? id = none := by rw [← mailbox?_stay, h]; rfl
  by_cases hm : m.IsOfMailbox
  · cases hm with
    | attach new =>
      have hne : id ≠ new := fun e => hcomes (e ▸ rfl)
      exact ⟨by rwa [stay_attach_ne r new id hne], rfl⟩
    | readNext read =>
      refine ⟨?_, by simp [yields, hmailbox]⟩
      rw [stay_readNext, h]
      exact ite_self _
    | read read =>
      refine ⟨?_, by simp [yields, read?_fst, hmailbox]⟩
      rw [stay_read, h]
      exact ite_self _
    | stopReading read =>
      refine ⟨?_, rfl⟩
      rw [stay_stopReading, h]
      exact ite_self _
  · refine ⟨?_, by cases m <;> first | rfl | exact absurd (by constructor) hm⟩
    have hsteps := (step_hosts hw hm).stays id
    rw [h] at hsteps
    rcases hsteps.cases_head with hsame | ⟨s, hstep, -⟩
    · exact hsame.symm
    · cases hstep

theorem unseen_run {moves : List Move} (hcomes : .attach id ∉ moves) : ∀ {r : Room}, r.WF →
    r.stay id = {} → (r.run moves).stay id = {} ∧ r.yielded id moves = [] := by
  induction moves with
  | nil => exact fun _ h => ⟨h, rfl⟩
  | cons m rest ih =>
    intro r hw h
    rw [List.mem_cons, not_or] at hcomes
    obtain ⟨hstay, hyields⟩ := unseen_step hw (Ne.symm hcomes.1) h
    obtain ⟨hrest, hyielded⟩ := ih (r := r.step m) hcomes.2 (run_wf hw [m]) hstay
    exact ⟨hrest, by rw [yielded, hyields, hyielded]; rfl⟩

end Runs

/-! ## The books of a mailbox -/

/-- What was accepted for a guest is what the log of its stay says. -/
theorem accepted_stay (r : Room) (id : SessionId) :
    r.accepted id = (r.stay id).log.filterMap (Event.queuedFor? id) := by
  simp only [accepted, stay, List.filterMap_filter]
  refine List.filterMap_congr fun e _ => ?_
  cases e with
  | queued guest frame => by_cases h : guest = id <;> simp [Event.queuedFor?, h]
  | _ => simp [Event.queuedFor?]

theorem filterMap_queued (id : SessionId) (frames : List Text) :
    (frames.map (Event.queued id)).filterMap (Event.queuedFor? id) = frames := by
  rw [List.filterMap_map]
  have hsome : Event.queuedFor? id ∘ Event.queued id = some := by
    funext frame
    simp [Event.queuedFor?]
  rw [hsome, List.filterMap_some]

/-- What a stay that is kept comes to. -/
theorem books_of_kept {capacity : Nat} {readOn : Prop} {id : SessionId} {given : List Text}
    {r : Room} (h : (r.stay id).Kept capacity readOn id given) :
    (∀ waiting, r.bridge.mailbox? id = some waiting →
      given ++ waiting = r.accepted id ∧ waiting.length ≤ capacity) ∧
    (∃ later, r.accepted id = Wire.greeting id :: later) ∧
    (r.log.filter (·.guest? = some id) = (r.accepted id).map (.queued id) ++
      if (r.bridge.guest? id).isSome then [] else [.ended id]) ∧
    (readOn → (r.bridge.mailbox? id).isSome) := by
  rw [accepted_stay, ← mailbox?_stay]
  show _ ∧ _ ∧ ((r.stay id).log = _ ++ if (r.stay id).guest.isSome then _ else _) ∧ _
  generalize r.stay id = s at h ⊢
  cases h with
  | @here g later books reads =>
    rw [filterMap_queued]
    refine ⟨fun waiting hw => ?_, ⟨later, rfl⟩, by simp, fun hopen => ?_⟩
    · obtain ⟨hr, rfl⟩ : g.reading = true ∧ g.waiting = waiting := by
        simpa [Stay.mailbox?] using hw
      exact books hr
    · simp [Stay.mailbox?, reads hopen]
  | @gone left later books reads =>
    have hended : [Event.ended id].filterMap (Event.queuedFor? id) = [] := rfl
    rw [List.filterMap_append, filterMap_queued, hended, List.append_nil]
    exact ⟨books, ⟨later, rfl⟩, by simp, reads⟩

/-! ## Full mailboxes -/

/-- A guest has been put out: it is not there, its nickname is not reserved, that is the last thing
logged of it, and it can read what waited for it. -/
structure PutOut (g : Guest) (r r' : Room) : Prop where
  away : r'.bridge.guest? g.id = none
  released : ∀ name, g.nickname = some name → name ∉ r'.roster.reserved
  ended : r'.log.filter (·.guest? = some g.id) =
    r.log.filter (·.guest? = some g.id) ++ [.ended g.id]
  readable : r'.bridge.mailbox? g.id = some g.waiting

/-- A stay whose mailbox is full: nothing has come of it yet, or the guest has gone. -/
theorem full_steps {capacity : Nat} {asked : Prop} {id : SessionId} {s s' : Stay} {g : Guest}
    (hg : s.guest = some g) (hfull : g.receipt capacity = .full)
    (hsteps : Relation.ReflTransGen (Stay.Step capacity asked id) s s') :
    (∃ g', s'.guest = some g' ∧ g'.waiting = g.waiting ∧ g'.receipt capacity = .full ∧
      s'.log = s.log) ∨
    s'.guest = none ∧ s'.left = some g.waiting ∧ s'.log = s.log ++ [.ended id] := by
  induction hsteps with
  | refl => exact .inl ⟨g, hg, rfl, hfull, rfl⟩
  | tail _ hstep ih =>
    rcases ih with ⟨g', hg', hwaiting, hfull', hlog⟩ | ⟨hnone, -⟩
    · cases hstep with
      | takes frame taken =>
        cases hg'
        rw [hfull'] at taken
        cases taken
      | goes cause =>
        cases hg'
        have hreads : g'.reading = true := (Guest.receipt_eq_full.1 hfull').1
        exact .inr ⟨rfl, by simp [hreads, hwaiting], congrArg (· ++ [Event.ended id]) hlog⟩
      | named name unnamed =>
        cases hg'
        exact .inl ⟨_, rfl, hwaiting, hfull', hlog⟩
    · cases hstep <;> cases hnone

/-- A guest with a full mailbox who is not there any more has been put out. -/
theorem Hosts.putsOut {asked : SessionId → Prop} {r r' : Room} {g : Guest} (h : Hosts asked r r')
    (hg : r.bridge.guest? g.id = some g) (hfull : g.receipt r.bridge.capacity = .full)
    (away : r'.bridge.guest? g.id = none)
    (released : ∀ name, g.nickname = some name → name ∉ r'.roster.reserved) : PutOut g r r' := by
  rcases full_steps (s := r.stay g.id) hg hfull (h.stays g.id) with ⟨g', hg', -⟩ | ⟨-, hleft, hlog⟩
  · rw [show (r'.stay g.id).guest = none from away] at hg'
    cases hg'
  · refine ⟨away, released, hlog, ?_⟩
    rw [← mailbox?_stay, Stay.mailbox?, show (r'.stay g.id).guest = none from away]
    exact hleft

section Full

variable {r : Room} {g : Guest} (hg : r.bridge.guest? g.id = some g)
  (hfull : g.receipt r.bridge.capacity = .full)
include hg hfull

/-- A frame that finds the mailbox full puts the guest out. -/
theorem sendTo_putsOut (frame : Text) :
    (r.sendTo g.id frame).1 = false ∧ PutOut g r (r.sendTo g.id frame).2 := by
  have hsent : Hosts (fun _ => False) r (r.sendTo g.id frame).2 := sendTo_hosts r g.id frame
  rw [sendTo_full frame hg hfull, detach_found hg] at hsent ⊢
  refine ⟨rfl, hsent.putsOut hg hfull ?_ fun name hname => ?_⟩
  · simp only [Bridge.guest?_without, if_true]
  · simp [hname]

theorem deliver_putsOut {name : Text} (hname : r.bridge.named? name = some g) (frame : Text) :
    (r.deliver name frame).1 = false ∧ PutOut g r (r.deliver name frame).2 := by
  rw [deliver, hname]
  exact sendTo_putsOut hg hfull frame

/-- A line for a guest whose mailbox is full puts it out. -/
theorem forward_putsOut (hw : r.WF) {line : Text}
    (hlistens : g.ListensTo (Wire.displaySpeaker line)) : PutOut g r (r.forward line).2 := by
  have hall := List.Perm.refl r.bridge.guests
  have hmem := (hw.guest?_eq_some.1 hg).1
  have hstuck : g ∈ r.stuck line r.bridge.guests :=
    mem_stuck.2 ⟨hmem, hlistens, Guest.receipt_eq_full.1 hfull⟩
  have hroom : (r.forward line).2 =
      (r.heardBy line (r.takers line r.bridge.guests)).without (r.stuck line r.bridge.guests) := by
    rw [forward_eq_forwardIn hw.ids, forwardIn_eq hw.ids line hall]
  have hsent : Hosts (fun _ => False) r (r.forward line).2 := forward_hosts hw.ids line
  rw [hroom] at hsent ⊢
  refine hsent.putsOut hg hfull ?_ fun name hname hreserved => ?_
  · exact guest?_put_out (ids_heardBy hw.ids line _) (stuck_subset line hall hstuck) hstuck
  · simp only [without, List.mem_filter, decide_eq_true_eq] at hreserved
    exact hreserved.2 g hstuck hname

end Full

/-! ## Guests who do not read -/

/-- A stay whose guest is there with its nickname, does not read, and of which nothing more has been
logged. -/
def Deaf (nickname : Option Text) (log : List Event) (s : Stay) : Prop :=
  ∃ g, s.guest = some g ∧ g.reading = false ∧
    (∀ name, nickname = some name → g.nickname = some name) ∧ s.log = log

section Deaf

variable {nickname : Option Text} {log : List Event} {id : SessionId}

theorem Deaf.steps {capacity : Nat} {asked : Prop} (hasked : ¬ asked) {s s' : Stay}
    (hsteps : Relation.ReflTransGen (Stay.Step capacity asked id) s s')
    (h : Deaf nickname log s) : Deaf nickname log s' := by
  induction hsteps with
  | refl => exact h
  | tail _ hstep ih =>
    obtain ⟨g, hg, hdeaf, hname, hlog⟩ := ih
    cases hstep with
    | takes frame taken =>
      cases hg
      exact absurd (Guest.receipt_eq_taken.1 taken).1 (by simp [hdeaf])
    | goes cause =>
      cases hg
      rcases cause with hfull | hgoes
      · exact absurd (Guest.receipt_eq_full.1 hfull).1 (by simp [hdeaf])
      · exact absurd hgoes hasked
    | named name unnamed =>
      cases hg
      refine ⟨_, rfl, hdeaf, fun name' hname' => ?_, hlog⟩
      -- a guest who has a nickname gets no other
      rw [hname name' hname'] at unnamed
      cases unnamed

theorem deaf_step {r : Room} (hw : r.WF) {m : Move} (hm : m ≠ .detach id)
    (h : Deaf nickname log (r.stay id)) : Deaf nickname log ((r.step m).stay id) := by
  by_cases hbox : m.IsOfMailbox
  · obtain ⟨g, hg, hdeaf, hname, hlog⟩ := h
    cases hbox with
    | attach new =>
      have hsame : (r.step (.attach new)).stay id = r.stay id := by
        by_cases hid : id = new
        · subst hid
          rw [step, show r.bridge.guest? id = some g from hg, Option.isSome_some, if_pos rfl]
        · exact stay_attach_ne r new id hid
      rw [hsame]
      exact ⟨g, hg, hdeaf, hname, hlog⟩
    | readNext read =>
      rw [stay_readNext]
      split
      · rw [Stay.readNext, hg]
        exact ⟨_, rfl, hdeaf, hname, hlog⟩
      · exact ⟨g, hg, hdeaf, hname, hlog⟩
    | read read =>
      have hsame : (r.stay id).read = r.stay id := by simp [Stay.read, hg, hdeaf]
      rw [stay_read, hsame, ite_self]
      exact ⟨g, hg, hdeaf, hname, hlog⟩
    | stopReading read =>
      have hsame : (r.stay id).stopReading = r.stay id := by simp [Stay.stopReading, hg, hdeaf]
      rw [stay_stopReading, hsame, ite_self]
      exact ⟨g, hg, hdeaf, hname, hlog⟩
  · exact h.steps hm ((step_hosts hw hbox).stays id)

theorem deaf_run {moves : List Move} (hm : .detach id ∉ moves) : ∀ {r : Room}, r.WF →
    Deaf nickname log (r.stay id) → Deaf nickname log ((r.run moves).stay id) := by
  induction moves with
  | nil => exact fun _ h => h
  | cons m rest ih =>
    intro r hw h
    rw [List.mem_cons, not_or] at hm
    exact ih hm.2 (r := r.step m) (run_wf hw [m]) (deaf_step hw (Ne.symm hm.1) h)

end Deaf

/-! ## Whole runs -/

theorem vacant_wf (r : Room) (capacity : Nat) : (r.vacant capacity).WF :=
  ⟨Roster.empty_wf 0, List.nodup_nil⟩

theorem capacity_run {moves : List Move} : ∀ {r : Room}, r.WF →
    (r.run moves).bridge.capacity = r.bridge.capacity := by
  induction moves with
  | nil => exact fun _ => rfl
  | cons m rest ih =>
    exact fun hw => (ih (run_wf hw [m])).trans (capacity_step hw m)

/-- The guest that a move brings. -/
def Move.comer? : Move → Option SessionId
  | .attach id => some id
  | _ => none

theorem not_mem_of_comers {moves : List Move} {id : SessionId}
    (h : id ∉ moves.filterMap Move.comer?) : .attach id ∉ moves :=
  fun hm => h (List.mem_filterMap.2 ⟨_, hm, rfl⟩)

/-- The stay of every guest that has come, in a run in which none comes twice. -/
theorem run_kept (room : Room) (capacity : Nat) {moves : List Move}
    (hfresh : (moves.filterMap Move.comer?).Nodup) {id : SessionId} (hcomes : .attach id ∈ moves) :
    (((room.vacant capacity).run moves).stay id).Kept (max 1 capacity)
      (.stopReading id ∉ moves) id ((room.vacant capacity).yielded id moves) := by
  obtain ⟨before, after, rfl⟩ := List.append_of_mem hcomes
  rw [List.filterMap_append, List.filterMap_cons_some (f := Move.comer?) rfl] at hfresh
  obtain ⟨-, hafter, hapart⟩ := List.nodup_append.1 hfresh
  have hbeforeId : .attach id ∉ before := not_mem_of_comers fun hm =>
    hapart id hm id List.mem_cons_self rfl
  have hafterId : .attach id ∉ after := not_mem_of_comers (List.nodup_cons.1 hafter).1
  have hstart := vacant_wf room capacity
  obtain ⟨hunseen, hnothing⟩ := unseen_run hbeforeId hstart rfl
  have hw := run_wf hstart before
  have hcap : ((room.vacant capacity).run before).bridge.capacity = max 1 capacity :=
    capacity_run hstart
  have hnone : ((room.vacant capacity).run before).bridge.guest? id = none :=
    congrArg Stay.guest hunseen
  have hgreeted : (((room.vacant capacity).run before).step (.attach id)).stay id =
      ⟨some { id, waiting := [Wire.greeting id] }, none, [Wire.greeting id].map (.queued id)⟩ := by
    rw [stay_attach id id hnone, if_pos rfl, hunseen]
    rfl
  have hfirst : Stay.Kept (max 1 capacity) (.stopReading id ∉ before ++ .attach id :: after) id []
      ((((room.vacant capacity).run before).step (.attach id)).stay id) := by
    rw [hgreeted]
    exact .here (fun _ => ⟨rfl, Nat.le_max_left ..⟩) fun _ => rfl
  have hrest := kept_run hafterId (fun hopen hm => hopen (by simp [hm])) (run_wf hw [.attach id])
    ((capacity_step hw (.attach id)).trans hcap) hfirst
  rw [run_append, yielded_append, hnothing]
  exact hrest

/-- A frame for a guest is accepted exactly if that is said of it. -/
theorem accepted_sendTo (r : Room) (id : SessionId) (frame : Text) :
    (r.sendTo id frame).2.accepted id =
      r.accepted id ++ if (r.sendTo id frame).1 then [frame] else [] := by
  cases hg : r.bridge.guest? id with
  | none => simp [sendTo, hg]
  | some g =>
    cases hc : g.receipt r.bridge.capacity with
    | taken =>
      rw [sendTo_taken frame hg hc]
      simp [accepted, record, Event.queuedFor?]
    | full =>
      rw [sendTo_full frame hg hc, detach_found hg]
      simp [accepted, Event.queuedFor?]
    | gone => simp [sendTo_gone frame hg hc]

/-- For every guest that has come to a bridge, whatever has happened since, if no id comes twice:
what its reader has been given and what waits for it are together what was accepted for it, in
order, from its greeting on, and no more waits than the bridge allows, which is at least one frame;
that it is put out or goes is logged once, when it is not there any more, and after all else that is
logged of it; its mailbox stays readable unless its reader stops; a frame that is for it while its
mailbox is full puts it out; and once nobody reads its mailbox, nothing is accepted for it, while it
stays there with its nickname until it is detached. -/
theorem mailboxes_exact (room : Room) (capacity : Nat) {moves : List Move}
    (hfresh : (moves.filterMap Move.comer?).Nodup) {id : SessionId} (hcomes : .attach id ∈ moves) :
    let start := room.vacant capacity
    let r := start.run moves
    (∀ waiting, r.bridge.mailbox? id = some waiting →
      start.yielded id moves ++ waiting = r.accepted id ∧ waiting.length ≤ max 1 capacity) ∧
    (∃ later, r.accepted id = Wire.greeting id :: later) ∧
    (r.log.filter (·.guest? = some id) = (r.accepted id).map (.queued id) ++
      if (r.bridge.guest? id).isSome then [] else [.ended id]) ∧
    (.stopReading id ∉ moves → (r.bridge.mailbox? id).isSome) ∧
    (∀ frame, (r.sendTo id frame).2.accepted id =
      r.accepted id ++ if (r.sendTo id frame).1 then [frame] else []) ∧
    (∀ g, r.bridge.guest? id = some g → g.receipt r.bridge.capacity = .full →
      (∀ frame, (r.sendTo id frame).1 = false ∧ PutOut g r (r.sendTo id frame).2) ∧
      (∀ name frame, r.bridge.named? name = some g →
        (r.deliver name frame).1 = false ∧ PutOut g r (r.deliver name frame).2) ∧
      (∀ line, g.ListensTo (Wire.displaySpeaker line) → PutOut g r (r.forward line).2)) ∧
    (∀ g, r.bridge.guest? id = some g → g.reading = false → ∀ later, .detach id ∉ later →
      (r.run later).accepted id = r.accepted id ∧
      ∃ g', (r.run later).bridge.guest? id = some g' ∧ g'.reading = false ∧
        ∀ name, g.nickname = some name → g'.nickname = some name) := by
  intro start r
  have hw : r.WF := run_wf (vacant_wf room capacity) moves
  obtain ⟨hbooks, hgreeted, hlog, hreadable⟩ := books_of_kept (run_kept room capacity hfresh hcomes)
  refine ⟨hbooks, hgreeted, hlog, hreadable, accepted_sendTo r id, fun g hg hfull => ?_,
    fun g hg hdeaf later hstays => ?_⟩
  · obtain ⟨-, rfl⟩ := Bridge.guest?_some hg
    exact ⟨sendTo_putsOut hg hfull, fun name frame hname => deliver_putsOut hg hfull hname frame,
      fun line hlistens => forward_putsOut hg hfull hw hlistens⟩
  · have hnow : Deaf g.nickname (r.stay id).log (r.stay id) := ⟨g, hg, hdeaf, fun _ h => h, rfl⟩
    obtain ⟨g', hg', hdeaf', hname, hsame⟩ := deaf_run hstays hw hnow
    exact ⟨by rw [accepted_stay, accepted_stay, hsame], g', hg', hdeaf', hname⟩

/-- A guest reads its greeting, gets one line, is put out over the next, and reads what it has. -/
theorem mailbox_of_slow_guest :
    let moves : List Move := [.attach "7".toList, .readNext "7".toList, .forward "a: x".toList,
      .forward "a: y".toList, .readNext "7".toList]
    let start := vacant {} 0
    let r := start.run moves
    (moves.filterMap Move.comer?).Nodup ∧ .attach "7".toList ∈ moves ∧
    start.yielded "7".toList moves = r.accepted "7".toList ∧
    r.accepted "7".toList = [Wire.greeting "7".toList, "a: x".toList] ∧
    r.log = [.queued "7".toList (Wire.greeting "7".toList), .queued "7".toList "a: x".toList,
      .ended "7".toList] := by
  intro moves start r
  obtain ⟨hbooks, -⟩ := @mailboxes_exact {} 0 moves (by decide) "7".toList (by decide)
  have hempty : r.bridge.mailbox? "7".toList = some [] := by decide
  refine ⟨by decide, by decide, ?_, by decide, by decide⟩
  rw [← (hbooks [] hempty).1, List.append_nil]

end Room
end Parley
