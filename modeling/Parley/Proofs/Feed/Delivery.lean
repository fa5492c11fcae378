/-
Delivery in order, to everybody, once. Whatever the producers, the subscribers and the worker of a
feed do and in which order, a subscriber is handed the lines that were taken out of the queue while
it was subscribed, and lines are taken out in the order in which they were published
(`handed_in_order`). As long as nobody stops the feed, no line is refused and none stays behind:
from wherever it is, the worker can go on until everything was handed over, whatever it gets for
replies.
-/
import Parley.Proofs.Feed.Runs

namespace Parley.Feed

/-! ## Lines that are refused -/

/-- A feed that nobody has stopped, and whose worker goes on. -/
structure Going (f : Feed) : Prop where
  running : f.stopped = false
  working : f.ended = false

/-- A feed that nobody stops publishes every line. -/
theorem Comes.going {f f' : Feed} {m : Move} {seen : List Sight} (h : Comes f m seen f')
    (hf : f.Going) (hm : m ≠ .stop) : f'.Going ∧ Feed.published seen = m.line?.toList := by
  cases h with
  | stopped => exact absurd rfl hm
  | exited stopped => exact absurd (hf.running.symm.trans stopped) nofun
  | refused unable =>
    refine ⟨hf, ?_⟩
    cases hline : m.line? with
    | none => rfl
    | some line =>
      rcases unable (by rw [hline]; rfl) with hs | he
      · exact absurd (hf.running.symm.trans hs) nofun
      · exact absurd (hf.working.symm.trans he) nofun
  | _ => exact ⟨⟨hf.running, hf.working⟩, rfl⟩

theorem run_going {moves : List Move} (hm : .stop ∉ moves) : ∀ {f : Feed}, f.Going →
    (f.run moves).2.Going ∧ published (f.run moves).1 = moves.filterMap Move.line? := by
  induction moves with
  | nil => exact fun hf => ⟨hf, rfl⟩
  | cons m rest ih =>
    intro f hf
    rw [List.mem_cons, not_or] at hm
    obtain ⟨hf', hline⟩ := (step_comes f m).going hf (Ne.symm hm.1)
    obtain ⟨hf'', hlines⟩ := ih hm.2 hf'
    refine ⟨hf'', ?_⟩
    rw [run, published_append, hline, hlines, List.filterMap_cons]
    cases m.line? <;> rfl

/-! ## Replies -/

/-- The move, but for what a subscriber replies. -/
def Move.mute : Move → Move
  | .hand _ => .hand .taken
  | m => m

/-- The feed, but for what has been warned of. -/
def muted (f : Feed) : Feed := { f with warnings := [] }

/-- What is warned of when those who are seen to be handed a line reply to it. -/
def warned (reply : Reply) (seen : List Sight) : List (SubscriberId × Text) :=
  seen.flatMap fun
    | .handed s _ => reply.warning?.toList.map (s, ·)
    | _ => []

/-- A reply to a line is warned of, once, if the line was not taken. -/
theorem warnings_hand (f : Feed) (reply : Reply) :
    (f.step (.hand reply)).2.warnings = f.warnings ++ warned reply (f.step (.hand reply)).1 := by
  simp only [step]
  cases h : f.hand? reply with
  | none => exact (List.append_nil _).symm
  | some p =>
    obtain ⟨s, line, f'⟩ := p
    obtain ⟨left, -, rfl⟩ := hand?_some h
    simp [warned, handOn]

/-- Neither what is replied nor what has been warned of makes a difference to anything else. -/
theorem step_mute (f : Feed) (m : Move) :
    f.muted.step m.mute = ((f.step m).1, (f.step m).2.muted) := by
  obtain ⟨queue, subscribers, nextId, delivery, stopped, ended, warnings⟩ := f
  cases m with
  | publish line => cases stopped <;> cases ended <;> rfl
  | subscribe => rfl
  | unsubscribe s =>
    by_cases hs : s ∈ subscribers <;> simp [step, unsubscribe?, Move.mute, muted, hs]
  | dequeue => cases delivery <;> cases stopped <;> cases queue <;> rfl
  | hand reply =>
    cases delivery with
    | none => rfl
    | some d =>
      obtain ⟨line, left⟩ := d
      cases left <;> rfl
  | finish =>
    cases delivery with
    | none => rfl
    | some d =>
      obtain ⟨line, left⟩ := d
      cases left <;> rfl
  | stop => rfl
  | exit => cases stopped <;> cases delivery <;> cases ended <;> rfl

theorem run_mute (moves : List Move) : ∀ f : Feed,
    f.muted.run (moves.map Move.mute) = ((f.run moves).1, (f.run moves).2.muted) := by
  induction moves with
  | nil => exact fun f => rfl
  | cons m rest ih =>
    intro f
    simp only [List.map_cons, run, step_mute, ih]

/-! ## To the end of the work -/

/-- The moves of the worker of a running feed that gets the same reply to every line. -/
def workerMoves (reply : Reply) : List Move := [.dequeue, .hand reply, .finish]

/-- The worker of a running feed can move unless there is nothing left to do. A move of it takes
some work away, and hands over what was on its way or nothing. -/
theorem exists_work {f : Feed} (reply : Reply) (hs : f.stopped = false) :
    (f.queue = [] ∧ f.delivery = none) ∨
      ∃ m ∈ workerMoves reply, (f.step m).2.work < f.work ∧ (f.step m).2.stopped = false ∧
        ∀ s, f.coming s = handedTo s (f.step m).1 ++ (f.step m).2.coming s := by
  cases hd : f.delivery with
  | none =>
    cases hq : f.queue with
    | nil => exact .inl ⟨rfl, rfl⟩
    | cons line rest =>
      have hstep : f.step .dequeue = ([.dequeued line],
          { f with queue := rest, delivery := some ⟨line, f.subscribers⟩ }) := by
        simp [step, dequeue?, hd, hs, hq]
      refine .inr ⟨.dequeue, by simp [workerMoves], ?_⟩
      rw [hstep]
      exact ⟨work_dequeue hd hq, hs, fun s => (coming_dequeue s hd hq).symm⟩
  | some d =>
    obtain ⟨line, left⟩ := d
    cases left with
    | nil =>
      have hstep : f.step .finish = ([], { f with delivery := none }) := by
        simp [step, finish?, hd]
      refine .inr ⟨.finish, by simp [workerMoves], ?_⟩
      rw [hstep]
      exact ⟨work_finish hd, hs, fun s => (coming_finish s hd).symm⟩
    | cons t left =>
      have hstep : f.step (.hand reply) = ([.handed t line], f.handOn line t left reply) := by
        simp [step, hand?, hd]
      refine .inr ⟨.hand reply, by simp [workerMoves], ?_⟩
      rw [hstep]
      refine ⟨work_hand hd, hs, fun s => ?_⟩
      have hcoming : (f.handOn line t left reply).coming s =
          coming { f with delivery := some ⟨line, left⟩ } s := rfl
      rw [coming_hand s hd, hcoming]
      by_cases hts : t = s <;> simp [handedTo, hts]

theorem exists_drain (reply : Reply) {n : Nat} : ∀ {f : Feed}, f.work < n → f.stopped = false →
    ∃ moves : List Move, (∀ m ∈ moves, m ∈ workerMoves reply) ∧
      (f.run moves).2.queue = [] ∧ (f.run moves).2.delivery = none ∧
      ∀ s, handedTo s (f.run moves).1 = f.coming s := by
  -- the induction is on a bound of the work that is left, which every move of the worker lowers
  induction n with
  | zero => exact fun h => absurd h (Nat.not_lt_zero _)
  | succ n ih =>
    intro f hn hs
    rcases exists_work reply hs with ⟨hq, hd⟩ | ⟨m, hm, hwork, hs', hcoming⟩
    · exact ⟨[], nofun, hq, hd, fun s => (coming_eq_nil s hd hq).symm⟩
    · have hless : (f.step m).2.work < n := Nat.lt_of_lt_of_le hwork (Nat.le_of_lt_succ hn)
      obtain ⟨moves, hmoves, hq, hd, hhanded⟩ := ih hless hs'
      refine ⟨m :: moves, List.forall_mem_cons.2 ⟨hm, hmoves⟩, hq, hd, fun s => ?_⟩
      rw [run, handedTo_append, hhanded, hcoming]

/-! ## Delivery -/

/-- Whoever never joined is owed nothing. -/
theorem owed_of_never_joined {s : SubscriberId} {seen : List Sight} (h : .joined s ∉ seen) :
    owed s false seen = [] := by
  induction seen with
  | nil => rfl
  | cons e rest ih =>
    rw [List.mem_cons, not_or] at h
    have hrest := ih h.2
    cases e with
    | joined t =>
      have hne : t ≠ s := fun e => h.1 (congrArg Sight.joined e.symm)
      have hout : subscribedAfter s false (.joined t) = false := by
        simpa [subscribedAfter] using hne
      show owed s (subscribedAfter s false (.joined t)) rest = _
      rw [hout]
      exact hrest
    | _ => exact hrest

/-- Nobody has been handed a line, or waits for one, under a number that is yet to be given out. -/
theorem handed_newcomer (moves : List Move) :
    let f := (({} : Feed).run moves).2
    handedTo f.nextId (({} : Feed).run moves).1 = [] ∧ f.inDelivery f.nextId = [] := by
  intro f
  have hflows := run_flows moves empty_wf
  have hnew : .joined f.nextId ∉ (({} : Feed).run moves).1 :=
    fun h => Nat.lt_irrefl _ (hflows.joined _ h).2
  have hnone : [] = handedTo f.nextId (({} : Feed).run moves).1 ++ f.inDelivery f.nextId :=
    (owed_of_never_joined hnew).symm.trans (hflows.handed f.nextId)
  exact List.append_eq_nil_iff.1 hnone.symm

/-- What is handed over in a run of a feed from its beginning. Lines are taken out in the order in
which they were published, and everybody is handed, each once and in that order, those that were
taken out while it was subscribed; but the last of them may yet be on its way. A subscriber that
comes late is handed nothing that was taken out before, then the lines that waited and those that
are published afterwards. While nobody stops the feed it publishes every line that it is given, and
its worker, whatever the replies, has a way to hand over all that waits. Of a reply nothing comes
but a warning, and that only if the line was not taken: a run with other replies is the same run,
but for what is warned of. -/
theorem handed_in_order (moves : List Move) :
    let seen := (({} : Feed).run moves).1
    let f := (({} : Feed).run moves).2
    published seen = dequeued seen ++ f.queue ∧
    (∀ s, (s ∈ f.subscribers ↔ seen.foldl (subscribedAfter s) false = true) ∧
      owed s false seen = handedTo s seen ++ f.inDelivery s) ∧
    (∀ more,
      let later := (f.subscribe.2.run more).1
      let f' := (f.subscribe.2.run more).2
      handedTo f.nextId seen = [] ∧
      f.queue ++ published later = dequeued later ++ f'.queue ∧
      (.left f.nextId ∉ later →
        dequeued later = handedTo f.nextId later ++ f'.inDelivery f.nextId)) ∧
    (.stop ∉ moves →
      published seen = moves.filterMap Move.line? ∧
      ∀ reply, ∃ work : List Move, (∀ m ∈ work, m ∈ workerMoves reply) ∧
        (f.run work).2.queue = [] ∧ (f.run work).2.delivery = none ∧
        ∀ s, handedTo s (f.run work).1 =
          f.inDelivery s ++ if s ∈ f.subscribers then f.queue else []) ∧
    (∀ reply, (f.step (.hand reply)).2.warnings =
      f.warnings ++ warned reply (f.step (.hand reply)).1) ∧
    ∀ others, others.map Move.mute = moves.map Move.mute →
      (({} : Feed).run others).1 = seen ∧ (({} : Feed).run others).2.muted = f.muted := by
  intro seen f
  have hflows : Flows {} seen f := run_flows moves empty_wf
  have hw : f.WF := run_wf moves empty_wf
  refine ⟨hflows.lines, fun s => ⟨?_, hflows.handed s⟩, fun more => ?_, fun hm => ?_,
    warnings_hand f, fun others hothers => ?_⟩
  · have hin : decide (s ∈ f.subscribers) = seen.foldl (subscribedAfter s) false :=
      hflows.subscribed s
    rw [← hin, decide_eq_true_iff]
  · obtain ⟨hnothing, hunseen⟩ := handed_newcomer moves
    have hlater := run_flows more (joined_wf hw)
    refine ⟨hnothing, hlater.lines, fun hstays => ?_⟩
    have hin : decide (f.nextId ∈ f.subscribe.2.subscribers) = true :=
      decide_eq_true (List.mem_append_right _ (List.mem_singleton_self _))
    have hhanded := hlater.handed f.nextId
    rw [hin, owed_of_stays hstays] at hhanded
    have hunseen' : f.subscribe.2.inDelivery f.nextId = [] := hunseen
    rwa [hunseen', List.nil_append] at hhanded
  · obtain ⟨hgoing, hpublished⟩ := run_going hm (f := {}) ⟨rfl, rfl⟩
    refine ⟨hpublished, fun reply => ?_⟩
    obtain ⟨work, hwork, hq, hd, hhanded⟩ :=
      exists_drain reply (Nat.lt_succ_self f.work) hgoing.running
    exact ⟨work, hwork, hq, hd, fun s => (hhanded s).trans (coming_eq s hw)⟩
  · have hsame := run_mute others {}
    rw [hothers, run_mute] at hsame
    exact ⟨(congrArg Prod.fst hsame).symm, (congrArg Prod.snd hsame).symm⟩

/-- The third subscriber comes while the first line is being delivered, and gets the second; that
the first breaks down over its line makes no difference. -/
theorem handed_to_late_subscriber :
    let moves : List Move := [.subscribe, .subscribe, .publish "a".toList, .publish "b".toList,
      .dequeue, .hand .broken]
    let quiet : List Move := [.subscribe, .subscribe, .publish "a".toList, .publish "b".toList,
      .dequeue, .hand .taken]
    let more : List Move := [.hand .refused, .finish, .dequeue, .hand .broken, .hand .taken,
      .hand .taken]
    let f := (({} : Feed).run moves).2
    let later := (f.subscribe.2.run more).1
    .stop ∉ moves ∧ quiet.map Move.mute = moves.map Move.mute ∧ .left 3 ∉ later ∧
      f.inDelivery 2 = ["a".toList] ∧ handedTo 3 later = ["b".toList] ∧
      dequeued later = handedTo 3 later ++ (f.subscribe.2.run more).2.inDelivery 3 ∧
      published (({} : Feed).run moves).1 = ["a".toList, "b".toList] ∧
      f.warnings = [(1, "Subscriber panicked while taking line".toList)] ∧
      (({} : Feed).run quiet).1 = (({} : Feed).run moves).1 ∧
      (({} : Feed).run quiet).2.muted = f.muted := by
  intro moves quiet more f later
  obtain ⟨-, -, hlate, hgoing, -, hreplies⟩ := handed_in_order moves
  have hm : .stop ∉ moves := by decide
  have hquiet : quiet.map Move.mute = moves.map Move.mute := by decide
  have hstays : .left 3 ∉ later := by decide
  exact ⟨hm, hquiet, hstays, by decide, by decide, (hlate more).2.2 hstays, (hgoing hm).1,
    by decide, hreplies quiet hquiet⟩

end Parley.Feed
