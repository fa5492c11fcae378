/-
What happens at a feed: lines are published, subscribers come and go, and the worker takes lines out
and hands them on, one move at a time and in any order. What is seen of a run is a list of its own,
so that what somebody was handed can be compared with what was taken out while it was subscribed.
All that a
move can come to is listed once (`Comes`); what each of these keeps, every run keeps (`run_flows`).
-/
import Mathlib.Data.List.Nodup
import Parley.Feed

namespace Parley.Feed

/-! ## Moves -/

/-- Something that is tried at a feed. What a subscriber replies comes with the move that hands it a
line. -/
inductive Move where
  | publish (line : Text)
  | subscribe
  | unsubscribe (s : SubscriberId)
  | dequeue
  | hand (reply : Reply)
  | finish
  | stop
  | exit
  deriving DecidableEq, Repr

/-- The line that a move publishes. -/
def Move.line? : Move → Option Text
  | .publish line => some line
  | _ => none

/-- What is seen of a feed from outside. -/
inductive Sight where
  | published (line : Text)
  | joined (s : SubscriberId)
  | left (s : SubscriberId)
  | dequeued (line : Text)
  | handed (s : SubscriberId) (line : Text)
  deriving DecidableEq, Repr

/-- One move: what is seen of it, and the feed after it. A move that cannot be made changes
nothing. -/
def step (f : Feed) : Move → List Sight × Feed
  | .publish line =>
    match f.publish? line with
    | some f' => ([.published line], f')
    | none => ([], f)
  | .subscribe => ([.joined f.subscribe.1], f.subscribe.2)
  | .unsubscribe s =>
    match f.unsubscribe? s with
    | some f' => ([.left s], f')
    | none => ([], f)
  | .dequeue =>
    match f.dequeue? with
    | some f' => (f'.delivery.toList.map fun d => .dequeued d.line, f')
    | none => ([], f)
  | .hand reply =>
    match f.hand? reply with
    | some (s, line, f') => ([.handed s line], f')
    | none => ([], f)
  | .finish => ([], f.finish?.getD f)
  | .stop => ([], f.stop)
  | .exit => ([], f.exit?.getD f)

/-- Several moves, one after the other: what is seen of all of them, and the feed in the end. -/
def run (f : Feed) : List Move → List Sight × Feed
  | [] => ([], f)
  | m :: rest =>
    let (seen, f) := f.step m
    let (more, f) := f.run rest
    (seen ++ more, f)

/-- What a move comes to: what is seen of it, and the feed after it. Whatever cannot be done is
refused; a line is refused only by a feed that was stopped or whose worker has ended. -/
inductive Comes (f : Feed) : Move → List Sight → Feed → Prop where
  | published (line : Text) (running : f.stopped = false) (working : f.ended = false) :
      Comes f (.publish line) [.published line] { f with queue := f.queue ++ [line] }
  | joined : Comes f .subscribe [.joined f.nextId] f.subscribe.2
  | left {s : SubscriberId} (there : s ∈ f.subscribers) : Comes f (.unsubscribe s) [.left s]
      { f with subscribers := f.subscribers.filter (· ≠ s) }
  | dequeued {line : Text} {rest : List Text} (running : f.stopped = false)
      (idle : f.delivery = none) (queued : f.queue = line :: rest) :
      Comes f .dequeue [.dequeued line]
        { f with queue := rest, delivery := some ⟨line, f.subscribers⟩ }
  | handed {line : Text} {s : SubscriberId} {left : List SubscriberId} (reply : Reply)
      (delivering : f.delivery = some ⟨line, s :: left⟩) :
      Comes f (.hand reply) [.handed s line] (f.handOn line s left reply)
  | finished {line : Text} (delivered : f.delivery = some ⟨line, []⟩) :
      Comes f .finish [] { f with delivery := none }
  | stopped : Comes f .stop [] f.stop
  | exited (stopped : f.stopped = true) : Comes f .exit [] { f with ended := true }
  | refused {m : Move} (unable : m.line?.isSome → f.stopped = true ∨ f.ended = true) :
      Comes f m [] f

theorem step_comes (f : Feed) (m : Move) : Comes f m (f.step m).1 (f.step m).2 := by
  cases m with
  | publish line =>
    cases hs : f.stopped with
    | true =>
      simp only [step, publish?_of_stopped hs]
      exact .refused fun _ => .inl hs
    | false =>
      cases he : f.ended with
      | true =>
        have hrefused : f.publish? line = none := by simp [publish?, enqueue?, he]
        simp only [step, hrefused]
        exact .refused fun _ => .inr he
      | false =>
        have haccepted : f.publish? line = some { f with queue := f.queue ++ [line] } := by
          simp [publish?, enqueue?, hs, he]
        simp only [step, haccepted]
        exact .published line hs he
  | subscribe => exact .joined
  | unsubscribe s =>
    simp only [step, unsubscribe?]
    by_cases hs : s ∈ f.subscribers
    · rw [if_pos (List.contains_iff_mem.2 hs)]
      exact .left hs
    · rw [if_neg fun h => hs (List.contains_iff_mem.1 h)]
      exact .refused fun h => by cases h
  | dequeue =>
    simp only [step]
    cases h : f.dequeue? with
    | none => exact .refused fun h => by cases h
    | some f' =>
      obtain ⟨line, rest, idle, running, queued, rfl⟩ := dequeue?_some h
      exact .dequeued running idle queued
  | hand reply =>
    simp only [step]
    cases h : f.hand? reply with
    | none => exact .refused fun h => by cases h
    | some p =>
      obtain ⟨s, line, f'⟩ := p
      obtain ⟨left, delivering, rfl⟩ := hand?_some h
      exact .handed reply delivering
  | finish =>
    simp only [step, finish?]
    split
    · rename_i line delivered
      exact .finished delivered
    · exact .refused fun h => by cases h
  | stop => exact .stopped
  | exit =>
    simp only [step, exit?]
    split
    · rename_i h
      simp only [Bool.and_eq_true] at h
      exact .exited h.1.1
    · exact .refused fun h => by cases h

/-! ## What is seen -/

/-- The lines that were published. -/
def published (seen : List Sight) : List Text :=
  seen.filterMap fun
    | .published line => some line
    | _ => none

/-- The lines that were taken out of the queue. -/
def dequeued (seen : List Sight) : List Text :=
  seen.filterMap fun
    | .dequeued line => some line
    | _ => none

/-- The lines that a subscriber was handed. -/
def handedTo (s : SubscriberId) (seen : List Sight) : List Text :=
  seen.filterMap fun
    | .handed t line => if t = s then some line else none
    | _ => none

/-- Whether somebody is subscribed after something was seen, from whether it was before. -/
def subscribedAfter (s : SubscriberId) (before : Bool) : Sight → Bool
  | .joined t => before || t = s
  | .left t => before && t ≠ s
  | _ => before

/-- The lines that were taken out of the queue while somebody was subscribed, from whether it was in
the beginning. -/
def owed (s : SubscriberId) : Bool → List Sight → List Text
  | _, [] => []
  | subscribed, .dequeued line :: rest =>
    if subscribed then line :: owed s subscribed rest else owed s subscribed rest
  | subscribed, e :: rest => owed s (subscribedAfter s subscribed e) rest

@[simp] theorem published_append (a b : List Sight) :
    published (a ++ b) = published a ++ published b := List.filterMap_append ..

@[simp] theorem dequeued_append (a b : List Sight) :
    dequeued (a ++ b) = dequeued a ++ dequeued b := List.filterMap_append ..

@[simp] theorem handedTo_append (s : SubscriberId) (a b : List Sight) :
    handedTo s (a ++ b) = handedTo s a ++ handedTo s b := List.filterMap_append ..

theorem owed_append (s : SubscriberId) (a b : List Sight) : ∀ subscribed : Bool,
    owed s subscribed (a ++ b) =
      owed s subscribed a ++ owed s (a.foldl (subscribedAfter s) subscribed) b := by
  induction a with
  | nil => exact fun _ => rfl
  | cons e rest ih =>
    intro subscribed
    cases e with
    | dequeued line =>
      cases subscribed with
      | true => exact congrArg (line :: ·) (ih true)
      | false => exact ih false
    | _ => exact ih _

/-- Whoever is subscribed all the time is owed every line that is taken out. -/
theorem owed_of_stays {s : SubscriberId} {seen : List Sight} (h : .left s ∉ seen) :
    owed s true seen = dequeued seen := by
  induction seen with
  | nil => rfl
  | cons e rest ih =>
    rw [List.mem_cons, not_or] at h
    have hrest := ih h.2
    cases e with
    | dequeued line => exact congrArg (line :: ·) hrest
    | left t =>
      have hne : t ≠ s := fun e => h.1 (congrArg Sight.left e.symm)
      have hstays : subscribedAfter s true (.left t) = true := by simpa [subscribedAfter] using hne
      show owed s (subscribedAfter s true (.left t)) rest = _
      rw [hstays]
      exact hrest
    | _ => exact hrest

/-! ## What a move does -/

/-- What somebody has yet to be handed of the line that is being delivered. -/
def inDelivery (f : Feed) (s : SubscriberId) : List Text :=
  f.delivery.elim [] fun d => .replicate (d.left.count s) d.line

/-- The invariant of feeds: nobody is subscribed twice, and whoever is subscribed or waits for a
line has a number that was given out. -/
structure WF (f : Feed) : Prop where
  once : f.subscribers.Nodup
  given : ∀ s ∈ f.subscribers, s < f.nextId
  waiting : ∀ d, f.delivery = some d → ∀ s ∈ d.left, s < f.nextId

theorem empty_wf : ({} : Feed).WF := ⟨List.nodup_nil, nofun, nofun⟩

/-- The way from one feed to another, by what is seen of it: lines leave the queue in the order in
which they came to it, of those that do everybody is handed, in that order, what it is owed, and
whoever joins gets a number of its own. -/
structure Flows (f : Feed) (seen : List Sight) (f' : Feed) : Prop where
  lines : f.queue ++ published seen = dequeued seen ++ f'.queue
  subscribed : ∀ s, decide (s ∈ f'.subscribers) =
    seen.foldl (subscribedAfter s) (decide (s ∈ f.subscribers))
  handed : ∀ s, f.inDelivery s ++ owed s (decide (s ∈ f.subscribers)) seen =
    handedTo s seen ++ f'.inDelivery s
  grows : f.nextId ≤ f'.nextId
  joined : ∀ s, .joined s ∈ seen → f.nextId ≤ s ∧ s < f'.nextId

namespace Flows

variable {f f' f'' : Feed} {seen more : List Sight}

/-- What leaves the queue, the subscribers, their numbers and the delivery as they are. -/
theorem nothing (queue : f'.queue = f.queue) (subscribers : f'.subscribers = f.subscribers)
    (inDelivery : ∀ s, f'.inDelivery s = f.inDelivery s) (nextId : f'.nextId = f.nextId) :
    Flows f [] f' := by
  refine ⟨?_, fun s => ?_, fun s => ?_, Nat.le_of_eq nextId.symm, nofun⟩
  · rw [queue]
    exact List.append_nil _
  · rw [subscribers]
    rfl
  · rw [inDelivery]
    exact List.append_nil _

theorem refl (f : Feed) : Flows f [] f := nothing rfl rfl (fun _ => rfl) rfl

theorem trans (h1 : Flows f seen f') (h2 : Flows f' more f'') : Flows f (seen ++ more) f'' := by
  refine ⟨?_, fun s => ?_, fun s => ?_, Nat.le_trans h1.grows h2.grows, fun s hs => ?_⟩
  · calc f.queue ++ published (seen ++ more)
        = dequeued seen ++ (f'.queue ++ published more) := by
          rw [published_append, ← List.append_assoc, h1.lines, List.append_assoc]
      _ = dequeued (seen ++ more) ++ f''.queue := by
          rw [h2.lines, dequeued_append, List.append_assoc]
  · rw [List.foldl_append, ← h1.subscribed, h2.subscribed]
  · calc f.inDelivery s ++ owed s (decide (s ∈ f.subscribers)) (seen ++ more)
        = handedTo s seen ++ (f'.inDelivery s ++ owed s (decide (s ∈ f'.subscribers)) more) := by
          rw [owed_append, ← h1.subscribed, ← List.append_assoc, h1.handed, List.append_assoc]
      _ = handedTo s (seen ++ more) ++ f''.inDelivery s := by
          rw [h2.handed, handedTo_append, List.append_assoc]
  · rcases List.mem_append.1 hs with hs | hs
    · exact ⟨(h1.joined s hs).1, Nat.lt_of_lt_of_le (h1.joined s hs).2 h2.grows⟩
    · exact ⟨Nat.le_trans h1.grows (h2.joined s hs).1, (h2.joined s hs).2⟩

end Flows

section Step

variable {f : Feed}

theorem joined_wf (hw : f.WF) : f.subscribe.2.WF := by
  have hnew : f.nextId ∉ f.subscribers := fun hm => Nat.lt_irrefl _ (hw.given _ hm)
  refine ⟨?_, fun s hs => ?_, fun d hd s hs => Nat.lt_succ_of_lt (hw.waiting d hd s hs)⟩
  · show (f.subscribers ++ [f.nextId]).Nodup
    rw [← List.concat_eq_append]
    exact hw.once.concat hnew
  · rcases List.mem_append.1 hs with hs | hs
    · exact Nat.lt_succ_of_lt (hw.given s hs)
    · exact List.mem_singleton.1 hs ▸ Nat.lt_succ_self _

/-- A line that is put into the queue, whether somebody will take it out or not. -/
theorem enqueued_flows (f : Feed) (line : Text) :
    Flows f [.published line] { f with queue := f.queue ++ [line] } :=
  ⟨rfl, fun _ => rfl, fun _ => List.append_nil _, Nat.le_refl _, by simp⟩

theorem joined_flows (f : Feed) : Flows f [.joined f.nextId] f.subscribe.2 := by
  refine ⟨List.append_nil _, fun s => ?_, fun s => List.append_nil _, Nat.le_succ _, fun s hs => ?_⟩
  · have hmem : s ∈ f.subscribers ++ [f.nextId] ↔ s ∈ f.subscribers ∨ f.nextId = s := by
      rw [List.mem_append, List.mem_singleton, eq_comm (a := s)]
    simp [subscribe, subscribedAfter, hmem]
  · obtain rfl := Sight.joined.inj (List.mem_singleton.1 hs)
    exact ⟨Nat.le_refl _, Nat.lt_succ_self _⟩

theorem left_flows (f : Feed) (t : SubscriberId) :
    Flows f [.left t] { f with subscribers := f.subscribers.filter (· ≠ t) } := by
  refine ⟨List.append_nil _, fun s => ?_, fun s => List.append_nil _, Nat.le_refl _, by simp⟩
  have hmem : s ∈ f.subscribers.filter (· ≠ t) ↔ s ∈ f.subscribers ∧ t ≠ s := by
    rw [List.mem_filter, decide_eq_true_iff, ne_comm]
  simp only [List.foldl_cons, List.foldl_nil, subscribedAfter, hmem, Bool.decide_and]

/-- Whoever is subscribed when a line is taken out has yet to be handed it, once, and nobody
else. -/
theorem dequeued_flows (hw : f.WF) {line : Text} {rest : List Text} (idle : f.delivery = none)
    (queued : f.queue = line :: rest) : Flows f [.dequeued line]
      { f with queue := rest, delivery := some ⟨line, f.subscribers⟩ } := by
  refine ⟨?_, fun s => rfl, fun s => ?_, Nat.le_refl _, by simp⟩
  · show f.queue ++ [] = line :: rest
    rw [queued, List.append_nil]
  · have hidle : f.inDelivery s = [] := by rw [inDelivery, idle]; rfl
    rw [hidle]
    by_cases hs : s ∈ f.subscribers
    · have hcount : f.subscribers.count s = 1 := List.count_eq_one_of_mem hw.once hs
      simp [hs, hcount, owed, inDelivery, handedTo]
    · have hcount : f.subscribers.count s = 0 := List.count_eq_zero_of_not_mem hs
      simp [hs, hcount, owed, inDelivery, handedTo]

theorem handed_flows {line : Text} {t : SubscriberId} {left : List SubscriberId} (reply : Reply)
    (delivering : f.delivery = some ⟨line, t :: left⟩) :
    Flows f [.handed t line] (f.handOn line t left reply) := by
  refine ⟨List.append_nil _, fun s => rfl, fun s => ?_, Nat.le_refl _, by simp⟩
  have hdelivering : f.inDelivery s = .replicate ((t :: left).count s) line := by
    rw [inDelivery, delivering]
    rfl
  by_cases hts : t = s
  · have hcount : (t :: left).count s = left.count s + 1 := by rw [hts, List.count_cons_self]
    rw [hdelivering, hcount]
    simp [hts, owed, inDelivery, handedTo, List.replicate_succ]
  · have hcount : (t :: left).count s = left.count s := List.count_cons_of_ne hts
    rw [hdelivering, hcount]
    simp [hts, owed, inDelivery, handedTo]

variable {f' : Feed} {m : Move} {seen : List Sight}

/-- Every move leaves a feed well formed. -/
theorem Comes.wf (h : Comes f m seen f') (hw : f.WF) : f'.WF := by
  cases h with
  | joined => exact joined_wf hw
  | left =>
    exact ⟨hw.once.filter _, fun s hs => hw.given s (List.mem_filter.1 hs).1, hw.waiting⟩
  | dequeued => exact ⟨hw.once, hw.given, fun d hd => Option.some.inj hd ▸ hw.given⟩
  | handed reply delivering =>
    refine ⟨hw.once, hw.given, fun d hd s hs => ?_⟩
    obtain rfl := Option.some.inj hd
    exact hw.waiting _ delivering s (List.mem_cons_of_mem _ hs)
  | finished => exact ⟨hw.once, hw.given, nofun⟩
  | _ => exact ⟨hw.once, hw.given, hw.waiting⟩

/-- Every move lets lines flow. -/
theorem Comes.flows (h : Comes f m seen f') (hw : f.WF) : Flows f seen f' := by
  cases h with
  | published line => exact enqueued_flows f line
  | joined => exact joined_flows f
  | left => exact left_flows f _
  | dequeued running idle queued => exact dequeued_flows hw idle queued
  | handed reply delivering => exact handed_flows reply delivering
  | finished delivered =>
    refine .nothing rfl rfl (fun s => ?_) rfl
    rw [inDelivery, inDelivery, delivered]
    rfl
  | stopped => exact .nothing rfl rfl (fun _ => rfl) rfl
  | exited => exact .nothing rfl rfl (fun _ => rfl) rfl
  | refused => exact .refl f

/-- What every move keeps, every run keeps. -/
theorem run_wf (moves : List Move) : ∀ {f : Feed}, f.WF → (f.run moves).2.WF := by
  induction moves with
  | nil => exact fun hw => hw
  | cons m rest ih => exact fun hw => ih ((step_comes _ m).wf hw)

theorem run_flows (moves : List Move) : ∀ {f : Feed}, f.WF →
    Flows f (f.run moves).1 (f.run moves).2 := by
  induction moves with
  | nil => exact fun _ => .refl _
  | cons m rest ih =>
    intro f hw
    have hm := step_comes f m
    exact (hm.flows hw).trans (ih (hm.wf hw))

end Step

/-! ## What is coming -/

/-- The lines on their way to a subscriber: what is left for it of the line that is being delivered,
then the lines that wait. -/
def coming (f : Feed) (b : SubscriberId) : List Text :=
  (f.delivery.elim [] fun d => .replicate (d.left.count b) d.line) ++
    f.queue.flatMap fun line => .replicate (f.subscribers.count b) line

section Coming

variable {f : Feed} {line : Text} (b : SubscriberId)

theorem coming_eq_nil (hd : f.delivery = none) (hq : f.queue = []) : f.coming b = [] := by
  rw [coming, hd, hq]
  rfl

theorem coming_dequeue {rest : List Text} (hd : f.delivery = none) (hq : f.queue = line :: rest) :
    coming { f with queue := rest, delivery := some ⟨line, f.subscribers⟩ } b = f.coming b := by
  simp [coming, hd, hq]

theorem coming_finish (hd : f.delivery = some ⟨line, []⟩) :
    coming { f with delivery := none } b = f.coming b := by
  simp [coming, hd]

/-- Once a line was handed to somebody, it is no longer on its way there. -/
theorem coming_hand {s : SubscriberId} {left : List SubscriberId}
    (hd : f.delivery = some ⟨line, s :: left⟩) :
    f.coming b =
      (if s = b then [line] else []) ++ coming { f with delivery := some ⟨line, left⟩ } b := by
  by_cases hsb : s = b
  · simp [coming, hd, hsb, List.replicate_succ]
  · simp [coming, hd, hsb]

/-- Whoever is subscribed has every line that waits on its way to it, once. -/
theorem coming_eq (hw : f.WF) :
    f.coming b = f.inDelivery b ++ if b ∈ f.subscribers then f.queue else [] := by
  refine congrArg (f.inDelivery b ++ ·) ?_
  by_cases hb : b ∈ f.subscribers
  · rw [if_pos hb, List.count_eq_one_of_mem hw.once hb]
    exact List.flatMap_singleton' _
  · rw [if_neg hb, List.count_eq_zero_of_not_mem hb]
    exact List.flatMap_eq_nil_iff.2 fun _ _ => rfl

theorem work_dequeue {rest : List Text} (hd : f.delivery = none) (hq : f.queue = line :: rest) :
    work { f with queue := rest, delivery := some ⟨line, f.subscribers⟩ } < f.work := by
  simp only [work, hd, hq, List.length_cons, Nat.succ_mul]
  omega

theorem work_finish (hd : f.delivery = some ⟨line, []⟩) :
    work { f with delivery := none } < f.work := by
  simp [work, hd]

theorem work_hand {s : SubscriberId} {left : List SubscriberId}
    (hd : f.delivery = some ⟨line, s :: left⟩) :
    work { f with delivery := some ⟨line, left⟩ } < f.work := by
  simp [work, hd]

end Coming

end Parley.Feed
