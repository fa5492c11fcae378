/-
A feed that is stopped while everybody is at work. A publisher first looks whether the feed has been
stopped and then puts its line into the queue. Its worker goes about its work in pieces as well: it
looks whether the feed has been stopped, takes a line out, and copies the list of subscribers, and
the feed may be stopped between any two of these. From that moment on whoever begins to publish is
refused. A worker that was delivering a line hands over what is left of it and nothing else; but one
that had just looked goes on with the next line, which `taken_after_stop` shows, and then with no
other (`stop_leaves_one_line`). Lines that publishers who have looked before still put into the
queue are accepted, and lost but for that one.
-/
import Parley.Proofs.Feed.Delivery

namespace Parley.Feed

/-! ## Publishers and the worker -/

/-- What a publisher is told of its line. -/
inductive Answer where
  | accepted
  | refused
  deriving DecidableEq, Repr

/-- Where the worker is between two lines: it has yet to look whether the feed was stopped, it has
looked and found that it was not, or it has taken a line out and has yet to copy the list of
subscribers. -/
inductive Stand where
  | away
  | looked
  | holding (line : Text)
  deriving DecidableEq, Repr

/-- A feed with its publishers and its worker: the lines of those who have looked, found that the
feed was not stopped, and have yet to put their lines into the queue, and where the worker is. -/
structure Press where
  feed : Feed := {}
  looked : List Text := []
  stand : Stand := .away
  deriving DecidableEq, Repr

namespace Press

/-- Something that is tried at a press: a publisher begins with a line, one of those who have looked
puts its line in, a subscriber comes or goes, or the feed is stopped; the worker looks, takes a line
out, copies the list of subscribers, hands the line to the next of them, or is done with it. -/
inductive Move where
  | look (line : Text)
  | put (n : Nat)
  | subscribe
  | unsubscribe (s : SubscriberId)
  | stop
  | poll
  | take
  | copy
  | hand (reply : Reply)
  | finish
  deriving DecidableEq, Repr

/-- What comes of moves: what publishers are told, what is seen of the feed, and the press after
them. -/
structure Course where
  answers : List (Text × Answer) := []
  seen : List Sight := []
  press : Press
  deriving DecidableEq, Repr

/-- A line is accepted by a feed that goes on with it in the queue. -/
def answer (line : Text) (next : Option Feed) : Text × Answer :=
  (line, if next.isSome then .accepted else .refused)

/-- A move of the feed that is made in one piece. -/
def make (p : Press) (m : Feed.Move) : Course :=
  { seen := (p.feed.step m).1, press := { p with feed := (p.feed.step m).2 } }

/-- One move. A worker that finds the feed stopped ends, and one that finds the queue empty will
have to look again. -/
def step (p : Press) : Move → Course
  | .look line =>
    if p.feed.stopped then { answers := [(line, .refused)], press := p }
    else { press := { p with looked := p.looked ++ [line] } }
  | .put n =>
    match p.looked[n]? with
    | none => { press := p }
    | some line =>
      let next := p.feed.enqueue? line
      { answers := [answer line next]
        seen := if next.isSome then [.published line] else []
        press := { p with feed := next.getD p.feed, looked := p.looked.eraseIdx n } }
  | .subscribe => p.make .subscribe
  | .unsubscribe s => p.make (.unsubscribe s)
  | .stop => p.make .stop
  | .poll =>
    if p.stand = .away ∧ p.feed.delivery = none ∧ p.feed.ended = false then
      if p.feed.stopped then { press := { p with feed := { p.feed with ended := true } } }
      else { press := { p with stand := .looked } }
    else { press := p }
  | .take =>
    match p.stand, p.feed.queue with
    | .looked, [] => { press := { p with stand := .away } }
    | .looked, line :: rest =>
      { seen := [.dequeued line]
        press := { p with feed := { p.feed with queue := rest }, stand := .holding line } }
    | _, _ => { press := p }
  | .copy =>
    match p.stand with
    | .holding line =>
      let delivery := some ⟨line, p.feed.subscribers⟩
      { press := { p with feed := { p.feed with delivery }, stand := .away } }
    | _ => { press := p }
  | .hand reply => p.make (.hand reply)
  | .finish => p.make .finish

/-- Several moves, one after the other. -/
def run (p : Press) : List Move → Course
  | [] => { press := p }
  | m :: rest =>
    let first := p.step m
    let others := first.press.run rest
    { answers := first.answers ++ others.answers
      seen := first.seen ++ others.seen
      press := others.press }

/-- Publishing in one move is looking and putting the line in, with nothing in between. -/
theorem run_look_put (p : Press) (line : Text) :
    p.run [.look line, .put p.looked.length] =
      { p.make (.publish line) with answers := [answer line (p.feed.publish? line)] } := by
  obtain ⟨f, looked⟩ := p
  cases hs : f.stopped with
  | true =>
    have hrefused : f.publish? line = none := publish?_of_stopped hs line
    simp [run, step, make, hs, Feed.step, hrefused, answer]
  | false =>
    have hwhole : f.publish? line = f.enqueue? line := by simp [publish?, hs]
    have herase : (looked ++ [line]).eraseIdx looked.length = looked := by
      rw [List.eraseIdx_append_of_length_le (Nat.le_refl _), Nat.sub_self]
      exact List.append_nil looked
    cases hq : f.enqueue? line <;>
      simp [run, step, make, hs, Feed.step, hwhole, hq, answer, herase]

/-- Taking a line out in one move is looking, taking it out and copying the list, with nothing in
between. -/
theorem run_poll_take_copy {p : Press} (ha : p.stand = .away) (hf : p.feed.Going) :
    p.run [.poll, .take, .copy] = p.make .dequeue := by
  obtain ⟨f, looked, stand⟩ := p
  obtain rfl : stand = .away := ha
  obtain ⟨hs, he⟩ := hf
  cases hd : f.delivery <;> cases hq : f.queue <;>
    simp_all [run, step, make, Feed.step, dequeue?]

/-! ## What a move comes to -/

/-- All that a move can come to: what publishers are told, what is seen, and the press after it. -/
inductive Comes (p : Press) : Move → Course → Prop where
  | refused {line : Text} (stopped : p.feed.stopped = true) :
      Comes p (.look line) { answers := [(line, .refused)], press := p }
  | looked {line : Text} (running : p.feed.stopped = false) :
      Comes p (.look line) { press := { p with looked := p.looked ++ [line] } }
  | put {n : Nat} {line : Text} :
      Comes p (.put n)
        { answers := [(line, .accepted)]
          seen := [.published line]
          press :=
            { p with
              feed := { p.feed with queue := p.feed.queue ++ [line] }
              looked := p.looked.eraseIdx n } }
  | late {n : Nat} {line : Text} :
      Comes p (.put n)
        { answers := [(line, .refused)], press := { p with looked := p.looked.eraseIdx n } }
  | joined : Comes p .subscribe
      { seen := [.joined p.feed.nextId], press := { p with feed := p.feed.subscribe.2 } }
  | left {s : SubscriberId} : Comes p (.unsubscribe s)
      { seen := [.left s]
        press :=
          { p with feed := { p.feed with subscribers := p.feed.subscribers.filter (· ≠ s) } } }
  | stopped : Comes p .stop { press := { p with feed := p.feed.stop } }
  | ended (away : p.stand = .away) (idle : p.feed.delivery = none)
      (stopped : p.feed.stopped = true) :
      Comes p .poll { press := { p with feed := { p.feed with ended := true } } }
  | polled (away : p.stand = .away) (idle : p.feed.delivery = none)
      (running : p.feed.stopped = false) : Comes p .poll { press := { p with stand := .looked } }
  | waits (looked : p.stand = .looked) : Comes p .take { press := { p with stand := .away } }
  | taken {line : Text} {rest : List Text} (looked : p.stand = .looked)
      (queued : p.feed.queue = line :: rest) :
      Comes p .take
        { seen := [.dequeued line]
          press := { p with feed := { p.feed with queue := rest }, stand := .holding line } }
  | copied {line : Text} (holding : p.stand = .holding line) :
      Comes p .copy
        { press :=
            { p with
              feed := { p.feed with delivery := some ⟨line, p.feed.subscribers⟩ }
              stand := .away } }
  | handed {line : Text} {s : SubscriberId} {left : List SubscriberId} (reply : Reply)
      (delivering : p.feed.delivery = some ⟨line, s :: left⟩) :
      Comes p (.hand reply)
        { seen := [.handed s line], press := { p with feed := p.feed.handOn line s left reply } }
  | finished {line : Text} (delivered : p.feed.delivery = some ⟨line, []⟩) :
      Comes p .finish { press := { p with feed := { p.feed with delivery := none } } }
  | unable {m : Move} (stays : ∀ line, m = .copy → p.stand ≠ .holding line) :
      Comes p m { press := p }

theorem step_comes (p : Press) (m : Move) : Comes p m (p.step m) := by
  cases m with
  | look line =>
    simp only [step]
    split
    · exact .refused ‹_›
    · exact .looked (Bool.eq_false_iff.2 ‹_›)
  | put n =>
    simp only [step]
    cases p.looked[n]? with
    | none => exact .unable fun _ h => by cases h
    | some line =>
      simp only [enqueue?]
      split
      · exact .late
      · exact .put
  | subscribe => exact .joined
  | unsubscribe s =>
    simp only [step, make, Feed.step, unsubscribe?]
    split
    · rename_i h
      split at h
      · obtain rfl := Option.some.inj h
        exact .left
      · cases h
    · exact .unable fun _ h => by cases h
  | stop => exact .stopped
  | poll =>
    simp only [step]
    split
    · rename_i h
      split
      · exact .ended h.1 h.2.1 ‹_›
      · exact .polled h.1 h.2.1 (Bool.eq_false_iff.2 ‹_›)
    · exact .unable fun _ h => by cases h
  | take =>
    simp only [step]
    split
    · exact .waits ‹_›
    · exact .taken ‹_› ‹_›
    · exact .unable fun _ h => by cases h
  | copy =>
    simp only [step]
    split
    · exact .copied ‹_›
    · rename_i hstand
      exact .unable fun line _ h => hstand line h
  | hand reply =>
    simp only [step, make, Feed.step]
    cases h : p.feed.hand? reply with
    | none => exact .unable fun _ h => by cases h
    | some q =>
      obtain ⟨s, line, f'⟩ := q
      obtain ⟨left, delivering, rfl⟩ := hand?_some h
      exact .handed reply delivering
  | finish =>
    simp only [step, make, Feed.step, finish?]
    split
    · rename_i line delivered
      exact .finished delivered
    · exact .unable fun _ h => by cases h

theorem run_append (a b : List Move) : ∀ p : Press,
    p.run (a ++ b) =
      { answers := (p.run a).answers ++ ((p.run a).press.run b).answers
        seen := (p.run a).seen ++ ((p.run a).press.run b).seen
        press := ((p.run a).press.run b).press } := by
  induction a with
  | nil => exact fun _ => rfl
  | cons m rest ih =>
    intro p
    simp only [List.cons_append, run, ih, List.append_assoc]

end Press

/-! ## Lines that were accepted -/

/-- The lines that were accepted. -/
def accepted (answers : List (Text × Answer)) : List Text :=
  (answers.filter (·.2 = .accepted)).map (·.1)

@[simp] theorem accepted_append (a b : List (Text × Answer)) :
    accepted (a ++ b) = accepted a ++ accepted b := by
  rw [accepted, List.filter_append, List.map_append, accepted, accepted]

theorem mem_accepted {line : Text} {answers : List (Text × Answer)} :
    line ∈ accepted answers ↔ (line, .accepted) ∈ answers := by
  simp [accepted]

/-- What is handed over, and to whom. -/
def handed (seen : List Sight) : List (SubscriberId × Text) :=
  seen.filterMap fun
    | .handed s line => some (s, line)
    | _ => none

@[simp] theorem handed_append (a b : List Sight) : handed (a ++ b) = handed a ++ handed b :=
  List.filterMap_append ..

namespace Press

/-- The line that the worker has taken out and not yet begun to deliver. -/
def held (p : Press) : List Text :=
  match p.stand with
  | .holding line => [line]
  | _ => []

/-- The lines that wait, that the worker holds, or that are being delivered. -/
def atHand (p : Press) : List Text :=
  p.feed.queue ++ p.held ++ p.feed.delivery.toList.map (·.line)

section Accepted

variable {p : Press} {m : Move} {c : Course} {s : SubscriberId} {line : Text}

/-- A line comes to hand only when it is accepted. -/
theorem Comes.of_mem_atHand (h : Comes p m c) (hline : line ∈ c.press.atHand) :
    line ∈ p.atHand ∨ line ∈ accepted c.answers := by
  simp only [atHand, held, List.mem_append, List.mem_map, Option.mem_toList] at hline ⊢
  cases h with
  | put =>
    simp only [mem_accepted, List.mem_append, List.mem_singleton, Prod.mk.injEq] at hline ⊢
    grind
  | polled away | waits away | taken away | copied away =>
    simp only [away] at hline ⊢
    grind
  | handed reply delivering =>
    simp only [handOn, delivering] at hline ⊢
    grind
  | finished => grind
  | _ => exact .inl hline

/-- What is handed over was at hand. -/
theorem Comes.mem_atHand (h : Comes p m c) (hh : (s, line) ∈ Feed.handed c.seen) :
    line ∈ p.atHand := by
  cases h with
  | handed reply delivering =>
    obtain ⟨rfl, rfl⟩ := Prod.mk.inj (List.mem_singleton.1 hh)
    refine List.mem_append_right _ ?_
    rw [delivering]
    exact List.mem_singleton_self _
  | _ => cases hh

/-- Whatever is at hand after a run, or was handed over in it, was at hand before or accepted. -/
theorem run_atHand (moves : List Move) : ∀ {p : Press},
    (line ∈ (p.run moves).press.atHand ∨ (s, line) ∈ handed (p.run moves).seen) →
      line ∈ p.atHand ∨ line ∈ accepted (p.run moves).answers := by
  induction moves with
  | nil => exact fun h => h.imp_right fun h => absurd h (List.not_mem_nil)
  | cons m rest ih =>
    intro p h
    rw [run, accepted_append, List.mem_append, ← or_assoc]
    rw [run, handed_append, List.mem_append, or_left_comm] at h
    rcases h with h | h
    · exact .inl (.inl ((step_comes p m).mem_atHand h))
    · exact (ih h).imp_left (step_comes p m).of_mem_atHand

end Accepted

/-- Whatever has been handed over was accepted. -/
theorem accepted_of_handed (moves : List Move) {s : SubscriberId} {line : Text}
    (h : (s, line) ∈ handed (({} : Press).run moves).seen) :
    (line, .accepted) ∈ (({} : Press).run moves).answers :=
  mem_accepted.1 ((run_atHand moves (.inr h)).resolve_left (List.not_mem_nil))

end Press

/-! ## What is left of a delivery -/

/-- What is left to be handed over of the line that is being delivered, and to whom. -/
def remaining (f : Feed) : List (SubscriberId × Text) :=
  f.delivery.elim [] fun d => d.left.map fun s => (s, d.line)

theorem remaining_of_delivery {f : Feed} {line : Text} {left : List SubscriberId}
    (h : f.delivery = some ⟨line, left⟩) : f.remaining = left.map fun s => (s, line) := by
  rw [remaining, h]
  rfl

theorem remaining_of_idle {f : Feed} (h : f.delivery = none) : f.remaining = [] := by
  rw [remaining, h]
  rfl

/-- Nobody is left twice in a delivery. -/
def DeliversOnce (f : Feed) : Prop := ∀ d, f.delivery = some d → d.left.Nodup

theorem DeliversOnce.nodup_remaining {f : Feed} (h : f.DeliversOnce) : f.remaining.Nodup := by
  cases hd : f.delivery with
  | none =>
    rw [remaining_of_idle hd]
    exact List.nodup_nil
  | some d =>
    rw [remaining_of_delivery hd]
    exact (h d hd).map fun a b e => (Prod.mk.inj e).1

namespace Press

/-- The invariant of presses: those of their feeds, nobody is left twice in a delivery, and a worker
that has looked, or holds a line, is not delivering. -/
structure Sound (p : Press) : Prop where
  wf : p.feed.WF
  once : p.feed.DeliversOnce
  idle : p.stand ≠ .away → p.feed.delivery = none

theorem empty_sound : ({} : Press).Sound := ⟨empty_wf, nofun, fun _ => rfl⟩

section Step

variable {p : Press} {m : Move} {c : Course}

theorem Comes.sound (h : Comes p m c) (hp : p.Sound) : c.press.Sound := by
  obtain ⟨hw, honce, hidle⟩ := hp
  cases h with
  | put => exact ⟨⟨hw.once, hw.given, hw.waiting⟩, honce, hidle⟩
  | joined => exact ⟨joined_wf hw, honce, hidle⟩
  | left =>
    exact ⟨⟨hw.once.filter _, fun s h => hw.given s (List.mem_of_mem_filter h), hw.waiting⟩,
      honce, hidle⟩
  | polled away idle => exact ⟨hw, honce, fun _ => idle⟩
  | waits looked => exact ⟨hw, honce, fun h => absurd rfl h⟩
  | taken looked =>
    exact ⟨⟨hw.once, hw.given, hw.waiting⟩, honce, fun _ => hidle (by rw [looked]; nofun)⟩
  | copied holding =>
    refine ⟨⟨hw.once, hw.given, ?_⟩, ?_, fun h => absurd rfl h⟩
    · intro d e
      obtain rfl := Option.some.inj e
      exact hw.given
    · intro d e
      obtain rfl := Option.some.inj e
      exact hw.once
  | handed reply delivering =>
    have hstand : p.stand = .away := by
      by_contra h
      exact absurd (delivering.symm.trans (hidle h)) nofun
    refine ⟨(Feed.Comes.handed reply delivering).wf hw, ?_, fun h => absurd hstand h⟩
    intro d e
    obtain rfl := Option.some.inj e
    exact (List.nodup_cons.1 (honce _ delivering)).2
  | finished delivered => exact ⟨(Feed.Comes.finished delivered).wf hw, nofun, fun _ => rfl⟩
  | stopped | ended => exact ⟨⟨hw.once, hw.given, hw.waiting⟩, honce, hidle⟩
  | _ => exact ⟨hw, honce, hidle⟩

theorem run_sound (moves : List Move) : ∀ {p : Press}, p.Sound → (p.run moves).press.Sound := by
  induction moves with
  | nil => exact fun hp => hp
  | cons m rest ih => exact fun hp => ih ((step_comes _ m).sound hp)

/-! ## The moment of stopping -/

/-- Whoever begins to publish at a stopped feed is refused, and nothing changes. -/
theorem look_of_stopped (hs : p.feed.stopped = true) (line : Text) :
    p.step (.look line) = { answers := [(line, .refused)], press := p } := if_pos hs

/-- A feed that was stopped stays so. -/
theorem Comes.stays_stopped (h : Comes p m c) (hs : p.feed.stopped = true) :
    c.press.feed.stopped = true := by
  cases h with
  | stopped => rfl
  | _ => exact hs

theorem run_stays_stopped (moves : List Move) : ∀ {p : Press}, p.feed.stopped = true →
    (p.run moves).press.feed.stopped = true := by
  induction moves with
  | nil => exact fun hs => hs
  | cons m rest ih => exact fun hs => ih ((step_comes _ m).stays_stopped hs)

/-- A worker that has yet to look whether the feed was stopped, when it was, takes no line out any
more; what is handed over is the next of what was left. -/
theorem Comes.of_away (h : Comes p m c) (hs : p.feed.stopped = true) (ha : p.stand = .away) :
    c.press.stand = .away ∧ dequeued c.seen = [] ∧
      p.feed.remaining = Feed.handed c.seen ++ c.press.feed.remaining := by
  cases h with
  | looked running => exact ⟨ha, rfl, rfl⟩
  | polled away idle running => exact absurd (hs.symm.trans running) nofun
  | waits looked => exact absurd (ha.symm.trans looked) nofun
  | taken looked => exact absurd (ha.symm.trans looked) nofun
  | copied holding => exact absurd (ha.symm.trans holding) nofun
  | handed reply delivering =>
    refine ⟨ha, rfl, ?_⟩
    rw [remaining_of_delivery delivering]
    rfl
  | finished delivered =>
    refine ⟨ha, rfl, ?_⟩
    rw [remaining_of_delivery delivered]
    rfl
  | _ => exact ⟨ha, rfl, rfl⟩

theorem run_of_away (moves : List Move) : ∀ {p : Press}, p.feed.stopped = true →
    p.stand = .away →
      (p.run moves).press.stand = .away ∧ dequeued (p.run moves).seen = [] ∧
        p.feed.remaining = handed (p.run moves).seen ++ (p.run moves).press.feed.remaining := by
  induction moves with
  | nil => exact fun _ ha => ⟨ha, rfl, rfl⟩
  | cons m rest ih =>
    intro p hs ha
    have hm := step_comes p m
    obtain ⟨ha', hnone, hremaining⟩ := hm.of_away hs ha
    obtain ⟨ha'', hnone', hremaining'⟩ := ih (hm.stays_stopped hs) ha'
    refine ⟨ha'', ?_, ?_⟩
    · rw [run, dequeued_append, hnone, hnone']
      rfl
    · rw [hremaining, hremaining', run, handed_append, List.append_assoc]

/-- What has come of the line that the worker of a stopped feed may yet take out, or holds: it was
handed to nobody, and is held if it was taken out; or the list of subscribers was copied for it, and
what has been handed over, with what is yet to be, is that line, to each subscriber there was. -/
inductive LastLine (p : Press) (moves : List Move) : Prop where
  | kept (taken : p.held ++ dequeued (p.run moves).seen = (p.run moves).press.held)
      (nothing : handed (p.run moves).seen ++ (p.run moves).press.feed.remaining = [])
  | copied (line : Text) (first rest : List Move) (parts : moves = first ++ .copy :: rest)
      (holding : (p.run first).press.stand = .holding line)
      (taken : p.held ++ dequeued (p.run moves).seen = [line])
      (away : (p.run moves).press.stand = .away)
      (handed : handed (p.run moves).seen ++ (p.run moves).press.feed.remaining =
        (p.run first).press.feed.subscribers.map fun s => (s, line))

/-- Until a worker that is not away moves on, nothing is taken out or handed over. -/
theorem Comes.of_stand (h : Comes p m c) (hd : p.feed.delivery = none) (ha : p.stand ≠ .away) :
    (c.press.stand = p.stand ∧ c.press.feed.delivery = none ∧ dequeued c.seen = [] ∧
      Feed.handed c.seen = []) ∨
    (p.stand = .looked ∧ c = { press := { p with stand := .away } }) ∨
    (∃ line rest, p.stand = .looked ∧ p.feed.queue = line :: rest ∧ c =
      { seen := [.dequeued line]
        press := { p with feed := { p.feed with queue := rest }, stand := .holding line } }) ∨
    ∃ line, m = .copy ∧ p.stand = .holding line ∧ c =
      { press :=
          { p with
            feed := { p.feed with delivery := some ⟨line, p.feed.subscribers⟩ }
            stand := .away } } := by
  cases h with
  | ended away => exact absurd away ha
  | polled away => exact absurd away ha
  | waits looked => exact .inr (.inl ⟨looked, rfl⟩)
  | taken looked queued => exact .inr (.inr (.inl ⟨_, _, looked, queued, rfl⟩))
  | copied holding => exact .inr (.inr (.inr ⟨_, rfl, holding, rfl⟩))
  | handed reply delivering => exact absurd (hd.symm.trans delivering) nofun
  | finished delivered => exact absurd (hd.symm.trans delivered) nofun
  | _ => exact .inl ⟨rfl, hd, rfl, rfl⟩

/-- A move before the others that hands nothing over, and after which the worker holds what it takes
out. -/
theorem LastLine.cons {rest : List Move} (h : LastLine (p.step m).press rest)
    (hheld : (p.step m).press.held = p.held ++ dequeued (p.step m).seen)
    (hnobody : Feed.handed (p.step m).seen = []) : LastLine p (m :: rest) := by
  have hseen : (p.run (m :: rest)).seen = (p.step m).seen ++ ((p.step m).press.run rest).seen := rfl
  cases h with
  | kept taken nothing =>
    refine .kept ?_ ?_
    · rw [hseen, dequeued_append, ← List.append_assoc, ← hheld]
      exact taken
    · rw [hseen, handed_append, hnobody]
      exact nothing
  | copied line first rest parts holding taken away handed =>
    refine .copied line (m :: first) rest (by rw [parts]; rfl) holding ?_ away ?_
    · rw [hseen, dequeued_append, ← List.append_assoc, ← hheld]
      exact taken
    · rw [hseen, handed_append, hnobody]
      exact handed

/-- A worker of a stopped feed that is not away delivers one line at most, and takes it out only if
it does not hold it already. -/
theorem run_of_stand (moves : List Move) : ∀ {p : Press}, p.feed.stopped = true →
    p.feed.delivery = none → p.stand ≠ .away →
      LastLine p moves ∧
        (dequeued (p.run moves).seen).length ≤ if p.stand = .looked then 1 else 0 := by
  induction moves with
  | nil =>
    intro p hs hd ha
    exact ⟨.kept (List.append_nil _) (remaining_of_idle hd), Nat.zero_le _⟩
  | cons m rest ih =>
    intro p hs hd ha
    have hm := step_comes p m
    have hs' := hm.stays_stopped hs
    have hdequeued : dequeued (p.run (m :: rest)).seen =
        dequeued (p.step m).seen ++ dequeued ((p.step m).press.run rest).seen :=
      dequeued_append _ _
    rcases hm.of_stand hd ha with ⟨hstand, hd', hnone, hnobody⟩ | ⟨hlooked, hc⟩ |
      ⟨line, queue, hlooked, -, hc⟩ | ⟨line, rfl, hholding, hc⟩
    · -- the worker has not moved on
      obtain ⟨hlast, hlength⟩ := ih hs' hd' (hstand ▸ ha)
      rw [hdequeued, hnone, ← hstand]
      refine ⟨hlast.cons ?_ hnobody, hlength⟩
      rw [hnone, List.append_nil, held, hstand, held]
    · -- it found the queue empty, and will find the feed stopped
      have haway : (p.step m).press.stand = .away := by rw [hc]
      obtain ⟨ha'', hnone, hremaining⟩ := run_of_away rest hs' haway
      have hidle : (p.step m).press.feed.remaining = [] := by rw [hc]; exact remaining_of_idle hd
      rw [hdequeued, hnone, hc]
      refine ⟨LastLine.cons (.kept ?_ (hremaining.symm.trans hidle)) ?_ (by rw [hc]; rfl),
        Nat.zero_le _⟩
      · rw [hnone, held, haway, held, ha'']
        rfl
      · rw [hc, held, held, hlooked]
        rfl
    · -- it has taken a line out
      have hstand : (p.step m).press.stand = .holding line := by rw [hc]
      obtain ⟨hlast, hlength⟩ := ih hs' (by rw [hc]; exact hd) (by rw [hstand]; nofun)
      rw [hstand] at hlength
      have hone : dequeued (p.step m).seen = [line] := by rw [hc]; rfl
      rw [hdequeued, hone, if_pos hlooked]
      refine ⟨hlast.cons ?_ (by rw [hc]; rfl), Nat.succ_le_succ hlength⟩
      rw [hone, held, hstand, held, hlooked]
      rfl
    · -- it has copied the list of subscribers
      have haway : (p.step .copy).press.stand = .away := by rw [hc]
      obtain ⟨ha'', hnone, hremaining⟩ := run_of_away rest hs' haway
      have hseen : (p.run (.copy :: rest)).seen = ((p.step .copy).press.run rest).seen := by
        rw [run, hc]
        rfl
      rw [hseen, hnone]
      refine ⟨.copied line [] rest rfl hholding ?_ ha'' ?_, Nat.zero_le _⟩
      · rw [hseen, hnone, held, hholding]
        rfl
      · rw [hseen]
        refine hremaining.symm.trans ?_
        rw [hc]
        rfl

/-- The list that is copied for the last line has everybody once. -/
theorem LastLine.nodup {moves : List Move} (h : LastLine p moves) (hp : p.Sound) :
    (Feed.handed (p.run moves).seen ++ (p.run moves).press.feed.remaining).Nodup := by
  cases h with
  | kept taken nothing =>
    rw [nothing]
    exact List.nodup_nil
  | copied line first rest parts holding taken away handed =>
    rw [handed]
    exact (run_sound first hp).wf.once.map fun a b e => (Prod.mk.inj e).1

end Step

/-! ## The end of the worker -/

/-- What the worker of a stopped feed has yet to hand over, if no line is published and nobody comes
or goes any more. -/
def due (p : Press) : List (SubscriberId × Text) :=
  match p.stand, p.feed.queue with
  | .away, _ => p.feed.remaining
  | .looked, [] => []
  | .looked, line :: _ => p.feed.subscribers.map fun s => (s, line)
  | .holding line, _ => p.feed.subscribers.map fun s => (s, line)

/-- The moves that hand a line to some number of subscribers, after which the worker looks again. -/
def handMoves (reply : Reply) (n : Nat) : List Move :=
  .replicate n (.hand reply) ++ [.finish, .poll]

/-- The moves by which the worker of a stopped feed gets to its end. -/
def lastMoves (p : Press) (reply : Reply) : List Move :=
  match p.stand, p.feed.queue with
  | .away, _ => p.feed.delivery.elim [.poll] fun d => handMoves reply d.left.length
  | .looked, [] => [.take, .poll]
  | .looked, _ :: _ => .take :: .copy :: handMoves reply p.feed.subscribers.length
  | .holding _, _ => .copy :: handMoves reply p.feed.subscribers.length

/-- The worker has come to its end, and what was handed over is known. -/
structure Done (c : Course) (lines : List (SubscriberId × Text)) : Prop where
  handed : Feed.handed c.seen = lines
  ended : c.press.feed.ended = true
  idle : c.press.feed.delivery = none
  away : c.press.stand = .away

/-- A move before the others. -/
theorem Done.after {p : Press} {m : Move} {c : Course} {rest : List Move}
    {lines : List (SubscriberId × Text)} (hstep : p.step m = c)
    (h : Done (c.press.run rest) lines) :
    Done (p.run (m :: rest)) (Feed.handed c.seen ++ lines) := by
  subst hstep
  exact ⟨(handed_append _ _).trans (congrArg _ h.handed), h.ended, h.idle, h.away⟩

/-- A worker that looks at a stopped feed has come to its end. -/
theorem run_poll {p : Press} (hs : p.feed.stopped = true) (ha : p.stand = .away)
    (hd : p.feed.delivery = none) : Done (p.run [.poll]) [] := by
  obtain ⟨⟨queue, subscribers, nextId, delivery, stopped, ended, warnings⟩, looked, stand⟩ := p
  obtain rfl : stopped = true := hs
  obtain rfl : stand = .away := ha
  obtain rfl : delivery = none := hd
  cases ended <;> exact ⟨rfl, rfl, rfl, rfl⟩

theorem run_handMoves (reply : Reply) {line : Text} (left : List SubscriberId) : ∀ {p : Press},
    p.feed.stopped = true → p.stand = .away → p.feed.delivery = some ⟨line, left⟩ →
      Done (p.run (handMoves reply left.length)) (left.map fun s => (s, line)) := by
  induction left with
  | nil =>
    intro p hs ha hd
    have hstep : p.step .finish =
        { press := { p with feed := { p.feed with delivery := none } } } := by
      simp [step, make, Feed.step, finish?, hd]
    exact .after hstep (run_poll hs ha rfl)
  | cons s left ih =>
    intro p hs ha hd
    have hstep : p.step (.hand reply) =
        { seen := [.handed s line]
          press := { p with feed := p.feed.handOn line s left reply } } := by
      simp [step, make, Feed.step, hand?, hd]
    -- the first hand-over leaves a press with one subscriber less to go
    exact .after hstep (ih hs ha rfl)

theorem run_copy (reply : Reply) {p : Press} {line : Text} (hs : p.feed.stopped = true)
    (hh : p.stand = .holding line) :
    Done (p.run (.copy :: handMoves reply p.feed.subscribers.length))
      (p.feed.subscribers.map fun s => (s, line)) := by
  have hstep : p.step .copy =
      { press :=
          { p with
            feed := { p.feed with delivery := some ⟨line, p.feed.subscribers⟩ }
            stand := .away } } := by
    simp [step, hh]
  exact .after hstep (run_handMoves reply p.feed.subscribers hs rfl rfl)

/-- The worker of a stopped feed can go on to its end, and hands over what is due on the way. -/
theorem run_lastMoves {p : Press} (reply : Reply) (hp : p.Sound) (hs : p.feed.stopped = true) :
    Done (p.run (p.lastMoves reply)) p.due := by
  obtain ⟨f, looked, stand⟩ := p
  cases stand with
  | away =>
    cases hd : f.delivery with
    | none =>
      simp only [lastMoves, due, hd, remaining_of_idle hd]
      exact run_poll hs rfl hd
    | some d =>
      obtain ⟨line, left⟩ := d
      simp only [lastMoves, due, hd, remaining_of_delivery hd]
      exact run_handMoves reply left hs rfl hd
  | looked =>
    have hd : f.delivery = none := hp.idle nofun
    cases hq : f.queue with
    | nil =>
      have hstep : (⟨f, looked, .looked⟩ : Press).step .take = { press := ⟨f, looked, .away⟩ } := by
        simp [step, hq]
      simp only [lastMoves, due, hq]
      exact .after hstep (run_poll hs rfl hd)
    | cons line rest =>
      have hstep : (⟨f, looked, .looked⟩ : Press).step .take =
          { seen := [.dequeued line]
            press := ⟨{ f with queue := rest }, looked, .holding line⟩ } := by
        simp [step, hq]
      simp only [lastMoves, due, hq]
      exact .after hstep (run_copy reply hs rfl)
  | holding line => exact run_copy reply (p := ⟨f, looked, .holding line⟩) hs rfl

/-! ## Stopping -/

/-- The worker has looked when the feed is stopped, and nothing is being delivered. It takes the
next line out all the same, copies the list of subscribers, and hands the line over. -/
theorem taken_after_stop :
    let before : List Move := [.subscribe, .look "a".toList, .put 0, .poll]
    let after : List Move := [.take, .copy, .hand .taken]
    let begun := (({} : Press).run before).press
    let since := (begun.step .stop).press.run after
    begun.feed.remaining = [] ∧ dequeued since.seen = ["a".toList] ∧
      handed since.seen = [(1, "a".toList)] ∧
      ¬ (dequeued since.seen = [] ∧
        begun.feed.remaining = handed since.seen ++ since.press.feed.remaining) := by
  decide

/-- A feed is stopped at any moment of any run. At every moment after it the feed does not run, and
whoever begins to publish is refused, which changes nothing. If its worker had yet to look whether
it was stopped, no line has been taken out since, and what has been handed over, with what is yet to
be, is what was left of the line that was being delivered. If the worker had looked or held a line,
nothing was being delivered, and there is one line that may be, to each subscriber that the worker
finds when it copies the list; it is taken out after the feed was stopped only if it was not held.
Nobody is handed a line twice. The worker can go on from there to its end, whatever the replies,
when all that is due has been handed over. And whatever has been handed over at all was
accepted. -/
theorem stop_leaves_one_line (before after : List Move) :
    let earlier := ({} : Press).run before
    let begun := earlier.press
    let left := begun.feed.remaining
    let since := (begun.step .stop).press.run after
    let now := since.press
    now.feed.isRunning = false ∧
    (∀ line, now.step (.look line) = { answers := [(line, .refused)], press := now }) ∧
    (dequeued since.seen).length ≤ (if begun.stand = .looked then 1 else 0) ∧
    (begun.stand = .away → left = handed since.seen ++ now.feed.remaining) ∧
    (begun.stand ≠ .away → left = [] ∧ LastLine (begun.step .stop).press after) ∧
    (handed since.seen ++ now.feed.remaining).Nodup ∧
    (∀ reply, Done (now.run (now.lastMoves reply)) now.due) ∧
    ∀ s line, (s, line) ∈ handed (earlier.seen ++ since.seen) →
      (line, .accepted) ∈ earlier.answers ++ since.answers := by
  intro earlier begun left since now
  have hbegun : begun.Sound := run_sound before empty_sound
  have hthen : (begun.step .stop).press.Sound := (step_comes begun .stop).sound hbegun
  have hstop : (begun.step .stop).press.feed.stopped = true := rfl
  have hs : now.feed.stopped = true := run_stays_stopped after hstop
  refine ⟨?_, look_of_stopped hs, ?_, fun ha => ?_, fun ha => ⟨?_, ?_⟩, ?_,
    fun reply => run_lastMoves reply (run_sound after hthen) hs, fun s line h => ?_⟩
  · rw [isRunning, hs]
    rfl
  · by_cases ha : begun.stand = .away
    · rw [(run_of_away after hstop ha).2.1]
      exact Nat.zero_le _
    · exact (run_of_stand after hstop (hbegun.idle ha) ha).2
  · exact (run_of_away after hstop ha).2.2
  · exact remaining_of_idle (hbegun.idle ha)
  · exact (run_of_stand after hstop (hbegun.idle ha) ha).1
  · by_cases ha : begun.stand = .away
    · have hremaining : left = handed since.seen ++ now.feed.remaining :=
        (run_of_away after hstop ha).2.2
      rw [← hremaining]
      exact hbegun.once.nodup_remaining
    · exact (run_of_stand after hstop (hbegun.idle ha) ha).1.nodup hthen
  · have hrun : ({} : Press).run (before ++ .stop :: after) =
        { answers := earlier.answers ++ since.answers
          seen := earlier.seen ++ since.seen
          press := now } := run_append before (.stop :: after) {}
    have haccepted : (s, line) ∈ handed (({} : Press).run (before ++ .stop :: after)).seen →
        (line, .accepted) ∈ (({} : Press).run (before ++ .stop :: after)).answers :=
      accepted_of_handed (before ++ .stop :: after)
    rw [hrun] at haccepted
    exact haccepted h

/-- The feed is stopped when the first of two subscribers has been handed a line; another line
waits, and the publisher of a third has looked. The second subscriber is handed the first line, the
third line is accepted, and no other than the first is handed over. If the worker has looked
instead, and the publisher puts its line in before it goes on, that line is handed to both. -/
theorem stop_between_subscribers :
    let joined : List Move := [.subscribe, .subscribe, .look "a".toList]
    let between : List Move := joined ++ [.put 0, .look "b".toList, .put 0, .look "c".toList, .poll,
      .take, .copy, .hand .taken]
    let after : List Move := [.put 0, .hand .refused, .finish, .poll, .take]
    let looking : List Move := joined ++ [.poll]
    let late : List Move := [.put 0, .take, .copy, .hand .taken]
    let begun := (({} : Press).run between).press
    let since := (begun.step .stop).press.run after
    let begun' := (({} : Press).run looking).press
    let since' := (begun'.step .stop).press.run late
    (begun.stand = .away ∧ begun.feed.remaining = [(2, "a".toList)] ∧
      begun.feed.remaining = handed since.seen ++ since.press.feed.remaining ∧
      handed since.seen = [(2, "a".toList)] ∧ since.answers = [("c".toList, .accepted)] ∧
      since.press.feed.queue = ["b".toList, "c".toList] ∧ since.press.feed.isRunning = false) ∧
    begun'.stand ≠ .away ∧ begun'.feed.remaining = [] ∧
      handed since'.seen = [(1, "a".toList)] ∧
      LastLine (begun'.step .stop).press late ∧ since'.press.due = [(2, "a".toList)] ∧
      Done (since'.press.run (since'.press.lastMoves .broken)) since'.press.due ∧
      ("a".toList, .accepted) ∈ (({} : Press).run looking).answers ++ since'.answers := by
  intro joined between after looking late begun since begun' since'
  have haway : begun.stand = .away := by decide
  have hlooked : begun'.stand ≠ .away := by decide
  have hhanded : handed since'.seen = [(1, "a".toList)] := by decide
  obtain ⟨hquiet, -, -, hleft, -⟩ := stop_leaves_one_line between after
  obtain ⟨-, -, -, -, hlast, -, hdone, haccepted⟩ := stop_leaves_one_line looking late
  refine ⟨⟨haway, by decide, hleft haway, by decide, by decide, by decide, hquiet⟩, hlooked,
    (hlast hlooked).1, hhanded, (hlast hlooked).2, by decide, hdone .broken,
    haccepted 1 "a".toList (by decide)⟩

end Press
end Parley.Feed
