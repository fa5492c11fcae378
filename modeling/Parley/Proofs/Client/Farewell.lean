/-
Who takes leave. When several activities close a client at once, the first of them to get the write
half decides: with a farewell it takes leave, and without one nobody does. Whoever comes later finds
the write half shut, loses its farewell and is done all the same (`leave_taken_iff`).

A call that disconnects cancels the client before it waits for the write half, and reading ends as
soon as the client is cancelled and closes it without a farewell. So both are on their way to the
write half, and the call can be second (`left_in_silence`).
-/
import Parley.Proofs.Client.WriteOrder
import Parley.Proofs.Wire.Passage

namespace Parley

open Wire (Message)

namespace Client

/-! ## The first at the write half -/

/-- Whether somebody who closes a client, with some farewell or none, has the write half before it
was shut. -/
def ClosesFirst (c : Client) (farewell : Option Text) : Prop :=
  c.shut = false ∧ ∃ i : Nat, c.activities[i]? = some (.closing farewell .farewell)

section Turns

variable {c c' : Client} {i j : Nat} {a b x : Activity}

theorem ClosesFirst.parts {farewell : Option Text} (ho : c.Orderly) (h : c.ClosesFirst farewell) :
    c.Parts farewell ∧ ¬ c.HasLeft := by
  obtain ⟨notShut, i, hi⟩ := h
  obtain ⟨hparts, -, -, hnot⟩ := ho.fits i _ hi
  exact ⟨hparts, hnot notShut⟩

/-- Whoever holds the write half is where it was after the turn of another, and so is the write
half. -/
theorem Turn.beside (h : Turn c i a b c') (ho : c.Orderly) (found : c.activities[i]? = some a)
    (hj : c.activities[j]? = some x) (hheld : c.holder = some j) (hne : j ≠ i) :
    (c'.become i b).activities[j]? = some x ∧ c'.sent = c.sent ∧ c'.shut = c.shut := by
  obtain ⟨-, hsent, hshut⟩ := h.held (ho.fits i a found) hne hheld
  refine ⟨?_, hsent, hshut⟩
  rw [getElem?_become_of_ne hne, h.activities, hj]

/-! ## Before the write half is shut, somebody is first -/

theorem Turn.isShutting (h : Turn c i a b c') (found : c.activities[i]? = some a)
    (hceased : c'.shut = true ∨ (c'.become i b).IsShutting) :
    (c.shut = true ∨ c.IsShutting) ∨ ∃ farewell, c.ClosesFirst farewell := by
  rcases hceased with hshut | ⟨j, farewell, hj⟩
  · cases h with
    | shuts => exact .inl (.inr ⟨i, _, found⟩)
    | _ => exact .inl (.inl hshut)
  · rcases getElem?_become hj with ⟨-, rfl⟩ | ⟨-, hj⟩
    · cases hshut : c.shut with
      | true => exact .inl (.inl rfl)
      | false =>
        generalize hb : Activity.closing farewell .shut = b at h
        cases h with
        | parted | silent => exact .inr ⟨_, hshut, i, found⟩
        | marked => split at hb <;> cases hb
        | sent => split at hb <;> cases hb
        | _ => cases hb
    · rw [h.activities] at hj
      exact .inl (.inr ⟨j, farewell, hj⟩)

theorem Comes.isShutting (h : Comes c c') (hceased : c'.shut = true ∨ c'.IsShutting) :
    (c.shut = true ∨ c.IsShutting) ∨ ∃ farewell, c.ClosesFirst farewell := by
  cases h with
  | begun call =>
    refine .inl (hceased.imp_right ?_)
    rintro ⟨j, farewell, hj⟩
    refine ⟨j, farewell, (getElem?_begin hj).resolve_left fun e => ?_⟩
    cases call <;> cases e
  | turned found turn => exact turn.isShutting found hceased
  | readOut => exact .inl hceased
  | still => exact .inl hceased

/-! ## The first with a farewell -/

/-- Whether the logoff of a client can be encoded. -/
def CanLeave (c : Client) : Prop := ∃ bytes, Wire.encode c.maxFrameLength c.logoff = .ok bytes

theorem Turn.maxFrameLength (h : Turn c i a b c') : c'.maxFrameLength = c.maxFrameLength := by
  cases h <;> rfl

theorem Comes.canLeave (h : Comes c c') (hcan : c.CanLeave) : c'.CanLeave := by
  cases h with
  | begun call => exact hcan
  | @turned i a b c' found turn =>
    show ∃ bytes, Wire.encode c'.maxFrameLength (Message.logoff c'.uuid).wire = .ok bytes
    rw [turn.maxFrameLength, turn.uuid]
    exact hcan
  | readOut => exact hcan
  | still => exact hcan

/-- The turn of another leaves the first where it is. -/
theorem Turned.closesFirst {farewell : Option Text} (h : Turned c i c') (ho : c.Orderly)
    (notShut : c.shut = false) (hj : c.activities[j]? = some (.closing farewell .farewell))
    (hne : j ≠ i) : c'.ClosesFirst farewell := by
  cases h with
  | intro found turn =>
    obtain ⟨hj', -, hshut⟩ := turn.beside ho found hj (ho.fits j _ hj).2.2.1 hne
    exact ⟨hshut.trans notShut, j, hj'⟩

theorem step?_of_first (hcan : c.CanLeave) (notShut : c.shut = false)
    (hj : c.activities[j]? = some (.closing (some c.logoff) .farewell)) :
    c.step? j = some ({ c with sent := c.sent ++ [c.logoff] }.become j
      (.closing (some c.logoff) .shut)) := by
  obtain ⟨bytes, henc⟩ := hcan
  have hput : c.put c.logoff = (.ok (), { c with sent := c.sent ++ [c.logoff] }) := by
    simp [put, henc, notShut]
  simp only [step?, hj, stepClosing, hput]

/-- As long as no write fails, the first at the write half stays first until it has taken leave. -/
theorem ClosesFirst.after (h : c.ClosesFirst (some c.logoff)) (ho : c.Orderly) (hcan : c.CanLeave)
    {m : Move} (hm : ∀ i e, m ≠ .fail i e) :
    (c.move m).HasLeft ∨ (c.move m).ClosesFirst (some (c.move m).logoff) := by
  have hlogoff : (c.move m).logoff = c.logoff := by
    rw [logoff, (move_comes c m).names.1, logoff]
  rw [hlogoff]
  obtain ⟨notShut, j, hj⟩ := h
  -- whoever else moves leaves the first alone
  have hother : ∀ {i : Nat} (next : Option Client), (∀ c', next = some c' → Turned c i c') →
      j ≠ i → (next.getD c).ClosesFirst (some c.logoff) := by
    intro i next hnext hne
    cases next with
    | none => exact ⟨notShut, j, hj⟩
    | some c' => exact (hnext c' rfl).closesFirst ho notShut hj hne
  cases m with
  | call call => exact .inr ⟨notShut, j, getElem?_begin_of_some hj⟩
  | step i =>
    by_cases hji : j = i
    · subst hji
      refine .inl ?_
      rw [HasLeft, hlogoff, move, step?_of_first hcan notShut hj]
      exact List.mem_append_right _ List.mem_cons_self
    · exact .inr (hother _ (fun _ => step?_turned) hji)
  | fail i e => exact absurd rfl (hm i e)
  | wake i =>
    by_cases hji : j = i
    · subst hji
      refine .inr ?_
      rw [move, wake?, hj]
      exact ⟨notShut, j, hj⟩
    · exact .inr (hother _ (fun _ => wake?_turned) hji)
  | readOut => exact .inr ⟨notShut, j, hj⟩

/-! ## The first without a farewell -/

/-- Whether a client is closed in silence: it has not taken leave, and its write half was shut or
belongs to somebody who closes without a farewell. -/
def IsSilent (c : Client) : Prop :=
  ¬ c.HasLeft ∧ (c.shut = true ∨ ∃ (i : Nat) (next : Closing),
    (next = .farewell ∨ next = .shut) ∧ c.activities[i]? = some (.closing none next))

theorem Turn.isSilent (h : Turn c i a b c') (ho : c.Orderly) (found : c.activities[i]? = some a)
    {next : Closing} (hnext : next = .farewell ∨ next = .shut)
    (hj : c.activities[j]? = some (.closing none next)) :
    c'.sent = c.sent ∧ (c'.shut = true ∨ ∃ (k : Nat) (next : Closing),
      (next = .farewell ∨ next = .shut) ∧
      (c'.become i b).activities[k]? = some (.closing none next)) := by
  by_cases hji : j = i
  · subst hji
    obtain rfl : a = .closing none next := Option.some.inj (found.symm.trans hj)
    have hself := h.getElem?_self found
    rcases hnext with rfl | rfl
    · cases h with
      | silent => exact ⟨rfl, .inr ⟨j, .shut, .inr rfl, hself⟩⟩
    · cases h with
      | shuts => exact ⟨rfl, .inl rfl⟩
  · have hheld : c.holder = some j := by
      rcases hnext with rfl | rfl
      · exact (ho.fits j _ hj).2.2.1
      · exact (ho.fits j _ hj).2.2
    obtain ⟨hj', hsent, -⟩ := h.beside ho found hj hheld hji
    exact ⟨hsent, .inr ⟨j, next, hnext, hj'⟩⟩

/-- Whoever comes second does not take leave in place of the first. -/
theorem Comes.isSilent (h : Comes c c') (ho : c.Orderly) (hs : c.IsSilent) : c'.IsSilent := by
  obtain ⟨hnot, hshut | ⟨j, next, hnext, hj⟩⟩ := hs
  · obtain ⟨hover, hsent⟩ := h.silent ho (.inr hshut)
    have hnot' : ¬ c'.HasLeft := by
      rw [HasLeft, logoff, hsent, h.names.1]
      exact hnot
    exact ⟨hnot', .inl (hover.resolve_left hnot')⟩
  · cases h with
    | begun call => exact ⟨hnot, .inr ⟨j, next, hnext, getElem?_begin_of_some hj⟩⟩
    | @turned i a b c' found turn =>
      obtain ⟨hsent, hclosed⟩ := turn.isSilent ho found hnext hj
      refine ⟨fun hleft => hnot ?_, hclosed⟩
      rw [HasLeft, logoff, ← hsent, ← turn.uuid]
      exact hleft
    | readOut => exact ⟨hnot, .inr ⟨j, next, hnext, hj⟩⟩
    | still => exact ⟨hnot, .inr ⟨j, next, hnext, hj⟩⟩

/-! ## Calls that succeed -/

/-- Whether a client was shut when it says that it is disconnected, or is about to say so. -/
structure Settles (c : Client) : Prop where
  status : c.status = .disconnected → c.shut = true
  closing : ∀ (i : Nat) farewell, c.activities[i]? = some (.closing farewell .settle) →
    c.shut = true

/-- What becomes of a call that disconnects: it closes, and is done when the write half was shut or
the client was not connected. -/
inductive Departing (c : Client) : Activity → Prop where
  | leaving : Departing c .leaving
  | closing (farewell : Option Text) (next : Closing) : Departing c (.closing farewell next)
  | refused (e : ClientError) : Departing c (.done (.error e))
  | done (shut : c.shut = true) : Departing c (.done (.ok ()))

/-- Whether an activity is, or was, a call that disconnects. -/
def Departs (c : Client) (i : Nat) : Prop := ∃ a, c.activities[i]? = some a ∧ c.Departing a

theorem Turn.shut_mono (h : Turn c i a b c') (hs : c.shut = true) : c'.shut = true := by
  cases h with
  | shuts => rfl
  | _ => exact hs

theorem Turn.settles (h : Turn c i a b c') (found : c.activities[i]? = some a)
    (hs : c.Settles) : (c'.become i b).Settles := by
  refine ⟨fun hstatus => ?_, fun j farewell hj => ?_⟩
  · cases h with
    | marked => cases hstatus
    | settled => exact hs.closing i _ found
    | shuts => rfl
    | _ => exact hs.status hstatus
  · rcases getElem?_become hj with ⟨-, rfl⟩ | ⟨-, hj⟩
    · generalize hb : Activity.closing farewell .settle = b at h
      cases h with
      | shuts => rfl
      | marked =>
        split at hb
        · rename_i hstatus
          exact hs.status hstatus
        · cases hb
      | sent => split at hb <;> cases hb
      | _ => cases hb
    · rw [h.activities] at hj
      exact h.shut_mono (hs.closing j farewell hj)

theorem Comes.settles (h : Comes c c') (hs : c.Settles) : c'.Settles := by
  cases h with
  | begun call =>
    refine ⟨hs.status, fun j farewell hj => hs.closing j farewell ?_⟩
    refine (getElem?_begin hj).resolve_left fun e => ?_
    cases call <;> cases e
  | turned found turn => exact turn.settles found hs
  | readOut => exact ⟨hs.status, hs.closing⟩
  | still => exact hs

theorem Turn.departing (h : Turn c i a b c') (found : c.activities[i]? = some a) (hs : c.Settles)
    (ha : c.Departing a) : c'.Departing b := by
  cases ha with
  | leaving =>
    cases h with
    | leaves => exact .closing _ _
    | left => exact .refused _
  | closing farewell next =>
    cases h with
    | settled => exact .done (hs.closing i _ found)
    | _ => exact .closing _ _
  | refused e => cases h
  | done shut => cases h

theorem Departing.mono (h : c.Departing a) (hs : c.shut = true → c'.shut = true) :
    c'.Departing a := by
  cases h with
  | leaving => exact .leaving
  | closing farewell next => exact .closing farewell next
  | refused e => exact .refused e
  | done shut => exact .done (hs shut)

theorem Comes.departs (h : Comes c c') (hs : c.Settles) (hd : c.Departs j) : c'.Departs j := by
  obtain ⟨x, hj, hx⟩ := hd
  cases h with
  | begun call => exact ⟨x, getElem?_begin_of_some hj, hx.mono id⟩
  | @turned i a b c' found turn =>
    by_cases hji : j = i
    · subst hji
      obtain rfl : a = x := Option.some.inj (found.symm.trans hj)
      exact ⟨b, turn.getElem?_self found, (turn.departing found hs hx).mono id⟩
    · refine ⟨x, ?_, hx.mono turn.shut_mono⟩
      rw [getElem?_become_of_ne hji, turn.activities, hj]
  | readOut => exact ⟨x, hj, hx.mono id⟩
  | still => exact ⟨x, hj, hx⟩

end Turns

/-! ## Whole runs -/

section Runs

variable {c : Client}

/-- Before the write half was shut, somebody had it first. -/
theorem closesFirst_of_shut (hopen : ¬ (c.shut = true ∨ c.IsShutting)) (moves : List Move)
    (hceased : (c.run moves).shut = true ∨ (c.run moves).IsShutting) :
    ∃ earlier, earlier <+: moves ∧ ∃ farewell, (c.run earlier).ClosesFirst farewell := by
  induction moves using List.reverseRecOn with
  | nil => exact absurd hceased hopen
  | append_singleton moves m ih =>
    rw [run_append] at hceased
    rcases (move_comes (c.run moves) m).isShutting hceased with hceased | hfirst
    · obtain ⟨earlier, hearlier, hfirst⟩ := ih hceased
      exact ⟨earlier, hearlier.trans (List.prefix_append _ _), hfirst⟩
    · exact ⟨moves, List.prefix_append _ _, hfirst⟩

/-- As long as no write fails, the first at the write half with a farewell takes leave. -/
theorem ClosesFirst.run (h : c.ClosesFirst (some c.logoff)) (ho : c.Orderly) (hcan : c.CanLeave)
    {moves : List Move} (hmoves : ∀ m ∈ moves, ∀ i e, m ≠ .fail i e) :
    (c.run moves).HasLeft ∨ (c.run moves).ClosesFirst (some (c.run moves).logoff) := by
  induction moves generalizing c with
  | nil => exact .inr h
  | cons m moves ih =>
    have hcomes := move_comes c m
    have ho' := hcomes.orderly ho
    rcases h.after ho hcan (hmoves m List.mem_cons_self) with hleft | hfirst
    · refine .inl ?_
      show ((c.move m).run moves).HasLeft
      rw [HasLeft, sent_run ho' (.inl hleft), logoff, (names_run _ moves).1]
      exact hleft
    · exact ih hfirst ho' (hcomes.canLeave hcan) fun m' hm' => hmoves m' (List.mem_cons_of_mem _ hm')

theorem ClosesFirst.hasLeft (h : c.ClosesFirst (some c.logoff)) (ho : c.Orderly)
    (hcan : c.CanLeave) {moves : List Move} (hmoves : ∀ m ∈ moves, ∀ i e, m ≠ .fail i e)
    (hshut : (c.run moves).shut = true) : (c.run moves).HasLeft := by
  rcases h.run ho hcan hmoves with hleft | hfirst
  · exact hleft
  · rw [hfirst.1] at hshut
    cases hshut

theorem isSilent_run (ho : c.Orderly) (hs : c.IsSilent) (moves : List Move) :
    (c.run moves).IsSilent :=
  (run_keeps (p := fun c => c.Orderly ∧ c.IsSilent)
    (fun _ _ ⟨ho, hs⟩ h => ⟨h.orderly ho, h.isSilent ho hs⟩) ⟨ho, hs⟩ moves).2

/-- The first at the write half without a farewell sees to it that nobody takes leave. -/
theorem ClosesFirst.not_hasLeft (h : c.ClosesFirst none) (ho : c.Orderly) (moves : List Move) :
    ¬ (c.run moves).HasLeft := by
  obtain ⟨-, hnot⟩ := h.parts ho
  obtain ⟨-, i, hi⟩ := h
  exact (isSilent_run ho ⟨hnot, .inr ⟨i, .farewell, .inl rfl, hi⟩⟩ moves).1

theorem settles_run (hs : c.Settles) (moves : List Move) : (c.run moves).Settles :=
  run_keeps (fun _ _ hs h => h.settles hs) hs moves

/-- A call that disconnects is done with success only when the write half was shut. -/
theorem shut_of_departs {i : Nat} (hs : c.Settles) (hd : c.Departs i) {moves : List Move}
    (hok : (c.run moves).activities[i]? = some (.done (.ok ()))) : (c.run moves).shut = true := by
  have hall : (c.run moves).Settles ∧ (c.run moves).Departs i :=
    run_keeps (p := fun c => c.Settles ∧ c.Departs i)
      (fun _ _ ⟨hs, hd⟩ h => ⟨h.settles hs, h.departs hs hd⟩) ⟨hs, hd⟩ moves
  obtain ⟨a, ha, hdeparting⟩ := hall.2
  obtain rfl : a = .done (.ok ()) := Option.some.inj (ha.symm.trans hok)
  cases hdeparting with
  | done shut => exact shut

end Runs

/-- A logoff fits wherever a registration with its id does. -/
theorem encode_logoff {limit : Nat} {uuid name : Text} {bytes : List UInt8}
    (h : Wire.encode limit (Message.register uuid name).wire = .ok bytes) :
    ∃ bytes, Wire.encode limit (Message.logoff uuid).wire = .ok bytes := by
  obtain ⟨hline, hlong, -⟩ := Wire.encode_eq_ok_iff.1 h
  refine ⟨_, Wire.encode_eq_ok_iff.2 ⟨fun hmem => hline ?_, ?_, rfl⟩⟩
  · have huuid : '\n' ∈ uuid := (List.mem_append.1 hmem).resolve_left (by decide)
    simp only [Message.wire, List.mem_append]
    exact .inl (.inl (.inl (.inr huuid)))
  · have hconnect : Text.utf8Length Wire.Marker.connect = 13 := by decide
    have hmiddle : Text.utf8Length Wire.Marker.middle = 5 := by decide
    have hdisconnect : Text.utf8Length Wire.Marker.disconnect = 16 := by decide
    simp only [Message.wire, Text.utf8Length_append, hconnect, hmiddle] at hlong
    simp only [Message.wire, Text.utf8Length_append, hdisconnect]
    omega

/-- A client that could register can take leave. -/
theorem connect_canLeave {config : Config} {uuid name : Text} {c : Client}
    (h : connect config uuid name = .ok c) : c.CanLeave := by
  unfold connect at h
  cases hcheck : config.check with
  | error e =>
    rw [hcheck] at h
    cases h
  | ok config' =>
    rw [hcheck] at h
    cases henc : Wire.encode config'.maxFrameLength (Message.register uuid name).wire with
    | error e =>
      simp only [bind, Except.bind, put, henc] at h
      cases h
    | ok bytes =>
      simp only [bind, Except.bind, put, henc] at h
      cases h
      exact encode_logoff henc

theorem canLeave_run {c : Client} (hcan : c.CanLeave) (moves : List Move) :
    (c.run moves).CanLeave :=
  run_keeps (fun _ _ hcan h => h.canLeave hcan) hcan moves

/-- The write half of a client that has just connected is open, and nobody is closing it. -/
theorem connect_open {config : Config} {uuid name : Text} {c : Client}
    (h : connect config uuid name = .ok c) : ¬ (c.shut = true ∨ c.IsShutting) ∧ c.Settles := by
  obtain ⟨limit, rfl⟩ := connect_ok h
  have hnone : ∀ (i : Nat) farewell next,
      [Activity.reading, .sending (Message.keepAlive uuid).wire .lock true][i]? ≠
        some (.closing farewell next) := fun i farewell next hi => by
    have hmem := List.mem_of_getElem? hi
    simp at hmem
  refine ⟨?_, nofun, fun i farewell hi => absurd hi (hnone i farewell _)⟩
  rintro (hshut | ⟨i, farewell, hi⟩)
  · cases hshut
  · exact hnone i farewell _ hi

/-- Once a call that disconnects is done with success, the write half of the client has been shut.
As long as no write to the open half failed, it has taken leave before if and only if the first who
had the write half to close it had a farewell; and it has not if and only if the first had none. -/
theorem leave_taken_iff (config : Config) (uuid name : Text) {c₀ : Client}
    (h : connect config uuid name = .ok c₀) {before moves : List Move} {i : Nat}
    (hbefore : before <+: moves) (hcall : (c₀.run before).activities[i]? = some .leaving)
    (hfail : ∀ m ∈ moves, ∀ j e, m ≠ .fail j e)
    (hok : (c₀.run moves).activities[i]? = some (.done (.ok ()))) :
    (c₀.run moves).shut = true ∧
    ((Message.logoff uuid).wire ∈ (c₀.run moves).sent ↔ ∃ earlier, earlier <+: moves ∧
      (c₀.run earlier).ClosesFirst (some (Message.logoff uuid).wire)) ∧
    ((Message.logoff uuid).wire ∉ (c₀.run moves).sent ↔ ∃ earlier, earlier <+: moves ∧
      (c₀.run earlier).ClosesFirst none) := by
  have ho : c₀.Orderly := connect_orderly h
  have hcan : c₀.CanLeave := connect_canLeave h
  obtain ⟨hopen, hsettles⟩ := connect_open h
  have huuid : c₀.uuid = uuid := by
    obtain ⟨limit, rfl⟩ := connect_ok h
    rfl
  have hlogoff : ∀ moves, (c₀.run moves).logoff = (Message.logoff uuid).wire := fun moves => by
    rw [logoff, (names_run _ moves).1, huuid]
  have hshut : (c₀.run moves).shut = true := by
    obtain ⟨after, rfl⟩ := hbefore
    rw [run_append] at hok ⊢
    exact shut_of_departs (settles_run hsettles before) ⟨_, hcall, .leaving⟩ hok
  have hsaid : (∃ earlier, earlier <+: moves ∧
      (c₀.run earlier).ClosesFirst (some (Message.logoff uuid).wire)) → (c₀.run moves).HasLeft := by
    rintro ⟨earlier, ⟨after, rfl⟩, hfirst⟩
    rw [← hlogoff earlier] at hfirst
    rw [run_append] at hshut ⊢
    refine hfirst.hasLeft (ho.run earlier) (canLeave_run hcan earlier) (fun m hm => ?_) hshut
    exact hfail m (List.mem_append_right _ hm)
  have hunsaid : (∃ earlier, earlier <+: moves ∧ (c₀.run earlier).ClosesFirst none) →
      ¬ (c₀.run moves).HasLeft := by
    rintro ⟨earlier, ⟨after, rfl⟩, hfirst⟩
    rw [run_append]
    exact hfirst.not_hasLeft (ho.run earlier) after
  have hleft : (c₀.run moves).HasLeft ↔ (Message.logoff uuid).wire ∈ (c₀.run moves).sent := by
    rw [HasLeft, hlogoff]
  rw [← hleft]
  -- somebody was first, with the logoff or with nothing
  obtain ⟨earlier, hearlier, farewell, hfirst⟩ := closesFirst_of_shut hopen moves (.inl hshut)
  cases farewell with
  | none =>
    have hnone : ∃ earlier, earlier <+: moves ∧ (c₀.run earlier).ClosesFirst none :=
      ⟨earlier, hearlier, hfirst⟩
    have hnot := hunsaid hnone
    exact ⟨hshut, ⟨fun h => absurd h hnot, hsaid⟩, fun _ => hnone, hunsaid⟩
  | some frame =>
    have hframe : frame = (Message.logoff uuid).wire :=
      ((hfirst.parts (ho.run earlier)).1 frame rfl).trans (hlogoff earlier)
    have hsome : ∃ earlier, earlier <+: moves ∧
        (c₀.run earlier).ClosesFirst (some (Message.logoff uuid).wire) :=
      ⟨earlier, hearlier, hframe ▸ hfirst⟩
    exact ⟨hshut, ⟨fun _ => hsome, hsaid⟩, fun h => absurd (hsaid hsome) h, hunsaid⟩

/-- Ann, just connected. -/
def ann : Client where
  maxFrameLength := 1024
  uuid := "1".toList
  name := "ann".toList
  sent := [(Message.register "1".toList "ann".toList).wire]
  activities := [.reading, .sending (Message.keepAlive "1".toList).wire .lock true]

theorem connect_ann : connect {} "1".toList "ann".toList = .ok ann :=
  connect_of_encode rfl (Wire.encode_eq_ok_iff.2 ⟨by decide, by decide, rfl⟩)

/-- Ann disconnects, and when the call has cancelled her, her reading ends: both are on their way to
the write half. -/
def annDisconnects : List Move :=
  [.call .disconnect, .step 2, .step 2, .step 2, .step 0, .step 0, .step 0]

/-- The call gets the write half before the reading does. -/
def callFirst : List Move := annDisconnects ++ [.step 2, .step 2, .step 2, .step 2]

/-- When the call is first, it takes leave. -/
theorem leave_taken_by_call :
    (ann.run callFirst).activities[2]? = some (.done (.ok ())) ∧
    (ann.run callFirst).shut = true ∧
    (Message.logoff "1".toList).wire ∈ (ann.run callFirst).sent := by
  have hbefore : [.call .disconnect] <+: callFirst := ⟨_, rfl⟩
  have hfail : ∀ m ∈ callFirst, ∀ j e, m ≠ .fail j e := by
    rintro m hm j e rfl
    simp [callFirst, annDisconnects] at hm
  have hok : (ann.run callFirst).activities[2]? = some (.done (.ok ())) := rfl
  have hfirst : (ann.run (annDisconnects ++ [.step 2])).ClosesFirst
      (some (Message.logoff "1".toList).wire) := ⟨rfl, 2, rfl⟩
  have hearlier : annDisconnects ++ [.step 2] <+: callFirst := ⟨[.step 2, .step 2, .step 2], rfl⟩
  obtain ⟨hshut, htaken, -⟩ := leave_taken_iff {} _ _ connect_ann hbefore rfl hfail hok
  exact ⟨hok, hshut, htaken.2 ⟨_, hearlier, hfirst⟩⟩

/-- The reading gets the write half before the call does, and shuts it. -/
def readingFirst : List Move :=
  annDisconnects ++ [.step 0, .step 0, .step 0, .step 0, .step 2, .step 2, .step 2, .step 2]

/-- When the reading is first, nobody takes leave: the call is done with success all the same, though
no write to the open half failed and the other side had not ended the connection. -/
theorem left_in_silence :
    connect {} "1".toList "ann".toList = .ok ann ∧
    (∀ m ∈ readingFirst, m = .call .disconnect ∨ ∃ i, m = .step i) ∧
    (ann.run [.call .disconnect]).activities[2]? = some .leaving ∧
    (ann.run readingFirst).activities[2]? = some (.done (.ok ())) ∧
    (ann.run readingFirst).sent = [(Message.register "1".toList "ann".toList).wire] ∧
    (Message.logoff "1".toList).wire ∉ (ann.run readingFirst).sent := by
  have hsent : (ann.run readingFirst).sent =
      [(Message.register "1".toList "ann".toList).wire] := by decide +kernel
  refine ⟨connect_ann, ?_, rfl, rfl, hsent, ?_⟩
  · simp [readingFirst, annDisconnects]
  · rw [hsent]
    decide

end Client
end Parley
