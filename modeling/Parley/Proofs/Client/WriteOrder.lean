/-
What a client puts on the wire, and in which order: its registration, then chat, questions and signs
of life, then at most one logoff, and nothing after it or after the write half was shut
(`writes_in_order`).

Whoever writes holds the write half and found the client not cancelled after taking it, and whoever
takes leave cancels the client before it waits for the write half (`Fits`). So as long as somebody
is about to write, nobody has taken leave, and none who wait for the write half then will write.
-/
import Parley.Proofs.Client.Runs
import Parley.Proofs.Wire.Grammar

namespace Parley

open Wire (Message Kind)

namespace Client

/-! ## Frames -/

/-- What a client with some id says between its registration and its logoff. -/
inductive Talk (uuid : Text) : Text → Prop where
  | chat (text : Text) : Talk uuid (Message.incoming uuid text).wire
  | debug : Talk uuid Message.debug.wire
  | keepAlive : Talk uuid (Message.keepAlive uuid).wire

/-- The frame with which a client registers. -/
def registration (c : Client) : Text := (Message.register c.uuid c.name).wire

/-- The frame with which a client takes leave. -/
def logoff (c : Client) : Text := (Message.logoff c.uuid).wire

theorem classify_registration (c : Client) : Kind.classify c.registration = .register := by
  simp only [registration, Message.wire, List.append_assoc]
  exact Kind.classify_append rfl _

theorem classify_logoff (c : Client) : Kind.classify c.logoff = .logoff :=
  Kind.classify_append rfl _

theorem Talk.classify {uuid frame : Text} (h : Talk uuid frame) :
    Kind.classify frame = .incoming ∨ Kind.classify frame = .debug ∨
      Kind.classify frame = .keepAlive := by
  cases h with
  | chat text =>
    simp only [Message.wire, List.append_assoc]
    exact .inl (Kind.classify_append rfl _)
  | debug => exact .inr (.inl rfl)
  | keepAlive =>
    simp only [Message.wire, List.append_assoc]
    exact .inr (.inr (Kind.classify_append rfl _))

theorem Talk.ne_logoff {c : Client} {frame : Text} (h : Talk c.uuid frame) : frame ≠ c.logoff := by
  rintro rfl
  rcases h.classify with h | h | h <;> rw [classify_logoff] at h <;> cases h

theorem registration_ne_logoff (c : Client) : c.registration ≠ c.logoff := by
  intro h
  have hkind := classify_registration c
  rw [h, classify_logoff] at hkind
  cases hkind

/-! ## The invariant -/

/-- Whether a client has taken leave. -/
def HasLeft (c : Client) : Prop := c.logoff ∈ c.sent

/-- Whether a farewell is none or a logoff. -/
def Parts (c : Client) (farewell : Option Text) : Prop := ∀ frame ∈ farewell, frame = c.logoff

/-- What is so of an activity wherever it stands: what it is going to send, that it holds the write
half while it looks and writes, that the client is cancelled when it waits to take leave, that
nobody has taken leave when it is about to write, and that no two can take leave on one write
half. -/
def Fits (c : Client) (i : Nat) : Activity → Prop
  | .sending frame .lock _ | .resting frame => Talk c.uuid frame
  | .sending frame .check _ => Talk c.uuid frame ∧ c.holder = some i
  | .sending frame .write _ =>
    Talk c.uuid frame ∧ c.holder = some i ∧ ¬ c.HasLeft ∧ c.shut = false
  | .closing farewell .mark | .closing farewell .cancel | .closing farewell .settle =>
    c.Parts farewell
  | .closing farewell .lock => c.Parts farewell ∧ c.cancelled = true
  | .closing farewell .farewell =>
    c.Parts farewell ∧ c.cancelled = true ∧ c.holder = some i ∧ (c.shut = false → ¬ c.HasLeft)
  | .closing farewell .shut => c.Parts farewell ∧ c.cancelled = true ∧ c.holder = some i
  | .leaving | .reading | .done _ => True

/-- Whether a client has sent its registration, what it says, and nothing else or its logoff. -/
def InOrder (c : Client) : Prop :=
  ∃ talk, (∀ frame ∈ talk, Talk c.uuid frame) ∧
    (c.sent = c.registration :: talk ∨ c.sent = c.registration :: talk ++ [c.logoff])

/-- Whether somebody is about to shut the write half of a client. -/
def IsShutting (c : Client) : Prop :=
  ∃ (i : Nat) (farewell : Option Text), c.activities[i]? = some (.closing farewell .shut)

/-- What is so of a client on every run: what it has sent is in order, every activity fits where it
stands, it has been cancelled when it has taken leave or the write half was shut, and between these
two somebody is about to shut it. -/
structure Orderly (c : Client) : Prop where
  inOrder : c.InOrder
  fits : ∀ i a, c.activities[i]? = some a → c.Fits i a
  cancelled : c.HasLeft ∨ c.shut = true → c.cancelled = true
  shutting : c.HasLeft → c.shut = false → c.IsShutting

section Turns

variable {c c' : Client} {i j : Nat} {a b x : Activity}

/-- What is so of an activity stays so as long as, while it holds the write half, nobody else writes
or shuts it. -/
theorem Fits.keep (h : c.Fits j x) (huuid : c'.uuid = c.uuid)
    (hcancelled : c.cancelled = true → c'.cancelled = true)
    (hheld : c.holder = some j →
      c'.holder = some j ∧ c'.sent = c.sent ∧ c'.shut = c.shut) : c'.Fits j x := by
  have hlogoff : c'.logoff = c.logoff := by rw [logoff, huuid, logoff]
  have htalk : ∀ {frame}, Talk c.uuid frame → Talk c'.uuid frame := fun h => huuid.symm ▸ h
  have hparts : ∀ {farewell}, c.Parts farewell → c'.Parts farewell := fun h frame hf =>
    (h frame hf).trans hlogoff.symm
  have hleft : c'.sent = c.sent → (c'.HasLeft ↔ c.HasLeft) := fun hsent => by
    rw [HasLeft, HasLeft, hlogoff, hsent]
  cases x with
  | sending frame next again =>
    cases next with
    | lock => exact htalk h
    | check => exact ⟨htalk h.1, (hheld h.2).1⟩
    | write =>
      obtain ⟨ht, hholder, hnot, hshut⟩ := h
      obtain ⟨hholder', hsent, hshut'⟩ := hheld hholder
      exact ⟨htalk ht, hholder', (hleft hsent).not.2 hnot, hshut'.trans hshut⟩
  | resting frame => exact htalk h
  | closing farewell next =>
    cases next with
    | mark => exact hparts h
    | cancel => exact hparts h
    | lock => exact ⟨hparts h.1, hcancelled h.2⟩
    | farewell =>
      obtain ⟨hp, hover, hholder, hnot⟩ := h
      obtain ⟨hholder', hsent, hshut⟩ := hheld hholder
      exact ⟨hparts hp, hcancelled hover, hholder', fun hopen =>
        (hleft hsent).not.2 (hnot (hshut ▸ hopen))⟩
    | shut => exact ⟨hparts h.1, hcancelled h.2.1, (hheld h.2.2).1⟩
    | settle => exact hparts h
  | leaving => trivial
  | reading => trivial
  | done result => trivial

/-- Whoever holds the write half keeps it over the turns of all others, and nobody writes or shuts
it meanwhile. -/
theorem Turn.held (h : Turn c i a b c') (ha : c.Fits i a) (hj : j ≠ i)
    (hheld : c.holder = some j) : c'.holder = some j ∧ c'.sent = c.sent ∧ c'.shut = c.shut := by
  have hother : c.holder ≠ some i := by
    rw [hheld]
    exact fun e => hj (Option.some.inj e)
  cases h with
  | taken free | claimed free => rw [hheld] at free; cases free
  | stopped cancelled => exact absurd ha.2 hother
  | sent notShut | unsent e => exact absurd ha.2.1 hother
  | parted notShut => exact absurd ha.2.2.1 hother
  | shuts => exact absurd ha.2.2 hother
  | _ => exact ⟨hheld, rfl, rfl⟩

/-- Whatever an activity becomes fits where it stands then. -/
theorem Turn.fits (h : Turn c i a b c') (ho : c.Orderly) (ha : c.Fits i a) : c'.Fits i b := by
  cases h with
  | taken free => exact ⟨ha, rfl⟩
  | cleared going =>
    have hnot : ¬ (c.HasLeft ∨ c.shut = true) := fun hover => by
      rw [ho.cancelled hover] at going
      cases going
    rw [not_or, Bool.not_eq_true] at hnot
    exact ⟨ha.1, ha.2, hnot⟩
  | @sent frame again notShut =>
    cases again with
    | true => exact ha.1
    | false => trivial
  | rested => exact ha
  | leaves connected => exact fun frame hf => (Option.some.inj hf).symm
  | marked =>
    split
    · exact ha
    · exact ha
  | cancels => exact ⟨ha, rfl⟩
  | claimed free =>
    refine ⟨ha.1, ha.2, rfl, fun notShut hleft => ?_⟩
    -- whoever took leave would still hold the write half
    obtain ⟨j, farewell, hj⟩ := ho.shutting hleft notShut
    have hheld : c.holder = some j := (ho.fits j _ hj).2.2
    rw [free] at hheld
    cases hheld
  | parted notShut => exact ⟨ha.1, ha.2.1, ha.2.2.1⟩
  | silent => exact ⟨ha.1, ha.2.1, ha.2.2.1⟩
  | shuts => exact ha.1
  | finds => exact nofun
  | _ => trivial

/-! ## What every move keeps -/

theorem HasLeft.before {frame : Text} (h : c'.HasLeft) (ht : Talk c.uuid frame)
    (hsent : c'.sent = c.sent ++ [frame]) (huuid : c'.uuid = c.uuid) : c.HasLeft := by
  have hlogoff : c'.logoff = c.logoff := by rw [logoff, huuid, logoff]
  rw [HasLeft, hlogoff, hsent] at h
  exact (List.mem_append.1 h).resolve_right fun e => ht.ne_logoff (List.mem_singleton.1 e).symm

theorem Turn.inOrder (h : Turn c i a b c') (ho : c.InOrder) (ha : c.Fits i a) : c'.InOrder := by
  have hopen : ¬ c.HasLeft → ∃ talk, (∀ frame ∈ talk, Talk c.uuid frame) ∧
      c.sent = c.registration :: talk := by
    obtain ⟨talk, htalk, hsent | hsent⟩ := ho
    · exact fun _ => ⟨talk, htalk, hsent⟩
    · refine fun hnot => absurd ?_ hnot
      rw [HasLeft, hsent]
      exact List.mem_append_right _ List.mem_cons_self
  cases h with
  | @sent frame again notShut =>
    obtain ⟨talk, htalk, hsent⟩ := hopen ha.2.2.1
    refine ⟨talk ++ [frame], ?_, .inl ?_⟩
    · rintro f hf
      rcases List.mem_append.1 hf with hf | hf
      · exact htalk f hf
      · rw [List.mem_singleton.1 hf]
        exact ha.1
    · show c.sent ++ [frame] = _
      rw [hsent]
      rfl
  | @parted frame notShut =>
    obtain ⟨talk, htalk, hsent⟩ := hopen (ha.2.2.2 notShut)
    refine ⟨talk, htalk, .inr ?_⟩
    show c.sent ++ [frame] = _
    rw [hsent, ha.1 frame rfl]
    rfl
  | _ => exact ho

theorem Turn.cancelled (h : Turn c i a b c') (ho : c.Orderly) (ha : c.Fits i a) :
    c'.HasLeft ∨ c'.shut = true → c'.cancelled = true := by
  cases h with
  | sent notShut =>
    exact fun hover => ho.cancelled (hover.imp_left fun hleft => hleft.before ha.1 rfl rfl)
  | cancels => exact fun _ => rfl
  | parted notShut => exact fun _ => ha.2.1
  | shuts => exact fun _ => ha.2.1
  | _ => exact ho.cancelled

theorem Turn.cancelled_mono (h : Turn c i a b c') (hc : c.cancelled = true) :
    c'.cancelled = true := by
  cases h with
  | cancels => rfl
  | _ => exact hc

theorem Turn.shutting (h : Turn c i a b c') (ho : c.Orderly)
    (found : c.activities[i]? = some a) (hleft : c'.HasLeft) (notShut : c'.shut = false) :
    (c'.become i b).IsShutting := by
  have hself := h.getElem?_self found
  -- whoever was about to shut the write half before still is
  have hkeep : c.HasLeft → c.shut = false → (∀ farewell, a ≠ .closing farewell .shut) →
      (c'.become i b).IsShutting := by
    intro hleft notShut hne
    obtain ⟨j, farewell, hj⟩ := ho.shutting hleft notShut
    exact ⟨j, farewell, h.getElem?_other found hj (hne farewell)⟩
  have ha := ho.fits i a found
  cases h with
  | parted => exact ⟨i, _, hself⟩
  | silent => exact ⟨i, _, hself⟩
  | shuts => cases notShut
  | sent =>
    exact hkeep (hleft.before ha.1 rfl rfl) notShut nofun
  | _ => exact hkeep hleft notShut nofun

theorem Call.fits (c : Client) (call : Call) (i : Nat) : c.Fits i (call.activity c) := by
  cases call with
  | say text => exact .chat text
  | sayTo target text => exact .chat _
  | askForDump => exact .debug
  | disconnect => trivial
  | disconnectQuietly => exact nofun

theorem Comes.orderly (ho : c.Orderly) (h : Comes c c') : c'.Orderly := by
  cases h with
  | begun call =>
    refine ⟨ho.inOrder, fun j x hx => ?_, ho.cancelled, fun hleft notShut => ?_⟩
    · rcases getElem?_begin hx with rfl | hx
      · exact Call.fits c call j
      · exact ho.fits j x hx
    · obtain ⟨j, farewell, hj⟩ := ho.shutting hleft notShut
      exact ⟨j, farewell, getElem?_begin_of_some hj⟩
  | @turned i a b c' found turn =>
    have ha := ho.fits i a found
    refine ⟨turn.inOrder ho.inOrder ha, fun j x hx => ?_, turn.cancelled ho ha,
      turn.shutting ho found⟩
    rcases getElem?_become hx with ⟨rfl, rfl⟩ | ⟨hj, hx⟩
    · exact turn.fits ho ha
    · rw [turn.activities] at hx
      exact (ho.fits j x hx).keep turn.uuid turn.cancelled_mono (turn.held ha hj)
  | readOut => exact ⟨ho.inOrder, ho.fits, ho.cancelled, ho.shutting⟩
  | still => exact ho

/-- When a client has taken leave or its write half was shut, it sends nothing more. -/
theorem Comes.silent (ho : c.Orderly) (hover : c.HasLeft ∨ c.shut = true) (h : Comes c c') :
    (c'.HasLeft ∨ c'.shut = true) ∧ c'.sent = c.sent := by
  cases h with
  | begun call => exact ⟨hover, rfl⟩
  | readOut => exact ⟨hover, rfl⟩
  | still => exact ⟨hover, rfl⟩
  | @turned i a b c' found turn =>
    have ha := ho.fits i a found
    cases turn with
    | sent notShut =>
      rcases hover with hleft | hshut
      · exact absurd hleft ha.2.2.1
      · rw [hshut] at notShut
        cases notShut
    | parted notShut =>
      rcases hover with hleft | hshut
      · exact absurd hleft (ha.2.2.2 notShut)
      · rw [hshut] at notShut
        cases notShut
    | shuts => exact ⟨.inr rfl, rfl⟩
    | _ => exact ⟨hover, rfl⟩

/-! ## Closing -/

/-- Whether somebody is closing a client. -/
def IsClosing (c : Client) : Prop :=
  ∃ (i : Nat) (farewell : Option Text) (next : Closing),
    c.activities[i]? = some (.closing farewell next)

/-- Whether somebody who is closing a client has marked it. -/
def IsMarked (c : Client) : Prop :=
  ∃ (i : Nat) (farewell : Option Text) (next : Closing),
    c.activities[i]? = some (.closing farewell next) ∧ next ≠ .mark

theorem IsMarked.isClosing (h : c.IsMarked) : c.IsClosing := by
  obtain ⟨i, farewell, next, hi, -⟩ := h
  exact ⟨i, farewell, next, hi⟩

theorem Turn.isMarked (h : Turn c i a b c') (found : c.activities[i]? = some a)
    (hm : c.status = .shuttingDown → c.IsMarked) (hstatus : c'.status = .shuttingDown) :
    (c'.become i b).IsMarked := by
  have hself := h.getElem?_self found
  have hkeep : c.status = .shuttingDown → (∀ farewell next, a ≠ .closing farewell next) →
      (c'.become i b).IsMarked := by
    intro hstatus hne
    obtain ⟨j, farewell, next, hj, hnext⟩ := hm hstatus
    exact ⟨j, farewell, next, h.getElem?_other found hj (hne farewell next), hnext⟩
  cases h with
  | marked =>
    refine ⟨i, _, _, hself, ?_⟩
    split <;> exact nofun
  | cancels | claimed | parted | silent | shuts => exact ⟨i, _, _, hself, nofun⟩
  | settled => cases hstatus
  | _ => exact hkeep hstatus nofun

/-- A client is shutting down only while somebody is at it. -/
theorem Comes.isMarked (hm : c.status = .shuttingDown → c.IsMarked) (h : Comes c c') :
    c'.status = .shuttingDown → c'.IsMarked := by
  cases h with
  | begun call =>
    intro hstatus
    obtain ⟨j, farewell, next, hj, hnext⟩ := hm hstatus
    exact ⟨j, farewell, next, getElem?_begin_of_some hj, hnext⟩
  | turned found turn => exact turn.isMarked found hm
  | readOut => exact hm
  | still => exact hm

theorem Turn.unconnected (h : Turn c i a b c') (hu : c.status ≠ .connected) :
    c'.status ≠ .connected := by
  cases h with
  | marked | settled => exact nofun
  | _ => exact hu

/-- A client never becomes connected again. -/
theorem Comes.unconnected (hu : c.status ≠ .connected) (h : Comes c c') :
    c'.status ≠ .connected := by
  cases h with
  | begun call => exact hu
  | turned found turn => exact turn.unconnected hu
  | readOut => exact hu
  | still => exact hu

theorem Turn.closing_or (h : Turn c i a b c') (found : c.activities[i]? = some a)
    (hc : c.IsClosing) : (c'.become i b).IsClosing ∨ c'.status ≠ .connected := by
  have hself := h.getElem?_self found
  obtain ⟨j, farewell, next, hj⟩ := hc
  by_cases hcloses : a = .closing farewell next
  · subst hcloses
    cases h with
    | marked | settled => exact .inr nofun
    | cancels | claimed | parted | silent | shuts => exact .inl ⟨i, _, _, hself⟩
  · exact .inl ⟨j, farewell, next, h.getElem?_other found hj hcloses⟩

/-- Whoever closes a client goes on until it is no longer connected. -/
theorem Comes.closing_or (hc : c.IsClosing ∨ c.status ≠ .connected) (h : Comes c c') :
    c'.IsClosing ∨ c'.status ≠ .connected := by
  rcases hc with hc | hu
  · cases h with
    | begun call =>
      obtain ⟨j, farewell, next, hj⟩ := hc
      exact .inl ⟨j, farewell, next, getElem?_begin_of_some hj⟩
    | turned found turn => exact turn.closing_or found hc
    | readOut => exact .inl hc
    | still => exact .inl hc
  · exact .inr (h.unconnected hu)

end Turns

/-! ## Whole runs -/

theorem connect_ok {config : Config} {uuid name : Text} {c : Client}
    (h : connect config uuid name = .ok c) : ∃ limit, c = {
      maxFrameLength := limit, uuid, name
      sent := [(Message.register uuid name).wire]
      activities := [.reading, .sending (Message.keepAlive uuid).wire .lock true] } := by
  unfold connect at h
  cases hcheck : config.check with
  | error e =>
    rw [hcheck] at h
    cases h
  | ok config' =>
    let fresh : Client := { maxFrameLength := config'.maxFrameLength, uuid, name }
    rw [hcheck] at h
    rcases fresh.put_cases (Message.register uuid name).wire with ⟨e, hput⟩ | ⟨-, hput⟩
    · simp only [bind, Except.bind, fresh] at h hput
      rw [hput] at h
      cases h
    · simp only [bind, Except.bind, fresh] at h hput
      rw [hput] at h
      cases h
      exact ⟨config'.maxFrameLength, rfl⟩

/-- With a setup without faults and a registration that can be encoded, a client connects. -/
theorem connect_of_encode {config : Config} {uuid name : Text} {bytes : List UInt8}
    (hconfig : config.fault? = none)
    (henc : Wire.encode config.maxFrameLength (Message.register uuid name).wire = .ok bytes) :
    connect config uuid name = .ok {
      maxFrameLength := config.maxFrameLength, uuid, name
      sent := [(Message.register uuid name).wire]
      activities := [.reading, .sending (Message.keepAlive uuid).wire .lock true] } := by
  have hcheck : config.check = .ok config := by rw [Config.check, hconfig]
  simp only [connect, hcheck, bind, Except.bind, put, henc]
  rfl

theorem Comes.names {c c' : Client} (h : Comes c c') : c'.uuid = c.uuid ∧ c'.name = c.name := by
  cases h with
  | begun call => exact ⟨rfl, rfl⟩
  | turned found turn => exact ⟨turn.uuid, turn.name⟩
  | readOut => exact ⟨rfl, rfl⟩
  | still => exact ⟨rfl, rfl⟩

/-- A client that has just connected is in order. -/
theorem connect_orderly {config : Config} {uuid name : Text} {c : Client}
    (h : connect config uuid name = .ok c) : c.Orderly := by
  obtain ⟨limit, rfl⟩ := connect_ok h
  have hnot : ∀ c : Client, c.sent = [c.registration] → ¬ c.HasLeft := fun c hsent hleft => by
    rw [HasLeft, hsent, List.mem_singleton] at hleft
    exact c.registration_ne_logoff hleft.symm
  refine ⟨⟨[], nofun, .inl rfl⟩, fun i a hi => ?_, ?_, fun hleft => absurd hleft (hnot _ rfl)⟩
  · rcases List.mem_cons.1 (List.mem_of_getElem? hi) with rfl | ha
    · trivial
    · rw [List.mem_singleton.1 ha]
      exact .keepAlive
  · rintro (hleft | hshut)
    · exact absurd hleft (hnot _ rfl)
    · cases hshut

theorem Orderly.run {c : Client} (ho : c.Orderly) (moves : List Move) : (c.run moves).Orderly :=
  run_keeps (fun _ _ ho h => h.orderly ho) ho moves

theorem names_run (c : Client) (moves : List Move) :
    (c.run moves).uuid = c.uuid ∧ (c.run moves).name = c.name :=
  run_keeps (p := fun c' => c'.uuid = c.uuid ∧ c'.name = c.name)
    (fun _ _ hn h => ⟨h.names.1.trans hn.1, h.names.2.trans hn.2⟩) ⟨rfl, rfl⟩ moves

/-- Nothing is sent after a logoff or after the write half was shut. -/
theorem sent_run {c : Client} (ho : c.Orderly) (hover : c.HasLeft ∨ c.shut = true)
    (moves : List Move) : (c.run moves).sent = c.sent := by
  have hall : (c.run moves).Orderly ∧ ((c.run moves).HasLeft ∨ (c.run moves).shut = true) ∧
      (c.run moves).sent = c.sent :=
    run_keeps (p := fun c' => c'.Orderly ∧ (c'.HasLeft ∨ c'.shut = true) ∧ c'.sent = c.sent)
      (fun _ _ ⟨ho, hover, hsent⟩ h => ⟨h.orderly ho, (h.silent ho hover).1,
        (h.silent ho hover).2.trans hsent⟩) ⟨ho, hover, rfl⟩ moves
  exact hall.2.2

theorem unconnected_run {c : Client} (hu : c.status ≠ .connected) (moves : List Move) :
    (c.run moves).status ≠ .connected :=
  run_keeps (fun _ _ hu h => h.unconnected hu) hu moves

theorem isMarked_run {c : Client} (hm : c.status = .shuttingDown → c.IsMarked)
    (moves : List Move) : (c.run moves).status = .shuttingDown → (c.run moves).IsMarked :=
  run_keeps (p := fun c => c.status = .shuttingDown → c.IsMarked) (fun _ _ hm h => h.isMarked hm)
    hm moves

/-- When all who have closed a client are done, it is disconnected. -/
theorem disconnected_run {c : Client} (hm : c.status = .shuttingDown → c.IsMarked)
    (hc : c.IsClosing) {moves : List Move} (hdone : ¬ (c.run moves).IsClosing) :
    (c.run moves).status = .disconnected := by
  have hunconnected : (c.run moves).status ≠ .connected :=
    (run_keeps (p := fun c => c.IsClosing ∨ c.status ≠ .connected)
      (fun _ _ hc h => h.closing_or hc) (.inl hc) moves).resolve_left hdone
  cases hstatus : (c.run moves).status with
  | disconnected => rfl
  | connected => exact absurd hstatus hunconnected
  | shuttingDown => exact absurd (isMarked_run hm moves hstatus).isClosing hdone

/-- What is in order has one registration in it, and at most one logoff. -/
theorem InOrder.counts {c : Client} (h : c.InOrder) :
    (c.sent.map Kind.classify).count .register = 1 ∧
      (c.sent.map Kind.classify).count .logoff ≤ 1 := by
  obtain ⟨talk, htalk, hsent⟩ := h
  have hnone : ∀ kind, kind = .register ∨ kind = .logoff →
      (talk.map Kind.classify).count kind = 0 := by
    refine fun kind hkind => List.count_eq_zero.2 fun hmem => ?_
    obtain ⟨frame, hframe, rfl⟩ := List.mem_map.1 hmem
    rcases (htalk frame hframe).classify with e | e | e <;> rw [e] at hkind <;> simp at hkind
  rcases hsent with hsent | hsent <;>
    simp [hsent, classify_registration, classify_logoff, hnone]

/-- However the calls of a client that has connected, its reading and its signs of life take turns,
it sends its registration, then only chat, questions and signs of life, then at most one logoff; so
it registers once and takes leave at most once. After the logoff, or after the write half was shut,
it sends nothing more. Once somebody has closed it and all who did are done, it is disconnected, and
never connected again. -/
theorem writes_in_order (config : Config) (uuid name : Text) {c₀ : Client}
    (h : connect config uuid name = .ok c₀) (moves : List Move) :
    let c := c₀.run moves
    (∃ talk bye, c.sent = (Message.register uuid name).wire :: talk ++ bye ∧
      (∀ frame ∈ talk, Talk uuid frame) ∧ (bye = [] ∨ bye = [(Message.logoff uuid).wire])) ∧
    (c.sent.map Kind.classify).count .register = 1 ∧
    (c.sent.map Kind.classify).count .logoff ≤ 1 ∧
    (∀ more, (Message.logoff uuid).wire ∈ c.sent ∨ c.shut = true →
      (c.run more).sent = c.sent) ∧
    ((∃ before, before <+: moves ∧ (c₀.run before).IsClosing) → ¬ c.IsClosing →
      c.status = .disconnected ∧ ∀ more, (c.run more).status ≠ .connected) := by
  intro c
  have ho : c.Orderly := (connect_orderly h).run moves
  obtain ⟨huuid, hname⟩ : c.uuid = uuid ∧ c.name = name := by
    obtain ⟨limit, rfl⟩ := connect_ok h
    exact names_run _ moves
  have hlogoff : c.logoff = (Message.logoff uuid).wire := by rw [logoff, huuid]
  refine ⟨?_, ho.inOrder.counts.1, ho.inOrder.counts.2, fun more hover => ?_, ?_⟩
  · obtain ⟨talk, htalk, hsent⟩ := ho.inOrder
    rw [registration, huuid, hname, hlogoff] at hsent
    rw [huuid] at htalk
    rcases hsent with hsent | hsent
    · exact ⟨talk, [], by rw [hsent, List.append_nil], htalk, .inl rfl⟩
    · exact ⟨talk, _, hsent, htalk, .inr rfl⟩
  · rw [← hlogoff] at hover
    exact sent_run ho hover more
  · rintro ⟨before, ⟨after, rfl⟩, hclosing⟩ hdone
    have hm : c₀.status = .shuttingDown → c₀.IsMarked := by
      obtain ⟨limit, rfl⟩ := connect_ok h
      exact nofun
    have hdisconnected : c.status = .disconnected := by
      show (c₀.run (before ++ after)).status = _
      rw [run_append]
      refine disconnected_run (isMarked_run hm before) hclosing ?_
      rw [← run_append]
      exact hdone
    refine ⟨hdisconnected, unconnected_run ?_⟩
    rw [hdisconnected]
    exact nofun

/-- Two calls disconnect a client at once while it gives its first sign of life: one of them sends
the logoff, the other finds the write half shut. -/
theorem writes_in_order_of_two_disconnects :
    let uuid := "1".toList
    let name := "ann".toList
    let c₀ : Client := {
      maxFrameLength := 1024, uuid, name
      sent := [(Message.register uuid name).wire]
      activities := [.reading, .sending (Message.keepAlive uuid).wire .lock true] }
    let c := c₀.run <|
      [.step 1, .step 1, .call .disconnect, .call .disconnect, .step 2] ++
      [.step 3, .step 2, .step 3, .step 2, .step 3, .step 1, .step 3, .step 3, .step 3,
        .step 2, .step 2, .step 2, .step 2, .step 3, .step 0, .step 0, .step 0, .step 1]
    connect {} uuid name = .ok c₀ ∧
    c.sent = [(Message.register uuid name).wire, (Message.keepAlive uuid).wire,
      (Message.logoff uuid).wire] ∧
    c.status = .disconnected ∧
    ∀ more, (c.run more).sent = c.sent ∧ (c.run more).status ≠ .connected := by
  intro uuid name c₀ c
  have h : connect {} uuid name = .ok c₀ :=
    connect_of_encode rfl (Wire.encode_eq_ok_iff.2 ⟨by decide, by decide, rfl⟩)
  have hsent : c.sent = [(Message.register uuid name).wire, (Message.keepAlive uuid).wire,
      (Message.logoff uuid).wire] := by decide +kernel
  have hdone : ¬ c.IsClosing := by
    have hall : (c.activities.all fun | .done _ => true | _ => false) = true := by decide +kernel
    rintro ⟨i, farewell, next, hi⟩
    exact absurd (List.all_eq_true.1 hall _ (List.mem_of_getElem? hi)) nofun
  obtain ⟨-, -, -, hquiet, hclosed⟩ := writes_in_order {} uuid name h _
  obtain ⟨hstatus, hnever⟩ := hclosed ⟨_, List.prefix_append _ _, 2, _, _, rfl⟩ hdone
  refine ⟨h, hsent, hstatus, fun more => ⟨hquiet more (.inl ?_), hnever more⟩⟩
  rw [hsent]
  simp

end Client
end Parley
