/-
The books of a room. Whatever is written for whichever reason goes through one place, where it is
tried on its link, counted and logged; so the counters of frames sent and of failures, and those of
each link, never get away from the log, and no more do the closings of a link (`books`). Frames that
come in are counted where they are handled, well formed or not. From the books follows what the
counters say of any run (`counters_exact`), in which operations may also be on their way beside one
another: a write, a closing and a step of a sweep are moves of their own. When everybody is
disconnected at once, each session is taken leave of once, before its link is closed.
-/
import Parley.Proofs.Room.Turnover

namespace Parley.Room

open Wire (Message Chat)

/-! ## Books -/

/-- A write that the other end took in time. -/
def WasTaken (w : ConnId × Text × Outcome) : Prop := w.2.2 = .accepted

instance : DecidablePred WasTaken := fun w => inferInstanceAs (Decidable (w.2.2 = .accepted))

/-- A frame that says nothing. -/
def IsMalformed (raw : Text) : Prop := (Message.parse raw).isOk = false

instance : DecidablePred IsMalformed :=
  fun raw => inferInstanceAs (Decidable ((Message.parse raw).isOk = false))

/-- The connections whose links have been closed, as often as they have. -/
def shut (r : Room) : List ConnId := r.log.filterMap Event.closed?

/-- What the room and its links count of the frames that go out, and the links of their closing,
less what is logged of it; and what is counted of the frames that come in. -/
structure Books where
  sent : UInt64
  failed : UInt64
  received : UInt64
  malformed : UInt64
  tries : ConnId → Int
  taken : ConnId → Int
  closes : ConnId → Int

/-- The books of a room. -/
def books (r : Room) : Books where
  sent := r.tally.framesSent - .ofNat (r.written.countP (WasTaken ·))
  failed := r.tally.sendFailures - .ofNat (r.written.countP (¬ WasTaken ·))
  received := r.tally.framesReceived
  malformed := r.tally.malformedFrames
  tries c := (r.links c).tries - r.written.countP (·.1 = c)
  taken c := (r.links c).taken - r.written.countP fun w => w.1 = c ∧ WasTaken w
  closes c := (r.links c).closes - r.shut.count c

/-- The books when some frames more have come in. -/
def Books.after (b : Books) (frames : List Text) : Books :=
  { b with
    received := b.received + .ofNat frames.length
    malformed := b.malformed + .ofNat (frames.countP (IsMalformed ·)) }

theorem Books.after_nil (b : Books) : b.after [] = b := by
  simp [Books.after]

theorem Books.after_append (b : Books) (first more : List Text) :
    b.after (first ++ more) = (b.after first).after more := by
  simp [Books.after, UInt64.ofNat_add, UInt64.add_assoc]

theorem Books.after_singleton (b : Books) (raw : Text) :
    b.after [raw] = { b with
      received := b.received + 1
      malformed := if IsMalformed raw then b.malformed + 1 else b.malformed } := by
  by_cases h : IsMalformed raw <;> simp [Books.after, h]

section Same

variable (r : Room)

/-- What is neither written nor closed leaves the books as they are. -/
theorem Quiet.books {r r' : Room} (h : Quiet r r') : r'.books = r.books := by
  obtain ⟨events, hlog, hevents⟩ := h.logs
  have hnone : ∀ e ∈ events, e.written? = none ∧ e.closed? = none := by
    intro e he
    have hquiet := hevents e he
    cases e <;> first | exact ⟨rfl, rfl⟩ | exact hquiet.elim
  have hwritten : r'.written = r.written := by
    rw [written, hlog, List.filterMap_append,
      List.filterMap_eq_nil_iff.2 fun e he => (hnone e he).1, List.append_nil]
    rfl
  have hshut : r'.shut = r.shut := by
    rw [shut, hlog, List.filterMap_append,
      List.filterMap_eq_nil_iff.2 fun e he => (hnone e he).2, List.append_nil]
    rfl
  rw [Room.books, Room.books, hwritten, hshut, h.tally, h.links]

/-! ## Writing -/

theorem written_write (conn : ConnId) (frame : Text) :
    (r.write conn frame).2.written =
      r.written ++ [(conn, frame, (r.links conn).outcome frame)] :=
  List.filterMap_append

theorem taken_write (conn c : ConnId) (frame : Text) :
    ((r.write conn frame).2.links c).taken = (r.links c).taken +
      if conn = c ∧ (r.links conn).outcome frame = .accepted then 1 else 0 := by
  by_cases h : conn = c
  · subst h
    simp only [write, links_record, Links.set_self, Link.write, true_and]
    split <;> rfl
  · simp [write, record, Links.set_of_ne _ _ (Ne.symm h), h]

theorem sub_ofNat_add (count : UInt64) (n more : Nat) :
    count + .ofNat more - .ofNat (n + more) = count - .ofNat n := by
  rw [UInt64.ofNat_add]
  grind

theorem writeEnded_counts (t : Tally) (outcome : Outcome) :
    (t.writeEnded outcome).framesSent =
        t.framesSent + .ofNat (if outcome = .accepted then 1 else 0) ∧
      (t.writeEnded outcome).sendFailures =
        t.sendFailures + .ofNat (if outcome ≠ .accepted then 1 else 0) ∧
      (t.writeEnded outcome).framesReceived = t.framesReceived ∧
      (t.writeEnded outcome).malformedFrames = t.malformedFrames := by
  cases outcome <;> simp [Tally.writeEnded, Outcome.failure?, Tally.frameSent, Tally.sendFailure]

/-- A write is counted once, in the room and at its link, as what became of it. -/
theorem books_write (conn : ConnId) (frame : Text) :
    (r.write conn frame).2.books = r.books := by
  obtain ⟨hsent, hfailed, hreceived, hmalformed⟩ :=
    writeEnded_counts r.tally ((r.links conn).outcome frame)
  have htally : (r.write conn frame).2.tally =
      r.tally.writeEnded ((r.links conn).outcome frame) := rfl
  -- each number of logged writes grows by this one, if it is one of them
  have hlogged (p : ConnId × Text × Outcome → Prop) [DecidablePred p] :
      (r.write conn frame).2.written.countP (p ·) =
        r.written.countP (p ·) +
          if p (conn, frame, (r.links conn).outcome frame) then 1 else 0 := by
    simp [written_write, List.countP_append, List.countP_singleton]
  rw [books, books, htally, hreceived, hmalformed, hsent, hfailed]
  congr 1
  · rw [hlogged]
    exact sub_ofNat_add ..
  · rw [hlogged (¬ WasTaken ·)]
    exact sub_ofNat_add ..
  · funext c
    rw [tries_write, hlogged (·.1 = c), Int.natCast_add, Int.natCast_add]
    exact Int.add_sub_add_right ..
  · funext c
    rw [taken_write, hlogged fun w => w.1 = c ∧ WasTaken w, Int.natCast_add, Int.natCast_add]
    exact Int.add_sub_add_right ..
  · have hshut : (r.write conn frame).2.shut = r.shut :=
      List.filterMap_append.trans (List.append_nil _)
    funext c
    rw [closes_write, hshut]

/-- Talk keeps the books in order. -/
theorem Talks.books {r r' : Room} (h : Talks r r') : r'.books = r.books :=
  h.same (fun _ _ hq => hq.books) books_write

/-! ## The ends of sessions -/

/-- A closing is counted once at its link, which has been tried as many times as before. -/
theorem books_close (conn : ConnId) : (r.close conn).books = r.books := by
  have hwritten : (r.close conn).written = r.written :=
    List.filterMap_append.trans (List.append_nil _)
  have hshut : (r.close conn).shut = r.shut ++ [conn] := List.filterMap_append
  have hlinks : ∀ c, ((r.close conn).links c).tries = (r.links c).tries ∧
      ((r.close conn).links c).taken = (r.links c).taken ∧
      ((r.close conn).links c).closes = (r.links c).closes + [conn].count c := by
    intro c
    by_cases h : c = conn
    · subst h
      simp [close, record, Link.close]
    · simp [close, record, Links.set_of_ne _ _ h, Ne.symm h]
  rw [books, books, hwritten, hshut]
  congr 1
  · funext c
    rw [(hlinks c).1]
  · funext c
    rw [(hlinks c).2.1]
  · funext c
    rw [(hlinks c).2.2, List.count_append, Int.natCast_add, Int.natCast_add]
    exact Int.add_sub_add_right ..

theorem books_expel? (id : SessionId) :
    (((r.expel? id).map (·.2)).getD r).books = r.books := by
  unfold expel?
  cases r.roster.remove? id with
  | none => rfl
  | some p => exact books_close _ _

theorem books_disconnect? (id : SessionId) :
    (((r.disconnect? id).map (·.2)).getD r).books = r.books := by
  rw [← books_expel? r id, disconnect?]
  cases r.expel? id with
  | none => rfl
  | some p => exact (publish_quiet _ _).books

theorem books_connectionLost? (conn : ConnId) :
    (((r.connectionLost? conn).map (·.2)).getD r).books = r.books := by
  unfold connectionLost?
  cases r.roster.bound? conn with
  | none => rfl
  | some bound =>
    simp only [Option.bind_some, strike?]
    cases r.roster.remove? bound.id with
    | none => rfl
    | some p => exact (publish_quiet _ _).books

theorem books_partFrom (sessions : List Session) : (r.partFrom sessions).books = r.books :=
  partFrom_same books books_write books_close r sessions

theorem books_sweepStep (w : Sweep) : (Sweep.step r w).1.books = r.books := by
  unfold Sweep.step
  split
  · rfl
  · exact (announce_talks r _).books
  · rename_i s rest _ _
    have hline := (publish_quiet r (Sweep.lostLine s.name)).books
    simp only
    split
    · exact hline
    · exact (books_close _ _).trans hline
  · rfl

theorem books_sweepRun (n : Nat) : ∀ (r : Room) (w : Sweep),
    (Sweep.run n r w).1.books = r.books := by
  induction n with
  | zero => exact fun _ _ => rfl
  | succ n ih => exact fun r w => (ih _ _).trans (books_sweepStep r w)

/-! ## Frames -/

theorem books_handleUnregistered (conn : ConnId) (now : Nat) (message : Message) :
    (r.handleUnregistered conn now message).2.books = r.books := by
  cases message with
  | register id name =>
    simp only [handleUnregistered, register?]
    cases r.roster.register? id name conn now with
    | none => exact books_write _ conn _
    | some roster => rfl
  | _ => rfl

theorem books_handleActive (conn : ConnId) (now : Nat) (message : Message) :
    (r.handleActive conn now message).2.books = r.books := by
  cases message with
  | incoming id text =>
    simp only [handleActive]
    split
    · exact (converse_talks r _ text).books
    · rfl
  | logoff id =>
    have hends := books_expel? r id
    simp only [handleActive]
    cases he : r.expel? id with
    | none => rfl
    | some p =>
      rw [he] at hends
      exact hends
  | _ => rfl

/-- A frame is counted once, whatever it says and whatever stage it comes at, and once more if it
says nothing. -/
theorem books_handle (conn : ConnId) (stage : Stage) (raw : Text) (now : Nat) :
    (r.handle conn stage raw now).2.books = r.books.after [raw] := by
  unfold handle
  cases hraw : Message.parse raw with
  | error e =>
    have hbad : IsMalformed raw := by rw [IsMalformed, hraw]; rfl
    rw [Books.after_singleton, if_pos hbad]
    rfl
  | ok message =>
    have hgood : ¬ IsMalformed raw := by rw [IsMalformed, hraw]; exact nofun
    have hcounted : ({ r with tally := r.tally.frameReceived } : Room).books =
        r.books.after [raw] := by
      rw [Books.after_singleton, if_neg hgood]
      rfl
    rw [← hcounted]
    cases stage with
    | accepted => exact books_handleUnregistered _ conn now message
    | awaitingRegister => exact books_handleUnregistered _ conn now message
    | active => exact books_handleActive _ conn now message
    | closed => rfl

theorem books_dispatch (conn : ConnId) (stage : Stage) (raw : Text) (now : Nat) :
    (r.dispatch conn stage raw now).2.books = r.books.after [raw] :=
  (publishLeft_talks _ _).books.trans (books_handle r conn stage raw now)

end Same

/-! ## Runs -/

/-- The frame that a move brings in. -/
def Move.raw? : Move → Option Text
  | .frame _ _ raw _ => some raw
  | _ => none

theorem books_kept {r r' : Room} (h : r'.books = r.books) : r'.books = r.books.after [] :=
  h.trans r.books.after_nil.symm

theorem books_step (r : Room) (m : Move) :
    (r.step m).books = r.books.after m.raw?.toList := by
  cases m with
  | frame conn stage raw now => exact books_dispatch r conn stage raw now
  | register id name conn mark =>
    refine books_kept ?_
    simp only [step, register?]
    cases r.roster.register? id name conn mark <;> rfl
  | disconnect id => exact books_kept (books_disconnect? r id)
  | connectionLost conn => exact books_kept (books_connectionLost? r conn)
  | reap now threshold => exact books_kept (books_sweepRun _ r _)
  | disconnectAll => exact books_kept (books_partFrom _ _)
  | announce _ | tell _ _ | attach _ | guestFrame _ _ | detach _ | deliver _ _ | forward _
  | readNext _ | read _ | stopReading _ | publish _ | serve =>
    exact books_kept (Talks.books (step_talks r trivial))

/-- Something that the server does: a move, a message of its own, or a piece of one that others may
come between. -/
inductive Act where
  | move (m : Move)
  | broadcast (frame : Text) (sender : Option SessionId)
  | sendPrivate (sender target payload : Text)
  | write (conn : ConnId) (frame : Text)
  | close (conn : ConnId)
  | sweepStep (w : Sweep)
  deriving DecidableEq, Repr

/-- The frame that an act begins with. -/
def Act.raw? : Act → Option Text
  | .move m => m.raw?
  | _ => none

/-- One act. -/
def act (r : Room) : Act → Room
  | .move m => r.step m
  | .broadcast frame sender => (r.broadcast frame sender).2
  | .sendPrivate sender target payload => (r.sendPrivate sender target payload).2
  | .write conn frame => (r.write conn frame).2
  | .close conn => r.close conn
  | .sweepStep w => (Sweep.step r w).1

theorem books_act (r : Room) (a : Act) : (r.act a).books = r.books.after a.raw?.toList := by
  cases a with
  | move m => exact books_step r m
  | broadcast frame sender => exact books_kept (broadcast_talks r frame sender).books
  | sendPrivate sender target payload => exact books_kept (sendPrivate_talks r ..).books
  | write conn frame => exact books_kept (books_write r conn frame)
  | close conn => exact books_kept (books_close r conn)
  | sweepStep w => exact books_kept (books_sweepStep r w)

theorem books_acts (acts : List Act) : ∀ r : Room,
    (acts.foldl act r).books = r.books.after (acts.filterMap Act.raw?) := by
  induction acts with
  | nil => exact fun r => r.books.after_nil.symm
  | cons a rest ih =>
    intro r
    have hframes : (a :: rest).filterMap Act.raw? =
        a.raw?.toList ++ rest.filterMap Act.raw? := by
      cases h : a.raw? <;> simp [h]
    rw [List.foldl_cons, ih, books_act, hframes, Books.after_append]

/-! ## Taking leave of everybody -/

/-- Leave has been taken of some sessions, but for the links that are still to be closed: one
farewell has been tried on the link of each, whatever became of it, and the link closed. At every
moment of it, a link had been closed no more often than a farewell had been tried on it. -/
structure TakesLeave (sessions : List Session) (later : List ConnId) (events : List Event) :
    Prop where
  farewells : (events.filterMap Event.written?).map (fun w => (w.1, w.2.1)) =
    sessions.map fun s => (s.link, farewell)
  closings : (events.filterMap Event.closed? ++ later).Perm (sessions.map (·.link))
  inOrder : ∀ first, first <+: events → ∀ c, (first.filterMap Event.closed?).count c ≤
    (first.filterMap Event.written?).countP (·.1 = c)

namespace TakesLeave

variable {sessions : List Session} {later : List ConnId} {events : List Event}

theorem nothing : TakesLeave [] [] [] :=
  ⟨rfl, .refl _, fun first h c => by rw [List.prefix_nil.1 h]; exact Nat.le_refl _⟩

theorem inOrder_concat (h : TakesLeave sessions later events) {e : Event}
    (hall : ∀ c, ((events ++ [e]).filterMap Event.closed?).count c ≤
      ((events ++ [e]).filterMap Event.written?).countP (·.1 = c)) :
    ∀ first, first <+: events ++ [e] → ∀ c, (first.filterMap Event.closed?).count c ≤
      (first.filterMap Event.written?).countP (·.1 = c) := by
  intro first hfirst
  rcases List.prefix_concat_iff.1 hfirst with rfl | hfirst
  · exact hall
  · exact h.inOrder first hfirst

/-- On every link as many farewells have been tried as it has been closed and is still to be. -/
theorem countP_farewells (h : TakesLeave sessions later events) (c : ConnId) :
    (events.filterMap Event.written?).countP (·.1 = c) =
      (events.filterMap Event.closed?).count c + later.count c := by
  have hfarewells := congrArg (List.countP fun p : ConnId × Text => decide (p.1 = c)) h.farewells
  rw [List.countP_map, List.countP_map] at hfarewells
  rw [← List.count_append, h.closings.count_eq, List.count, List.countP_map]
  exact hfarewells

theorem tried (h : TakesLeave sessions later events) (s : Session) (outcome : Outcome) :
    TakesLeave (sessions ++ [s]) (later ++ [s.link])
      (events ++ [.wrote s.link farewell outcome]) := by
  have hclosed : (events ++ [Event.wrote s.link farewell outcome]).filterMap Event.closed? =
      events.filterMap Event.closed? := by
    rw [List.filterMap_append]
    exact List.append_nil _
  have hwritten : (events ++ [Event.wrote s.link farewell outcome]).filterMap Event.written? =
      events.filterMap Event.written? ++ [(s.link, farewell, outcome)] := List.filterMap_append
  refine ⟨?_, ?_, h.inOrder_concat fun c => ?_⟩
  · rw [hwritten, List.map_append, h.farewells, List.map_append]
    rfl
  · rw [hclosed, ← List.append_assoc, List.map_append]
    exact h.closings.append_right _
  · rw [hclosed, hwritten, List.countP_append, h.countP_farewells c]
    omega

theorem closed {conn : ConnId} (h : TakesLeave sessions (conn :: later) events) :
    TakesLeave sessions later (events ++ [.closed conn]) := by
  have hclosed : (events ++ [Event.closed conn]).filterMap Event.closed? =
      events.filterMap Event.closed? ++ [conn] := List.filterMap_append
  have hwritten : (events ++ [Event.closed conn]).filterMap Event.written? =
      events.filterMap Event.written? := by
    rw [List.filterMap_append]
    exact List.append_nil _
  refine ⟨?_, ?_, h.inOrder_concat fun c => ?_⟩
  · rw [hwritten]
    exact h.farewells
  · rw [hclosed, List.append_assoc]
    exact h.closings
  · rw [hclosed, hwritten, h.countP_farewells c, List.count_append]
    exact Nat.add_le_add_left ((List.singleton_sublist.2 List.mem_cons_self).count_le c) _

theorem perm {also : List ConnId} (h : TakesLeave sessions later events) (hp : also.Perm later) :
    TakesLeave sessions also events :=
  ⟨h.farewells, (hp.append_left _).trans h.closings, h.inOrder⟩

end TakesLeave

variable {r : Room}

theorem leave_takesLeave {done : List Session} {p : List ConnId × Room} {events : List Event}
    (hlog : p.2.log = r.log ++ events) (h : TakesLeave done p.1 events) (s : Session) :
    ∃ more, (leave p s).2.log = r.log ++ more ∧ TakesLeave (done ++ [s]) (leave p s).1 more := by
  have htried := h.tried s ((p.2.links s.link).outcome farewell)
  have hwritten : (p.2.write s.link farewell).2.log =
      r.log ++ (events ++ [.wrote s.link farewell ((p.2.links s.link).outcome farewell)]) := by
    rw [← List.append_assoc, ← hlog]
    rfl
  unfold leave
  simp only
  split
  · exact ⟨_, hwritten, htried⟩
  · refine ⟨_, ?_, (htried.perm (List.perm_append_singleton _ _).symm).closed⟩
    show (p.2.write s.link farewell).2.log ++ [.closed s.link] = _
    rw [hwritten, List.append_assoc]

theorem leaveAll_takesLeave (sessions : List Session) : ∀ {done : List Session}
    {p : List ConnId × Room} {events : List Event}, p.2.log = r.log ++ events →
    TakesLeave done p.1 events →
    ∃ more, (sessions.foldl leave p).2.log = r.log ++ more ∧
      TakesLeave (done ++ sessions) (sessions.foldl leave p).1 more := by
  induction sessions with
  | nil => exact fun {done} _ _ hlog h => ⟨_, hlog, (List.append_nil done).symm ▸ h⟩
  | cons s rest ih =>
    intro done p events hlog h
    obtain ⟨more, hmore, hs⟩ := leave_takesLeave hlog h s
    obtain ⟨all, hall, hrest⟩ := ih hmore hs
    exact ⟨all, hall, by rw [List.append_assoc] at hrest; exact hrest⟩

theorem closeAll_takesLeave {sessions : List Session} (later : List ConnId) : ∀ {q : Room}
    {events : List Event}, q.log = r.log ++ events → TakesLeave sessions later events →
    ∃ more, (later.foldl close q).log = r.log ++ more ∧ TakesLeave sessions [] more := by
  induction later with
  | nil => exact fun hlog h => ⟨_, hlog, h⟩
  | cons conn rest ih =>
    intro q events hlog h
    refine ih (q := q.close conn) ?_ h.closed
    show q.log ++ [.closed conn] = _
    rw [hlog, List.append_assoc]

/-- Whatever becomes of the farewells, leave is taken of each session once. -/
theorem partFrom_takesLeave (r : Room) (sessions : List Session) :
    ∃ events, (r.partFrom sessions).log = r.log ++ events ∧ TakesLeave sessions [] events := by
  obtain ⟨events, hlog, hleft⟩ := leaveAll_takesLeave sessions (r := r) (p := ([], r))
    (List.append_nil _).symm .nothing
  rw [partFrom_eq]
  exact closeAll_takesLeave _ hlog hleft

/-! ## What the counters say -/

theorem toNat_of_sub_ofNat {count : UInt64} {n : Nat} (h : count - .ofNat n = 0 - .ofNat 0) :
    count.toNat = n % UInt64.size := by
  have hcount : count = .ofNat n := by simpa [UInt64.sub_eq_iff_eq_add] using h
  rw [hcount, UInt64.toNat_ofNat']

/-- In any room whose counters are fresh, whatever is done and however the links behave, every
counter says how often it has happened what it counts, up to the 64 bits that it has: writes that
were taken in time, writes that failed or stalled, frames that came in, at any stage, and those of
them that say nothing. Each link has had the writes and the closings that are logged for it.
Whoever is there when everybody is disconnected at once is taken leave of once, before its link is
closed. -/
theorem counters_exact (room : Room) (acts : List Act) :
    let r := acts.foldl act { room with tally := {}, log := [] }
    let frames := acts.filterMap Act.raw?
    r.tally.framesSent.toNat = r.written.countP (WasTaken ·) % UInt64.size ∧
    r.tally.sendFailures.toNat = r.written.countP (¬ WasTaken ·) % UInt64.size ∧
    r.tally.framesReceived.toNat = frames.length % UInt64.size ∧
    r.tally.malformedFrames.toNat = frames.countP (IsMalformed ·) % UInt64.size ∧
    (∀ c, (r.links c).tries = (room.links c).tries + r.written.countP (·.1 = c) ∧
      (r.links c).taken =
        (room.links c).taken + (r.written.countP fun w => w.1 = c ∧ WasTaken w) ∧
      (r.links c).closes = (room.links c).closes + r.shut.count c) ∧
    (∃ events, r.disconnectAll.2.log = r.log ++ events ∧
      TakesLeave r.roster.sessions [] events) ∧
    ∀ s ∈ r.roster.sessions, (r.disconnectAll.2.links s.link).isClosed = true := by
  intro r frames
  have hbooks : r.books = _ := books_acts acts { room with tally := {}, log := [] }
  have hsent : r.tally.framesSent - .ofNat (r.written.countP (WasTaken ·)) = 0 - .ofNat 0 :=
    congrArg Books.sent hbooks
  have hfailed : r.tally.sendFailures - .ofNat (r.written.countP (¬ WasTaken ·)) = 0 - .ofNat 0 :=
    congrArg Books.failed hbooks
  have hreceived : r.tally.framesReceived = 0 + .ofNat frames.length :=
    congrArg Books.received hbooks
  have hmalformed : r.tally.malformedFrames = 0 + .ofNat (frames.countP (IsMalformed ·)) :=
    congrArg Books.malformed hbooks
  refine ⟨?_, ?_, ?_, ?_, fun c => ⟨?_, ?_, ?_⟩, ?_, fun s hs => ?_⟩
  · exact toNat_of_sub_ofNat hsent
  · exact toNat_of_sub_ofNat hfailed
  · rw [hreceived, UInt64.zero_add, UInt64.toNat_ofNat']
  · rw [hmalformed, UInt64.zero_add, UInt64.toNat_ofNat']
  · have htries : ((r.links c).tries : Int) - r.written.countP (·.1 = c) =
        (room.links c).tries - (0 : Nat) := congrFun (congrArg Books.tries hbooks) c
    omega
  · have htaken : ((r.links c).taken : Int) -
        (r.written.countP fun w => w.1 = c ∧ WasTaken w) = (room.links c).taken - (0 : Nat) :=
      congrFun (congrArg Books.taken hbooks) c
    omega
  · have hcloses : ((r.links c).closes : Int) - r.shut.count c =
        (room.links c).closes - (0 : Nat) := congrFun (congrArg Books.closes hbooks) c
    omega
  · exact partFrom_takesLeave { r with roster := r.roster.clear.2 } r.roster.sessions
  · have hclosed := isClosed_partFrom { r with roster := r.roster.clear.2 } r.roster.sessions s.link
    rw [decide_eq_true (List.mem_map_of_mem hs), Bool.true_or] at hclosed
    exact hclosed

end Parley.Room
