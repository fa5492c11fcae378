/-
What a frame from a connection does to the stage of the connection and to the bindings of sessions.
A registration binds the connection that it came from, and makes it active; the logoff of its own
session ends that binding, and the connection is over; everything else at most ends bindings of
others (`dispatch_rebinds`).
-/
import Parley.Proofs.Room.Bindings

namespace Parley.Room

/-- What a frame from a connection does, by the stages before and after it. -/
inductive Rebinds (r : Room) (conn : ConnId) : Stage → Stage → Room → Prop where
  | begins {stage : Stage} {r' : Room} (unregistered : stage = .accepted ∨ stage = .awaitingRegister)
      (wf : r'.roster.WF) (bound : r'.boundLinks = r.boundLinks ++ [conn])
      (same : ∀ c, (r'.links c).isClosed = (r.links c).isClosed) : Rebinds r conn stage .active r'
  | asked {stage : Stage} {r' : Room} (unregistered : stage = .accepted ∨ stage = .awaitingRegister)
      (only : OnlyUnbinds r r') : Rebinds r conn stage .awaitingRegister r'
  | stays {stage : Stage} {r' : Room} (only : OnlyUnbinds r r') : Rebinds r conn stage stage r'
  | ends {r' : Room} (only : OnlyUnbinds r r')
      (unbound : r.boundLinks.Nodup → conn ∉ r'.boundLinks) : Rebinds r conn .active .closed r'

theorem Rebinds.of_tally {r r' : Room} (hw : r.roster.WF) (tally : Tally) {conn : ConnId}
    {before after : Stage} (h : Rebinds { r with tally } conn before after r') :
    Rebinds r conn before after r' := by
  have h0 := tally_onlyUnbinds hw tally
  cases h with
  | begins unregistered wf bound same => exact .begins unregistered wf bound same
  | asked unregistered only => exact .asked unregistered (h0.trans only)
  | stays only => exact .stays (h0.trans only)
  | ends only unbound => exact .ends (h0.trans only) unbound

theorem Rebinds.publishLeft {r r' : Room} {conn : ConnId} {before after : Stage}
    (h : Rebinds r conn before after r') (line : Option Text) :
    Rebinds r conn before after (r'.publishLeft line) := by
  obtain ⟨feed, log, hp⟩ := publishLeft_eq r' line
  rw [hp]
  have hlast : r'.roster.WF → OnlyUnbinds r' { r' with feed, log } :=
    fun hw => .of_same hw rfl fun _ => rfl
  cases h with
  | begins unregistered wf bound same => exact .begins unregistered wf bound same
  | asked unregistered only => exact .asked unregistered (only.trans (hlast only.wf))
  | stays only => exact .stays (only.trans (hlast only.wf))
  | ends only unbound => exact .ends (only.trans (hlast only.wf)) unbound

theorem handleUnregistered_rebinds {r : Room} (hw : r.roster.WF) (conn : ConnId) (now : Nat)
    (message : Wire.Message) {stage : Stage} (hs : stage = .accepted ∨ stage = .awaitingRegister) :
    Rebinds r conn stage (r.handleUnregistered conn now message).1.stage
      (r.handleUnregistered conn now message).2 := by
  unfold handleUnregistered
  split
  · rename_i id name
    split
    · rename_i r1 h
      obtain ⟨roster, hr, rfl⟩ := Option.map_eq_some_iff.1 h
      refine .begins hs (Roster.register?_wf hw hr) ?_ fun _ => rfl
      obtain ⟨-, -, rfl⟩ := Roster.register?_some hr
      simp [boundLinks]
    · have h0 := tally_onlyUnbinds hw r.tally.registrationRejected
      exact .asked hs (h0.trans ((write_onlyWrites _ conn _).onlyUnbinds hw))
  · exact .asked hs (.refl hw)

theorem handleActive_rebinds {r : Room} (hw : r.roster.WF) (conn : ConnId) (now : Nat)
    (message : Wire.Message) :
    Rebinds r conn .active (r.handleActive conn now message).1.stage
      (r.handleActive conn now message).2 := by
  unfold handleActive
  split
  · rename_i id text
    split
    · exact .stays (converse_onlyUnbinds hw ..)
    · exact .stays (.refl hw)
  · rename_i id
    split
    · rename_i s r1 h
      have h1 := expel?_onlyUnbinds hw h
      -- any connection may end any session, but only its own ending takes it along
      by_cases hl : s.link = conn
      · simp only [hl, if_true]
        exact .ends h1 fun once => hl ▸ expel?_unbinds h once
      · simp only [hl, if_false]
        exact .stays h1
    · exact .stays (.refl hw)
  · exact .stays (touch_onlyUnbinds hw ..)
  · exact .stays (.refl hw)

theorem handle_rebinds {r : Room} (hw : r.roster.WF) (conn : ConnId) (stage : Stage) (raw : Text)
    (now : Nat) :
    Rebinds r conn stage (r.handle conn stage raw now).1.stage (r.handle conn stage raw now).2 := by
  unfold handle
  simp only
  split
  · exact .stays (tally_onlyUnbinds hw _)
  · rename_i message _
    -- by now the frame is counted, which the bindings do not depend on
    apply Rebinds.of_tally hw r.tally.frameReceived
    have hw : ({ r with tally := r.tally.frameReceived } : Room).roster.WF := hw
    cases stage with
    | accepted => exact handleUnregistered_rebinds hw conn now message (.inl rfl)
    | awaitingRegister => exact handleUnregistered_rebinds hw conn now message (.inr rfl)
    | active => exact handleActive_rebinds hw conn now message
    | closed => exact .stays (.refl hw)

theorem dispatch_rebinds {r : Room} (hw : r.roster.WF) (conn : ConnId) (stage : Stage) (raw : Text)
    (now : Nat) :
    Rebinds r conn stage (r.dispatch conn stage raw now).1 (r.dispatch conn stage raw now).2 :=
  (handle_rebinds hw conn stage raw now).publishLeft _

end Parley.Room
