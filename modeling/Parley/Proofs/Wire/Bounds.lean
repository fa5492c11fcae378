/-
Reading frames within bounds. A decoder looks at parts of its buffer and cuts bytes off it; with
each of these checked, and the place up to which it looks computed in numbers that end somewhere,
one turn of its loop either does what a turn of `Decoder.decode` does or fails for good (`turn?`).
From wherever a decoder can come to stand, no check fails and the loop ends after a bounded number
of turns (`loop?_eq`), and while it waits it keeps no more than its limit (`reads_within_bounds`).

The invariant is the one by which a stream is followed (`Before`), whatever is asked for in between;
the count of dropped frames takes no part in any of it (`useAll_countingFrom`).
-/
import Parley.Proofs.Wire.Decode

namespace Parley.Wire

namespace Decoder

/-! ## Checked access -/

/-- The bytes of a buffer from one place up to another, if it reaches that far. -/
def slice? (buffer : List UInt8) (start stop : Nat) : Option (List UInt8) :=
  if start ≤ stop ∧ stop ≤ buffer.length then some ((buffer.take stop).drop start) else none

/-- A buffer in two parts, the first of a given length, if there are that many bytes. -/
def cut? (buffer : List UInt8) (length : Nat) : Option (List UInt8 × List UInt8) :=
  if length ≤ buffer.length then some (buffer.take length, buffer.drop length) else none

theorem slice?_of_le {buffer : List UInt8} {start stop : Nat} (h : start ≤ stop)
    (hstop : stop ≤ buffer.length) :
    slice? buffer start stop = some ((buffer.take stop).drop start) := if_pos ⟨h, hstop⟩

theorem cut?_of_le {buffer : List UInt8} {length : Nat} (h : length ≤ buffer.length) :
    cut? buffer length = some (buffer.take length, buffer.drop length) := if_pos h

/-! ## One turn of the loop -/

/-- What one turn comes to: another turn, or an answer. -/
inductive Turn where
  | again (d : Decoder) (buffer : List UInt8)
  | done (frame : Option Text) (d : Decoder) (buffer : List UInt8)
  deriving DecidableEq, Repr

/-- One turn of looking for the next frame. -/
def turn (d : Decoder) (buffer : List UInt8) : Turn :=
  match d.newlineAt buffer with
  | some i =>
    if d.discarding then
      .again { d with discarding := false, nextIndex := 0 } (buffer.drop (i + 1))
    else .done (some (frameText (buffer.take i))) { d with nextIndex := 0 } (buffer.drop (i + 1))
  | none =>
    if d.discarding then
      if exceeds buffer (d.maxLength + 1) then
        .again { d with nextIndex := 0 } (buffer.drop (d.maxLength + 1))
      else .done none { d with nextIndex := 0 } []
    else if exceeds buffer d.maxLength then
      .again { d with discarding := true, discarded := d.discarded + 1 } buffer
    else .done none { d with nextIndex := d.readTo buffer } buffer

/-- One turn, where no number is greater than `top` and one past that is `top` again. It fails if it
looks or cuts beyond the end of the buffer. -/
def turn? (top : Nat) (d : Decoder) (buffer : List UInt8) : Option Turn := do
  let readTo := min buffer.length (min (d.maxLength + 1) top)
  let unseen ← slice? buffer d.nextIndex readTo
  match d.discarding, unseen.findIdx? (· = newline) with
  | true, some offset =>
    let (_, rest) ← cut? buffer (d.nextIndex + offset + 1)
    return .again { d with discarding := false, nextIndex := 0 } rest
  | true, none =>
    let (_, rest) ← cut? buffer readTo
    if rest.isEmpty then return .done none { d with nextIndex := 0 } rest
    else return .again { d with nextIndex := 0 } rest
  | false, some offset =>
    let (line, rest) ← cut? buffer (d.nextIndex + offset + 1)
    let frame ← slice? line 0 (d.nextIndex + offset)
    return .done (some (frameText frame)) { d with nextIndex := 0 } rest
  | false, none =>
    if buffer.length > d.maxLength then
      return .again { d with discarding := true, discarded := d.discarded + 1 } buffer
    else return .done none { d with nextIndex := readTo } buffer

section Turns

variable {top : Nat} {d : Decoder} {buffer : List UInt8}

/-- Decoding is one turn after the other. -/
theorem decode_eq_turn (d : Decoder) (buffer : List UInt8) :
    d.decode buffer = match d.turn buffer with
      | .again d' rest => d'.decode rest
      | .done frame d' rest => (frame, d', rest) := by
  rw [decode, turn]
  split <;> rename_i found <;> simp only [found]
  · split <;> rfl
  · split
    · split <;> rfl
    · split <;> rfl

/-- Another turn has less to do, in a buffer that has not grown, and has looked no further in it
than it may. -/
theorem of_turn_again {d' : Decoder} {rest : List UInt8} (h : d.turn buffer = .again d' rest) :
    d'.work rest < d.work buffer ∧ rest.length ≤ buffer.length ∧
      (d.nextIndex ≤ d.readTo buffer → d'.nextIndex ≤ d'.readTo rest) := by
  unfold turn at h
  split at h
  · rename_i i found
    have hlt := (newlineAt_lt found).2
    split at h
    · rename_i dropping
      cases h
      simp only [work, dropping, List.length_drop, if_true, Bool.false_eq_true, if_false]
      exact ⟨by omega, by omega, fun _ => Nat.zero_le _⟩
    · cases h
  · split at h
    · rename_i dropping
      split at h
      · rename_i more
        cases h
        rw [exceeds_iff] at more
        simp only [work, dropping, List.length_drop, if_true]
        exact ⟨by omega, by omega, fun _ => Nat.zero_le _⟩
      · cases h
    · rename_i keeping
      split at h
      · -- the buffer stays as it is, but dropping begins, which it does only once
        cases h
        simp only [work, if_neg keeping, if_true]
        exact ⟨by omega, Nat.le_refl _, id⟩
      · cases h

/-! ### Within bounds -/

/-- Where numbers end makes no difference to a buffer that is no longer than that. -/
theorem saturating_eq_readTo (htop : buffer.length ≤ top) :
    min buffer.length (min (d.maxLength + 1) top) = d.readTo buffer := by
  rw [readTo]; omega

theorem slice?_unseen (hindex : d.nextIndex ≤ d.readTo buffer) :
    slice? buffer d.nextIndex (d.readTo buffer) =
      some ((buffer.take (d.maxLength + 1)).drop d.nextIndex) := by
  rw [slice?_of_le hindex (Nat.min_le_left ..), readTo, Nat.min_comm, ← List.take_eq_take_min]

/-- As many bytes as a decoder looks at can be cut off. -/
theorem cut?_readTo (d : Decoder) (buffer : List UInt8) :
    cut? buffer (d.readTo buffer) =
      some (buffer.take (d.readTo buffer), buffer.drop (d.maxLength + 1)) := by
  rw [cut?_of_le (show d.readTo buffer ≤ buffer.length from Nat.min_le_left ..)]
  by_cases hlong : d.maxLength + 1 ≤ buffer.length
  · rw [readTo, Nat.min_eq_right hlong]
  · rw [readTo, Nat.min_eq_left (by omega), List.drop_length, List.drop_of_length_le (by omega)]

/-- A turn stays within bounds if no more has been looked at than may be. -/
theorem turn?_eq (htop : buffer.length ≤ top) (hindex : d.nextIndex ≤ d.readTo buffer) :
    d.turn? top buffer = some (d.turn buffer) := by
  cases found : d.newlineAt buffer with
  | some i =>
    have hlt := (newlineAt_lt found).2
    obtain ⟨offset, hoffset, rfl⟩ := Option.map_eq_some_iff.1 found
    have hline : slice? (buffer.take (d.nextIndex + offset + 1)) 0 (d.nextIndex + offset) =
        some (buffer.take (d.nextIndex + offset)) := by
      rw [slice?_of_le (Nat.zero_le _) (by rw [List.length_take]; omega), List.drop_zero,
        List.take_take, Nat.min_eq_left (Nat.le_succ _)]
    cases hd : d.discarding <;>
      simp [turn?, turn, found, saturating_eq_readTo htop, slice?_unseen hindex, hoffset, hd,
        cut?_of_le hlt, hline]
  | none =>
    have hnone := Option.map_eq_none_iff.1 found
    cases hd : d.discarding with
    | true =>
      by_cases hmore : exceeds buffer (d.maxLength + 1) = true
      · have hrest : buffer.drop (d.maxLength + 1) ≠ [] := by simpa [exceeds] using hmore
        simp [turn?, turn, found, saturating_eq_readTo htop, slice?_unseen hindex, hnone, hd,
          cut?_readTo, hmore, hrest]
      · have hrest : buffer.drop (d.maxLength + 1) = [] := by simpa [exceeds] using hmore
        simp [turn?, turn, found, saturating_eq_readTo htop, slice?_unseen hindex, hnone, hd,
          cut?_readTo, hmore, hrest]
    | false =>
      simp only [turn?, turn, found, saturating_eq_readTo htop, slice?_unseen hindex, hd]
      by_cases hmore : d.maxLength < buffer.length <;> simp [hnone, hmore]

end Turns

/-! ## The loop -/

/-- The loop, for at most a number of turns. -/
def loop? (top : Nat) : Nat → Decoder → List UInt8 → Option (Option Text × Decoder × List UInt8)
  | 0, _, _ => none
  | turns + 1, d, buffer =>
    match d.turn? top buffer with
    | some (.again d buffer) => loop? top turns d buffer
    | some (.done frame d buffer) => some (frame, d, buffer)
    | none => none

/-- Where no more has been looked at than may be, the loop ends with the answer of `decode`, and
after no more turns than there is work to do and one. -/
theorem loop?_eq {top : Nat} (turns : Nat) : ∀ {d : Decoder} {buffer : List UInt8},
    buffer.length ≤ top → d.nextIndex ≤ d.readTo buffer → d.work buffer < turns →
      loop? top turns d buffer = some (d.decode buffer) := by
  induction turns with
  | zero => exact fun _ _ hturns => absurd hturns (Nat.not_lt_zero _)
  | succ turns ih =>
    intro d buffer htop hindex hturns
    rw [loop?, turn?_eq htop hindex, decode_eq_turn]
    cases hturn : d.turn buffer with
    | done frame d' rest => rfl
    | again d' rest =>
      obtain ⟨hless, hshort, hrest⟩ := of_turn_again hturn
      exact ih (Nat.le_trans hshort htop) (hrest hindex) (by omega)

/-! ## Any use of a decoder -/

/-- What is done with a decoder and its buffer: bytes are appended, or the next frame is asked for,
while more bytes may come or once none do. -/
inductive Use where
  | append (bytes : List UInt8)
  | decode
  | decodeEnd
  deriving DecidableEq, Repr

/-- The answer to a use, and what it leaves. -/
def use (d : Decoder) (buffer : List UInt8) : Use → Option Text × Decoder × List UInt8
  | .append bytes => (none, d, buffer ++ bytes)
  | .decode => d.decode buffer
  | .decodeEnd => d.decodeEnd buffer

/-- The answers to several uses, one after the other, and what they leave. -/
def useAll (d : Decoder) (buffer : List UInt8) :
    List Use → List (Option Text) × Decoder × List UInt8
  | [] => ([], d, buffer)
  | u :: rest =>
    let (answer, d, buffer) := d.use buffer u
    let (answers, d, buffer) := d.useAll buffer rest
    (answer :: answers, d, buffer)

/-! ### Where a decoder can stand -/

/-- A decoder and its buffer stand somewhere in some stream. -/
def Stands (limit : Nat) (d : Decoder) (buffer : List UInt8) : Prop :=
  ∃ passed s, Before limit passed s d buffer

section Stands

variable {limit : Nat} {d : Decoder} {buffer : List UInt8}

/-- A decoder that is as new but for its count stands at the start of a stream. -/
theorem stands_counted (limit counted : Nat) :
    Stands limit { maxLength := limit, discarded := counted } [] :=
  ⟨counted, [], before_start limit counted []⟩

theorem Stands.decode (h : Stands limit d buffer) :
    Stands limit (d.decode buffer).2.1 (d.decode buffer).2.2 := by
  obtain ⟨passed, s, hb⟩ := h
  obtain ⟨segments, s', -, -, -, hb', -⟩ := decode_before hb
  exact ⟨_, s', hb'⟩

/-- Without a frame, a decoder waits: it keeps an unfinished line within the limit, or nothing if
it is dropping one. -/
theorem Stands.waits (h : Stands limit d buffer) (hnone : (d.decode buffer).1 = none) :
    newline ∉ (d.decode buffer).2.2 ∧ (d.decode buffer).2.2.length ≤ limit ∧
      ((d.decode buffer).2.1.discarding = true → (d.decode buffer).2.2 = []) := by
  obtain ⟨passed, s, hb⟩ := h
  obtain ⟨segments, s', -, -, -, -, hrest⟩ := decode_before hb
  obtain ⟨hopen, hrest⟩ := hrest hnone
  rw [hrest, resting]
  split
  · rename_i hle
    exact ⟨hopen, hle, fun hd => by cases hd⟩
  · exact ⟨List.not_mem_nil, Nat.zero_le _, fun _ => rfl⟩

/-- At the end of the bytes a decoder gives the frame that `decode` finds or, if there is none, the
rest; then nothing is left, and it is as new but for its count. -/
theorem Stands.decodeEnd (h : Stands limit d buffer) :
    ((d.decode buffer).1 ≠ none ∧ d.decodeEnd buffer = d.decode buffer) ∨
      (d.decodeEnd buffer).2 =
        ({ maxLength := limit, discarded := (d.decode buffer).2.1.discarded }, []) := by
  obtain ⟨passed, s, hb⟩ := h.decode
  have hlimit := hb.maxLength
  unfold Decoder.decodeEnd
  generalize d.decode buffer = answer at hlimit ⊢
  obtain ⟨frame, d', rest⟩ := answer
  cases frame with
  | some frame => exact .inl ⟨Option.some_ne_none frame, rfl⟩
  | none =>
    refine .inr ?_
    simp only at hlimit ⊢
    rw [← hlimit]
    split
    · rfl
    · rename_i hkept
      simp only [Bool.or_eq_true, not_or, Bool.not_eq_true] at hkept
      rw [hkept.2]

theorem Stands.use (h : Stands limit d buffer) (u : Use) :
    Stands limit (d.use buffer u).2.1 (d.use buffer u).2.2 := by
  cases u with
  | append bytes =>
    obtain ⟨passed, s, hb⟩ := h
    exact ⟨passed, s ++ bytes, hb.append bytes⟩
  | decode => exact h.decode
  | decodeEnd =>
    show Stands limit (d.decodeEnd buffer).2.1 (d.decodeEnd buffer).2.2
    rcases h.decodeEnd with ⟨-, hsame⟩ | hend
    · rw [hsame]
      exact h.decode
    · rw [hend]
      exact stands_counted limit _

theorem Stands.useAll (uses : List Use) : ∀ {d : Decoder} {buffer : List UInt8},
    Stands limit d buffer → Stands limit (d.useAll buffer uses).2.1 (d.useAll buffer uses).2.2 := by
  induction uses with
  | nil => exact fun h => h
  | cons u rest ih => exact fun h => ih (h.use u)

end Stands

/-! ### The count takes no part -/

/-- A decoder that has dropped some frames before. -/
def countingFrom (d : Decoder) (counted : Nat) : Decoder :=
  { d with discarded := counted + d.discarded }

/-- An answer, and a decoder that has dropped some frames before. -/
def recounted {α : Type} (counted : Nat) (p : α × Decoder × List UInt8) :
    α × Decoder × List UInt8 :=
  (p.1, p.2.1.countingFrom counted, p.2.2)

section Counting

variable (counted : Nat)

theorem turn_countingFrom (d : Decoder) (buffer : List UInt8) :
    (d.countingFrom counted).turn buffer = match d.turn buffer with
      | .again d' rest => .again (d'.countingFrom counted) rest
      | .done frame d' rest => .done frame (d'.countingFrom counted) rest := by
  have hfound : (d.countingFrom counted).newlineAt buffer = d.newlineAt buffer := rfl
  rw [turn, turn, hfound]
  cases d.newlineAt buffer with
  | some i => cases hd : d.discarding <;> simp [countingFrom, hd]
  | none =>
    cases hd : d.discarding with
    | true => by_cases hmore : d.maxLength + 1 < buffer.length <;> simp [countingFrom, hd, hmore]
    | false =>
      by_cases hmore : d.maxLength < buffer.length <;>
        simp [countingFrom, readTo, hd, hmore, Nat.add_assoc]

theorem decode_countingFrom (d : Decoder) (buffer : List UInt8) :
    (d.countingFrom counted).decode buffer = recounted counted (d.decode buffer) := by
  induction hn : d.work buffer using Nat.strongRecOn generalizing d buffer with
  | _ n ih =>
    rw [decode_eq_turn, decode_eq_turn d, turn_countingFrom]
    cases hturn : d.turn buffer with
    | done frame d' rest => rfl
    | again d' rest => exact ih _ (hn ▸ (of_turn_again hturn).1) d' rest rfl

theorem decodeEnd_countingFrom (d : Decoder) (buffer : List UInt8) :
    (d.countingFrom counted).decodeEnd buffer = recounted counted (d.decodeEnd buffer) := by
  rw [decodeEnd, decodeEnd, decode_countingFrom]
  obtain ⟨frame, d', rest⟩ := d.decode buffer
  cases frame with
  | some frame => rfl
  | none =>
    show (if (rest = [] || d'.discarding) = true then _ else _) =
      recounted counted (if _ then _ else _)
    split <;> rfl

theorem useAll_countingFrom (uses : List Use) : ∀ (d : Decoder) (buffer : List UInt8),
    (d.countingFrom counted).useAll buffer uses = recounted counted (d.useAll buffer uses) := by
  induction uses with
  | nil => exact fun d buffer => rfl
  | cons u rest ih =>
    intro d buffer
    have huse : (d.countingFrom counted).use buffer u = recounted counted (d.use buffer u) := by
      cases u with
      | append bytes => rfl
      | decode => exact decode_countingFrom counted d buffer
      | decodeEnd => exact decodeEnd_countingFrom counted d buffer
    rw [useAll, useAll, huse]
    simp only [recounted, ih]

end Counting

/-! ## Within bounds, whatever is asked -/

/-- Whatever bytes come in, and whenever frames are asked for in between: a decoder has looked no
further than one byte past its limit and the end of its buffer, even where numbers end at the
length of the buffer, and no look and no cut of its loop goes beyond the buffer. The loop ends. When
there is no frame, what is left is an unfinished line within the limit, and nothing if a line is
being dropped. When there is none at the end of the bytes, nothing is left, and from then on the
decoder does what a new one does, and counts on. -/
theorem reads_within_bounds (limit : Nat) (uses : List Use) :
    let (_, d, buffer) := (new limit).useAll [] uses
    (∀ top, buffer.length ≤ top → d.nextIndex ≤ min buffer.length (min (limit + 1) top) ∧
      ∀ turns, d.work buffer < turns → loop? top turns d buffer = some (d.decode buffer)) ∧
    (∀ d' rest, d.decode buffer = (none, d', rest) →
      newline ∉ rest ∧ rest.length ≤ limit ∧ (d'.discarding = true → rest = [])) ∧
    ∀ d' rest, d.decodeEnd buffer = (none, d', rest) → rest = [] ∧
      ∀ more, d'.useAll rest more =
        let (answers, e, left) := (new limit).useAll [] more
        (answers, { e with discarded := d'.discarded + e.discarded }, left) := by
  have h : Stands limit ((new limit).useAll [] uses).2.1 ((new limit).useAll [] uses).2.2 :=
    (stands_counted limit 0).useAll uses
  generalize (new limit).useAll [] uses = state at h
  obtain ⟨answers, d, buffer⟩ := state
  simp only at h ⊢
  refine ⟨fun top htop => ?_, fun d' rest hdecode => ?_, fun d' rest hend => ?_⟩
  · obtain ⟨passed, s, hb⟩ := h
    have hindex := hb.index
    refine ⟨?_, fun turns hturns => loop?_eq turns htop hindex hturns⟩
    rw [← saturating_eq_readTo htop, hb.maxLength] at hindex
    exact hindex
  · have hwaits := h.waits (by rw [hdecode])
    rwa [hdecode] at hwaits
  · rcases h.decodeEnd with ⟨hframe, hsame⟩ | hnew
    · rw [hend] at hsame
      exact absurd (by rw [← hsame]) hframe
    · rw [hend] at hnew
      obtain ⟨rfl, rfl⟩ := Prod.mk.inj hnew
      exact ⟨rfl, fun more => useAll_countingFrom _ more (new limit) []⟩

/-- With the greatest limit there is, a line is read and what follows it is kept; with none, the
first byte begins an over-long line, the rest of which is dropped at the end. -/
theorem reads_within_bounds_at_extremes :
    let top := UInt64.size - 1
    let line : List UInt8 := [97, 98, 10, 99]
    let dropping : Decoder := { maxLength := 0, discarding := true, discarded := 1 }
    line.length ≤ top ∧ (new top).decode line = (some "ab".toList, new top, [99]) ∧
    (new 0).decode [97] = (none, dropping, []) ∧
    (new 0).decodeEnd [97] = (none, { maxLength := 0, discarded := 1 }, []) ∧
    ∀ more, ({ maxLength := 0, discarded := 1 } : Decoder).useAll [] more =
      let (answers, e, left) := (new 0).useAll [] more
      (answers, { e with discarded := 1 + e.discarded }, left) := by
  intro top line dropping
  obtain ⟨hgreatest, -, -⟩ := reads_within_bounds top [.append line]
  obtain ⟨hleast, -, hend⟩ := reads_within_bounds 0 [.append [97]]
  have hline : loop? top 10 (new top) line = some (some "ab".toList, new top, [99]) := by decide
  have hbyte : loop? top 4 (new 0) [97] = some (none, dropping, []) := by decide
  have hread := (hgreatest top (by decide)).2 10 (by decide)
  have hdrop := (hleast top (by decide)).2 4 (by decide)
  have hdecode : (new 0).decode [97] = (none, dropping, []) :=
    Option.some.inj (hdrop.symm.trans hbyte)
  have hover : (new 0).decodeEnd [97] = (none, { maxLength := 0, discarded := 1 }, []) := by
    rw [decodeEnd, hdecode]
    rfl
  exact ⟨by decide, Option.some.inj (hread.symm.trans hline), hdecode, hover, (hend _ _ hover).2⟩

end Decoder
end Parley.Wire
