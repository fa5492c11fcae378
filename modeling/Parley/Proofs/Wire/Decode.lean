/-
Reading a byte stream in chunks gives the frames of its segments, wherever the cuts fall. After
each chunk the decoder has given every frame whose line end has come, and where it then stands
depends on nothing but the bytes read so far (`readChunks_resting`).

The proof follows a decoder through what is left of the stream from the start of a segment on
(`Before`): its buffer is the end of that, and the bytes that have left the buffer belong to a
segment that is over-long and already counted.
-/
import Parley.Proofs.Wire.Segments

namespace Parley.Wire

namespace Decoder

/-! ## Looking for a line end -/

theorem newline_not_mem_of_newlineAt {d : Decoder} {buffer : List UInt8}
    (seen : newline ∉ buffer.take d.nextIndex) (h : d.newlineAt buffer = none) :
    newline ∉ buffer.take (d.maxLength + 1) := by
  rw [newlineAt, Option.map_eq_none_iff, List.findIdx?_eq_none_iff] at h
  intro hm
  rw [← List.take_append_drop d.nextIndex (buffer.take (d.maxLength + 1)), List.mem_append] at hm
  rcases hm with hm | hm
  · rw [List.take_take] at hm
    exact seen (List.take_subset_take_left buffer (Nat.min_le_left ..) hm)
  · simpa using h _ hm

/-- The line end that is found closes the first segment of the buffer, which is within the limit
or longer by less than the decoder looks. -/
theorem exists_segment_of_newlineAt {d : Decoder} {buffer : List UInt8} {i : Nat}
    (seen : newline ∉ buffer.take d.nextIndex) (h : d.newlineAt buffer = some i) :
    newline ∉ buffer.take i ∧ i ≤ d.maxLength ∧
      buffer = buffer.take i ++ newline :: buffer.drop (i + 1) := by
  obtain ⟨hi, hlen⟩ := newlineAt_lt h
  obtain ⟨j, hj, rfl⟩ := Option.map_eq_some_iff.1 h
  obtain ⟨hjl, hjn, hjmin⟩ := List.findIdx?_eq_some_iff_getElem.1 hj
  have hat : buffer[d.nextIndex + j] = newline := by simpa using hjn
  refine ⟨fun hm => ?_, by simp only [readTo] at hi; omega, ?_⟩
  · obtain ⟨k, hk, hkn⟩ := List.getElem_of_mem hm
    simp only [List.length_take, List.getElem_take] at hk hkn
    by_cases hkd : k < d.nextIndex
    · exact seen (List.mem_take_iff_getElem.2 ⟨k, by omega, hkn⟩)
    · have := hjmin (k - d.nextIndex) (by omega)
      simp only [List.getElem_drop, List.getElem_take, decide_eq_true_eq] at this
      exact this (by simpa [Nat.add_sub_cancel' (Nat.le_of_not_lt hkd)] using hkn)
  · rw [← hat, ← List.drop_eq_getElem_cons hlen, List.take_append_drop]

/-! ## Where a decoder stands -/

/-- A decoder and its buffer stand before `s`, what is left of a stream from the start of a segment
on, with `passed` over-long segments behind them: the buffer is the end of `s`, and the bytes of `s`
that have left it belong to its first segment, which is being dropped because it is over-long. -/
structure Before (limit passed : Nat) (s : List UInt8) (d : Decoder) (buffer : List UInt8) :
    Prop where
  maxLength : d.maxLength = limit
  gone : ∃ dropped, s = dropped ++ buffer ∧ newline ∉ dropped ∧
    (d.discarding = false → dropped = [])
  long : d.discarding = true → newline ∉ s.take (limit + 1) ∧ limit < s.length
  index : d.nextIndex ≤ d.readTo buffer
  seen : newline ∉ buffer.take d.nextIndex
  count : d.discarded = passed + d.discarding.toNat

/-- Where a decoder waits for more bytes, when `s` is open: the bytes of an over-long segment have
been dropped, any others are kept, and all of them have been looked at. -/
def resting (limit passed : Nat) (s : List UInt8) : Decoder × List UInt8 :=
  if s.length ≤ limit then
    ({ maxLength := limit, nextIndex := s.length, discarded := passed }, s)
  else ({ maxLength := limit, discarding := true, discarded := passed + 1 }, [])

theorem before_start (limit passed : Nat) (s : List UInt8) :
    Before limit passed s { maxLength := limit, discarded := passed } s :=
  ⟨rfl, ⟨[], rfl, by simp, fun _ => rfl⟩, nofun, Nat.zero_le _, by simp, rfl⟩

theorem before_resting {s : List UInt8} (h : newline ∉ s) (limit passed : Nat) :
    Before limit passed s (resting limit passed s).1 (resting limit passed s).2 := by
  unfold resting
  split
  · refine ⟨rfl, ⟨[], rfl, by simp, fun _ => rfl⟩, (fun hd => by cases hd), ?_, ?_, rfl⟩
    · simp only [readTo]; omega
    · exact fun hm => h (List.mem_of_mem_take hm)
  · refine ⟨rfl, ⟨s, (List.append_nil s).symm, h, fun hk => by cases hk⟩, fun _ => ⟨?_, ?_⟩,
      Nat.zero_le _, by simp, rfl⟩
    · exact fun hm => h (List.mem_of_mem_take hm)
    · omega

/-- More bytes do not move a decoder. -/
theorem Before.append {limit passed : Nat} {s : List UInt8} {d : Decoder} {buffer : List UInt8}
    (h : Before limit passed s d buffer) (chunk : List UInt8) :
    Before limit passed (s ++ chunk) d (buffer ++ chunk) := by
  obtain ⟨dropped, hs, hdropped, hnil⟩ := h.gone
  have hindex : d.nextIndex ≤ buffer.length ∧ d.nextIndex ≤ d.maxLength + 1 :=
    Nat.le_min.1 h.index
  refine ⟨h.maxLength, ⟨dropped, by rw [hs, List.append_assoc], hdropped, hnil⟩, fun hd => ?_,
    ?_, ?_, h.count⟩
  · obtain ⟨hno, hlong⟩ := h.long hd
    rw [List.take_append_of_le_length hlong, List.length_append]
    exact ⟨hno, by omega⟩
  · simp only [readTo, List.length_append]; omega
  · rw [List.take_append_of_le_length hindex.1]
    exact h.seen

/-- A segment that is being dropped is over-long. -/
theorem Before.lt_length {limit passed : Nat} {first rest : List UInt8} {d : Decoder}
    {buffer : List UInt8} (h : Before limit passed (first ++ newline :: rest) d buffer)
    (hd : d.discarding = true) : limit < first.length := by
  refine Nat.lt_of_not_le fun hle => (h.long hd).1 ?_
  rw [List.take_append, List.mem_append,
    show limit + 1 - first.length = limit - first.length + 1 by omega]
  exact .inr (by simp)

/-- What one reading of the next frame does: it passes segments, of which the frame is the only one
within the limit; without a frame it has passed every closed one and waits. -/
theorem decode_before {d : Decoder} {buffer : List UInt8} :
    ∀ {limit passed : Nat} {s : List UInt8}, Before limit passed s d buffer →
    ∃ segments s', closedSegments s = segments ++ closedSegments s' ∧
      openSegment s = openSegment s' ∧ framesOf limit segments = (d.decode buffer).1.toList ∧
      Before limit (passed + overlong limit segments) s' (d.decode buffer).2.1
        (d.decode buffer).2.2 ∧
      ((d.decode buffer).1 = none → newline ∉ s' ∧
        (d.decode buffer).2 = resting limit (passed + overlong limit segments) s') := by
  fun_induction decode d buffer with
  | case1 d buffer i found dropping ih =>
    -- the segment that was being dropped ends here
    intro limit passed s h
    obtain ⟨hno, -, hb⟩ := exists_segment_of_newlineAt h.seen found
    obtain ⟨dropped, hs, hdropped, -⟩ := h.gone
    rw [hb, ← List.append_assoc] at hs
    subst hs
    have hlt := h.lt_length dropping
    have hcount := h.count
    rw [dropping] at hcount
    have hstart : Before limit (passed + 1) (buffer.drop (i + 1))
        { d with discarding := false, nextIndex := 0 } (buffer.drop (i + 1)) := by
      rw [hcount, h.maxLength]; exact before_start ..
    obtain ⟨segments, s', hc, ho, hf, hB, hnone⟩ := ih hstart
    have hfirst : newline ∉ dropped ++ buffer.take i := by simp [hdropped, hno]
    obtain ⟨hc', ho'⟩ := closed_open_cons hfirst (buffer.drop (i + 1))
    have hover : passed + overlong limit ((dropped ++ buffer.take i) :: segments) =
        passed + 1 + overlong limit segments := by
      rw [overlong_cons, if_pos hlt]; omega
    refine ⟨(dropped ++ buffer.take i) :: segments, s', by rw [hc', hc]; rfl, ho'.trans ho,
      ?_, ?_, ?_⟩
    · rw [framesOf_cons, if_neg (by omega), hf]; rfl
    · rw [hover]; exact hB
    · rw [hover]; exact hnone
  | case2 d buffer i found keeping =>
    intro limit passed s h
    obtain ⟨hno, hi, hb⟩ := exists_segment_of_newlineAt h.seen found
    obtain ⟨dropped, hs, -, hnil⟩ := h.gone
    simp only [Bool.not_eq_true] at keeping
    rw [hnil keeping, List.nil_append] at hs
    subst hs
    have hcount := h.count
    rw [keeping] at hcount
    rw [h.maxLength] at hi
    have hle : (s.take i).length ≤ limit := by rw [List.length_take]; omega
    obtain ⟨hc', ho'⟩ := closed_open_cons hno (s.drop (i + 1))
    rw [← hb] at hc' ho'
    refine ⟨[s.take i], s.drop (i + 1), hc', ho', ?_, ?_, fun hn => by cases hn⟩
    · rw [framesOf_cons, if_pos hle]; rfl
    · rw [overlong_cons, if_neg (by omega), hcount, h.maxLength, keeping]
      exact before_start ..
  | case3 d buffer notFound dropping more ih =>
    intro limit passed s h
    obtain ⟨dropped, hs, hdropped, -⟩ := h.gone
    have hno := newline_not_mem_of_newlineAt h.seen notFound
    refine ih ⟨h.maxLength, ⟨dropped ++ buffer.take (d.maxLength + 1), ?_, ?_, fun hk => ?_⟩,
      h.long, Nat.zero_le _, by simp, h.count⟩
    · rw [List.append_assoc, List.take_append_drop]; exact hs
    · simp [hdropped, hno]
    · rw [dropping] at hk; cases hk
  | case4 d buffer notFound dropping fits =>
    intro limit passed s h
    obtain ⟨dropped, hs, hdropped, -⟩ := h.gone
    have hno := newline_not_mem_of_newlineAt h.seen notFound
    rw [exceeds_iff, Nat.not_lt] at fits
    rw [List.take_of_length_le fits] at hno
    have hopen : newline ∉ s := by rw [hs]; simp [hdropped, hno]
    have hcount := h.count
    rw [dropping] at hcount
    have hrest : ({ d with nextIndex := 0 }, []) = resting limit passed s := by
      rw [resting, if_neg (by have := (h.long dropping).2; omega), hcount, h.maxLength, dropping]
      rfl
    refine ⟨[], s, rfl, rfl, rfl, ?_, fun _ => ⟨hopen, hrest⟩⟩
    have := before_resting hopen limit passed
    rw [← hrest] at this
    exact this
  | case5 d buffer notFound keeping more ih =>
    -- the first segment turns out to be over-long; it is counted now and passed at its end
    intro limit passed s h
    obtain ⟨dropped, hs, -, hnil⟩ := h.gone
    have hno := newline_not_mem_of_newlineAt h.seen notFound
    simp only [Bool.not_eq_true] at keeping
    rw [hnil keeping, List.nil_append] at hs
    subst hs
    have hcount := h.count
    rw [keeping] at hcount
    rw [exceeds_iff, h.maxLength] at more
    rw [h.maxLength] at hno
    exact ih ⟨h.maxLength, ⟨[], rfl, by simp, fun _ => rfl⟩, fun _ => ⟨hno, more⟩, h.index,
      h.seen, by rw [hcount]; rfl⟩
  | case6 d buffer notFound keeping fits =>
    intro limit passed s h
    obtain ⟨dropped, hs, -, hnil⟩ := h.gone
    have hno := newline_not_mem_of_newlineAt h.seen notFound
    simp only [Bool.not_eq_true] at keeping
    rw [hnil keeping, List.nil_append] at hs
    subst hs
    rw [exceeds_iff, Nat.not_lt] at fits
    rw [List.take_of_length_le (by omega)] at hno
    have hcount := h.count
    rw [keeping] at hcount
    have hrest : ({ d with nextIndex := d.readTo s }, s) = resting limit passed s := by
      rw [resting, if_pos (by rw [← h.maxLength]; exact fits), readTo, hcount, h.maxLength,
        keeping, Nat.min_eq_left (by rw [h.maxLength] at fits; omega)]
      rfl
    refine ⟨[], s, rfl, rfl, rfl, ?_, fun _ => ⟨hno, hrest⟩⟩
    have := before_resting hno limit passed
    rw [← hrest] at this
    exact this

/-! ## All the frames of a chunk -/

/-- Reading on until no frame is left gives the frames of every closed segment. -/
theorem decodeAll_before {d : Decoder} {buffer : List UInt8} :
    ∀ {limit passed : Nat} {s : List UInt8}, Before limit passed s d buffer →
    d.decodeAll buffer = (framesOf limit (closedSegments s),
      resting limit (passed + overlong limit (closedSegments s)) (openSegment s)) := by
  fun_induction decodeAll d buffer with
  | case1 d buffer d' rest hdecode =>
    intro limit passed s h
    obtain ⟨segments, s', hc, ho, hf, -, hnone⟩ := decode_before h
    rw [hdecode] at hf hnone
    obtain ⟨hopen, hrest⟩ := hnone rfl
    obtain ⟨hc', ho'⟩ := closed_open_of_not_mem hopen
    rw [hc, hc', ho, ho', List.append_nil, hf, ← hrest]
    rfl
  | case2 d buffer frame d' rest hdecode frames d'' left hall ih =>
    intro limit passed s h
    obtain ⟨segments, s', hc, ho, hf, hB, -⟩ := decode_before h
    rw [hdecode] at hf hB
    rw [hc, ho, framesOf_append, overlong_append, hf, ← Nat.add_assoc]
    have := ih hB
    rw [hall] at this
    simp only [Prod.mk.injEq] at this ⊢
    exact ⟨by rw [this.1]; rfl, this.2⟩

/-! ## Chunk after chunk -/

/-- Appends chunks to a buffer, and reads all the frames there are after each of them. -/
def readChunks (d : Decoder) (buffer : List UInt8) :
    List (List UInt8) → List Text × Decoder × List UInt8
  | [] => ([], d, buffer)
  | chunk :: rest =>
    let (frames, d, buffer) := d.decodeAll (buffer ++ chunk)
    let (more, d, buffer) := readChunks d buffer rest
    (frames ++ more, d, buffer)

theorem readChunks_resting (limit : Nat) (chunks : List (List UInt8)) :
    ∀ (passed : Nat) {s : List UInt8}, newline ∉ s →
    readChunks (resting limit passed s).1 (resting limit passed s).2 chunks =
      (framesOf limit (closedSegments (s ++ chunks.flatten)),
        resting limit (passed + overlong limit (closedSegments (s ++ chunks.flatten)))
          (openSegment (s ++ chunks.flatten))) := by
  induction chunks with
  | nil =>
    intro passed s h
    obtain ⟨hc, ho⟩ := closed_open_of_not_mem h
    simp [readChunks, hc, ho]
  | cons chunk rest ih =>
    intro passed s h
    obtain ⟨hc, ho⟩ := closed_open_append (s ++ chunk) rest.flatten
    rw [readChunks, decodeAll_before ((before_resting h limit passed).append chunk)]
    simp only
    rw [ih _ (newline_not_mem_openSegment _), List.flatten_cons, ← List.append_assoc, hc, ho,
      framesOf_append, overlong_append, Nat.add_assoc]

/-! ## The end of the stream -/

theorem length_decode_le {d : Decoder} {buffer : List UInt8} :
    (d.decode buffer).2.2.length ≤ buffer.length := by
  fun_induction decode d buffer with
  | case1 d buffer i found dropping ih => rw [List.length_drop] at ih; omega
  | case2 d buffer i found keeping => simp only [List.length_drop]; omega
  | case3 d buffer notFound dropping more ih => rw [List.length_drop] at ih; omega
  | case4 => exact Nat.zero_le _
  | case5 d buffer notFound keeping more ih => exact ih
  | case6 => exact Nat.le_refl _

theorem length_decodeEnd_lt {d d' : Decoder} {buffer rest : List UInt8} {frame : Text}
    (h : d.decodeEnd buffer = (some frame, d', rest)) : rest.length < buffer.length := by
  have hle : (d.decode buffer).2.2.length ≤ buffer.length := length_decode_le
  unfold decodeEnd at h
  split at h
  · rename_i hdecode
    cases h
    exact length_decode_lt hdecode
  · rename_i d1 left hdecode
    rw [hdecode] at hle
    split at h
    · cases h
    · rename_i hleft
      cases h
      simp only [Bool.or_eq_true, decide_eq_true_eq, not_or] at hleft
      have := List.length_pos_iff.2 hleft.1
      simp only at hle
      simp only [List.length_nil]; omega

/-- All the frames that are left once no more bytes come. -/
def decodeEndAll (d : Decoder) (buffer : List UInt8) : List Text × Decoder × List UInt8 :=
  match _ : d.decodeEnd buffer with
  | (none, d', rest) => ([], d', rest)
  | (some frame, d', rest) =>
    let (frames, d'', left) := decodeEndAll d' rest
    (frame :: frames, d'', left)
termination_by buffer.length
decreasing_by exact length_decodeEnd_lt ‹_›

/-- A decoder that waits for more bytes finds no frame without them. -/
theorem decode_resting {s : List UInt8} (h : newline ∉ s) (limit passed : Nat) :
    (resting limit passed s).1.decode (resting limit passed s).2 =
      (none, resting limit passed s) := by
  obtain ⟨segments, s', hc, ho, hf, -, hnone⟩ := decode_before (before_resting h limit passed)
  obtain ⟨hc', ho'⟩ := closed_open_of_not_mem h
  obtain ⟨rfl, -⟩ := List.append_eq_nil_iff.1 (hc.symm.trans hc')
  have hframe := Option.toList_eq_nil_iff.1 hf.symm
  obtain ⟨hopen, hrest⟩ := hnone hframe
  rw [ho', (closed_open_of_not_mem hopen).2] at ho
  subst ho
  exact Prod.ext hframe hrest

theorem decodeEnd_resting {s : List UInt8} (h : newline ∉ s) (limit passed : Nat) :
    (resting limit passed s).1.decodeEnd (resting limit passed s).2 =
      if s = [] ∨ limit < s.length then
        (none, { maxLength := limit, discarded := passed + overlong limit [s] }, [])
      else (some (frameText s), { maxLength := limit, discarded := passed }, []) := by
  rw [decodeEnd, decode_resting h, overlong_cons, overlong_nil]
  unfold resting
  by_cases hle : s.length ≤ limit
  · have hlt : ¬ limit < s.length := by omega
    by_cases hs : s = [] <;> simp [hle, hlt, hs]
  · have hlt : limit < s.length := by omega
    simp [hle, hlt]

theorem decodeEndAll_none {d d' : Decoder} {buffer rest : List UInt8}
    (h : d.decodeEnd buffer = (none, d', rest)) : d.decodeEndAll buffer = ([], d', rest) := by
  rw [decodeEndAll]
  split
  · rename_i h'; rw [h] at h'; cases h'; rfl
  · rename_i h'; rw [h] at h'; cases h'

theorem decodeEndAll_some {d d' : Decoder} {buffer rest : List UInt8} {frame : Text}
    (h : d.decodeEnd buffer = (some frame, d', rest)) :
    d.decodeEndAll buffer = (frame :: (d'.decodeEndAll rest).1, (d'.decodeEndAll rest).2) := by
  rw [decodeEndAll]
  split
  · rename_i h'; rw [h] at h'; cases h'
  · rename_i h'; rw [h] at h'; cases h'; rfl

/-- The open segment is the last frame, unless it is empty or over-long. -/
theorem decodeEndAll_resting {s : List UInt8} (h : newline ∉ s) (limit passed : Nat) :
    (resting limit passed s).1.decodeEndAll (resting limit passed s).2 =
      (framesOf limit (if s = [] then [] else [s]),
        { maxLength := limit, discarded := passed + overlong limit (if s = [] then [] else [s]) },
        []) := by
  have hend := decodeEnd_resting h limit passed
  have hnil := decodeEnd_resting (s := []) (by simp) limit passed
  by_cases hs : s = []
  · subst hs
    rw [if_pos (.inl rfl)] at hnil
    rw [decodeEndAll_none hnil]
    simp [overlong_cons]
  · by_cases hlt : limit < s.length
    · rw [if_pos (.inr hlt)] at hend
      rw [decodeEndAll_none hend, if_neg hs, framesOf_cons, if_neg (by omega)]
      rfl
    · rw [if_neg (by simp [hs, hlt])] at hend
      rw [if_pos (.inl rfl)] at hnil
      have hlast : ({ maxLength := limit, discarded := passed } : Decoder).decodeEndAll [] =
          ([], { maxLength := limit, discarded := passed }, []) := decodeEndAll_none hnil
      rw [decodeEndAll_some hend, hlast, if_neg hs, framesOf_cons, if_pos (by omega),
        overlong_cons, if_neg hlt]
      rfl

/-! ## A whole stream -/

/-- Reads a stream that comes in chunks, from its start to its end. -/
def readStream (limit : Nat) (chunks : List (List UInt8)) : List Text × Decoder × List UInt8 :=
  let (frames, d, buffer) := (new limit).readChunks [] chunks
  let (more, d, buffer) := d.decodeEndAll buffer
  (frames ++ more, d, buffer)

theorem readChunks_new (limit : Nat) (chunks : List (List UInt8)) :
    (new limit).readChunks [] chunks = (framesOf limit (closedSegments chunks.flatten),
      resting limit (overlong limit (closedSegments chunks.flatten))
        (openSegment chunks.flatten)) := by
  have := readChunks_resting limit chunks 0 (s := []) (by simp)
  rw [Nat.zero_add, List.nil_append] at this
  exact this

/-- However a stream is cut into chunks, reading it gives the frames of its segments, each over-long
one is counted once, and no frame is held back once its line end has come. -/
theorem readStream_eq (limit : Nat) (chunks : List (List UInt8)) :
    (readStream limit chunks).1 = framesOf limit (allSegments chunks.flatten) ∧
    (readStream limit chunks).2.1.discarded = overlong limit (allSegments chunks.flatten) ∧
    ∀ n, ((new limit).readChunks [] (chunks.take n)).1 =
      framesOf limit (closedSegments (chunks.take n).flatten) := by
  refine ⟨?_, ?_, fun n => by rw [readChunks_new]⟩
  · rw [readStream, readChunks_new]
    simp only
    rw [decodeEndAll_resting (newline_not_mem_openSegment _), allSegments_eq, framesOf_append]
  · rw [readStream, readChunks_new]
    simp only
    rw [decodeEndAll_resting (newline_not_mem_openSegment _), allSegments_eq, overlong_append]

end Decoder
end Parley.Wire
