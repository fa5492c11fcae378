/-
Frames that are encoded one after the other into one buffer. A frame that is refused leaves the
buffer as it was, so the bytes in it are those of the frames that were taken, a line each
(`bytes_encodeAll`). However they are cut into chunks, a decoder with the same limit reads these
frames again, each less one carriage return at its end, and is then as new: both sides measure a
frame without its line end, so none that was taken is too long to be read (`encodeAll_read_back`).
-/
import Parley.Proofs.Wire.Passage

namespace Parley.Wire

/-! ## One buffer -/

/-- Encodes a frame at the end of a buffer; one that is refused leaves the buffer as it was. -/
def encodeOnto (limit : Nat) (buffer : List UInt8) (frame : Text) :
    Except Error Unit × List UInt8 :=
  match encode limit frame with
  | .ok bytes => (.ok (), buffer ++ bytes)
  | .error e => (.error e, buffer)

/-- Encodes several frames, one after the other, at the end of a buffer. -/
def encodeAll (limit : Nat) (buffer : List UInt8) :
    List Text → List (Except Error Unit) × List UInt8
  | [] => ([], buffer)
  | frame :: rest =>
    let (answer, buffer) := encodeOnto limit buffer frame
    let (answers, buffer) := encodeAll limit buffer rest
    (answer :: answers, buffer)

/-- Whether a frame can be encoded: it is one line and within the limit. -/
def Fits (limit : Nat) (frame : Text) : Prop := '\n' ∉ frame ∧ Text.utf8Length frame ≤ limit

instance (limit : Nat) (frame : Text) : Decidable (Fits limit frame) :=
  inferInstanceAs (Decidable (_ ∧ _))

/-- The answer to a frame: a line end in it counts before its length. -/
def answer (limit : Nat) (frame : Text) : Except Error Unit :=
  if '\n' ∈ frame then .error .embeddedNewline
  else if limit < Text.utf8Length frame then .error (.frameTooLong limit)
  else .ok ()

theorem encodeOnto_eq (limit : Nat) (buffer : List UInt8) (frame : Text) :
    encodeOnto limit buffer frame = (answer limit frame,
      if Fits limit frame then buffer ++ (Text.toUtf8 frame ++ [newline]) else buffer) := by
  unfold encodeOnto encode answer Fits
  by_cases hline : '\n' ∈ frame
  · simp [hline]
  · by_cases hlong : limit < Text.utf8Length frame
    · simp [hline, hlong]
    · simp [hline, hlong, Nat.not_lt.1 hlong]

section Buffer

variable (limit : Nat) (frames : List Text)

theorem answers_encodeAll : ∀ buffer : List UInt8,
    (encodeAll limit buffer frames).1 = frames.map (answer limit) := by
  induction frames with
  | nil => exact fun buffer => rfl
  | cons frame rest ih =>
    intro buffer
    rw [encodeAll, encodeOnto_eq, List.map_cons, ← ih]

/-- What is in the buffer in the end is what was in it, and a line for each frame taken. -/
theorem bytes_encodeAll : ∀ buffer : List UInt8,
    (encodeAll limit buffer frames).2 = buffer ++ streamOf (frames.filter (Fits limit ·)) := by
  induction frames with
  | nil => exact fun buffer => (List.append_nil buffer).symm
  | cons frame rest ih =>
    intro buffer
    rw [encodeAll, encodeOnto_eq]
    simp only
    rw [ih]
    by_cases h : Fits limit frame
    · rw [if_pos h, List.filter_cons_of_pos (by simpa using h), List.append_assoc]
      rfl
    · rw [if_neg h, List.filter_cons_of_neg (by simpa using h)]

end Buffer

/-! ## Reading it back -/

/-- No frame that fits is dropped. -/
theorem overlong_toUtf8 {limit : Nat} {frames : List Text} (h : ∀ frame ∈ frames, Fits limit frame) :
    overlong limit (frames.map Text.toUtf8) = 0 := by
  rw [overlong, List.countP_eq_zero]
  intro segment hs
  obtain ⟨frame, hf, rfl⟩ := List.mem_map.1 hs
  have hshort := (h frame hf).2
  rw [Text.length_toUtf8]
  simpa using hshort

/-- Frames that fit are all read, and the decoder is then as new. -/
theorem readStream_of_fits {limit : Nat} {frames : List Text} (h : ∀ frame ∈ frames, Fits limit frame)
    {chunks : List (List UInt8)} (hchunks : chunks.flatten = streamOf frames) :
    Decoder.readStream limit chunks =
      (frames.map (Text.dropSuffix ['\r']), Decoder.new limit, []) := by
  have hline : ∀ frame ∈ frames, '\n' ∉ frame := fun frame hf => (h frame hf).1
  have hall : frames.filter (Text.utf8Length · ≤ limit) = frames :=
    List.filter_eq_self.2 fun frame hf => by simpa using (h frame hf).2
  have hread := readStream_streamOf limit hline hchunks
  rw [hall] at hread
  obtain ⟨hclosed, hopen⟩ := segments_streamOf hline
  refine Prod.ext hread ?_
  -- nothing is open at the end of the stream, and nothing has been passed over
  rw [Decoder.readStream, Decoder.readChunks_new, hchunks, hclosed, hopen, overlong_toUtf8 h]
  simp only
  rw [Decoder.decodeEndAll_resting (by simp)]
  rfl

/-- Each frame in its turn is refused if there is a line end in it, else if it is longer than the
limit, and else taken; one that is refused leaves the buffer as it was. From the bytes in the
buffer, in whatever chunks, a decoder with the same limit reads exactly the frames that were taken,
in order, each as it was but for one carriage return at its end; it has dropped none, and there is
nothing left over. -/
theorem encodeAll_read_back (limit : Nat) (frames : List Text) :
    (encodeAll limit [] frames).1 = frames.map (fun frame =>
      if '\n' ∈ frame then .error .embeddedNewline
      else if limit < Text.utf8Length frame then .error (.frameTooLong limit)
      else .ok ()) ∧
    (∀ before frame, (encodeAll limit [] (before ++ [frame])).2 =
      (encodeAll limit [] before).2 ++
        if '\n' ∉ frame ∧ Text.utf8Length frame ≤ limit then Text.toUtf8 frame ++ [newline]
        else []) ∧
    ∀ chunks : List (List UInt8), chunks.flatten = (encodeAll limit [] frames).2 →
      Decoder.readStream limit chunks =
        ((frames.filter fun frame => '\n' ∉ frame ∧ Text.utf8Length frame ≤ limit).map
          (Text.dropSuffix ['\r']), Decoder.new limit, []) := by
  refine ⟨answers_encodeAll limit frames [], fun before frame => ?_, fun chunks hchunks => ?_⟩
  · rw [bytes_encodeAll, bytes_encodeAll, List.filter_append, List.nil_append, List.nil_append]
    rw [streamOf, streamOf, List.flatMap_append]
    congr 1
    change _ = if Fits limit frame then _ else _
    by_cases h : Fits limit frame
    · rw [if_pos h, List.filter_cons_of_pos (by simpa using h)]
      exact List.flatMap_singleton ..
    · rw [if_neg h, List.filter_cons_of_neg (by simpa using h)]
      rfl
  · rw [bytes_encodeAll, List.nil_append] at hchunks
    exact readStream_of_fits (fun frame hf => of_decide_eq_true (List.mem_filter.1 hf).2) hchunks

/-- A frame at the limit is read back less its carriage return, even if a chunk ends in the middle
of a character; one byte more is refused. -/
theorem encodeAll_read_back_of_split :
    let frames := ["ä\r".toList, "ab\nc".toList, "abcd".toList, "é".toList]
    let bytes := (encodeAll 3 [] frames).2
    let chunks := [bytes.take 1, bytes.drop 1]
    chunks.flatten = bytes ∧
    Decoder.readStream 3 chunks = (["ä".toList, "é".toList], Decoder.new 3, []) := by
  intro frames bytes chunks
  have hchunks : chunks.flatten = bytes := by decide
  obtain ⟨-, -, h⟩ := encodeAll_read_back 3 frames
  refine ⟨hchunks, (h chunks hchunks).trans ?_⟩
  decide

end Parley.Wire
