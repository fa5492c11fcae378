/-
Frames on their way from an encoder to a decoder. What is encoded has no line end in it, so each
frame is one segment of the stream, and is read back as it was written, less one carriage return at
its end; a frame that is too long for the decoder is passed over. It makes no difference how the
stream is cut into chunks (`readStream_streamOf`).
-/
import Mathlib.Data.List.Basic
import Parley.Proofs.Text.Utf8
import Parley.Proofs.Wire.Decode
import Parley.Wire.Message

namespace Parley

/-! ## Dropping an end -/

theorem Text.dropSuffix_append (t s : Text) : dropSuffix s (t ++ s) = t := by
  rw [dropSuffix, stripSuffix?_append]
  rfl

theorem Text.dropSuffix_of_not {t s : Text} (h : ∀ r, t ≠ r ++ s) : dropSuffix s t = t := by
  unfold dropSuffix
  cases hs : stripSuffix? s t with
  | none => rfl
  | some r => exact absurd (stripSuffix?_eq_some.1 hs) (h r)

theorem Text.dropSuffix_singleton_of_ne {t : Text} {c : Char} (h : t.getLast? ≠ some c) :
    dropSuffix [c] t = t := by
  refine dropSuffix_of_not fun r e => h ?_
  rw [e, List.getLast?_append]
  rfl

/-- A character at the end of what comes last is dropped from there, and none before it. -/
theorem Text.dropSuffix_append_singleton {a : Text} {c : Char} (h : a.getLast? ≠ some c)
    (t : Text) : dropSuffix [c] (a ++ t) = a ++ dropSuffix [c] t := by
  rcases List.eq_nil_or_concat' t with rfl | ⟨start, d, rfl⟩
  · have hnil : dropSuffix [c] [] = [] := dropSuffix_singleton_of_ne nofun
    rw [hnil, List.append_nil, dropSuffix_singleton_of_ne h]
  · by_cases hd : d = c
    · subst hd
      rw [← List.append_assoc, dropSuffix_append, dropSuffix_append]
    · have hlast : ∀ before : Text, (before ++ [d]).getLast? ≠ some c := fun before => by
        simpa using hd
      rw [← List.append_assoc, dropSuffix_singleton_of_ne (hlast _),
        dropSuffix_singleton_of_ne (hlast _), List.append_assoc]

namespace Wire

/-! ## One frame -/

theorem encode_eq_ok_iff {limit : Nat} {frame : Text} {bytes : List UInt8} :
    encode limit frame = .ok bytes ↔ '\n' ∉ frame ∧ Text.utf8Length frame ≤ limit ∧
      bytes = Text.toUtf8 frame ++ [newline] := by
  unfold encode
  constructor
  · intro h
    split at h
    · cases h
    · split at h
      · cases h
      · rename_i hline hlong
        injection h with h
        exact ⟨hline, Nat.le_of_not_lt hlong, h.symm⟩
  · rintro ⟨hline, hlong, rfl⟩
    rw [if_neg hline, if_neg (Nat.not_lt.2 hlong)]

theorem newline_not_mem_toUtf8 {frame : Text} (h : '\n' ∉ frame) :
    newline ∉ Text.toUtf8 frame :=
  fun hm => h (Text.mem_of_mem_toUtf8 (b := newline) (by decide) hm)

/-- A frame's bytes are read as the frame, less one carriage return at its end. -/
theorem frameText_toUtf8 (frame : Text) :
    Decoder.frameText (Text.toUtf8 frame) = Text.dropSuffix ['\r'] frame := by
  rcases List.eq_nil_or_concat' frame with rfl | ⟨start, c, rfl⟩
  · rfl
  have hbytes : Text.toUtf8 (start ++ [c]) = Text.toUtf8 start ++ String.utf8EncodeChar c := by
    rw [Text.toUtf8_append, Text.toUtf8_cons, Text.toUtf8_nil, List.append_nil]
  unfold Decoder.frameText
  by_cases hc : c = '\r'
  · subst hc
    have hone : String.utf8EncodeChar '\r' = [carriageReturn] := rfl
    rw [hbytes, hone, List.getLast?_concat, if_pos rfl, List.dropLast_concat,
      Text.fromUtf8_toUtf8, Text.dropSuffix_append]
  · have hlast : (Text.toUtf8 (start ++ [c])).getLast? ≠ some carriageReturn := by
      intro h
      have hmem : carriageReturn ∈ String.utf8EncodeChar c := by
        rw [hbytes, List.getLast?_append_of_ne_nil _ String.utf8EncodeChar_ne_nil] at h
        exact List.mem_of_getLast? h
      exact hc (Text.eq_of_mem_encodeChar (by decide) hmem).2
    rw [if_neg hlast, Text.fromUtf8_toUtf8, Text.dropSuffix_singleton_of_ne]
    rw [List.getLast?_concat]
    exact fun h => hc (Option.some.inj h)

/-! ## Many frames -/

/-- The bytes of frames that are written one after the other. -/
def streamOf (frames : List Text) : List UInt8 :=
  frames.flatMap fun frame => Text.toUtf8 frame ++ [newline]

theorem segments_streamOf {frames : List Text} (h : ∀ frame ∈ frames, '\n' ∉ frame) :
    closedSegments (streamOf frames) = frames.map Text.toUtf8 ∧
      openSegment (streamOf frames) = [] := by
  induction frames with
  | nil => exact closed_open_of_not_mem (s := []) (by simp)
  | cons frame rest ih =>
    obtain ⟨hclosed, hopen⟩ := ih fun f hf => h f (List.mem_cons_of_mem _ hf)
    have hfirst := newline_not_mem_toUtf8 (h frame List.mem_cons_self)
    obtain ⟨hc, ho⟩ := closed_open_cons hfirst (streamOf rest)
    have hstream : streamOf (frame :: rest) = Text.toUtf8 frame ++ newline :: streamOf rest := by
      simp [streamOf]
    rw [hstream, hc, ho, hclosed, hopen]
    exact ⟨rfl, rfl⟩

theorem framesOf_toUtf8 (limit : Nat) (frames : List Text) :
    framesOf limit (frames.map Text.toUtf8) =
      (frames.filter (Text.utf8Length · ≤ limit)).map (Text.dropSuffix ['\r']) := by
  induction frames with
  | nil => rfl
  | cons frame rest ih =>
    rw [List.map_cons, framesOf_cons, Text.length_toUtf8, frameText_toUtf8, ih]
    by_cases h : Text.utf8Length frame ≤ limit <;> simp [h]

/-- Frames without line ends are read as they were written, less one carriage return at the end of
each, however their bytes are cut into chunks; those that are too long are passed over. -/
theorem readStream_streamOf (limit : Nat) {frames : List Text} (h : ∀ frame ∈ frames, '\n' ∉ frame)
    {chunks : List (List UInt8)} (hchunks : chunks.flatten = streamOf frames) :
    (Decoder.readStream limit chunks).1 =
      (frames.filter (Text.utf8Length · ≤ limit)).map (Text.dropSuffix ['\r']) := by
  obtain ⟨hclosed, hopen⟩ := segments_streamOf h
  rw [Decoder.readStream, Decoder.readChunks_new, hchunks, hclosed, hopen]
  simp only
  rw [Decoder.decodeEndAll_resting (by simp), framesOf_toUtf8]
  simp

/-! ## Chat messages -/

/-- A chat message that could be encoded is read as one with the same sender, and with the same text
but for a carriage return at its end, unless it is too long for the decoder. -/
theorem readStream_incoming {limit : Nat} {slot text : Text} {bytes : List UInt8}
    (henc : encode limit (Message.incoming slot text).wire = .ok bytes) (limit' : Nat)
    {chunks : List (List UInt8)} (hchunks : chunks.flatten = bytes) :
    (Decoder.readStream limit' chunks).1 =
      if Text.utf8Length (Message.incoming slot text).wire ≤ limit' then
        [(Message.incoming slot (Text.dropSuffix ['\r'] text)).wire]
      else [] := by
  obtain ⟨hline, -, rfl⟩ := encode_eq_ok_iff.1 henc
  have hdrop : Text.dropSuffix ['\r'] (Message.incoming slot text).wire =
      (Message.incoming slot (Text.dropSuffix ['\r'] text)).wire := by
    -- what stands before the text ends in a mark
    refine Text.dropSuffix_append_singleton ?_ text
    rw [List.getLast?_append]
    exact nofun
  have hstream : chunks.flatten = streamOf [(Message.incoming slot text).wire] := by
    rw [hchunks, streamOf, List.flatMap_singleton]
  rw [readStream_streamOf limit' (List.forall_mem_singleton.2 hline) hstream]
  by_cases hfits : Text.utf8Length (Message.incoming slot text).wire ≤ limit'
  · simp [hfits, hdrop]
  · simp [hfits]

end Wire
end Parley
