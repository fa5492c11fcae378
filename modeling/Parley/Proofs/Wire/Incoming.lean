/-
Frames that come out of a decoder, and what is read off them. Such a frame is one line, and so is
every field of a message on it (`Decoder.Yields`). A chat message is as long as its two fields and
the marks around them, of which one may be left out (`utf8Length_of_incoming`).
-/
import Parley.Proofs.Wire.Address
import Parley.Proofs.Wire.Grammar
import Parley.Proofs.Wire.Outgoing

namespace Parley.Wire

/-! ## One line -/

theorem newline_not_mem_closedSegments (s : List UInt8) :
    ∀ segment ∈ closedSegments s, newline ∉ segment := by
  -- on the length: what follows the first segment is no tail of the stream by one byte
  induction hn : s.length using Nat.strongRecOn generalizing s with
  | _ n ih =>
    rcases open_or_closed s with h | ⟨first, rest, h, rfl⟩
    · rw [(closed_open_of_not_mem h).1]
      exact fun segment hs => absurd hs List.not_mem_nil
    · rw [(closed_open_cons h rest).1]
      exact List.forall_mem_cons.2 ⟨h, ih rest.length (by simp at hn; omega) rest rfl⟩

theorem newline_not_mem_allSegments {s segment : List UInt8} (h : segment ∈ allSegments s) :
    newline ∉ segment := by
  rw [allSegments_eq] at h
  rcases List.mem_append.1 h with h | h
  · exact newline_not_mem_closedSegments s segment h
  · split at h
    · cases h
    · rw [List.mem_singleton.1 h]
      exact newline_not_mem_openSegment s

theorem mem_framesOf {limit : Nat} {segments : List (List UInt8)} {frame : Text}
    (h : frame ∈ framesOf limit segments) : ∃ s ∈ segments, frame = Decoder.frameText s := by
  induction segments with
  | nil => cases h
  | cons s rest ih =>
    rw [framesOf_cons] at h
    rcases List.mem_append.1 h with h | h
    · split at h
      · exact ⟨s, List.mem_cons_self, List.mem_singleton.1 h⟩
      · cases h
    · obtain ⟨s', hs', e⟩ := ih h
      exact ⟨s', List.mem_cons_of_mem _ hs', e⟩

namespace Decoder

/-- Bytes on one line are read as one line. -/
theorem line_of_frameText {bytes : List UInt8} (h : newline ∉ bytes) : '\n' ∉ frameText bytes := by
  have hread : ∀ bytes : List UInt8, newline ∉ bytes → '\n' ∉ Text.fromUtf8 bytes := by
    intro bytes h hline
    obtain ⟨b, hb, hsame⟩ := Text.mem_of_mem_fromUtf8 (by decide) (by decide) hline
    obtain rfl : b = newline := UInt8.toNat_inj.1 hsame
    exact h hb
  unfold frameText
  split
  · exact hread _ fun hm => h (List.mem_of_mem_dropLast hm)
  · exact hread _ h

/-- Whether a frame can come out of a decoder with a limit, off whatever stream. -/
def Yields (limit : Nat) (frame : Text) : Prop :=
  ∃ chunks : List (List UInt8), frame ∈ (readStream limit chunks).1

theorem Yields.line {limit : Nat} {frame : Text} (h : Yields limit frame) : '\n' ∉ frame := by
  obtain ⟨chunks, hmem⟩ := h
  rw [(readStream_eq limit chunks).1] at hmem
  obtain ⟨segment, hs, rfl⟩ := mem_framesOf hmem
  exact line_of_frameText (newline_not_mem_allSegments hs)

/-- What can be encoded and does not end in a carriage return comes out of a decoder as it is. -/
theorem yields_of_fits {limit : Nat} {frame : Text} (h : Fits limit frame)
    (hend : frame.getLast? ≠ some '\r') : Yields limit frame := by
  refine ⟨[streamOf [frame]], ?_⟩
  rw [readStream_of_fits (List.forall_mem_singleton.2 h) (List.append_nil _)]
  simp [Text.dropSuffix_singleton_of_ne hend]

end Decoder

/-! ## Fields -/

section Fields

variable {raw id : Text}

theorem name_subset_of_register {name : Text} (h : Message.parse raw = .ok (.register id name)) :
    name ⊆ raw := by
  cases written_of_parse h with
  | register hid plain hname => intro c hc; simp [hc]
  | registerOpen hid plain hname left => intro c hc; simp [hc]

theorem text_subset_of_incoming {text : Text} (h : Message.parse raw = .ok (.incoming id text)) :
    text ⊆ raw := by
  cases written_of_parse h with
  | incoming hid plain => intro c hc; simp [hc]
  | incomingBare hid plain left => intro c hc; simp [hc]

end Fields

/-! ## Lengths -/

section Lengths

open Text (utf8Length)

/-- How many bytes the mark takes that a chat message goes without, if it does. -/
def omitted (raw id text : Text) : Nat :=
  if raw = (Message.incoming id text).wire then 0 else 14

/-- The length of a chat message that goes without the mark. -/
theorem utf8Length_bare (id text : Text) :
    utf8Length (Marker.messageLeft ++ id ++ Marker.middle ++ text) =
      24 + utf8Length id + utf8Length text := by
  have hleft : utf8Length Marker.messageLeft = 19 := by decide
  have hmiddle : utf8Length Marker.middle = 5 := by decide
  simp only [Text.utf8Length_append, hleft, hmiddle]
  omega

theorem utf8Length_incoming (id text : Text) :
    utf8Length (Message.incoming id text).wire = 38 + utf8Length id + utf8Length text := by
  have hright : utf8Length Marker.messageRight = 14 := by decide
  rw [Message.wire, List.append_assoc _ Marker.messageRight, utf8Length_bare,
    Text.utf8Length_append, hright]
  omega

theorem utf8Length_of_incoming {raw id text : Text}
    (h : Message.parse raw = .ok (.incoming id text)) :
    utf8Length raw + omitted raw id text = 38 + utf8Length id + utf8Length text := by
  cases written_of_parse h with
  | incoming hid plain =>
    show utf8Length (Message.incoming id text).wire + omitted (Message.incoming id text).wire id text
      = _
    rw [omitted, if_pos rfl, utf8Length_incoming, Nat.add_zero]
  | incomingBare hid plain left =>
    have hne : Marker.messageLeft ++ id ++ Marker.middle ++ text ≠
        (Message.incoming id text).wire := by
      intro e
      have hsame := congrArg utf8Length e
      rw [utf8Length_bare, utf8Length_incoming] at hsame
      omega
    rw [omitted, if_neg hne, utf8Length_bare]
    omega

theorem utf8Length_private (sender target payload : Text) :
    utf8Length (Message.private sender target payload).wire =
      42 + utf8Length sender + utf8Length target + utf8Length payload := by
  have harrow : utf8Length Marker.arrow = 4 := by decide
  simp only [Message.private, utf8Length_incoming, Text.utf8Length_append, harrow]
  omega

theorem utf8Length_addressed (target payload : Text) :
    utf8Length (Chat.addressed target payload) = 2 + utf8Length target + utf8Length payload := by
  have hmark : Marker.privateMark.utf8Size = 1 := by decide
  have hend : Marker.addressEnd.utf8Size = 1 := by decide
  simp only [Chat.addressed, List.cons_append, utf8Length, Text.utf8Length_append, hmark, hend]
  omega

end Lengths

/-! ## Addresses -/

theorem Chat.of_parse_personal {text target payload : Text}
    (h : parse text = .personal target payload) :
    target ≠ [] ∧ Marker.addressEnd ∉ target ∧ text = addressed target payload := by
  unfold parse at h
  split at h
  · rename_i found
    cases h
    exact address?_eq_some.1 found
  · cases h

end Parley.Wire
