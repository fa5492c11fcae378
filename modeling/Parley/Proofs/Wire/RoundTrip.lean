/-
Messages that are written and read again. A message comes back as it was exactly if it is well
formed, which means that one of its written forms is the text it is put on the wire as; and whatever
is read is well formed, so that reading, writing and reading again ends with what was read first
(`parse_wire_iff`).
-/
import Parley.Proofs.Wire.Grammar

namespace Parley.Wire

namespace Message

/-- Whether a message is one that can be read: no field is empty that may not be, an id in front of
a middle mark is plain, and what is of no known kind has no header. -/
def WellFormed : Message → Prop
  | register id name => id ≠ [] ∧ Plain id ∧ name ≠ []
  | logoff id => id ≠ []
  | incoming id _ => id ≠ [] ∧ Plain id
  | debug => True
  | usernameQuery name => name ≠ []
  | keepAlive id => id ≠ []
  | unknown raw => Headless raw

end Message

theorem Written.wellFormed {raw : Text} {m : Message} (h : Written raw m) : m.WellFormed := by
  cases h with
  | register hid hplain hname => exact ⟨hid, hplain, hname⟩
  | registerOpen hid hplain hname _ => exact ⟨hid, hplain, hname⟩
  | logoff hid => exact hid
  | incoming hid hplain => exact ⟨hid, hplain⟩
  | incomingBare hid hplain _ => exact ⟨hid, hplain⟩
  | debug => trivial
  | usernameQuery hname => exact hname
  | keepAlive hid => exact hid
  | keepAliveOpen hid _ => exact hid
  | unknown headless => exact headless

/-- The text that a well-formed message is put on the wire as is the fullest of its forms. -/
theorem Message.WellFormed.written {m : Message} (h : m.WellFormed) : Written m.wire m := by
  cases m with
  | register id name =>
    obtain ⟨hid, hplain, hname⟩ := h
    exact .register hid hplain hname
  | logoff id => exact .logoff h
  | incoming id text =>
    obtain ⟨hid, hplain⟩ := h
    exact .incoming hid hplain
  | debug => exact .debug []
  | usernameQuery name => exact .usernameQuery h
  | keepAlive id => exact .keepAlive h
  | unknown raw => exact .unknown h

/-- A message is read back from the wire as it was exactly if it is well formed. Whatever is read
off any text is, and so it is read back. -/
theorem parse_wire_iff :
    (∀ m : Message, Message.parse m.wire = .ok m ↔ m.WellFormed) ∧
    ∀ raw m, Message.parse raw = .ok m → m.WellFormed ∧ Message.parse m.wire = .ok m := by
  constructor
  · intro m
    constructor
    · intro h
      exact (written_of_parse h).wellFormed
    · intro h
      exact parse_of_written h.written
  · intro raw m h
    have hwf : m.WellFormed := (written_of_parse h).wellFormed
    exact ⟨hwf, parse_of_written hwf.written⟩

/-- A registration that is left open is read; it is put on the wire closed, and read as the same. -/
theorem parse_wire_of_open :
    let raw := Marker.connect ++ "u1".toList ++ Marker.middle ++ ">ann".toList
    let m : Message := .register "u1".toList ">ann".toList
    Message.parse raw = .ok m ∧ m.wire ≠ raw ∧ m.WellFormed ∧ Message.parse m.wire = .ok m := by
  intro raw m
  have hread : Message.parse raw = .ok m := by decide
  exact ⟨hread, by decide, parse_wire_iff.2 raw m hread⟩

end Parley.Wire
