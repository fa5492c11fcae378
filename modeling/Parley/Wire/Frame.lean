/-
Frames on a byte stream: one to a line, without the line's end and one carriage return before it.
A decoder looks at most one byte past the limit; a longer frame is dropped up to the next line end,
and the number of frames dropped is counted. Encoding refuses a frame that would not be read back
as one.
-/
import Parley.Text.Utf8
import Parley.Wire.Error

namespace Parley.Wire

/-- The byte that ends a line. -/
def newline : UInt8 := 10

/-- The byte that may stand before the end of a line. -/
def carriageReturn : UInt8 := 13

/-- Where reading a byte stream stands: how far the buffer is known to hold no line end, whether
an over-long frame is being dropped, and how many have been. -/
structure Decoder where
  maxLength : Nat
  nextIndex : Nat := 0
  discarding : Bool := false
  discarded : Nat := 0
  deriving DecidableEq, Repr

namespace Decoder

/-- A new decoder. -/
def new (maxLength : Nat) : Decoder := { maxLength }

/-- The text of a frame's bytes: at most one carriage return at their end is dropped. -/
def frameText (bytes : List UInt8) : Text :=
  if bytes.getLast? = some carriageReturn then Text.fromUtf8 bytes.dropLast
  else Text.fromUtf8 bytes

/-- How far a decoder looks into a buffer: one byte past the limit. -/
def readTo (d : Decoder) (buffer : List UInt8) : Nat := min buffer.length (d.maxLength + 1)

/-- Where the first line end is, as far as the decoder looks. -/
def newlineAt (d : Decoder) (buffer : List UInt8) : Option Nat :=
  (((buffer.take (d.maxLength + 1)).drop d.nextIndex).findIdx? (· = newline)).map
    (d.nextIndex + ·)

/-- Whether there are more bytes than some number, of which no more are looked at. -/
def exceeds (buffer : List UInt8) (n : Nat) : Bool := !(buffer.drop n).isEmpty

@[simp] theorem exceeds_iff {buffer : List UInt8} {n : Nat} :
    exceeds buffer n = true ↔ n < buffer.length := by
  simp [exceeds]

/-- What is left to do on a buffer: its bytes twice over, and one more before dropping begins. -/
def work (d : Decoder) (buffer : List UInt8) : Nat :=
  2 * buffer.length + if d.discarding then 0 else 1

theorem newlineAt_lt {d : Decoder} {buffer : List UInt8} {i : Nat}
    (h : d.newlineAt buffer = some i) : i < d.readTo buffer ∧ i < buffer.length := by
  obtain ⟨j, hj, rfl⟩ := Option.map_eq_some_iff.1 h
  have hlt := (List.findIdx?_eq_some_iff_findIdx_eq.1 hj).1
  simp only [List.length_drop, List.length_take, readTo] at hlt ⊢
  omega

/-- The next frame in a buffer, if it is all there; what has been read leaves the buffer. -/
def decode (d : Decoder) (buffer : List UInt8) : Option Text × Decoder × List UInt8 :=
  match found : d.newlineAt buffer with
  | some i =>
    if d.discarding then
      decode { d with discarding := false, nextIndex := 0 } (buffer.drop (i + 1))
    else
      (some (frameText (buffer.take i)), { d with nextIndex := 0 }, buffer.drop (i + 1))
  | none =>
    if d.discarding then
      if exceeds buffer (d.maxLength + 1) then
        decode { d with nextIndex := 0 } (buffer.drop (d.maxLength + 1))
      else (none, { d with nextIndex := 0 }, [])
    else if exceeds buffer d.maxLength then
      decode { d with discarding := true, discarded := d.discarded + 1 } buffer
    else (none, { d with nextIndex := d.readTo buffer }, buffer)
termination_by d.work buffer
decreasing_by
  · rename_i dropping
    have := newlineAt_lt found
    simp only [work, dropping, List.length_drop]
    simp
    omega
  · rename_i dropping more
    have := exceeds_iff.1 more
    simp only [work, dropping, List.length_drop]
    omega
  · rename_i keeping _
    simp [work, keeping]

/-- The next frame once no more bytes come: what is left without a line end is a frame, unless it
is the rest of one that is being dropped. -/
def decodeEnd (d : Decoder) (buffer : List UInt8) : Option Text × Decoder × List UInt8 :=
  match d.decode buffer with
  | (some frame, d, buffer) => (some frame, d, buffer)
  | (none, d, buffer) =>
    if buffer = [] || d.discarding then
      (none, { d with discarding := false, nextIndex := 0 }, [])
    else (some (frameText buffer), { d with nextIndex := 0 }, [])

theorem length_decode_lt {d : Decoder} {buffer : List UInt8} :
    ∀ {frame : Text} {d' : Decoder} {rest : List UInt8},
      d.decode buffer = (some frame, d', rest) → rest.length < buffer.length := by
  fun_induction decode d buffer with
  | case1 d buffer i found _ ih =>
    intro frame d' rest h
    have := newlineAt_lt found
    have := ih h
    simp only [List.length_drop] at this
    omega
  | case2 d buffer i found _ =>
    intro frame d' rest h
    cases h
    have := newlineAt_lt found
    simp only [List.length_drop]
    omega
  | case3 d buffer _ _ _ ih =>
    intro frame d' rest h
    have := ih h
    simp only [List.length_drop] at this
    omega
  | case4 => intro frame d' rest h; cases h
  | case5 d buffer _ _ _ ih => exact ih
  | case6 => intro frame d' rest h; cases h

/-- All the frames that are in a buffer. -/
def decodeAll (d : Decoder) (buffer : List UInt8) : List Text × Decoder × List UInt8 :=
  match _ : d.decode buffer with
  | (none, d', rest) => ([], d', rest)
  | (some frame, d', rest) =>
    let (frames, d'', left) := decodeAll d' rest
    (frame :: frames, d'', left)
termination_by buffer.length
decreasing_by exact length_decode_lt ‹_›

end Decoder

/-- The bytes of a frame and of the line end after it. -/
def encode (maxLength : Nat) (frame : Text) : Except Error (List UInt8) :=
  if '\n' ∈ frame then .error .embeddedNewline
  else if Text.utf8Length frame > maxLength then .error (.frameTooLong maxLength)
  else .ok (Text.toUtf8 frame ++ [newline])

end Parley.Wire
