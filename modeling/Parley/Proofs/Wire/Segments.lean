/-
The segments of a byte stream: what stands between its line ends. A line end closes the segment
before it; what follows the last one is open, and goes on with the bytes that are still to come
(`closed_open_append`). The frames of a stream are the texts of its segments within a limit; the
others are over-long.
-/
import Parley.Wire.Frame

namespace Parley.Wire

/-! ## Closed and open segments -/

/-- The segments of a stream that a line end has closed. -/
def closedSegments (s : List UInt8) : List (List UInt8) := (s.splitOn newline).dropLast

/-- What follows the last line end of a stream. -/
def openSegment (s : List UInt8) : List UInt8 :=
  (s.splitOn newline).getLast (List.splitOn_ne_nil newline s)

/-- The segments of a stream that is over: all of them, without the last one if it is empty. -/
def allSegments (s : List UInt8) : List (List UInt8) :=
  if (s.splitOn newline).getLast? = some [] then (s.splitOn newline).dropLast
  else s.splitOn newline

theorem splitOn_eq (s : List UInt8) : s.splitOn newline = closedSegments s ++ [openSegment s] :=
  (List.dropLast_concat_getLast (List.splitOn_ne_nil newline s)).symm

theorem closed_open_of_splitOn {s : List UInt8} {segments : List (List UInt8)} {last : List UInt8}
    (h : s.splitOn newline = segments ++ [last]) :
    closedSegments s = segments ∧ openSegment s = last := by
  simp [closedSegments, openSegment, h]

theorem allSegments_eq (s : List UInt8) :
    allSegments s = closedSegments s ++ if openSegment s = [] then [] else [openSegment s] := by
  unfold allSegments
  rw [splitOn_eq]
  by_cases h : openSegment s = [] <;> simp [h]

/-! ## One segment at a time -/

theorem closed_open_of_not_mem {s : List UInt8} (h : newline ∉ s) :
    closedSegments s = [] ∧ openSegment s = s := by
  apply closed_open_of_splitOn
  rw [List.splitOn_eq_singleton h]; rfl

theorem closed_open_cons {first : List UInt8} (h : newline ∉ first) (rest : List UInt8) :
    closedSegments (first ++ newline :: rest) = first :: closedSegments rest ∧
      openSegment (first ++ newline :: rest) = openSegment rest := by
  apply closed_open_of_splitOn
  rw [List.splitOn_append_cons_self_of_not_mem h, splitOn_eq rest, List.cons_append]

/-- A stream either has one open segment, or begins with a closed one. -/
theorem open_or_closed (s : List UInt8) :
    newline ∉ s ∨ ∃ first rest, newline ∉ first ∧ s = first ++ newline :: rest := by
  by_cases h : newline ∈ s
  · obtain ⟨first, rest, rfl, hfirst⟩ := List.eq_append_cons_of_mem h
    exact .inr ⟨first, rest, hfirst, rfl⟩
  · exact .inl h

theorem newline_not_mem_openSegment (s : List UInt8) : newline ∉ openSegment s := by
  induction hn : s.length using Nat.strongRecOn generalizing s with
  | _ n ih =>
    rcases open_or_closed s with h | ⟨first, rest, h, rfl⟩
    · rw [(closed_open_of_not_mem h).2]; exact h
    · rw [(closed_open_cons h rest).2]
      exact ih rest.length (by simp at hn; omega) rest rfl

/-- More bytes go on with the open segment: what was closed stays as it is. -/
theorem closed_open_append (s t : List UInt8) :
    closedSegments (s ++ t) = closedSegments s ++ closedSegments (openSegment s ++ t) ∧
      openSegment (s ++ t) = openSegment (openSegment s ++ t) := by
  induction hn : s.length using Nat.strongRecOn generalizing s with
  | _ n ih =>
    rcases open_or_closed s with h | ⟨first, rest, h, rfl⟩
    · obtain ⟨hc, ho⟩ := closed_open_of_not_mem h
      rw [hc, ho]; exact ⟨rfl, rfl⟩
    · obtain ⟨hc, ho⟩ := closed_open_cons h rest
      obtain ⟨hc', ho'⟩ := closed_open_cons h (rest ++ t)
      obtain ⟨h1, h2⟩ := ih rest.length (by simp at hn; omega) rest rfl
      rw [List.append_assoc, List.cons_append, hc, ho, hc', ho', h1, h2]
      exact ⟨rfl, rfl⟩

/-! ## Frames -/

/-- The texts of the segments within a limit, in bytes; at most one carriage return at the end of
each is dropped. -/
def framesOf (limit : Nat) (segments : List (List UInt8)) : List Text :=
  (segments.filter (·.length ≤ limit)).map fun s =>
    Text.fromUtf8 (if s.getLast? = some carriageReturn then s.dropLast else s)

/-- How many segments are longer than a limit. -/
def overlong (limit : Nat) (segments : List (List UInt8)) : Nat :=
  segments.countP (limit < ·.length)

@[simp] theorem framesOf_nil (limit : Nat) : framesOf limit [] = [] := rfl

@[simp] theorem overlong_nil (limit : Nat) : overlong limit [] = 0 := rfl

@[simp] theorem framesOf_append (limit : Nat) (a b : List (List UInt8)) :
    framesOf limit (a ++ b) = framesOf limit a ++ framesOf limit b := by
  simp [framesOf]

@[simp] theorem overlong_append (limit : Nat) (a b : List (List UInt8)) :
    overlong limit (a ++ b) = overlong limit a + overlong limit b := by
  simp [overlong]

theorem framesOf_cons (limit : Nat) (s : List UInt8) (rest : List (List UInt8)) :
    framesOf limit (s :: rest) =
      (if s.length ≤ limit then [Decoder.frameText s] else []) ++ framesOf limit rest := by
  unfold framesOf Decoder.frameText
  by_cases h : s.length ≤ limit
  · rw [List.filter_cons_of_pos (by simpa using h), if_pos h]
    by_cases hr : s.getLast? = some carriageReturn <;> simp [hr]
  · rw [List.filter_cons_of_neg (by simpa using h), if_neg h, List.nil_append]

theorem overlong_cons (limit : Nat) (s : List UInt8) (rest : List (List UInt8)) :
    overlong limit (s :: rest) = (if limit < s.length then 1 else 0) + overlong limit rest := by
  unfold overlong
  rw [List.countP_cons, Nat.add_comm]
  simp

end Parley.Wire
