/-
The sender slot of a chat message. Nothing is escaped, and whoever reads a message splits it at the
first middle mark: what is taken for the sender is what stands before the first mark of the slot
with the mark that follows it (`readSlot`). That is the slot itself exactly if it is plain, which
means that it neither contains the mark nor ends in the character that the mark is made of
(`parse_wire_eq_self_iff`); of any other slot the sender is a shorter one, or there is none.
-/
import Mathlib.Data.List.Infix
import Parley.Client.Frame

namespace Parley

/-! ## Splitting at the first separator -/

/-- A text is split where the separator comes first, counting one that the part before it runs on
into. -/
theorem Text.splitAt?_append {sep : Text} : ∀ {a : Text},
    (∀ x y, a ++ sep = x ++ sep ++ y → y = []) → ∀ b, splitAt? sep (a ++ sep ++ b) = some (a, b)
  | [], _, b => by
    cases sep with
    | nil => cases b <;> simp [splitAt?, stripPrefix?]
    | cons c sep => simp [splitAt?, stripPrefix?, stripPrefix?_append]
  | c :: a, first, b => by
    have hlater : stripPrefix? sep (c :: (a ++ sep ++ b)) = none := by
      rw [stripPrefix?_eq_none, startsWith_eq_false_iff]
      intro r e
      -- the separator would already be there at the very start
      have hlen : sep.length ≤ (c :: a ++ sep).length := by
        rw [List.length_append]
        omega
      obtain ⟨y, hy⟩ : sep <+: c :: a ++ sep :=
        List.prefix_of_prefix_length_le ⟨r, e.symm⟩ ⟨b, rfl⟩ hlen
      have := congrArg List.length hy
      rw [first [] y hy.symm, List.length_append, List.length_append, List.length_cons] at this
      simp only [List.length_nil] at this
      omega
    have hrest : splitAt? sep (a ++ sep ++ b) = some (a, b) :=
      splitAt?_append (fun x y e => first (c :: x) y (by simp [e])) b
    rw [List.cons_append, List.cons_append, splitAt?, hlater]
    simp only [hrest, Option.map_some]

theorem Text.splitAt?_eq_some_iff {sep t a b : Text} : splitAt? sep t = some (a, b) ↔
    t = a ++ sep ++ b ∧ ∀ x y, a ++ sep = x ++ sep ++ y → y = [] := by
  constructor
  · intro h
    refine ⟨append_of_splitAt? h, fun x y e => ?_⟩
    exact (no_earlier_of_splitAt? h x y).resolve_left fun hne => hne e
  · rintro ⟨rfl, first⟩
    exact splitAt?_append first b

namespace Wire

/-! ## Plain slots -/

/-- Whether a slot is read back as it is: it does not contain the middle mark, and does not end in
the character of which that is made. -/
def Plain (slot : Text) : Prop := ¬ Marker.middle <:+: slot ∧ slot.getLast? ≠ some '>'

instance (slot : Text) : Decidable (Plain slot) := inferInstanceAs (Decidable (_ ∧ _))

/-- In front of the middle mark, a plain slot ends where the mark comes first. -/
theorem plain_iff_first {slot : Text} : Plain slot ↔
    ∀ x y, slot ++ Marker.middle = x ++ Marker.middle ++ y → y = [] := by
  constructor
  · rintro ⟨hno, hlast⟩ x y e
    rw [List.append_assoc] at e
    rcases List.append_eq_append_iff.1 e with ⟨z, rfl, hz⟩ | ⟨z, rfl, hz⟩
    · -- the other mark does not begin before the end of the slot
      have := congrArg List.length hz
      simp only [List.length_append] at this
      exact List.length_eq_zero_iff.1 (by omega)
    · have hstart : z <+: Marker.middle ++ y := ⟨Marker.middle, hz.symm⟩
      rcases List.prefix_or_prefix_of_prefix hstart
        (List.prefix_append Marker.middle y) with hshort | hlong
      · -- it begins in the slot and runs on into the mark after it
        cases hend : z.getLast? with
        | none =>
          rw [List.getLast?_eq_none_iff.1 hend, List.nil_append] at hz
          simpa using hz
        | some c =>
          have hc : c ∈ Marker.middle := hshort.subset (List.mem_of_getLast? hend)
          have hmark : Marker.middle = List.replicate 5 '>' := rfl
          rw [hmark] at hc
          refine absurd ?_ hlast
          rw [List.getLast?_append, hend, List.eq_of_mem_replicate hc]
          rfl
      · exact absurd (hlong.isInfix.trans (List.suffix_append x z).isInfix) hno
  · refine fun first => ⟨?_, ?_⟩
    · rintro ⟨x, y, rfl⟩
      have := first x (y ++ Marker.middle) (by simp)
      exact absurd (List.append_eq_nil_iff.1 this).2 (by decide)
    · intro hlast
      obtain ⟨x, rfl⟩ := List.getLast?_eq_some_iff.1 hlast
      have := first x ['>'] (by rw [List.append_assoc, List.append_assoc]; congr 1)
      cases this

/-! ## Reading a slot -/

/-- What is taken for the sender of a message with some slot, and what of the slot and the mark
after it is taken for the start of its text. -/
def readSlot (slot : Text) : Text × Text :=
  (Text.splitAt? Marker.middle (slot ++ Marker.middle)).getD (slot, [])

theorem splitAt?_slot (slot : Text) :
    Text.splitAt? Marker.middle (slot ++ Marker.middle) = some (readSlot slot) := by
  unfold readSlot
  cases h : Text.splitAt? Marker.middle (slot ++ Marker.middle) with
  | none => exact absurd (List.append_nil _).symm (Text.splitAt?_eq_none.1 h slot [])
  | some p => rfl

theorem readSlot_append (slot : Text) :
    slot ++ Marker.middle = (readSlot slot).1 ++ Marker.middle ++ (readSlot slot).2 :=
  (Text.splitAt?_eq_some_iff.1 (splitAt?_slot slot)).1

theorem plain_readSlot (slot : Text) : Plain (readSlot slot).1 :=
  plain_iff_first.2 (Text.splitAt?_eq_some_iff.1 (splitAt?_slot slot)).2

/-- The slot decides what is taken for the sender, whatever text follows. -/
theorem splitAt?_slot_append (slot rest : Text) :
    Text.splitAt? Marker.middle (slot ++ Marker.middle ++ rest) =
      some ((readSlot slot).1, (readSlot slot).2 ++ rest) := by
  rw [readSlot_append, List.append_assoc _ _ rest]
  exact Text.splitAt?_append (plain_iff_first.1 (plain_readSlot slot)) _

theorem readSlot_eq_iff {slot name rest : Text} (hn : Plain name) :
    readSlot slot = (name, rest) ↔ slot ++ Marker.middle = name ++ Marker.middle ++ rest := by
  have h : Text.splitAt? Marker.middle (slot ++ Marker.middle) = some (name, rest) ↔ _ :=
    Text.splitAt?_eq_some_iff
  rw [splitAt?_slot, Option.some_inj] at h
  exact h.trans (and_iff_left (plain_iff_first.1 hn))

/-- Somebody with a plain name is taken for the sender exactly if the slot starts with that name and
the mark, of which the end may be the mark after the slot. -/
theorem sender_eq_iff {slot name : Text} (hn : Plain name) :
    (readSlot slot).1 = name ↔ name ++ Marker.middle <+: slot ++ Marker.middle := by
  constructor
  · rintro rfl
    exact ⟨_, (readSlot_append slot).symm⟩
  · rintro ⟨rest, h⟩
    rw [(readSlot_eq_iff hn).2 h.symm]

theorem readSlot_of_plain {slot : Text} (h : Plain slot) : readSlot slot = (slot, []) :=
  (readSlot_eq_iff h).2 (List.append_nil _).symm

theorem sender_eq_self_iff {slot : Text} : (readSlot slot).1 = slot ↔ Plain slot :=
  ⟨fun h => h ▸ plain_readSlot slot, fun h => by rw [readSlot_of_plain h]⟩

/-! ## Chat messages on the wire -/

theorem classify_incoming (rest : Text) :
    Kind.classify (Marker.messageLeft ++ rest) = .incoming := rfl

/-- The text that is read off a chat message: what of the slot is not taken for the sender comes
before the text that was sent. -/
def readText (slot text : Text) : Text :=
  Text.dropPrefix Marker.messageRight ((readSlot slot).2 ++ (Marker.messageRight ++ text))

theorem readText_of_plain {slot : Text} (h : Plain slot) (text : Text) :
    readText slot text = text := by
  rw [readText, readSlot_of_plain h, List.nil_append, Text.dropPrefix, Text.stripPrefix?_append]
  rfl

/-- How a chat message is read. -/
theorem parse_incoming (slot text : Text) :
    Message.parse (Message.incoming slot text).wire =
      if (readSlot slot).1 = [] then .error (.malformed .incoming .uuid)
      else .ok (.incoming (readSlot slot).1 (readText slot text)) := by
  have hwire : (Message.incoming slot text).wire = Marker.messageLeft ++
      (slot ++ Marker.middle ++ (Marker.messageRight ++ text)) := by
    simp [Message.wire]
  have hbody : afterHeader .incoming (Message.incoming slot text).wire =
      .ok (slot ++ Marker.middle ++ (Marker.messageRight ++ text)) := by
    rw [afterHeader, hwire]
    simp only [Kind.header, Option.bind_some, Text.stripPrefix?_append]
  have hsplit : splitMiddle .incoming .textDelimiter
      (slot ++ Marker.middle ++ (Marker.messageRight ++ text)) =
      .ok ((readSlot slot).1, (readSlot slot).2 ++ (Marker.messageRight ++ text)) := by
    rw [splitMiddle, splitAt?_slot_append]
  have hread : readIncoming (Message.incoming slot text).wire =
      if (readSlot slot).1 = [] then .error (.malformed .incoming .uuid)
      else .ok ((readSlot slot).1, readText slot text) := by
    rw [readIncoming, hbody]
    show (splitMiddle _ _ _ >>= _) = _
    rw [hsplit]
    show (nonEmpty _ _ _ >>= _) = _
    unfold nonEmpty
    split <;> rfl
  have hkind : Kind.classify (Message.incoming slot text).wire = .incoming :=
    hwire ▸ classify_incoming _
  rw [Message.parse, hkind]
  simp only [hread]
  split <;> rfl

/-- A chat message is read back as it is exactly if its slot is plain and not empty. -/
theorem parse_wire_eq_self_iff {slot text : Text} :
    Message.parse (Message.incoming slot text).wire = .ok (.incoming slot text) ↔
      slot ≠ [] ∧ Plain slot := by
  rw [parse_incoming]
  constructor
  · intro h
    split at h
    · cases h
    · rename_i hne
      injection h with h
      injection h with hslot htext
      exact ⟨hslot ▸ hne, sender_eq_self_iff.1 hslot⟩
  · rintro ⟨hne, hplain⟩
    rw [readSlot_of_plain hplain, readText_of_plain hplain, if_neg hne]

end Wire

/-! ## Chat messages at a client -/

namespace Client.Frame

open Wire

/-- A chat message does not say that a name is taken, whatever it ends in. -/
theorem trimEnd_wire_ne (slot text : Text) :
    Text.trimEnd (Message.incoming slot text).wire ≠ Text.trimEnd Marker.duplicated := by
  intro h
  obtain ⟨rest, hrest⟩ : Text.trimEnd (Message.incoming slot text).wire <+:
      (Message.incoming slot text).wire := by
    rw [Text.trimEnd, Text.trimEndWhile, ← List.reverse_suffix, List.reverse_reverse]
    exact List.dropWhile_suffix _
  have hmark : (Text.trimEnd Marker.duplicated).head? = some '>' := by decide
  have hfirst : (Message.incoming slot text).wire.head? = some '<' := rfl
  rw [← hrest, h, List.head?_append, hmark] at hfirst
  cases hfirst

/-- What a client takes a chat message for: chat, under the sender that is read off its slot, or
nothing that it knows. -/
theorem parse_incoming (slot text : Text) :
    parse (Message.incoming slot text).wire =
      if (readSlot slot).1 = [] then .other else .chat (readSlot slot).1 (readText slot text) := by
  rw [parse, if_neg (trimEnd_wire_ne slot text), Wire.parse_incoming]
  by_cases h : (readSlot slot).1 = []
  · simp only [if_pos h]
  · simp only [if_neg h]

/-- A client shows a chat message as it was sent exactly if its slot is plain and not empty. -/
theorem parse_eq_chat_iff {slot text : Text} :
    parse (Message.incoming slot text).wire = .chat slot text ↔ slot ≠ [] ∧ Plain slot := by
  rw [parse_incoming]
  constructor
  · intro h
    split at h
    · cases h
    · rename_i hne
      injection h with hslot
      exact ⟨hslot ▸ hne, sender_eq_self_iff.1 hslot⟩
  · rintro ⟨hne, hplain⟩
    rw [readSlot_of_plain hplain, readText_of_plain hplain, if_neg hne]

/-- Somebody with a plain name is shown as the sender exactly if the slot starts with that name and
the middle mark. -/
theorem parse_sender_iff {slot text name : Text} (hname : name ≠ []) (hplain : Plain name) :
    (∃ said, parse (Message.incoming slot text).wire = .chat name said) ↔
      name ++ Marker.middle <+: slot ++ Marker.middle := by
  rw [← sender_eq_iff hplain, parse_incoming]
  constructor
  · rintro ⟨said, h⟩
    split at h
    · cases h
    · injection h
  · rintro rfl
    exact ⟨readText slot text, if_neg hname⟩

end Client.Frame
end Parley
