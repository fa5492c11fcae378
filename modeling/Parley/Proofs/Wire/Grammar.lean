/-
The raw texts that each message is written as. A message is read off a raw text exactly if the text
is one of these (`parse_eq_ok_iff`). The header decides on the kind; the fields on both sides of a
middle mark are told apart by the first one, so that the field before it is plain; and a mark that
may be left out is taken for one wherever it could stand. Every other text is malformed, and of the
kind that its header says.
-/
import Parley.Proofs.Wire.Fields

namespace Parley.Wire

/-! ## Headers -/

/-- Whether a raw text starts with no header. -/
def Headless (raw : Text) : Prop := ∀ k header, Kind.header k = some header → ¬ header <+: raw

theorem Kind.heads_iff {k : Kind} {raw : Text} :
    k.heads raw = true ↔ ∃ header rest, k.header = some header ∧ raw = header ++ rest := by
  cases h : k.header with
  | none => simp [heads, h]
  | some header => simp [heads, h, Text.startsWith_iff]

/-- A header tells the kind, since none of them starts with another. -/
theorem Kind.classify_append {k : Kind} {header : Text} (h : k.header = some header)
    (rest : Text) : classify (header ++ rest) = k := by
  cases k <;> cases h <;> rfl

theorem Kind.header_of_classify {k : Kind} {raw : Text} (h : classify raw = k)
    (hk : k ≠ .unknown) : ∃ header rest, k.header = some header ∧ raw = header ++ rest := by
  unfold classify at h
  cases hfound : tried.find? (·.heads raw) with
  | none =>
    rw [hfound] at h
    exact absurd h.symm hk
  | some found =>
    rw [hfound] at h
    obtain rfl : found = k := h
    have hheads := List.find?_some hfound
    exact Kind.heads_iff.1 hheads

theorem headless_iff {raw : Text} : Headless raw ↔ Kind.classify raw = .unknown := by
  constructor
  · intro h
    by_contra hk
    obtain ⟨header, rest, hheader, e⟩ := Kind.header_of_classify rfl hk
    exact h _ header hheader ⟨rest, e.symm⟩
  · rintro h k header hheader ⟨rest, rfl⟩
    rw [Kind.classify_append hheader] at h
    subst h
    cases hheader

instance (raw : Text) : Decidable (Headless raw) := decidable_of_iff _ headless_iff.symm

/-! ## Written forms -/

/-- The raw texts that a message is written as. A registration and a sign of life may be closed by
a mark or left open, and a chat message may go without the mark in front of its text; what follows a
question for the sessions does not count. -/
inductive Written : Text → Message → Prop where
  | register {id name : Text} (hid : id ≠ []) (plain : Plain id) (hname : name ≠ []) :
      Written (Marker.connect ++ id ++ Marker.middle ++ name ++ Marker.connect) (.register id name)
  | registerOpen {id name : Text} (hid : id ≠ []) (plain : Plain id) (hname : name ≠ [])
      (left : ¬ Marker.connect <:+ name) :
      Written (Marker.connect ++ id ++ Marker.middle ++ name) (.register id name)
  | logoff {id : Text} (hid : id ≠ []) : Written (Marker.disconnect ++ id) (.logoff id)
  | incoming {id text : Text} (hid : id ≠ []) (plain : Plain id) :
      Written (Marker.messageLeft ++ id ++ Marker.middle ++ Marker.messageRight ++ text)
        (.incoming id text)
  | incomingBare {id text : Text} (hid : id ≠ []) (plain : Plain id)
      (left : ¬ Marker.messageRight <+: text) :
      Written (Marker.messageLeft ++ id ++ Marker.middle ++ text) (.incoming id text)
  | debug (rest : Text) : Written (Marker.debug ++ rest) .debug
  | usernameQuery {name : Text} (hname : name ≠ []) :
      Written (Marker.query ++ name) (.usernameQuery name)
  | keepAlive {id : Text} (hid : id ≠ []) :
      Written (Marker.keepAlive ++ id ++ Marker.keepAlive) (.keepAlive id)
  | keepAliveOpen {id : Text} (hid : id ≠ []) (left : ¬ Marker.keepAlive <:+ id) :
      Written (Marker.keepAlive ++ id) (.keepAlive id)
  | unknown {raw : Text} (headless : Headless raw) : Written raw (.unknown raw)

/-- A message is of the kind that its written forms are classified as. -/
theorem Written.classify {raw : Text} {m : Message} (h : Written raw m) :
    Kind.classify raw = m.kind := by
  cases h with
  | unknown headless => exact headless_iff.1 headless
  | logoff => exact Kind.classify_append rfl _
  | debug => exact Kind.classify_append rfl _
  | usernameQuery => exact Kind.classify_append rfl _
  | keepAliveOpen => exact Kind.classify_append rfl _
  | _ =>
    simp only [List.append_assoc]
    exact Kind.classify_append rfl _

/-! ## Reading the fields -/

/-- The mark that may end a registration does not begin in the middle mark. -/
theorem connect_suffix_iff {s name : Text} :
    Marker.connect <:+ s ++ Marker.middle ++ name ↔ Marker.connect <:+ name := by
  constructor
  · rintro ⟨start, h⟩
    rcases List.append_eq_append_iff.1 h with ⟨z, hfront, hback⟩ | ⟨z, -, hback⟩
    · -- it would begin with an end of what stands before the name, and that ends in the middle mark
      have hz : z ∈ Marker.connect.inits := (List.mem_inits z _).2 ⟨name, hback.symm⟩
      have hends : z <:+ Marker.middle ∨ Marker.middle <:+ z :=
        List.suffix_or_suffix_of_suffix ⟨start, hfront.symm⟩ (List.suffix_append s _)
      have hnil : ∀ z ∈ Marker.connect.inits,
          z <:+ Marker.middle ∨ Marker.middle <:+ z → z = [] := by decide
      obtain rfl := hnil z hz hends
      exact ⟨[], by simpa using hback⟩
    · exact ⟨z, hback.symm⟩
  · intro h
    exact h.trans (List.suffix_append _ _)

section Readers

variable {raw id : Text}

theorem readRegister_iff {name : Text} :
    readRegister raw = .ok (id, name) ↔ Written raw (.register id name) := by
  rw [readRegister_eq_ok_iff]
  constructor
  · rintro ⟨hid, hplain, hname, body, rfl, hbody⟩
    rcases Text.dropSuffix_eq_iff.1 hbody with rfl | ⟨hopen, rfl⟩
    · simpa using Written.register hid hplain hname
    · rw [connect_suffix_iff] at hopen
      simpa using Written.registerOpen hid hplain hname hopen
  · intro h
    cases h with
    | register hid hplain hname =>
      refine ⟨hid, hplain, hname, id ++ Marker.middle ++ name ++ Marker.connect, by simp, ?_⟩
      exact Text.dropSuffix_append _ _
    | registerOpen hid hplain hname hopen =>
      refine ⟨hid, hplain, hname, id ++ Marker.middle ++ name, by simp, ?_⟩
      rw [← connect_suffix_iff (s := id)] at hopen
      exact Text.dropSuffix_eq_iff.2 (.inr ⟨hopen, rfl⟩)

theorem readLogoff_iff : readLogoff raw = .ok id ↔ Written raw (.logoff id) := by
  rw [readLogoff_eq_ok_iff]
  constructor
  · rintro ⟨hid, rfl⟩
    exact .logoff hid
  · intro h
    cases h with
    | logoff hid => exact ⟨hid, rfl⟩

theorem readIncoming_iff {text : Text} :
    readIncoming raw = .ok (id, text) ↔ Written raw (.incoming id text) := by
  rw [readIncoming_eq_ok_iff]
  constructor
  · rintro ⟨hid, hplain, rest, rfl, hrest⟩
    rcases Text.dropPrefix_eq_iff.1 hrest with rfl | ⟨hbare, rfl⟩
    · have h : Written _ (.incoming id text) := .incoming hid hplain
      simpa using h
    · simpa using Written.incomingBare hid hplain hbare
  · intro h
    cases h with
    | incoming hid hplain =>
      refine ⟨hid, hplain, Marker.messageRight ++ text, by simp, ?_⟩
      exact Text.dropPrefix_eq_iff.2 (.inl rfl)
    | incomingBare hid hplain hbare =>
      refine ⟨hid, hplain, text, by simp, ?_⟩
      exact Text.dropPrefix_eq_iff.2 (.inr ⟨hbare, rfl⟩)

theorem readQuery_iff {name : Text} :
    readQuery raw = .ok name ↔ Written raw (.usernameQuery name) := by
  rw [readQuery_eq_ok_iff]
  constructor
  · rintro ⟨hname, rfl⟩
    exact .usernameQuery hname
  · intro h
    cases h with
    | usernameQuery hname => exact ⟨hname, rfl⟩

theorem readKeepAlive_iff : readKeepAlive raw = .ok id ↔ Written raw (.keepAlive id) := by
  rw [readKeepAlive_eq_ok_iff]
  constructor
  · rintro ⟨hid, body, rfl, hbody⟩
    rcases Text.dropSuffix_eq_iff.1 hbody with rfl | ⟨hopen, rfl⟩
    · simpa using Written.keepAlive hid
    · exact .keepAliveOpen hid hopen
  · intro h
    cases h with
    | keepAlive hid =>
      exact ⟨hid, id ++ Marker.keepAlive, by simp, Text.dropSuffix_append _ _⟩
    | keepAliveOpen hid hopen =>
      exact ⟨hid, id, rfl, Text.dropSuffix_eq_iff.2 (.inr ⟨hopen, rfl⟩)⟩

end Readers

/-! ## Reading a message -/

section Parse

variable {raw : Text}

theorem written_of_parse {m : Message} (h : Message.parse raw = .ok m) : Written raw m := by
  unfold Message.parse at h
  cases hkind : Kind.classify raw <;> rw [hkind] at h
  case register =>
    obtain ⟨⟨id, name⟩, hread, h⟩ := bind_eq_ok_iff.1 h
    cases h
    exact readRegister_iff.1 hread
  case logoff =>
    obtain ⟨id, hread, h⟩ := bind_eq_ok_iff.1 h
    cases h
    exact readLogoff_iff.1 hread
  case incoming =>
    obtain ⟨⟨id, text⟩, hread, h⟩ := bind_eq_ok_iff.1 h
    cases h
    exact readIncoming_iff.1 hread
  case debug =>
    cases h
    obtain ⟨header, rest, hheader, rfl⟩ := Kind.header_of_classify hkind nofun
    cases hheader
    exact .debug rest
  case usernameQuery =>
    obtain ⟨name, hread, h⟩ := bind_eq_ok_iff.1 h
    cases h
    exact readQuery_iff.1 hread
  case keepAlive =>
    obtain ⟨id, hread, h⟩ := bind_eq_ok_iff.1 h
    cases h
    exact readKeepAlive_iff.1 hread
  case unknown =>
    cases h
    exact .unknown (headless_iff.2 hkind)

theorem parse_of_written {m : Message} (h : Written raw m) : Message.parse raw = .ok m := by
  have hkind := h.classify
  unfold Message.parse
  rw [hkind]
  cases m with
  | register id name => exact bind_eq_ok_iff.2 ⟨_, readRegister_iff.2 h, rfl⟩
  | logoff id => exact bind_eq_ok_iff.2 ⟨_, readLogoff_iff.2 h, rfl⟩
  | incoming id text => exact bind_eq_ok_iff.2 ⟨_, readIncoming_iff.2 h, rfl⟩
  | debug => rfl
  | usernameQuery name => exact bind_eq_ok_iff.2 ⟨_, readQuery_iff.2 h, rfl⟩
  | keepAlive id => exact bind_eq_ok_iff.2 ⟨_, readKeepAlive_iff.2 h, rfl⟩
  | unknown text =>
    cases h
    rfl

theorem parse_eq_ok_iff {m : Message} : Message.parse raw = .ok m ↔ Written raw m :=
  ⟨written_of_parse, parse_of_written⟩

theorem parse_failsAs (raw : Text) : FailsAs (Kind.classify raw) (Message.parse raw) := by
  unfold Message.parse
  cases Kind.classify raw with
  | register => exact (FailsAs.readRegister raw).bind fun _ => .ok _
  | logoff => exact (FailsAs.readLogoff raw).bind fun _ => .ok _
  | incoming => exact (FailsAs.readIncoming raw).bind fun _ => .ok _
  | debug => exact .ok _
  | usernameQuery => exact (FailsAs.readQuery raw).bind fun _ => .ok _
  | keepAlive => exact (FailsAs.readKeepAlive raw).bind fun _ => .ok _
  | unknown => exact .ok _

/-- A registration has an id and a name. -/
theorem ne_nil_of_parse_register {id name : Text}
    (h : Message.parse raw = .ok (.register id name)) : id ≠ [] ∧ name ≠ [] := by
  cases written_of_parse h with
  | register hid _ hname => exact ⟨hid, hname⟩
  | registerOpen hid _ hname _ => exact ⟨hid, hname⟩

end Parse

/-- A raw text is read as a message exactly if it is one of the texts that the message is written
as. If it is none of any message, it is malformed, and of the kind that it is classified as. -/
theorem parse_iff_written (raw : Text) :
    (∀ m, Message.parse raw = .ok m ↔ Written raw m) ∧
    ((∃ m, Written raw m) ∨
      ∃ lack, Message.parse raw = .error (.malformed (Kind.classify raw) lack)) := by
  refine ⟨fun m => parse_eq_ok_iff, ?_⟩
  cases h : Message.parse raw with
  | ok m => exact .inl ⟨m, written_of_parse h⟩
  | error e =>
    obtain ⟨lack, rfl⟩ := parse_failsAs raw e h
    exact .inr ⟨lack, rfl⟩

/-- The mark that closes a sign of life is not taken for its id. -/
example : Message.parse (Marker.keepAlive ++ Marker.keepAlive) =
    .error (.malformed .keepAlive .uuid) := by decide

end Parley.Wire
