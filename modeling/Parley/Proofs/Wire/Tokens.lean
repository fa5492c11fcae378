/-
The two ways of taking a message apart: reading it as a message, and taking its fields out under
their names. Both go by the header, and no text starts with two headers, so the order in which they
are tried decides nothing (`find?_tried_of_perm`). On the kind that a text is classified as, the
fields are those of the message that is read, and both fail with the same failure
(`tokenize_classify`); as any other kind the text lacks the header.
-/
import Parley.Proofs.Wire.Grammar

namespace Parley.Wire

/-! ## Fields of messages -/

/-- The names of the fields that the messages of a kind have. -/
def Kind.fieldNames : Kind → List Field
  | .register => [.uuid, .name]
  | .logoff => [.uuid]
  | .incoming => [.uuid, .messageText]
  | .usernameQuery => [.username]
  | .keepAlive => [.uuid]
  | .debug | .unknown => []

/-- The value of a field of a message, if the message has that field. -/
def Message.field? : Message → Field → Option Text
  | .register id _, .uuid => some id
  | .register _ name, .name => some name
  | .logoff id, .uuid => some id
  | .incoming id _, .uuid => some id
  | .incoming _ text, .messageText => some text
  | .usernameQuery name, .username => some name
  | .keepAlive id, .uuid => some id
  | _, _ => none

/-- The fields of a message under their names. -/
def Message.fields (m : Message) : Fields :=
  m.kind.fieldNames.filterMap fun f => (m.field? f).map (f, ·)

/-- A message has a value for each field of its kind. -/
theorem Message.map_fst_fields (m : Message) : m.fields.map (·.1) = m.kind.fieldNames := by
  cases m <;> rfl

/-- What is found under the name of a field is the message's value of it. -/
theorem Message.get?_fields (m : Message) (f : Field) : m.fields.get? f.label = m.field? f := by
  cases m <;> cases f <;> rfl

/-! ## Headers -/

variable {raw : Text}

namespace Kind

theorem mem_tried {k : Kind} : k ∈ tried ↔ k ≠ .unknown := by
  cases k <;> decide

/-- Whatever header a text starts with is that of the kind it is classified as. -/
theorem classify_of_prefix {k : Kind} {header : Text} (h : k.header = some header)
    (hraw : header <+: raw) : classify raw = k := by
  obtain ⟨rest, rfl⟩ := hraw
  exact classify_append h rest

/-- A text is of a known kind exactly if it starts with the header of that kind. -/
theorem classify_ne_unknown_iff :
    classify raw ≠ .unknown ↔ ∃ header, (classify raw).header = some header ∧ header <+: raw := by
  constructor
  · intro hk
    obtain ⟨header, rest, hheader, e⟩ := header_of_classify rfl hk
    exact ⟨header, hheader, rest, e.symm⟩
  · rintro ⟨header, hheader, -⟩ hk
    rw [hk] at hheader
    cases hheader

/-- In whatever order the headers are tried, the kind that is found is the same. -/
theorem find?_tried_of_perm {order : List Kind} (h : order.Perm tried) :
    (order.find? (·.heads raw)).getD .unknown = classify raw := by
  cases hfound : order.find? (·.heads raw) with
  | none =>
    symm
    by_contra hk
    obtain ⟨header, rest, hheader, e⟩ := header_of_classify rfl hk
    have hmem : classify raw ∈ order := h.mem_iff.2 (mem_tried.2 hk)
    exact List.find?_eq_none.1 hfound _ hmem (heads_iff.2 ⟨header, rest, hheader, e⟩)
  | some k =>
    have hheads := List.find?_some hfound
    obtain ⟨header, rest, hheader, rfl⟩ := heads_iff.1 hheads
    exact (classify_append hheader rest).symm

end Kind

theorem afterHeader_eq_error {k : Kind} (h : ∀ header, k.header = some header → ¬ header <+: raw) :
    afterHeader k raw = .error (.malformed k .header) := by
  cases hheader : k.header with
  | none =>
    rw [afterHeader, hheader]
    rfl
  | some header =>
    cases hread : afterHeader k raw with
    | ok body =>
      have hraw : raw = header ++ body := (afterHeader_eq_ok_iff hheader).1 hread
      exact absurd ⟨body, hraw.symm⟩ (h header hheader)
    | error e =>
      rw [afterHeader, hheader] at hread
      split at hread
      · cases hread
      · exact hread.symm

/-! ## Reading and taking the fields out -/

/-- The fields of a text, as one of the kind that it is classified as, are those of the message that
is read; where one fails, both fail, and with the same failure. -/
theorem tokenize_classify (raw : Text) :
    (Kind.classify raw).tokenize raw = (Message.parse raw).map Message.fields := by
  unfold Message.parse
  cases hkind : Kind.classify raw with
  | register =>
    simp only [Kind.tokenize]
    cases readRegister raw <;> rfl
  | logoff =>
    simp only [Kind.tokenize]
    cases readLogoff raw <;> rfl
  | incoming =>
    simp only [Kind.tokenize]
    cases readIncoming raw <;> rfl
  | debug =>
    obtain ⟨header, rest, hheader, e⟩ := Kind.header_of_classify hkind (by decide)
    have hread : afterHeader .debug raw = .ok rest := (afterHeader_eq_ok_iff hheader).2 e
    simp only [Kind.tokenize, hread]
    rfl
  | usernameQuery =>
    simp only [Kind.tokenize]
    cases readQuery raw <;> rfl
  | keepAlive =>
    simp only [Kind.tokenize]
    cases readKeepAlive raw <;> rfl
  | unknown => rfl

/-- As one of a known kind that it is not classified as, a text lacks the header. -/
theorem tokenize_of_ne_classify {k : Kind} (hother : k ≠ Kind.classify raw) (hk : k ≠ .unknown) :
    k.tokenize raw = .error (.malformed k .header) := by
  have hread : afterHeader k raw = .error (.malformed k .header) :=
    afterHeader_eq_error fun header hheader hraw =>
      hother (Kind.classify_of_prefix hheader hraw).symm
  cases k with
  | unknown => exact absurd rfl hk
  | register => simp only [Kind.tokenize, readRegister, hread]; rfl
  | logoff => simp only [Kind.tokenize, readLogoff, hread]; rfl
  | incoming => simp only [Kind.tokenize, readIncoming, hread]; rfl
  | debug => simp only [Kind.tokenize, hread]; rfl
  | usernameQuery => simp only [Kind.tokenize, readQuery, hread]; rfl
  | keepAlive => simp only [Kind.tokenize, readKeepAlive, hread]; rfl

/-- A message that is read is of the kind that its text is classified as. -/
theorem kind_of_parse {m : Message} (h : Message.parse raw = .ok m) : m.kind = Kind.classify raw :=
  (written_of_parse h).classify.symm

/-- A text is of a known kind exactly if it starts with the header of that kind; then it starts with
no other header, and in whatever order the headers are tried, the kind is the same. It is read as a
message exactly if its fields can be taken out as one of its kind. Then the message is of that kind,
and the fields are those that messages of the kind have, with the values of the message's; and else
both fail as malformed, of that kind, and for want of the same. As one of any other known kind, the
text lacks the header. -/
theorem tokenize_agrees_with_parse (raw : Text) :
    let k := Kind.classify raw
    (k ≠ .unknown ↔ ∃ header, k.header = some header ∧ header <+: raw) ∧
    (∀ j header, Kind.header j = some header → header <+: raw → j = k) ∧
    (∀ order : List Kind, order.Perm Kind.tried → (order.find? (·.heads raw)).getD .unknown = k) ∧
    ((∃ m, Message.parse raw = .ok m) ↔ ∃ fields, k.tokenize raw = .ok fields) ∧
    (∀ m fields, Message.parse raw = .ok m → k.tokenize raw = .ok fields →
      m.kind = k ∧ fields.map (·.1) = k.fieldNames ∧ ∀ f, fields.get? f.label = m.field? f) ∧
    (∀ e, Message.parse raw = .error e ↔ k.tokenize raw = .error e) ∧
    (∀ e, Message.parse raw = .error e → ∃ lack, e = .malformed k lack) ∧
    ∀ j, j ≠ k → j ≠ .unknown → j.tokenize raw = .error (.malformed j .header) := by
  intro k
  have hsame : k.tokenize raw = (Message.parse raw).map Message.fields := tokenize_classify raw
  refine ⟨Kind.classify_ne_unknown_iff,
    fun j header hheader hraw => (Kind.classify_of_prefix hheader hraw).symm,
    fun order => Kind.find?_tried_of_perm, ?_, fun m fields hm hfields => ?_, ?_,
    parse_failsAs raw, fun j => tokenize_of_ne_classify⟩
  · rw [hsame]
    cases Message.parse raw <;> simp [Except.map]
  · rw [hsame, hm] at hfields
    obtain rfl : m.fields = fields := Except.ok.inj hfields
    have hkind : m.kind = k := kind_of_parse hm
    exact ⟨hkind, hkind ▸ m.map_fst_fields, m.get?_fields⟩
  · intro e
    rw [hsame]
    cases Message.parse raw <;> simp [Except.map]

/-- What comes after the header of a question for the sessions is read neither way; a registration
is none of the other kinds. -/
example :
    Kind.debug.tokenize (Marker.debug ++ " now".toList) = .ok [] ∧
    Kind.keepAlive.tokenize (Message.register "1".toList "ann".toList).wire =
      .error (.malformed .keepAlive .header) := by decide

end Parley.Wire
