/-
What the readers take out of a message. Each one takes its fields in a few steps: what follows the
header, the two parts around the first middle mark, a field that may not be empty, a mark that may
be left out. So it has a result exactly if each of its steps has one (`readRegister_eq_ok_iff` and
its fellows), and what it fails with is malformed and of the kind that it reads.
-/
import Parley.Proofs.Wire.Passage
import Parley.Proofs.Wire.Slot

namespace Parley

/-! ## Marks that may be left out -/

theorem Text.dropSuffix_eq_iff {s t r : Text} :
    dropSuffix s t = r ↔ t = r ++ s ∨ (¬ s <:+ t ∧ t = r) := by
  by_cases h : s <:+ t
  · obtain ⟨start, rfl⟩ := h
    rw [dropSuffix_append]
    constructor
    · rintro rfl
      exact .inl rfl
    · rintro (h | ⟨h, -⟩)
      · exact List.append_cancel_right h
      · exact absurd (List.suffix_append start s) h
  · rw [dropSuffix_of_not fun start e => h ⟨start, e.symm⟩]
    constructor
    · rintro rfl
      exact .inr ⟨h, rfl⟩
    · rintro (rfl | ⟨-, rfl⟩)
      · exact absurd (List.suffix_append r s) h
      · rfl

theorem Text.dropPrefix_eq_iff {p t r : Text} :
    dropPrefix p t = r ↔ t = p ++ r ∨ (¬ p <+: t ∧ t = r) := by
  unfold dropPrefix
  cases hs : stripPrefix? p t with
  | some rest =>
    obtain rfl := stripPrefix?_eq_some.1 hs
    constructor
    · rintro rfl
      exact .inl rfl
    · rintro (h | ⟨h, -⟩)
      · exact List.append_cancel_left h
      · exact absurd (List.prefix_append p rest) h
  | none =>
    have hno : ¬ p <+: t := by
      rintro ⟨rest, rfl⟩
      rw [stripPrefix?_append] at hs
      cases hs
    constructor
    · rintro rfl
      exact .inr ⟨hno, rfl⟩
    · rintro (rfl | ⟨-, rfl⟩)
      · exact absurd (List.prefix_append p r) hno
      · rfl

namespace Wire

/-! ## One step after another -/

/-- Several steps of reading have a result exactly if each one has. -/
theorem bind_eq_ok_iff {α β : Type} {first : Except Error α} {next : α → Except Error β} {b : β} :
    first >>= next = .ok b ↔ ∃ a, first = .ok a ∧ next a = .ok b := by
  cases first with
  | error e =>
    constructor
    · intro h
      cases h
    · rintro ⟨a, h, -⟩
      cases h
  | ok a =>
    constructor
    · intro h
      exact ⟨a, rfl, h⟩
    · rintro ⟨a', h, hnext⟩
      cases h
      exact hnext

theorem pure_eq_ok_iff {α : Type} {a b : α} : (pure a : Except Error α) = .ok b ↔ a = b := by
  constructor
  · intro h
    injection h
  · rintro rfl
    rfl

section Steps

variable {k : Kind} {lack : Lack}

theorem afterHeader_eq_ok_iff {header raw body : Text} (h : k.header = some header) :
    afterHeader k raw = .ok body ↔ raw = header ++ body := by
  rw [← Text.stripPrefix?_eq_some, afterHeader, h, Option.bind_some]
  cases Text.stripPrefix? header raw with
  | none => exact ⟨fun h => (by cases h), fun h => (by cases h)⟩
  | some rest => simp

theorem nonEmpty_eq_ok_iff {value field : Text} :
    nonEmpty k lack value = .ok field ↔ value = field ∧ field ≠ [] := by
  unfold nonEmpty
  constructor
  · intro h
    split at h
    · cases h
    · rename_i hne
      injection h with h
      exact ⟨h, h ▸ hne⟩
  · rintro ⟨rfl, hne⟩
    exact if_neg hne

theorem splitMiddle_eq_ok_iff {body before after : Text} :
    splitMiddle k lack body = .ok (before, after) ↔
      Plain before ∧ body = before ++ Marker.middle ++ after := by
  rw [plain_iff_first, and_comm, ← Text.splitAt?_eq_some_iff, splitMiddle]
  cases Text.splitAt? Marker.middle body with
  | none => exact ⟨fun h => (by cases h), fun h => (by cases h)⟩
  | some parts => simp

end Steps

/-! ## Readers -/

section Readers

variable {raw id : Text}

theorem readRegister_eq_ok_iff {name : Text} :
    readRegister raw = .ok (id, name) ↔ id ≠ [] ∧ Plain id ∧ name ≠ [] ∧
      ∃ body, raw = Marker.connect ++ body ∧
        Text.dropSuffix Marker.connect body = id ++ Marker.middle ++ name := by
  simp only [readRegister, bind_eq_ok_iff, pure_eq_ok_iff, nonEmpty_eq_ok_iff,
    afterHeader_eq_ok_iff (k := .register) rfl]
  constructor
  · rintro ⟨body, hraw, ⟨before, after⟩, hsplit, _, ⟨rfl, hid⟩, _, ⟨rfl, hname⟩, e⟩
    cases e
    obtain ⟨hplain, hbody⟩ := splitMiddle_eq_ok_iff.1 hsplit
    exact ⟨hid, hplain, hname, body, hraw, hbody⟩
  · rintro ⟨hid, hplain, hname, body, hraw, hbody⟩
    exact ⟨body, hraw, (id, name), splitMiddle_eq_ok_iff.2 ⟨hplain, hbody⟩, id, ⟨rfl, hid⟩,
      name, ⟨rfl, hname⟩, rfl⟩

theorem readLogoff_eq_ok_iff :
    readLogoff raw = .ok id ↔ id ≠ [] ∧ raw = Marker.disconnect ++ id := by
  simp only [readLogoff, bind_eq_ok_iff, nonEmpty_eq_ok_iff,
    afterHeader_eq_ok_iff (k := .logoff) rfl]
  constructor
  · rintro ⟨_, hraw, rfl, hid⟩
    exact ⟨hid, hraw⟩
  · rintro ⟨hid, hraw⟩
    exact ⟨id, hraw, rfl, hid⟩

theorem readIncoming_eq_ok_iff {text : Text} :
    readIncoming raw = .ok (id, text) ↔ id ≠ [] ∧ Plain id ∧
      ∃ rest, raw = Marker.messageLeft ++ (id ++ Marker.middle ++ rest) ∧
        Text.dropPrefix Marker.messageRight rest = text := by
  simp only [readIncoming, bind_eq_ok_iff, pure_eq_ok_iff, nonEmpty_eq_ok_iff,
    afterHeader_eq_ok_iff (k := .incoming) rfl]
  constructor
  · rintro ⟨_, hraw, ⟨before, rest⟩, hsplit, _, ⟨rfl, hid⟩, e⟩
    cases e
    obtain ⟨hplain, rfl⟩ := splitMiddle_eq_ok_iff.1 hsplit
    exact ⟨hid, hplain, rest, hraw, rfl⟩
  · rintro ⟨hid, hplain, rest, hraw, rfl⟩
    exact ⟨_, hraw, (id, rest), splitMiddle_eq_ok_iff.2 ⟨hplain, rfl⟩, id, ⟨rfl, hid⟩, rfl⟩

theorem readQuery_eq_ok_iff {name : Text} :
    readQuery raw = .ok name ↔ name ≠ [] ∧ raw = Marker.query ++ name := by
  simp only [readQuery, bind_eq_ok_iff, nonEmpty_eq_ok_iff,
    afterHeader_eq_ok_iff (k := .usernameQuery) rfl]
  constructor
  · rintro ⟨_, hraw, rfl, hname⟩
    exact ⟨hname, hraw⟩
  · rintro ⟨hname, hraw⟩
    exact ⟨name, hraw, rfl, hname⟩

theorem readKeepAlive_eq_ok_iff :
    readKeepAlive raw = .ok id ↔ id ≠ [] ∧
      ∃ body, raw = Marker.keepAlive ++ body ∧ Text.dropSuffix Marker.keepAlive body = id := by
  simp only [readKeepAlive, bind_eq_ok_iff, nonEmpty_eq_ok_iff,
    afterHeader_eq_ok_iff (k := .keepAlive) rfl]
  constructor
  · rintro ⟨body, hraw, hbody, hid⟩
    exact ⟨hid, body, hraw, hbody⟩
  · rintro ⟨hid, body, hraw, hbody⟩
    exact ⟨body, hraw, hbody, hid⟩

end Readers

/-! ## What reading fails with -/

/-- Whether reading, if it fails, says that a text is malformed and of some kind. -/
def FailsAs {α : Type} (k : Kind) (read : Except Error α) : Prop :=
  ∀ e, read = .error e → ∃ lack, e = .malformed k lack

namespace FailsAs

variable {α β : Type} {k : Kind}

theorem ok (a : α) : FailsAs k (.ok a) := nofun

theorem bind {first : Except Error α} {next : α → Except Error β} (hfirst : FailsAs k first)
    (hnext : ∀ a, FailsAs k (next a)) : FailsAs k (first >>= next) := by
  cases first with
  | error e =>
    intro e' h
    cases h
    exact hfirst e rfl
  | ok a => exact hnext a

theorem afterHeader (raw : Text) : FailsAs k (afterHeader k raw) := by
  unfold Wire.afterHeader
  split
  · exact ok _
  · intro e h
    cases h
    exact ⟨_, rfl⟩

theorem nonEmpty (lack : Lack) (value : Text) : FailsAs k (nonEmpty k lack value) := by
  unfold Wire.nonEmpty
  split
  · intro e h
    cases h
    exact ⟨_, rfl⟩
  · exact ok _

theorem splitMiddle (lack : Lack) (body : Text) : FailsAs k (splitMiddle k lack body) := by
  unfold Wire.splitMiddle
  split
  · exact ok _
  · intro e h
    cases h
    exact ⟨_, rfl⟩

theorem readRegister (raw : Text) : FailsAs .register (readRegister raw) := by
  refine (afterHeader raw).bind fun body => ?_
  refine (splitMiddle _ _).bind fun parts => ?_
  refine (nonEmpty _ _).bind fun id => ?_
  exact (nonEmpty _ _).bind fun name => ok _

theorem readLogoff (raw : Text) : FailsAs .logoff (readLogoff raw) :=
  (afterHeader raw).bind fun body => nonEmpty _ body

theorem readIncoming (raw : Text) : FailsAs .incoming (readIncoming raw) := by
  refine (afterHeader raw).bind fun body => ?_
  refine (splitMiddle _ _).bind fun parts => ?_
  exact (nonEmpty _ _).bind fun id => ok _

theorem readQuery (raw : Text) : FailsAs .usernameQuery (readQuery raw) :=
  (afterHeader raw).bind fun body => nonEmpty _ body

theorem readKeepAlive (raw : Text) : FailsAs .keepAlive (readKeepAlive raw) :=
  (afterHeader raw).bind fun _ => nonEmpty _ _

end FailsAs
end Wire
end Parley
