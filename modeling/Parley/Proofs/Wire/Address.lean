/-
Addresses of private messages. A text is split at the first end mark, so a target never contains
one; with that, the text of an address and its two parts determine each other, and every other text
is for everybody. So nothing of a text is lost when it is read (`parse_eq_personal_iff`).
-/
import Parley.Wire.Chat

namespace Parley

/-- A text is split at a single character where it comes first. -/
theorem Text.splitAt?_singleton_eq_some {c : Char} : ∀ {t a b : Text},
    splitAt? [c] t = some (a, b) ↔ c ∉ a ∧ t = a ++ c :: b
  | [], a, b => by simp [splitAt?]
  | d :: t, a, b => by
    by_cases h : c = d
    · subst h
      have hhere : splitAt? [c] (c :: t) = some ([], t) := by simp [splitAt?, stripPrefix?]
      rw [hhere]
      constructor
      · intro e
        cases e
        simp
      · rintro ⟨hn, e⟩
        cases a with
        | nil => simpa using e
        | cons x a =>
          obtain ⟨rfl, -⟩ := List.cons.inj e
          exact absurd List.mem_cons_self hn
    · have hlater : splitAt? [c] (d :: t) =
          (splitAt? [c] t).map fun parts => (d :: parts.1, parts.2) := by
        simp [splitAt?, stripPrefix?, h]
      rw [hlater, Option.map_eq_some_iff]
      constructor
      · rintro ⟨⟨a', b'⟩, hsplit, e⟩
        cases e
        obtain ⟨hn, rfl⟩ := splitAt?_singleton_eq_some.1 hsplit
        exact ⟨by simp [h, hn], rfl⟩
      · rintro ⟨hn, e⟩
        cases a with
        | nil =>
          obtain ⟨rfl, -⟩ := List.cons.inj e
          exact absurd rfl h
        | cons x a =>
          obtain ⟨rfl, htail⟩ := List.cons.inj e
          rw [List.mem_cons, not_or] at hn
          exact ⟨(a, b), splitAt?_singleton_eq_some.2 ⟨hn.2, htail⟩, rfl⟩

namespace Wire.Chat

theorem address?_eq_some {text target payload : Text} :
    address? text = some (target, payload) ↔
      target ≠ [] ∧ Marker.addressEnd ∉ target ∧ text = addressed target payload := by
  simp only [address?, Option.filter_eq_some_iff, Option.bind_eq_some_iff,
    Text.stripPrefix?_eq_some, Text.splitAt?_singleton_eq_some]
  constructor
  · rintro ⟨⟨rest, rfl, hn, rfl⟩, ht⟩
    exact ⟨by simpa using ht, hn, rfl⟩
  · rintro ⟨ht, hn, rfl⟩
    exact ⟨⟨_, rfl, hn, rfl⟩, by simpa using ht⟩

/-- Text that starts with an address is for its target. -/
theorem parse_addressed {target : Text} (ht : target ≠ []) (hn : Marker.addressEnd ∉ target)
    (payload : Text) : parse (addressed target payload) = .personal target payload := by
  rw [parse, address?_eq_some.2 ⟨ht, hn, rfl⟩]

/-- Text that starts with no address is for everybody. -/
theorem parse_of_not_addressed {text : Text}
    (h : ∀ target payload, target ≠ [] → Marker.addressEnd ∉ target →
      text ≠ addressed target payload) : parse text = .broadcast text := by
  cases ha : address? text with
  | none => rw [parse, ha]
  | some p =>
    obtain ⟨ht, hn, e⟩ := address?_eq_some.1 ha
    exact absurd e (h _ _ ht hn)

/-! ## Reading addresses -/

/-- A text is the address of a target, followed by a payload. -/
structure Addresses (text target payload : Text) : Prop where
  text_eq : text = '@' :: target ++ '#' :: payload
  named : target ≠ []
  unmarked : '#' ∉ target

theorem address?_eq_some_iff {text target payload : Text} :
    address? text = some (target, payload) ↔ Addresses text target payload := by
  rw [address?_eq_some]
  exact ⟨fun ⟨named, unmarked, e⟩ => ⟨e, named, unmarked⟩,
    fun ⟨e, named, unmarked⟩ => ⟨named, unmarked, e⟩⟩

/-- A text addresses one target at most, and with one payload. -/
theorem Addresses.unique {text target payload target' payload' : Text}
    (h : Addresses text target payload) (h' : Addresses text target' payload') :
    target = target' ∧ payload = payload' := by
  have hsame : some (target, payload) = some (target', payload') :=
    (address?_eq_some_iff.2 h).symm.trans (address?_eq_some_iff.2 h')
  exact Prod.mk.inj (Option.some.inj hsame)

/-- The text that chat is read off. -/
def text : Chat → Text
  | .personal target payload => addressed target payload
  | .broadcast text => text

/-- Text is for one participant exactly if it starts with the address of that one, which is the text
up to the first end mark; it has one target at most. It is for everybody as it stands exactly if it
starts with no address. Either way it can be told from what was read. -/
theorem parse_eq_personal_iff (text : Text) :
    (∀ target payload, parse text = .personal target payload ↔
      Addresses text target payload) ∧
    (∀ all, parse text = .broadcast all ↔
      all = text ∧ ¬ ∃ target payload, Addresses text target payload) ∧
    (∀ target payload target' payload', Addresses text target payload →
      Addresses text target' payload' → target = target' ∧ payload = payload') ∧
    (parse text).text = text := by
  cases h : address? text with
  | none =>
    have hnone : ∀ target payload, ¬ Addresses text target payload := by
      intro target payload ha
      exact absurd (h.symm.trans (address?_eq_some_iff.2 ha)) nofun
    rw [parse, h]
    refine ⟨fun target payload => ?_, fun all => ?_, fun _ _ _ _ => Addresses.unique, rfl⟩
    · exact ⟨nofun, fun ha => absurd ha (hnone _ _)⟩
    · constructor
      · intro e
        exact ⟨(Chat.broadcast.inj e).symm, fun ⟨_, _, ha⟩ => hnone _ _ ha⟩
      · rintro ⟨rfl, -⟩
        rfl
  | some parts =>
    obtain ⟨target, payload⟩ := parts
    have ha : Addresses text target payload := address?_eq_some_iff.1 h
    rw [parse, h]
    refine ⟨fun target' payload' => ?_, fun all => ?_, fun _ _ _ _ => Addresses.unique,
      ha.text_eq.symm⟩
    · constructor
      · intro e
        cases e
        exact ha
      · intro ha'
        obtain ⟨rfl, rfl⟩ := ha.unique ha'
        rfl
    · exact ⟨nofun, fun ⟨_, hnone⟩ => absurd ⟨target, payload, ha⟩ hnone⟩

/-- Every mark after the first end mark is of the payload, and one in front of it of the target. -/
theorem parse_marks_in_both :
    let text := "@a@ü##b#".toList
    Addresses text "a@ü".toList "#b#".toList ∧
      parse text = .personal "a@ü".toList "#b#".toList ∧
      (∀ target payload, Addresses text target payload →
        target = "a@ü".toList ∧ payload = "#b#".toList) ∧
      parse "@#hi".toList = .broadcast "@#hi".toList := by
  intro text
  have ha : Addresses text "a@ü".toList "#b#".toList := ⟨by decide, by decide, by decide⟩
  obtain ⟨hpersonal, -, hunique, -⟩ := parse_eq_personal_iff text
  exact ⟨ha, (hpersonal _ _).2 ha, fun _ _ h => hunique _ _ _ _ h ha, by decide⟩

end Wire.Chat
end Parley
