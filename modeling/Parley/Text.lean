/-
Text as a list of characters, so that a law about it is an induction: dropping a known start or
end, splitting at the first occurrence of a separator, and the statements that say what each of
the three leaves (`stripPrefix?_eq_some`, `stripSuffix?_eq_some`, `append_of_splitAt?`).
-/
namespace Parley

/-- Text is a list of characters. -/
abbrev Text := List Char

instance : Coe String Text := ⟨String.toList⟩

namespace Text

/-! ## Dropping a start or an end -/

/-- What follows `p` in a text that starts with it. -/
def stripPrefix? : Text → Text → Option Text
  | [], t => some t
  | _ :: _, [] => none
  | p :: ps, c :: cs => if p = c then stripPrefix? ps cs else none

/-- What precedes `s` in a text that ends with it. -/
def stripSuffix? (s t : Text) : Option Text :=
  (stripPrefix? s.reverse t.reverse).map List.reverse

/-- Whether a text starts with `p`. -/
def startsWith (p t : Text) : Bool := (stripPrefix? p t).isSome

/-- A text without the end `s`, or the text itself when it does not end so. -/
def dropSuffix (s t : Text) : Text := (stripSuffix? s t).getD t

/-- A text without the start `p`, or the text itself when it does not start so. -/
def dropPrefix (p t : Text) : Text := (stripPrefix? p t).getD t

theorem stripPrefix?_eq_some : ∀ {p t r : Text}, stripPrefix? p t = some r ↔ t = p ++ r
  | [], t, r => by simp [stripPrefix?]
  | _ :: _, [], r => by simp [stripPrefix?]
  | p :: ps, c :: cs, r => by
    by_cases h : p = c
    · subst h; simp [stripPrefix?, stripPrefix?_eq_some]
    · have h' : ¬ c = p := fun e => h e.symm
      simp [stripPrefix?, h, h']

theorem stripSuffix?_eq_some {s t r : Text} : stripSuffix? s t = some r ↔ t = r ++ s := by
  unfold stripSuffix?
  simp only [Option.map_eq_some_iff, stripPrefix?_eq_some]
  constructor
  · rintro ⟨a, h, rfl⟩
    have := congrArg List.reverse h
    simpa using this
  · rintro rfl
    exact ⟨r.reverse, by simp, by simp⟩

theorem startsWith_iff {p t : Text} : startsWith p t = true ↔ ∃ r, t = p ++ r := by
  simp [startsWith, Option.isSome_iff_exists, stripPrefix?_eq_some]

theorem startsWith_eq_false_iff {p t : Text} : startsWith p t = false ↔ ∀ r, t ≠ p ++ r := by
  rw [← Bool.not_eq_true, startsWith_iff]; simp

theorem stripPrefix?_append (p r : Text) : stripPrefix? p (p ++ r) = some r :=
  stripPrefix?_eq_some.2 rfl

theorem stripSuffix?_append (r s : Text) : stripSuffix? s (r ++ s) = some r :=
  stripSuffix?_eq_some.2 rfl

theorem stripPrefix?_eq_none {p t : Text} : stripPrefix? p t = none ↔ startsWith p t = false := by
  unfold startsWith; cases stripPrefix? p t <;> simp

/-! ## Splitting at a separator -/

/-- The parts of a text before and after the first occurrence of `sep`. -/
def splitAt? (sep : Text) : Text → Option (Text × Text)
  | [] => if sep = [] then some ([], []) else none
  | c :: cs =>
    match stripPrefix? sep (c :: cs) with
    | some rest => some ([], rest)
    | none => (splitAt? sep cs).map fun (a, b) => (c :: a, b)

/-- The two parts and the separator between them make up the text. -/
theorem append_of_splitAt? {sep : Text} : ∀ {t a b : Text}, splitAt? sep t = some (a, b) →
    t = a ++ sep ++ b
  | [], a, b, h => by
    unfold splitAt? at h
    split at h
    · cases h; simp_all
    · cases h
  | c :: cs, a, b, h => by
    unfold splitAt? at h
    split at h
    · rename_i rest hr
      cases h
      simpa using stripPrefix?_eq_some.1 hr
    · rename_i hr
      obtain ⟨⟨a', b'⟩, h', he⟩ := Option.map_eq_some_iff.1 h
      cases he
      simp [append_of_splitAt? h']

/-- A text has no first occurrence of a separator exactly when it has none at all. -/
theorem splitAt?_eq_none {sep : Text} : ∀ {t : Text}, splitAt? sep t = none ↔
    ∀ a b, t ≠ a ++ sep ++ b
  | [] => by
    unfold splitAt?
    by_cases h : sep = []
    · subst h; simp
    · simp [h]
  | c :: cs => by
    unfold splitAt?
    split
    · rename_i rest hr
      have := stripPrefix?_eq_some.1 hr
      constructor
      · intro h; cases h
      · intro h; exact absurd (by simpa using this) (h [] rest)
    · rename_i hr
      have hno : ∀ r, c :: cs ≠ sep ++ r :=
        startsWith_eq_false_iff.1 (stripPrefix?_eq_none.1 hr)
      rw [Option.map_eq_none_iff, splitAt?_eq_none]
      constructor
      · intro h a b e
        cases a with
        | nil => exact hno b (by simpa using e)
        | cons x xs => simp at e; exact h xs b (by simpa using e.2)
      · rintro h a b rfl
        exact h (c :: a) b (by simp)

/-- The part before the first occurrence contains no earlier one, even one that runs on into the
separator itself. -/
theorem no_earlier_of_splitAt? {sep : Text} : ∀ {t a b : Text}, splitAt? sep t = some (a, b) →
    ∀ x y, a ++ sep ≠ x ++ sep ++ y ∨ y = []
  | [], a, b, h, x, y => by
    unfold splitAt? at h
    split at h
    · cases h; simp_all
      by_cases hy : y = []
      · exact .inr hy
      · exact .inl fun _ => hy
    · cases h
  | c :: cs, a, b, h, x, y => by
    unfold splitAt? at h
    split at h
    · rename_i rest hr
      cases h
      by_cases hy : y = []
      · exact .inr hy
      · left
        intro e
        have := congrArg List.length e
        simp at this
        exact hy (List.length_eq_zero_iff.1 (by omega))
    · rename_i hr
      have hno : ∀ r, c :: cs ≠ sep ++ r :=
        startsWith_eq_false_iff.1 (stripPrefix?_eq_none.1 hr)
      obtain ⟨⟨a', b'⟩, h', he⟩ := Option.map_eq_some_iff.1 h
      cases he
      have happ := append_of_splitAt? h'
      cases x with
      | nil =>
        left
        intro e
        apply hno (y ++ b)
        rw [happ]
        have := congrArg (· ++ b) e
        simpa using this
      | cons z zs =>
        rcases no_earlier_of_splitAt? h' zs y with h1 | h1
        · left
          intro e
          simp at e
          exact h1 (by simpa using e.2)
        · exact .inr h1

/-! ## Size and trimming -/

/-- How many bytes a text takes in UTF-8. -/
def utf8Length : Text → Nat
  | [] => 0
  | c :: cs => c.utf8Size + utf8Length cs

/-- A text without the characters at its end for which `p` holds. -/
def trimEndWhile (p : Char → Bool) (t : Text) : Text := (t.reverse.dropWhile p).reverse

/-- A text without the characters at both ends for which `p` holds. -/
def trimWhile (p : Char → Bool) (t : Text) : Text := (trimEndWhile p t).dropWhile p

/-- What stands before a character that is kept is kept with it. -/
theorem trimEndWhile_append {p : Char → Bool} {t : Text} (h : ∀ c ∈ t.getLast?, p c = false)
    (rest : Text) : trimEndWhile p (t ++ rest) = t ++ trimEndWhile p rest := by
  have hkept : t.reverse.dropWhile p = t.reverse := by
    rcases List.eq_nil_or_concat t with rfl | ⟨start, c, rfl⟩
    · rfl
    · have hc : p c = false := h c (by simp)
      rw [List.concat_eq_append, List.reverse_append]
      exact List.dropWhile_cons_of_neg (by simp [hc])
  rw [trimEndWhile, List.reverse_append, List.dropWhile_append, hkept, trimEndWhile]
  split
  · rename_i hempty
    simp [List.isEmpty_iff.1 hempty]
  · simp

theorem trimEndWhile_append_of_all {p : Char → Bool} {ends : Text} (h : ∀ c ∈ ends, p c = true)
    (t : Text) : trimEndWhile p (t ++ ends) = trimEndWhile p t := by
  rw [trimEndWhile, List.reverse_append,
    List.dropWhile_append_of_pos fun c hc => h c (List.mem_reverse.1 hc), trimEndWhile]

theorem trimEndWhile_eq_self {p : Char → Bool} {t : Text} (h : ∀ c ∈ t.getLast?, p c = false) :
    trimEndWhile p t = t := by
  have hnil : trimEndWhile p [] = [] := rfl
  have happend := trimEndWhile_append h []
  rwa [hnil, List.append_nil] at happend

@[simp] theorem utf8Length_nil : utf8Length [] = 0 := rfl

@[simp] theorem utf8Length_append (a b : Text) :
    utf8Length (a ++ b) = utf8Length a + utf8Length b := by
  induction a with
  | nil => simp
  | cons c a ih => simp only [List.cons_append, utf8Length, ih]; omega

/-! ## Order -/

/-- Whether a text comes before another or is the same, by the code points of their characters. -/
def atMost : Text → Text → Bool
  | [], _ => true
  | _ :: _, [] => false
  | a :: as, b :: bs => a.toNat < b.toNat || (a == b && atMost as bs)

@[simp] theorem atMost_refl : ∀ t : Text, atMost t t = true
  | [] => rfl
  | c :: cs => by simp [atMost, atMost_refl cs]

theorem atMost_trans : ∀ {a b c : Text}, atMost a b = true → atMost b c = true →
    atMost a c = true
  | [], _, _, _, _ => rfl
  | _ :: _, [], _, h, _ => by cases h
  | _ :: _, _ :: _, [], _, h => by cases h
  | x :: xs, y :: ys, z :: zs, h, k => by
    simp only [atMost, Bool.or_eq_true, decide_eq_true_eq, Bool.and_eq_true, beq_iff_eq] at *
    rcases h with h | ⟨rfl, h⟩
    · rcases k with k | ⟨rfl, _⟩
      · exact .inl (by omega)
      · exact .inl h
    · rcases k with k | ⟨rfl, k⟩
      · exact .inl k
      · exact .inr ⟨rfl, atMost_trans h k⟩

theorem atMost_total : ∀ a b : Text, atMost a b = true ∨ atMost b a = true
  | [], _ => .inl rfl
  | _ :: _, [] => .inr rfl
  | x :: xs, y :: ys => by
    simp only [atMost, Bool.or_eq_true, decide_eq_true_eq, Bool.and_eq_true, beq_iff_eq]
    rcases Nat.lt_trichotomy x.toNat y.toNat with h | h | h
    · exact .inl (.inl h)
    · have h : x = y := Char.ext (UInt32.toNat_inj.1 h)
      rcases atMost_total xs ys with k | k
      · exact .inl (.inr ⟨h, k⟩)
      · exact .inr (.inr ⟨h.symm, k⟩)
    · exact .inr (.inl h)

end Text
end Parley
