/-
Text survives UTF-8: reading the bytes of a text gives the text back (`fromUtf8_toUtf8`). The reader
is followed through the bytes of one character, by their number; the range that the second byte must
be in shuts out exactly what no character is written as. A byte below 0x80 stands for itself and is
part of nothing else, so line ends and carriage returns are found in the bytes where they are in the
text; and whatever else bytes are read as, it holds none that is not among them
(`mem_of_mem_fromUtf8`).
-/
import Mathlib.Tactic.SplitIfs
import Parley.Text.Utf8

namespace Parley.Text

/-! ## One byte -/

theorem fromUtf8From_cons (p : Option Partial) (b : UInt8) (bs : List UInt8) :
    fromUtf8From p (b :: bs) = (takeByte p b).1 ++ fromUtf8From (takeByte p b).2 bs := by
  rw [fromUtf8From]

section Bytes

variable {n : Nat} (hn : n < 256)
include hn

theorem toNat_ofNat_byte : (UInt8.ofNat n).toNat = n := by
  rw [UInt8.toNat_ofNat']
  exact Nat.mod_eq_of_lt hn

/-- A byte in the range that is waited for goes on with the character under way. -/
theorem fromUtf8From_within {missing value : Nat} {low high : UInt8} (hlow : low.toNat ≤ n)
    (hhigh : n ≤ high.toNat) (rest : List UInt8) :
    fromUtf8From (some ⟨missing, low, high, value⟩) (UInt8.ofNat n :: rest) =
      if missing ≤ 1 then Char.ofNat (value * 64 + (n - 0x80)) :: fromUtf8From none rest
      else fromUtf8From (some ⟨missing - 1, 0x80, 0xBF, value * 64 + (n - 0x80)⟩) rest := by
  have hin : low ≤ UInt8.ofNat n ∧ UInt8.ofNat n ≤ high := by
    rw [UInt8.le_iff_toNat_le, UInt8.le_iff_toNat_le, toNat_ofNat_byte hn]
    exact ⟨hlow, hhigh⟩
  simp only [fromUtf8From_cons, takeByte, if_pos hin, toNat_ofNat_byte hn]
  split <;> rfl

theorem fromUtf8From_one (h : n < 0x80) (rest : List UInt8) :
    fromUtf8From none (UInt8.ofNat n :: rest) = Char.ofNat n :: fromUtf8From none rest := by
  simp only [fromUtf8From_cons, takeByte, beginByte, toNat_ofNat_byte hn, if_pos h]
  rfl

theorem fromUtf8From_two (hlow : 0xC2 ≤ n) (hhigh : n < 0xE0) (rest : List UInt8) :
    fromUtf8From none (UInt8.ofNat n :: rest) =
      fromUtf8From (some ⟨1, 0x80, 0xBF, n - 0xC0⟩) rest := by
  simp only [fromUtf8From_cons, takeByte, beginByte, toNat_ofNat_byte hn]
  rw [if_neg (by omega), if_neg (by omega), if_pos hhigh]
  rfl

/-- The first of three bytes waits for a second that is not below what two bytes suffice for, and
does not lead to the surrogates. -/
theorem fromUtf8From_three (hlow : 0xE0 ≤ n) (hhigh : n < 0xF0) {m : Nat} (hm : 0x80 ≤ m)
    (hm' : m ≤ 0xBF) (hfirst : n = 0xE0 → 0xA0 ≤ m) (hlast : n = 0xED → m ≤ 0x9F) :
    ∃ low high : UInt8, low.toNat ≤ m ∧ m ≤ high.toNat ∧ ∀ rest,
      fromUtf8From none (UInt8.ofNat n :: rest) =
        fromUtf8From (some ⟨2, low, high, n - 0xE0⟩) rest := by
  simp only [fromUtf8From_cons, takeByte, beginByte, toNat_ofNat_byte hn]
  rw [if_neg (by omega), if_neg (by omega), if_neg (by omega)]
  by_cases h0 : n = 0xE0
  · subst h0
    exact ⟨0xA0, 0xBF, hfirst rfl, hm', fun _ => rfl⟩
  · rw [if_neg h0]
    by_cases hd : n = 0xED
    · subst hd
      exact ⟨0x80, 0x9F, hm, hlast rfl, fun _ => rfl⟩
    · rw [if_neg hd, if_pos hhigh]
      exact ⟨0x80, 0xBF, hm, hm', fun _ => rfl⟩

/-- The first of four bytes waits for a second that is not below what three bytes suffice for, and
does not lead beyond the last code point. -/
theorem fromUtf8From_four (hlow : 0xF0 ≤ n) (hhigh : n ≤ 0xF4) {m : Nat} (hm : 0x80 ≤ m)
    (hm' : m ≤ 0xBF) (hfirst : n = 0xF0 → 0x90 ≤ m) (hlast : n = 0xF4 → m ≤ 0x8F) :
    ∃ low high : UInt8, low.toNat ≤ m ∧ m ≤ high.toNat ∧ ∀ rest,
      fromUtf8From none (UInt8.ofNat n :: rest) =
        fromUtf8From (some ⟨3, low, high, n - 0xF0⟩) rest := by
  simp only [fromUtf8From_cons, takeByte, beginByte, toNat_ofNat_byte hn]
  rw [if_neg (by omega), if_neg (by omega), if_neg (by omega), if_neg (by omega),
    if_neg (by omega), if_neg (by omega)]
  by_cases h0 : n = 0xF0
  · subst h0
    exact ⟨0x90, 0xBF, hfirst rfl, hm', fun _ => rfl⟩
  · rw [if_neg h0]
    by_cases h4 : n = 0xF4
    · subst h4
      exact ⟨0x80, 0x8F, hm, hlast rfl, fun _ => rfl⟩
    · rw [if_pos (by omega)]
      exact ⟨0x80, 0xBF, hm, hm', fun _ => rfl⟩

end Bytes

/-! ## One character -/

/-- Reading the bytes of a character gives the character, and leaves nothing of it under way. -/
theorem fromUtf8From_encodeChar (c : Char) (rest : List UInt8) :
    fromUtf8From none (String.utf8EncodeChar c ++ rest) = c :: fromUtf8From none rest := by
  have hvalid : c.val.toNat < 0xD800 ∨ 0xDFFF < c.val.toNat ∧ c.val.toNat < 0x110000 := c.valid
  have hc : Char.ofNat c.val.toNat = c := Char.ofNat_toNat c
  unfold String.utf8EncodeChar
  generalize c.val.toNat = v at hvalid hc
  -- every byte but the first is between these
  have hlow (n : Nat) : UInt8.toNat 0x80 ≤ n % 64 + 128 := Nat.le_add_left 128 _
  have hhigh (n : Nat) : n % 64 + 128 ≤ UInt8.toNat 0xBF :=
    show n % 64 + 128 ≤ 191 by omega
  dsimp only
  split_ifs with h1 h2 h3 <;> simp only [List.cons_append, List.nil_append]
  · rw [fromUtf8From_one (by omega) (by omega), hc]
  · have hvalue : (v / 64 % 32 + 192 - 0xC0) * 64 + (v % 64 + 128 - 0x80) = v := by omega
    rw [fromUtf8From_two (by omega) (by omega) (by omega),
      fromUtf8From_within (by omega) (hlow _) (hhigh _), if_pos (by omega), hvalue, hc]
  · have hvalue : ((v / 4096 % 16 + 224 - 0xE0) * 64 + (v / 64 % 64 + 128 - 0x80)) * 64 +
        (v % 64 + 128 - 0x80) = v := by omega
    obtain ⟨low, high, hsecond, hsecond', hfirst⟩ := fromUtf8From_three
      (n := v / 4096 % 16 + 224) (m := v / 64 % 64 + 128) (by omega) (by omega) (by omega)
      (by omega) (by omega) (by omega) (by omega)
    rw [hfirst, fromUtf8From_within (by omega) hsecond hsecond', if_neg (by omega),
      fromUtf8From_within (by omega) (hlow _) (hhigh _), if_pos (by omega), hvalue, hc]
  · have hvalue : (((v / 262144 % 8 + 240 - 0xF0) * 64 + (v / 4096 % 64 + 128 - 0x80)) * 64 +
        (v / 64 % 64 + 128 - 0x80)) * 64 + (v % 64 + 128 - 0x80) = v := by omega
    obtain ⟨low, high, hsecond, hsecond', hfirst⟩ := fromUtf8From_four
      (n := v / 262144 % 8 + 240) (m := v / 4096 % 64 + 128) (by omega) (by omega) (by omega)
      (by omega) (by omega) (by omega) (by omega)
    rw [hfirst, fromUtf8From_within (by omega) hsecond hsecond', if_neg (by omega),
      fromUtf8From_within (by omega) (hlow _) (hhigh _), if_neg (by omega),
      fromUtf8From_within (by omega) (hlow _) (hhigh _), if_pos (by omega), hvalue, hc]

/-! ## A whole text -/

/-- Reading the UTF-8 bytes of a text gives the text back. -/
theorem fromUtf8_toUtf8 (t : Text) : fromUtf8 (toUtf8 t) = t := by
  unfold fromUtf8
  induction t with
  | nil => rw [toUtf8_nil, fromUtf8From]
  | cons c t ih => rw [toUtf8_cons, fromUtf8From_encodeChar, ih]

/-- A byte below 0x80 is the only one of its character. -/
theorem eq_of_mem_encodeChar {c : Char} {b : UInt8} (hb : b.toNat < 0x80)
    (h : b ∈ String.utf8EncodeChar c) : String.utf8EncodeChar c = [b] ∧ c = Char.ofNat b.toNat := by
  have hvalid : c.val.toNat < 0xD800 ∨ 0xDFFF < c.val.toNat ∧ c.val.toNat < 0x110000 := c.valid
  have hc : Char.ofNat c.val.toNat = c := Char.ofNat_toNat c
  have hbyte : ∀ {n : Nat}, b = UInt8.ofNat n → b.toNat = n % 256 := by
    rintro n rfl
    exact UInt8.toNat_ofNat'
  unfold String.utf8EncodeChar at h ⊢
  generalize c.val.toNat = v at hvalid hc h
  dsimp only at h ⊢
  split_ifs at h ⊢ with h1 h2 h3
  · have hb' := List.mem_singleton.1 h
    have := hbyte hb'
    rw [Nat.mod_eq_of_lt (by omega)] at this
    exact ⟨by rw [hb'], by rw [this, hc]⟩
  -- every byte of a longer character has its top bit set
  all_goals
    simp only [List.mem_cons, List.not_mem_nil, or_false] at h
    exfalso
  · rcases h with h | h <;> have hv := hbyte h <;> omega
  · rcases h with h | h | h <;> have hv := hbyte h <;> omega
  · rcases h with h | h | h | h <;> have hv := hbyte h <;> omega

/-- A line end is among the bytes of a text only if it is in the text. -/
theorem mem_of_mem_toUtf8 {t : Text} {b : UInt8} (hb : b.toNat < 0x80) (h : b ∈ toUtf8 t) :
    Char.ofNat b.toNat ∈ t := by
  obtain ⟨c, hc, hmem⟩ := List.mem_flatMap.1 h
  rw [← (eq_of_mem_encodeChar hb hmem).2]
  exact hc

/-! ## Any bytes -/

/-- What is read so far of a character under way is too much for a character of one byte. -/
def Partial.Long (p : Partial) : Prop :=
  0x80 ≤ p.low.toNat ∧
    (2 ≤ p.value ∨ 1 < p.missing ∧ 2 ≤ p.value * 64 + (p.low.toNat - 0x80))

theorem long_beginByte {b : UInt8} {p : Partial} (h : (beginByte b).2 = some p) : p.Long := by
  unfold beginByte at h
  dsimp only at h
  split_ifs at h <;> cases h
  · exact ⟨Nat.le_refl 128, .inl (show 2 ≤ b.toNat - 192 by omega)⟩
  · exact ⟨by decide, .inr (by decide)⟩
  · exact ⟨by decide, .inl (by decide)⟩
  · refine ⟨Nat.le_refl 128, .inr ⟨show 1 < 2 by decide, ?_⟩⟩
    exact Nat.le_add_right_of_le (show 2 ≤ (b.toNat - 224) * 64 by omega)
  · exact ⟨by decide, .inr (by decide)⟩
  · refine ⟨Nat.le_refl 128, .inr ⟨show 1 < 3 by decide, ?_⟩⟩
    exact Nat.le_add_right_of_le (show 2 ≤ (b.toNat - 240) * 64 by omega)
  · exact ⟨by decide, .inl (by decide)⟩

section OneByte

variable {c : Char} (hc : c.toNat < 0x80) (hzero : c ≠ Char.ofNat 0)
include hc

theorem ne_replacement_of_one : c ≠ replacement := by
  rintro rfl
  exact absurd hc (by decide)

include hzero

omit hc in
/-- A character is made of no number but its own. -/
theorem toNat_of_eq_ofNat {n : Nat} (h : c = Char.ofNat n) : c.toNat = n := by
  by_cases hvalid : n.isValidChar
  · rw [h, Char.ofNat, dif_pos hvalid]
    rfl
  · rw [Char.ofNat, dif_neg hvalid] at h
    exact absurd h hzero

theorem eq_of_mem_beginByte {b : UInt8} (h : c ∈ (beginByte b).1) : c.toNat = b.toNat := by
  have hno := ne_replacement_of_one hc
  unfold beginByte at h
  dsimp only at h
  split_ifs at h <;> simp only [List.mem_singleton, List.not_mem_nil] at h
  · exact toNat_of_eq_ofNat hzero h
  · exact absurd h hno
  · exact absurd h hno

/-- A character of one byte is read from that byte alone. -/
theorem eq_of_mem_takeByte {p : Option Partial} (hp : ∀ q, p = some q → q.Long) {b : UInt8} :
    (c ∈ (takeByte p b).1 → c.toNat = b.toNat) ∧
      ∀ q, (takeByte p b).2 = some q → q.Long := by
  cases p with
  | none => exact ⟨eq_of_mem_beginByte hc hzero, fun q hq => long_beginByte hq⟩
  | some p =>
    obtain ⟨hlow, hlong⟩ := hp p rfl
    simp only [takeByte]
    by_cases hin : p.low ≤ b ∧ b ≤ p.high
    · have hb : p.low.toNat ≤ b.toNat := UInt8.le_iff_toNat_le.1 hin.1
      rw [if_pos hin]
      by_cases hlast : p.missing ≤ 1
      · rw [if_pos hlast]
        refine ⟨fun h => ?_, nofun⟩
        have hvalue := toNat_of_eq_ofNat hzero (List.mem_singleton.1 h)
        omega
      · rw [if_neg hlast]
        refine ⟨nofun, fun q hq => ?_⟩
        cases hq
        exact ⟨Nat.le_refl 128, .inl (show 2 ≤ p.value * 64 + (b.toNat - 0x80) by omega)⟩
    · rw [if_neg hin]
      refine ⟨fun h => ?_, fun q hq => long_beginByte hq⟩
      rcases List.mem_cons.1 h with h | h
      · exact absurd h (ne_replacement_of_one hc)
      · exact eq_of_mem_beginByte hc hzero h

/-- A character of one byte, but for the first of all, is read only where its byte is. -/
theorem mem_of_mem_fromUtf8 {bytes : List UInt8} (h : c ∈ fromUtf8 bytes) :
    ∃ b ∈ bytes, b.toNat = c.toNat := by
  suffices hfrom : ∀ p : Option Partial, (∀ q, p = some q → q.Long) →
      c ∈ fromUtf8From p bytes → ∃ b ∈ bytes, b.toNat = c.toNat from hfrom none nofun h
  clear h
  induction bytes with
  | nil =>
    intro p _ h
    cases p with
    | none => simp [fromUtf8From] at h
    | some p =>
      rw [fromUtf8From] at h
      exact absurd (List.mem_singleton.1 h) (ne_replacement_of_one hc)
  | cons b rest ih =>
    intro p hp h
    obtain ⟨hhere, hlater⟩ := eq_of_mem_takeByte hc hzero hp (b := b)
    rw [fromUtf8From_cons] at h
    rcases List.mem_append.1 h with h | h
    · exact ⟨b, List.mem_cons_self, (hhere h).symm⟩
    · obtain ⟨b', hb', hsame⟩ := ih _ hlater h
      exact ⟨b', List.mem_cons_of_mem _ hb', hsame⟩

end OneByte

end Parley.Text
