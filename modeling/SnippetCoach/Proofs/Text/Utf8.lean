import SnippetCoach.Text.Utf8
/-! UTF-8: whatever the text, its bytes are decoded to it. -/
namespace SnippetCoach.Text

theorem not_surrogate (c : Char) : ¬(0xD800 ≤ c.toNat ∧ c.toNat < 0xE000) := by
  rcases c.valid with h | h
  · intro hc
    exact absurd (show c.toNat < 0xD800 from h) (by omega)
  · intro hc
    exact absurd (show 0xDFFF < c.toNat from h.1) (by omega)

theorem toNat_lt (c : Char) : c.toNat < 0x110000 := by
  rcases c.valid with h | h
  · exact Nat.lt_trans (show c.toNat < 0xD800 from h) (by decide)
  · exact h.2

namespace Utf8

theorem toNat_ofNat {n : Nat} (h : n < 256) : (UInt8.ofNat n).toNat = n := by
  rw [UInt8.toNat_ofNat', Nat.mod_eq_of_lt h]

theorem lengthOf_eq (lead : UInt8) :
    lengthOf lead =
      if lead.toNat < 0x80 then 1
      else if lead.toNat < 0xC2 then 0
      else if lead.toNat < 0xE0 then 2
      else if lead.toNat < 0xF0 then 3
      else if lead.toNat < 0xF5 then 4
      else 0 := by
  simp only [lengthOf, UInt8.lt_iff_toNat_lt, UInt8.reduceToNat]

theorem leadValue_eq (lead : UInt8) :
    leadValue lead =
      if lead.toNat < 0x80 then lead.toNat
      else if lead.toNat < 0xE0 then lead.toNat - 0xC0
      else if lead.toNat < 0xF0 then lead.toNat - 0xE0
      else lead.toNat - 0xF0 := by
  simp only [leadValue, UInt8.lt_iff_toNat_lt, UInt8.reduceToNat]

theorem isContinuation_iff {b : UInt8} :
    isContinuation b = true ↔ 0x80 ≤ b.toNat ∧ b.toNat < 0xC0 := by
  simp only [isContinuation, Bool.and_eq_true, decide_eq_true_iff, UInt8.le_iff_toNat_le,
    UInt8.lt_iff_toNat_lt, UInt8.reduceToNat]

theorem isSecond_iff {lead b : UInt8} :
    isSecond lead b = true ↔
      isContinuation b = true ∧ (lead.toNat = 0xE0 → 0xA0 ≤ b.toNat) ∧
        (lead.toNat = 0xED → b.toNat < 0xA0) ∧ (lead.toNat = 0xF0 → 0x90 ≤ b.toNat) ∧
        (lead.toNat = 0xF4 → b.toNat < 0x90) := by
  simp only [isSecond, Bool.and_eq_true, Bool.or_eq_true, bne_iff_ne, ne_eq, decide_eq_true_iff,
    UInt8.le_iff_toNat_le, UInt8.lt_iff_toNat_lt, ← UInt8.toNat_inj, UInt8.reduceToNat,
    ← Decidable.imp_iff_not_or, and_assoc]

/-- The bytes of a character are accepted one after the other and give its code. -/
structure Spells (lead : UInt8) (tail : List UInt8) (c : Char) : Prop where
  length : lengthOf lead = tail.length + 1
  fits : fitting lead tail = tail
  code : codeOf lead tail = c.toNat

theorem decodeFirst_append {lead : UInt8} {tail : List UInt8} {c : Char} (h : Spells lead tail c)
    (rest : List UInt8) : decodeFirst lead (tail ++ rest) = .ok c := by
  simp only [decodeFirst, h.length, List.take_left, h.fits, if_true, h.code, Char.ofNat_toNat]

theorem spells_one {c : Char} (h : c.toNat < 0x80) : Spells (UInt8.ofNat c.toNat) [] c := by
  have hlead := toNat_ofNat (n := c.toNat) (by omega)
  refine ⟨?_, rfl, ?_⟩
  · rw [lengthOf_eq, hlead, if_pos h]
    rfl
  · rw [codeOf, List.foldl_nil, leadValue_eq, hlead, if_pos h]

theorem fitting_of_second {lead b : UInt8} {tail : List UInt8} (hsecond : isSecond lead b = true)
    (htail : ∀ d ∈ tail, isContinuation d = true) : fitting lead (b :: tail) = b :: tail := by
  rw [fitting, if_pos hsecond, ← List.append_nil tail, List.takeWhile_append_of_pos htail,
    List.takeWhile_nil]

/-- A continuation byte with six bits of a code. -/
def sextet (n : Nat) : UInt8 :=
  UInt8.ofNat (n % 0x40 + 0x80)

theorem toNat_sextet (n : Nat) : (sextet n).toNat = n % 0x40 + 0x80 :=
  toNat_ofNat (by omega)

theorem isContinuation_sextet (n : Nat) : isContinuation (sextet n) = true := by
  rw [isContinuation_iff, toNat_sextet]
  omega

theorem spells_two {c : Char} (hlow : 0x80 ≤ c.toNat) (hhigh : c.toNat < 0x800) :
    Spells (UInt8.ofNat (c.toNat / 64 % 0x20 + 0xC0)) [sextet c.toNat] c := by
  have hlead := toNat_ofNat (n := c.toNat / 64 % 0x20 + 0xC0) (by omega)
  refine ⟨?_, fitting_of_second ?_ (by simp), ?_⟩
  · rw [lengthOf_eq, hlead, if_neg (by omega), if_neg (by omega), if_pos (by omega)]
    rfl
  · rw [isSecond_iff, hlead]
    refine ⟨isContinuation_sextet _, ?_, ?_, ?_, ?_⟩ <;> omega
  · rw [codeOf, leadValue_eq, hlead, if_neg (by omega), if_pos (by omega)]
    simp only [List.foldl_cons, List.foldl_nil, toNat_sextet]
    omega

theorem spells_three {c : Char} (hlow : 0x800 ≤ c.toNat) (hhigh : c.toNat < 0x10000) :
    Spells (UInt8.ofNat (c.toNat / 4096 % 0x10 + 0xE0)) [sextet (c.toNat / 64), sextet c.toNat]
      c := by
  have hlead := toNat_ofNat (n := c.toNat / 4096 % 0x10 + 0xE0) (by omega)
  have hsurrogate := not_surrogate c
  refine ⟨?_, fitting_of_second ?_ (by simp [isContinuation_sextet]), ?_⟩
  · rw [lengthOf_eq, hlead, if_neg (by omega), if_neg (by omega), if_neg (by omega),
      if_pos (by omega)]
    rfl
  · rw [isSecond_iff, hlead, toNat_sextet]
    refine ⟨isContinuation_sextet _, ?_, ?_, ?_, ?_⟩ <;> omega
  · rw [codeOf, leadValue_eq, hlead, if_neg (by omega), if_neg (by omega), if_pos (by omega)]
    simp only [List.foldl_cons, List.foldl_nil, toNat_sextet]
    omega

theorem spells_four {c : Char} (hlow : 0x10000 ≤ c.toNat) :
    Spells (UInt8.ofNat (c.toNat / 262144 % 8 + 0xF0))
      [sextet (c.toNat / 4096), sextet (c.toNat / 64), sextet c.toNat] c := by
  have hhigh := toNat_lt c
  have hlead := toNat_ofNat (n := c.toNat / 262144 % 8 + 0xF0) (by omega)
  refine ⟨?_, fitting_of_second ?_ (by simp [isContinuation_sextet]), ?_⟩
  · rw [lengthOf_eq, hlead, if_neg (by omega), if_neg (by omega), if_neg (by omega),
      if_neg (by omega), if_pos (by omega)]
    rfl
  · rw [isSecond_iff, hlead, toNat_sextet]
    refine ⟨isContinuation_sextet _, ?_, ?_, ?_, ?_⟩ <;> omega
  · rw [codeOf, leadValue_eq, hlead, if_neg (by omega), if_neg (by omega), if_neg (by omega)]
    simp only [List.foldl_cons, List.foldl_nil, toNat_sextet]
    omega

theorem spells_utf8EncodeChar (c : Char) :
    ∃ lead tail, String.utf8EncodeChar c = lead :: tail ∧ Spells lead tail c := by
  rw [String.utf8EncodeChar]
  by_cases hone : c.toNat ≤ 0x7F
  · exact ⟨_, _, if_pos hone, spells_one (by omega)⟩
  by_cases htwo : c.toNat ≤ 0x7FF
  · exact ⟨_, _, (if_neg hone).trans (if_pos htwo), spells_two (by omega) (by omega)⟩
  by_cases hthree : c.toNat ≤ 0xFFFF
  · exact ⟨_, _, (if_neg hone).trans ((if_neg htwo).trans (if_pos hthree)),
      spells_three (by omega) (by omega)⟩
  · exact ⟨_, _, (if_neg hone).trans ((if_neg htwo).trans (if_neg hthree)), spells_four (by omega)⟩

theorem decodeFrom_encode (position : Nat) (text : List Char) :
    decodeFrom position (encode text) = .ok text := by
  induction text generalizing position with
  | nil => rw [encode, List.flatMap_nil, decodeFrom]
  | cons c text ih =>
      obtain ⟨lead, tail, heq, hspells⟩ := spells_utf8EncodeChar c
      have hencode : encode (c :: text) = lead :: (tail ++ encode text) := by
        rw [encode, List.flatMap_cons, heq, List.cons_append, encode]
      rw [hencode, decodeFrom, decodeFirst_append hspells]
      simp only [hspells.length, Nat.add_sub_cancel, List.drop_left, ih]
      rfl

theorem decode_encode (text : List Char) : decode (encode text) = .ok text :=
  decodeFrom_encode 0 text

end Utf8
end SnippetCoach.Text
