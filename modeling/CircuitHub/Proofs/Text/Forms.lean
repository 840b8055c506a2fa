import CircuitHub.Text.Utf16
import Mathlib.Data.List.Forall2

/-!
# Texts are read back from their forms

A text is read back from its bytes (`Text.decode?_encode`): the first byte of a character tells how
many follow it, and these are within the ranges that it allows, so that the character is read as
far as it goes and no further (`Text.exists_firstChar`). The bounds of the ranges are those of the
code points that need so many bytes, without the halves of pairs.

The code points of the characters of a text are likewise read as that text, as no character is half
of a pair (`Text.pairUp_map_toNat`).
-/

namespace CircuitHub.Text

/-- Characters that are all there make up a text. -/
theorem mapM_map_some (t : Text) : (t.map some).mapM id = some t := by
  induction t with
  | nil => rfl
  | cons c t ih => simp [ih]

/-! ### Bytes -/

/-- A byte lies in a range. -/
def Within (b : UInt8) (range : UInt8 × UInt8) : Prop := range.1 ≤ b ∧ b ≤ range.2

/-- The bytes between two numbers. -/
abbrev bytesFrom (lo hi : Nat) : UInt8 × UInt8 := (lo.toUInt8, hi.toUInt8)

theorem toNat_toUInt8 {n : Nat} (h : n < 256) : n.toUInt8.toNat = n := by
  rw [Nat.toUInt8_eq, UInt8.toNat_ofNat']
  exact Nat.mod_eq_of_lt h

theorem within_bytesFrom {n lo hi : Nat} (hlo : lo ≤ n) (hhi : n ≤ hi) (h : hi < 256) :
    Within n.toUInt8 (bytesFrom lo hi) := by
  simp only [Within, UInt8.le_iff_toNat_le]
  rw [toNat_toUInt8 h, toNat_toUInt8 (by omega), toNat_toUInt8 (by omega)]
  exact ⟨hlo, hhi⟩

theorem takeWithin_append {tail : List UInt8} {ranges : List (UInt8 × UInt8)}
    (h : List.Forall₂ Within tail ranges) (rest : List UInt8) :
    takeWithin ranges (tail ++ rest) = tail := by
  induction h with
  | nil => simp [takeWithin]
  | cons hb _ ih =>
    obtain ⟨lo, hi⟩ := hb
    simp [takeWithin, lo, hi, ih]

/-- Bytes that follow each other as they may are one character, whatever comes after them. -/
theorem firstChar_append {b : UInt8} {tail : List UInt8} {ranges : List (UInt8 × UInt8)} {c : Char}
    (hf : followers? b = some ranges) (hw : List.Forall₂ Within tail ranges)
    (hc : codePoint b tail = c.toNat) (rest : List UInt8) :
    firstChar b (tail ++ rest) = (some c, tail.length) := by
  simp only [firstChar, hf, takeWithin_append hw, hw.length_eq, hc, if_true, Char.ofNat_toNat]

theorem followers?_one : ∀ n < 0x80, followers? n.toUInt8 = some [] := by decide

theorem followers?_two : ∀ k < 32, 2 ≤ k →
    followers? (0xC0 + k).toUInt8 = some [bytesFrom 0x80 0xBF] := by decide

theorem followers?_three : ∀ k < 16,
    followers? (0xE0 + k).toUInt8 =
      some [bytesFrom (if k = 0 then 0xA0 else 0x80) (if k = 13 then 0x9F else 0xBF),
        bytesFrom 0x80 0xBF] := by
  decide

theorem followers?_four : ∀ k < 5,
    followers? (0xF0 + k).toUInt8 =
      some [bytesFrom (if k = 0 then 0x90 else 0x80) (if k = 4 then 0x8F else 0xBF),
        bytesFrom 0x80 0xBF, bytesFrom 0x80 0xBF] := by
  decide

/-- The bytes of a character are read as that character. -/
theorem exists_firstChar (c : Char) :
    ∃ b tail, charBytes c = b :: tail ∧
      ∀ rest, firstChar b (tail ++ rest) = (some c, tail.length) := by
  have valid : c.toNat < 0xD800 ∨ 0xDFFF < c.toNat ∧ c.toNat < 0x110000 := c.valid
  simp only [charBytes]
  generalize hn : c.toNat = n at valid
  have low (k : Nat) : Within (0x80 + k % 64).toUInt8 (bytesFrom 0x80 0xBF) :=
    within_bytesFrom (by omega) (by omega) (by omega)
  have point {b : UInt8} {tail : List UInt8} (h : codePoint b tail = n) :
      codePoint b tail = c.toNat := h.trans hn.symm
  -- The bytes hold six bits each, but for the first, which holds those that are left.
  split_ifs with h1 h2 h3
  · refine ⟨_, _, rfl, firstChar_append (followers?_one n h1) .nil (point ?_)⟩
    exact toNat_toUInt8 (by omega)
  · refine ⟨_, _, rfl, firstChar_append (followers?_two (n / 64) (by omega) (by omega))
      (.cons (low _) .nil) (point ?_)⟩
    simp (disch := omega) only [codePoint, List.length_cons, List.length_nil, List.foldl_cons,
      List.foldl_nil, toNat_toUInt8]
    omega
  · refine ⟨_, _, rfl, firstChar_append (followers?_three (n / 4096) (by omega))
      (.cons ?_ (.cons (low _) .nil)) (point ?_)⟩
    · -- The second byte is bounded where three bytes are too many, and where the halves are.
      refine within_bytesFrom ?_ ?_ ?_ <;> split <;> omega
    · simp (disch := omega) only [codePoint, List.length_cons, List.length_nil, List.foldl_cons,
        List.foldl_nil, toNat_toUInt8]
      omega
  · refine ⟨_, _, rfl, firstChar_append (followers?_four (n / 262144) (by omega))
      (.cons ?_ (.cons (low _) (.cons (low _) .nil))) (point ?_)⟩
    · refine within_bytesFrom ?_ ?_ ?_ <;> split <;> omega
    · simp (disch := omega) only [codePoint, List.length_cons, List.length_nil, List.foldl_cons,
        List.foldl_nil, toNat_toUInt8]
      omega

theorem decodeRuns_encode (t : Text) : decodeRuns (encode t) = t.map some := by
  induction t with
  | nil => rw [encode, List.flatMap_nil, decodeRuns, List.map_nil]
  | cons c t ih =>
    obtain ⟨b, tail, hc, first⟩ := exists_firstChar c
    rw [encode] at ih
    rw [encode, List.flatMap_cons, hc, List.cons_append, decodeRuns, first]
    simp only [List.drop_left, List.map_cons, ih]

/-- A text is read back from its bytes. -/
theorem decode?_encode (t : Text) : decode? (encode t) = some t := by
  rw [decode?, decodeRuns_encode, mapM_map_some]

/-! ### Code points -/

/-- No character is half of a pair. -/
theorem isHalf_toNat (c : Char) : isHalf c.toNat = false := by
  have h : c.toNat < 0xD800 ∨ 0xDFFF < c.toNat ∧ c.toNat < 0x110000 := c.valid
  simp only [isHalf, isHighHalf, isLowHalf, Bool.or_eq_false_iff, Bool.and_eq_false_iff,
    decide_eq_false_iff_not]
  omega

theorem pairUp_map_toNat (t : Text) : pairUp (t.map Char.toNat) = t.map some := by
  match t with
  | [] => rfl
  | [c] => simp [pairUp, isHalf_toNat]
  | c :: d :: t =>
    have high : isHighHalf c.toNat = false := (Bool.or_eq_false_iff.1 (isHalf_toNat c)).1
    have ih := pairUp_map_toNat (d :: t)
    rw [List.map_cons] at ih
    simp [pairUp, high, isHalf_toNat, ih]

end CircuitHub.Text
