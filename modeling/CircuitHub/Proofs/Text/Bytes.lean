import CircuitHub.Proofs.Text.Cursor
import CircuitHub.Proofs.Text.Forms

/-!
# Texts byte by byte

What is read byte by byte takes each byte for a character of its own (`Text.byteChars`). The bytes of
the basic alphabet are its characters and stand for themselves, and all others are parts of
characters beyond it (`Text.byteChars_cons_cases`). So what looks for characters of the basic
alphabet alone finds the same in the bytes of a text as in its characters, and at the same place.

* `Text.drop_byteChars`: the bytes from a cursor on are those of what stands there.
-/

namespace CircuitHub.Text

/-- The bytes of a text, each as a character. -/
def byteChars (t : Text) : Text := t.encode.map fun b => Char.ofNat b.toNat

@[simp] theorem byteChars_append (t u : Text) : (t ++ u).byteChars = t.byteChars ++ u.byteChars := by
  simp [byteChars, encode]

theorem byteChars_cons (c : Char) (t : Text) : byteChars (c :: t) = byteChars [c] ++ byteChars t :=
  byteChars_append [c] t

theorem toNat_ofNat_toUInt8 {n : Nat} (h : n < 256) : (Char.ofNat n.toUInt8.toNat).toNat = n := by
  rw [toNat_toUInt8 h, Char.ofNat, dif_pos (.inl (by omega))]
  rfl

theorem utf8Size_eq (c : Char) : c.utf8Size =
    if c.toNat < 0x80 then 1 else if c.toNat < 0x800 then 2
    else if c.toNat < 0x10000 then 3 else 4 := by
  have hval : c.val.toNat = c.toNat := rfl
  simp only [Char.utf8Size, UInt32.le_iff_toNat_le, hval]
  split_ifs <;> simp_all <;> omega

/-- A character of the basic alphabet is one byte. -/
theorem byteChars_singleton {c : Char} (h : c.toNat < 0x80) : byteChars [c] = [c] := by
  have hbytes : charBytes c = [c.toNat.toUInt8] := by
    simp only [charBytes, if_pos h]
  rw [byteChars, encode, List.flatMap_singleton, hbytes, List.map_singleton,
    toNat_toUInt8 (by omega), Char.ofNat_toNat]

/-- Any other character begins with a byte that is beyond the basic alphabet. -/
theorem exists_byteChars_singleton {c : Char} (h : 0x80 ≤ c.toNat) :
    ∃ d tail, 0x80 ≤ d.toNat ∧ byteChars [c] = d :: tail := by
  have hlt : c.toNat < 0x110000 := by
    rcases c.valid with hlow | ⟨-, hhigh⟩
    · exact Nat.lt_trans hlow (by decide)
    · exact hhigh
  rw [byteChars, encode, List.flatMap_singleton]
  simp only [charBytes]
  split_ifs with h1 h2 h3
  · omega
  · exact ⟨_, _, by rw [toNat_ofNat_toUInt8 (by omega)]; omega, rfl⟩
  · exact ⟨_, _, by rw [toNat_ofNat_toUInt8 (by omega)]; omega, rfl⟩
  · exact ⟨_, _, by rw [toNat_ofNat_toUInt8 (by omega)]; omega, rfl⟩

/-- The first byte of a text is its first character or beyond the basic alphabet, and then so is the
    first character. -/
theorem byteChars_cons_cases (c : Char) (t : Text) :
    byteChars (c :: t) = c :: byteChars t ∨
      0x80 ≤ c.toNat ∧ ∃ d tail, 0x80 ≤ d.toNat ∧ byteChars (c :: t) = d :: tail := by
  rcases Nat.lt_or_ge c.toNat 0x80 with hlt | hge
  · left
    rw [byteChars_cons, byteChars_singleton hlt]
    rfl
  · obtain ⟨d, tail, hd, htail⟩ := exists_byteChars_singleton hge
    exact .inr ⟨hge, d, tail ++ byteChars t, hd, by rw [byteChars_cons, htail]; rfl⟩

@[simp] theorem length_byteChars (t : Text) : t.byteChars.length = t.byteSize := by
  induction t with
  | nil => rfl
  | cons c t ih =>
    have hsize : (byteChars [c]).length = c.utf8Size := by
      rw [byteChars, encode, List.flatMap_singleton, List.length_map, utf8Size_eq]
      simp only [charBytes]
      split_ifs <;> rfl
    rw [byteChars_cons, List.length_append, byteSize_cons, hsize, ih]

/-- The bytes from a cursor on are those of what stands there. -/
theorem drop_byteChars (before after : Text) :
    (before ++ after).byteChars.drop before.byteSize = after.byteChars := by
  rw [byteChars_append, ← length_byteChars, List.drop_left]

end CircuitHub.Text
