import Tablekeep.Text.Utf8

/-!
# Encoded text is decoded again

A character becomes one to four bytes, and `Utf8.next?` reads exactly these from the
front of whatever follows. So the decoder gets through an encoded text without a fault and
gives the characters back.
-/

namespace Tablekeep.Text.Utf8

/-! ## One byte -/

theorem toNat_byte {n : Nat} (h : n < 256) : (UInt8.ofNat n).toNat = n := by
  rw [UInt8.toNat_ofNat']
  exact Nat.mod_eq_of_lt h

theorem continuation?_byte {y : Nat} (h : y < 64) :
    continuation? (UInt8.ofNat (0x80 + y)) = some y := by
  have hn : (UInt8.ofNat (0x80 + y)).toNat = 0x80 + y := toNat_byte (by omega)
  have hle : (0x80 : UInt8) ≤ UInt8.ofNat (0x80 + y) := by
    rw [UInt8.le_iff_toNat_le, hn]
    exact Nat.le_add_right ..
  have hlt : UInt8.ofNat (0x80 + y) < (0xC0 : UInt8) := by
    rw [UInt8.lt_iff_toNat_lt, hn]
    exact Nat.add_lt_add_left h 0x80
  rw [continuation?, if_pos ⟨hle, hlt⟩, hn]
  simp

/-! ## One character -/

theorem ofNatAux_toNat (c : Char) (h : c.toNat.isValidChar) : Char.ofNatAux c.toNat h = c := by
  have hback := Char.ofNat_toNat c
  rw [Char.ofNat, dif_pos h] at hback
  exact hback

theorem scalar?_toNat {least : Nat} (c : Char) (h : least ≤ c.toNat) :
    scalar? least c.toNat = some c := by
  have hvalid : c.toNat.isValidChar := c.valid
  rw [scalar?, if_neg (by omega), dif_pos hvalid, ofNatAux_toNat]

theorem toNat_lt (c : Char) : c.toNat < 0x110000 := by
  have := c.valid
  simp only [UInt32.isValidChar, Nat.isValidChar] at this
  change c.val.toNat < _
  omega

theorem next?_one {n : Nat} (h : n < 0x80) (rest : List UInt8) :
    next? (UInt8.ofNat n :: rest) = (scalar? 0 n).map (·, rest) := by
  have hhead : (UInt8.ofNat n).toNat = n := toNat_byte (by omega)
  simp only [next?, hhead, if_pos h]

theorem next?_two {n x : Nat} (hn : n < 32) (hx : x < 64) (rest : List UInt8) :
    next? (UInt8.ofNat (0xC0 + n) :: UInt8.ofNat (0x80 + x) :: rest)
      = (scalar? 0x80 (n * 64 + x)).map (·, rest) := by
  have hhead : (UInt8.ofNat (0xC0 + n)).toNat = 0xC0 + n := toNat_byte (by omega)
  have hsub : 0xC0 + n - 0xC0 = n := Nat.add_sub_cancel_left ..
  simp only [next?, hhead, continuation?_byte hx, Option.bind_eq_bind]
  rw [if_neg (by omega), if_pos (by omega), Option.bind_some, hsub, Option.map_eq_bind]
  rfl

theorem next?_three {n x y : Nat} (hn : n < 16) (hx : x < 64) (hy : y < 64) (rest : List UInt8) :
    next? (UInt8.ofNat (0xE0 + n) :: UInt8.ofNat (0x80 + x) :: UInt8.ofNat (0x80 + y) :: rest)
      = (scalar? 0x800 (n * 4096 + x * 64 + y)).map (·, rest) := by
  have hhead : (UInt8.ofNat (0xE0 + n)).toNat = 0xE0 + n := toNat_byte (by omega)
  have hsub : 0xE0 + n - 0xE0 = n := Nat.add_sub_cancel_left ..
  simp only [next?, hhead, continuation?_byte hx, continuation?_byte hy, Option.bind_eq_bind]
  rw [if_neg (by omega), if_neg (by omega), if_pos (by omega), Option.bind_some, Option.bind_some,
    hsub, Option.map_eq_bind]
  rfl

theorem next?_four {n x y z : Nat} (hn : n < 8) (hx : x < 64) (hy : y < 64) (hz : z < 64)
    (rest : List UInt8) :
    next? (UInt8.ofNat (0xF0 + n) :: UInt8.ofNat (0x80 + x) :: UInt8.ofNat (0x80 + y)
        :: UInt8.ofNat (0x80 + z) :: rest)
      = (scalar? 0x10000 (n * 262144 + x * 4096 + y * 64 + z)).map (·, rest) := by
  have hhead : (UInt8.ofNat (0xF0 + n)).toNat = 0xF0 + n := toNat_byte (by omega)
  have hsub : 0xF0 + n - 0xF0 = n := Nat.add_sub_cancel_left ..
  simp only [next?, hhead, continuation?_byte hx, continuation?_byte hy, continuation?_byte hz,
    Option.bind_eq_bind]
  -- the binds are taken apart by rewriting, as the kernel would compute with the factors
  rw [if_neg (by omega), if_neg (by omega), if_neg (by omega), if_pos (by omega),
    Option.bind_some, Option.bind_some, Option.bind_some, hsub, Option.map_eq_bind]
  rfl

/-- The bytes of a character are read as this character, and no more bytes with them. -/
theorem next?_ofChar (c : Char) (rest : List UInt8) :
    next? (ofChar c ++ rest) = some (c, rest) := by
  have hlt := toNat_lt c
  have hscalar {least : Nat} (h : least ≤ c.toNat) := scalar?_toNat c h
  unfold ofChar
  generalize c.toNat = n at *
  -- the bits of the code point, six at a time from the end
  have hx : n % 64 < 64 := Nat.mod_lt _ (by decide)
  have hy : n / 64 % 64 < 64 := Nat.mod_lt _ (by decide)
  have hz : n / 4096 % 64 < 64 := Nat.mod_lt _ (by decide)
  by_cases h1 : n < 0x80
  · rw [if_pos h1, List.singleton_append, next?_one h1, hscalar (Nat.zero_le n), Option.map_some]
  by_cases h2 : n < 0x800
  · have hsum : n / 64 * 64 + n % 64 = n := by omega
    rw [if_neg h1, if_pos h2, List.cons_append, List.singleton_append, next?_two (by omega) hx,
      hsum, hscalar (by omega), Option.map_some]
  by_cases h3 : n < 0x10000
  · have hsum : n / 4096 * 4096 + n / 64 % 64 * 64 + n % 64 = n := by omega
    rw [if_neg h1, if_neg h2, if_pos h3, List.cons_append, List.cons_append,
      List.singleton_append, next?_three (by omega) hy hx, hsum, hscalar (by omega),
      Option.map_some]
  · have hsum : n / 262144 * 262144 + n / 4096 % 64 * 4096 + n / 64 % 64 * 64 + n % 64 = n := by
      omega
    rw [if_neg h1, if_neg h2, if_neg h3, List.cons_append, List.cons_append, List.cons_append,
      List.singleton_append, next?_four (by omega) hz hy hx, hsum, hscalar (by omega),
      Option.map_some]

theorem ofChar_ne_nil (c : Char) : ofChar c ≠ [] := by
  simp only [ofChar]
  split
  · simp
  split
  · simp
  split <;> simp

/-! ## A text -/

/-- One step for each character is enough. -/
theorem decodeFrom_flatMap {cs : List Char} (fuel : Nat) (h : cs.length ≤ fuel) :
    decodeFrom fuel (cs.flatMap ofChar) = (cs, true) := by
  induction cs generalizing fuel with
  | nil => cases fuel <;> rfl
  | cons c cs ih =>
      cases fuel with
      | zero => simp at h
      | succ fuel =>
          have hih := ih fuel (by simpa using h)
          rw [List.flatMap_cons]
          obtain ⟨b, bs, hb⟩ := List.exists_cons_of_ne_nil (ofChar_ne_nil c)
          have hnext := next?_ofChar c (cs.flatMap ofChar)
          rw [hb, List.cons_append] at hnext ⊢
          rw [decodeFrom, hnext]
          simp only [hih]
          simp

theorem length_le_flatMap (cs : List Char) : cs.length ≤ (cs.flatMap ofChar).length := by
  induction cs with
  | nil => simp
  | cons c cs ih =>
      have := List.length_pos_iff.mpr (ofChar_ne_nil c)
      rw [List.flatMap_cons, List.length_append, List.length_cons]
      omega

/-- **Encoded text is decoded again, without a fault.** -/
theorem decodePart_encode (s : String) : decodePart (encode s) = (s.toList, true) :=
  decodeFrom_flatMap _ (length_le_flatMap s.toList)

end Tablekeep.Text.Utf8
