import Tablekeep.Proofs.Text.Utf8
import Tablekeep.Text.Percent

/-!
# Text in percent coding is decoded again

Whatever characters may stand as they are, the reader takes the coded form of a character for the
bytes of this character: one that stands as it is stands for its own bytes, and the others are
written by them. Only the percent sign must not stand as it is. So the bytes of a coded text are
those of the text, and a text comes back from its bytes.

What a part of an address is coded for is that it holds no mark of the address. `mem_encode` says
which characters can be in a coded text.
-/

namespace Tablekeep.Text

namespace Utf8

/-- Bytes of characters are no fault. -/
theorem decodeLossyFrom_flatMap {cs : List Char} (fuel : Nat) (h : cs.length ≤ fuel) :
    decodeLossyFrom fuel (cs.flatMap ofChar) = cs := by
  induction cs generalizing fuel with
  | nil => cases fuel <;> rfl
  | cons c cs ih =>
      cases fuel with
      | zero => simp at h
      | succ fuel =>
          rw [List.flatMap_cons]
          obtain ⟨b, bs, hb⟩ := List.exists_cons_of_ne_nil (ofChar_ne_nil c)
          have hnext := next?_ofChar c (cs.flatMap ofChar)
          rw [hb, List.cons_append] at hnext ⊢
          rw [decodeLossyFrom, hnext]
          simp only [ih fuel (by simpa using h)]
          simp

theorem decodeLossy_flatMap (cs : List Char) :
    decodeLossy (cs.flatMap ofChar) = String.ofList cs := by
  rw [decodeLossy, decodeLossyFrom_flatMap _ (length_le_flatMap cs)]

end Utf8

namespace Percent

/-! ## Digits -/

theorem hexDigitValue?_hexUpperDigit {n : Nat} (h : n < 16) :
    hexDigitValue? (hexUpperDigit n) = some n := by
  have hall : ∀ n < 16, hexDigitValue? (hexUpperDigit n) = some n := by decide
  exact hall n h

theorem isUnreserved_hexUpperDigit {n : Nat} (h : n < 16) :
    isUnreserved (hexUpperDigit n) = true := by
  have hall : ∀ n < 16, isUnreserved (hexUpperDigit n) = true := by decide
  exact hall n h

/-! ## Decoding -/

/-- Every character but the percent sign stands for its own bytes. -/
theorem toBytes_cons {c : Char} (h : c ≠ '%') (rest : List Char) :
    toBytes (c :: rest) = Utf8.ofChar c ++ toBytes rest := by
  rw [toBytes.eq_def]
  split
  · contradiction
  · rename_i heq
    cases heq
    exact absurd rfl h
  · rename_i heq
    cases heq
    rfl

theorem toBytes_encodeByte (b : UInt8) (rest : List Char) :
    toBytes (encodeByte b ++ rest) = b :: toBytes rest := by
  have hlt : b.toNat < 256 := b.toNat_lt
  have hhigh : b.toNat / 16 < 16 := by omega
  have hlow : b.toNat % 16 < 16 := by omega
  have hbyte : UInt8.ofNat (16 * (b.toNat / 16) + b.toNat % 16) = b := by
    rw [Nat.div_add_mod, UInt8.ofNat_toNat]
  change toBytes ('%' :: _ :: _ :: rest) = _
  rw [toBytes, hexDigitValue?_hexUpperDigit hhigh, hexDigitValue?_hexUpperDigit hlow]
  dsimp only
  rw [hbyte]

theorem toBytes_flatMap_encodeByte (bytes : List UInt8) (rest : List Char) :
    toBytes (bytes.flatMap encodeByte ++ rest) = bytes ++ toBytes rest := by
  induction bytes with
  | nil => rfl
  | cons b bytes ih =>
      rw [List.flatMap_cons, List.append_assoc, toBytes_encodeByte, ih, List.cons_append]

variable {safe : List Char}

theorem toBytes_encodeChar (h : '%' ∉ safe) (c : Char) (rest : List Char) :
    toBytes (encodeChar safe c ++ rest) = Utf8.ofChar c ++ toBytes rest := by
  unfold encodeChar
  split
  · rename_i hplain
    refine toBytes_cons ?_ rest
    rintro rfl
    have hmark : isUnreserved '%' = false := by decide
    rw [hmark, Bool.false_or, List.contains_iff_mem] at hplain
    exact h hplain
  · exact toBytes_flatMap_encodeByte _ rest

/-- The bytes of a coded text are the bytes of the text. -/
theorem toBytes_flatMap_encodeChar (h : '%' ∉ safe) (cs : List Char) :
    toBytes (cs.flatMap (encodeChar safe)) = cs.flatMap Utf8.ofChar := by
  induction cs with
  | nil => rw [List.flatMap_nil, toBytes, List.flatMap_nil]
  | cons c cs ih => rw [List.flatMap_cons, toBytes_encodeChar h, ih, List.flatMap_cons]

/-- **Text in percent coding is decoded again**, as long as the percent sign is coded. -/
theorem decode_encode (h : '%' ∉ safe) (s : String) : decode (encode safe s) = s := by
  rw [decode, encode, String.toList_ofList, toBytes_flatMap_encodeChar h, Utf8.decodeLossy_flatMap,
    String.ofList_toList]

/-- Text without a percent sign stands for itself. -/
theorem decode_of_not_mem {s : String} (h : '%' ∉ s.toList) : decode s = s := by
  -- nothing needs to be coded for this, so it is no case of `decode_encode`
  have hbytes : ∀ cs : List Char, '%' ∉ cs → toBytes cs = cs.flatMap Utf8.ofChar := by
    intro cs hcs
    induction cs with
    | nil => rw [toBytes, List.flatMap_nil]
    | cons c cs ih =>
        rw [List.mem_cons, not_or] at hcs
        rw [toBytes_cons (Ne.symm hcs.1), ih hcs.2, List.flatMap_cons]
  rw [decode, hbytes _ h, Utf8.decodeLossy_flatMap, String.ofList_toList]

/-! ## What is in a coded text -/

/-- In a coded text there are characters that stand as they are, percent signs, and nothing else. -/
theorem mem_encode {s : String} {c : Char} (h : c ∈ (encode safe s).toList) :
    isUnreserved c = true ∨ c ∈ safe ∨ c = '%' := by
  rw [encode, String.toList_ofList, List.mem_flatMap] at h
  obtain ⟨d, -, hc⟩ := h
  unfold encodeChar at hc
  split at hc
  · rename_i hplain
    obtain rfl := List.mem_singleton.mp hc
    rw [Bool.or_eq_true, List.contains_iff_mem] at hplain
    exact hplain.imp_right .inl
  · obtain ⟨b, -, hc⟩ := List.mem_flatMap.mp hc
    have hlt : b.toNat < 256 := b.toNat_lt
    simp only [encodeByte, List.mem_cons, List.not_mem_nil, or_false] at hc
    obtain rfl | rfl | rfl := hc
    · exact .inr (.inr rfl)
    · exact .inl (isUnreserved_hexUpperDigit (by omega))
    · exact .inl (isUnreserved_hexUpperDigit (by omega))

/-- A mark that may not stand as it is does not stand in a coded text. -/
theorem not_mem_encode {c : Char} (hmark : isUnreserved c = false) (hsafe : c ∉ safe)
    (hpercent : c ≠ '%') (s : String) : c ∉ (encode safe s).toList := by
  intro h
  rcases mem_encode h with hplain | h | h
  · rw [hmark] at hplain
    cases hplain
  · exact hsafe h
  · exact hpercent h

end Percent

end Tablekeep.Text
