import Mathlib
import UnitLinker.Binary.Utf8
import UnitLinker.Proofs.Results

/-!
# Reading text back

The bytes of a character are read back as that character, whatever follows them, and
so are the bytes of a text. Nothing else is read: what is read as a text is the bytes of
that text.
-/

namespace UnitLinker.Binary.Utf8

theorem toNat_ofNat_byte {value : Nat} (fits : value < 0x100) : (UInt8.ofNat value).toNat = value :=
  Nat.mod_eq_of_lt fits

theorem decodeTail_done (code taken : Nat) (bounds : Nat × Nat) (rest : Bytes) :
    decodeTail code taken bounds 0 rest = .ok code := by
  cases rest <;> rfl

/-- A following byte within its bounds adds its six bits. -/
theorem decodeTail_byte {code taken more bits : Nat} {bounds : Nat × Nat} (rest : Bytes)
    (small : bits < 0x40) (low : bounds.1 ≤ 0x80 + bits) (high : 0x80 + bits ≤ bounds.2) :
    decodeTail code taken bounds (more + 1) (UInt8.ofNat (0x80 + bits) :: rest)
      = decodeTail (0x40 * code + bits) (taken + 1) (0x80, 0xBF) more rest := by
  have byteEq : (UInt8.ofNat (0x80 + bits)).toNat = 0x80 + bits := toNat_ofNat_byte (by omega)
  rw [decodeTail, tailBits?, byteEq]
  simp [low, high]

/-- Past the second byte of a character the bounds are those of the six bits. -/
theorem decodeTail_next {code taken more bits : Nat} (rest : Bytes) (small : bits < 0x40) :
    decodeTail code taken (0x80, 0xBF) (more + 1) (UInt8.ofNat (0x80 + bits) :: rest)
      = decodeTail (0x40 * code + bits) (taken + 1) (0x80, 0xBF) more rest :=
  decodeTail_byte rest small (Nat.le_add_right _ _) (by simp only; omega)

/-- A first byte whose following bytes complete a code. -/
theorem decodeChar_of_tail {first lead more code : Nat} {rest : Bytes} (fits : first < 0x100)
    (widthEq : width first = more + 1) (leadEq : leadBits first = lead)
    (completed : decodeTail lead 1 (secondBounds first) more rest = .ok code) :
    decodeChar (UInt8.ofNat first) rest = .ok (Char.ofNat code, more) := by
  simp only [decodeChar, toNat_ofNat_byte fits, widthEq, leadEq, completed]
  rfl

/-! ## Characters by the number of their bytes -/

section Widths

variable {code : Nat} (rest : Bytes)

/-- A code below 128 is read from one byte. -/
theorem decodeChar_one (small : code < 0x80) :
    decodeChar (UInt8.ofNat code) rest = .ok (Char.ofNat code, 0) := by
  have widthEq : width code = 1 := if_pos small
  have leadEq : leadBits code = code := by simp only [leadBits, widthEq]
  exact decodeChar_of_tail (by omega) widthEq leadEq (decodeTail_done _ _ _ _)

/-- A code below 2048 is read from two bytes. -/
theorem decodeChar_two (least : 0x80 ≤ code) (most : code < 0x800) :
    decodeChar (UInt8.ofNat (0xC0 + code / 0x40)) (UInt8.ofNat (0x80 + code % 0x40) :: rest)
      = .ok (Char.ofNat code, 1) := by
  have widthEq : width (0xC0 + code / 0x40) = 2 := by grind [width]
  have leadEq : leadBits (0xC0 + code / 0x40) = code / 0x40 := by
    simp only [leadBits, widthEq, Nat.add_sub_cancel_left]
  have boundsEq : secondBounds (0xC0 + code / 0x40) = (0x80, 0xBF) := by grind [secondBounds]
  apply decodeChar_of_tail (by omega) widthEq leadEq
  rw [boundsEq, decodeTail_next _ (by omega), decodeTail_done]
  congr 1
  omega

/-- The bounds of the second byte keep out codes below the least one and surrogates. -/
theorem decodeChar_three (least : 0x800 ≤ code) (most : code < 0x10000)
    (noSurrogate : code < 0xD800 ∨ 0xDFFF < code) :
    decodeChar (UInt8.ofNat (0xE0 + code / 0x1000))
      (UInt8.ofNat (0x80 + code / 0x40 % 0x40) :: UInt8.ofNat (0x80 + code % 0x40) :: rest)
      = .ok (Char.ofNat code, 2) := by
  have widthEq : width (0xE0 + code / 0x1000) = 3 := by grind [width]
  have leadEq : leadBits (0xE0 + code / 0x1000) = code / 0x1000 := by
    simp only [leadBits, widthEq, Nat.add_sub_cancel_left]
  have low : (secondBounds (0xE0 + code / 0x1000)).1 ≤ 0x80 + code / 0x40 % 0x40 := by
    unfold secondBounds
    split_ifs <;> simp only <;> omega
  have high : 0x80 + code / 0x40 % 0x40 ≤ (secondBounds (0xE0 + code / 0x1000)).2 := by
    unfold secondBounds
    split_ifs <;> simp only <;> omega
  apply decodeChar_of_tail (by omega) widthEq leadEq
  rw [decodeTail_byte _ (by omega) low high, decodeTail_next _ (by omega), decodeTail_done]
  congr 1
  omega

/-- The bounds of the second byte keep out codes below the least one and past the last. -/
theorem decodeChar_four (least : 0x10000 ≤ code) (most : code < 0x110000) :
    decodeChar (UInt8.ofNat (0xF0 + code / 0x40000))
      (UInt8.ofNat (0x80 + code / 0x1000 % 0x40) :: UInt8.ofNat (0x80 + code / 0x40 % 0x40)
        :: UInt8.ofNat (0x80 + code % 0x40) :: rest)
      = .ok (Char.ofNat code, 3) := by
  have widthEq : width (0xF0 + code / 0x40000) = 4 := by grind [width]
  have leadEq : leadBits (0xF0 + code / 0x40000) = code / 0x40000 := by
    simp only [leadBits, widthEq, Nat.add_sub_cancel_left]
  have low : (secondBounds (0xF0 + code / 0x40000)).1 ≤ 0x80 + code / 0x1000 % 0x40 := by
    unfold secondBounds
    split_ifs <;> simp only <;> omega
  have high : 0x80 + code / 0x1000 % 0x40 ≤ (secondBounds (0xF0 + code / 0x40000)).2 := by
    unfold secondBounds
    split_ifs <;> simp only <;> omega
  apply decodeChar_of_tail (by omega) widthEq leadEq
  rw [decodeTail_byte _ (by omega) low high, decodeTail_next _ (by omega),
    decodeTail_next _ (by omega), decodeTail_done]
  congr 1
  omega

end Widths

/-- No character is a surrogate, and none is past the last one. -/
theorem toNat_bounds (char : Char) :
    char.toNat < 0xD800 ∨ 0xDFFF < char.toNat ∧ char.toNat < 0x110000 := char.valid

/-- A character is read back from its first byte and the bytes that follow it. -/
theorem exists_encodeChar (char : Char) : ∃ first more, encodeChar char = first :: more
    ∧ ∀ rest, decodeChar first (more ++ rest) = .ok (char, more.length) := by
  have bounds := toNat_bounds char
  have charEq : Char.ofNat char.toNat = char := Char.ofNat_toNat char
  simp only [encodeChar]
  generalize char.toNat = code at bounds charEq ⊢
  subst charEq
  by_cases one : code < 0x80
  · rw [if_pos one]
    exact ⟨_, _, rfl, fun rest => decodeChar_one rest one⟩
  by_cases two : code < 0x800
  · rw [if_neg one, if_pos two]
    exact ⟨_, _, rfl, fun rest => decodeChar_two rest (Nat.not_lt.1 one) two⟩
  by_cases three : code < 0x10000
  · rw [if_neg one, if_neg two, if_pos three]
    exact ⟨_, _, rfl, fun rest => decodeChar_three rest (Nat.not_lt.1 two) three (by omega)⟩
  · rw [if_neg one, if_neg two, if_neg three]
    exact ⟨_, _, rfl, fun rest => decodeChar_four rest (Nat.not_lt.1 three) (by omega)⟩

/-! ## Texts -/

/-- Characters are read back from their encodings, wherever these start. -/
theorem decodeFrom_encode (chars : List Char) (index : Nat) :
    decodeFrom index (chars.flatMap encodeChar) = .ok chars := by
  induction chars generalizing index with
  | nil => rw [List.flatMap_nil, decodeFrom]
  | cons char chars ih =>
    obtain ⟨first, more, encoded, decoded⟩ := exists_encodeChar char
    rw [List.flatMap_cons, encoded, List.cons_append, decodeFrom]
    simp only [decoded, List.drop_left, ih]
    rfl

/-- A text is read back from its bytes. -/
theorem decode_encode (text : String) : decode (encode text) = .ok text := by
  rw [decode, encode, decodeFrom_encode]
  simp [Except.map]

/-! ## Only the bytes of characters are read -/

/-- A following byte is within its bounds, and its six bits are added. -/
theorem exists_byte_of_decodeTail {code taken more result : Nat} {bounds : Nat × Nat} {rest : Bytes}
    (isTail : 0x80 ≤ bounds.1)
    (completed : decodeTail code taken bounds (more + 1) rest = .ok result) :
    ∃ bits following, rest = UInt8.ofNat (0x80 + bits) :: following ∧ bounds.1 ≤ 0x80 + bits
      ∧ 0x80 + bits ≤ bounds.2
      ∧ decodeTail (0x40 * code + bits) (taken + 1) (0x80, 0xBF) more following = .ok result := by
  cases rest with
  | nil => cases completed
  | cons byte following =>
    rw [decodeTail, tailBits?] at completed
    by_cases inBounds : bounds.1 ≤ byte.toNat ∧ byte.toNat ≤ bounds.2
    · have byteEq : UInt8.ofNat (0x80 + (byte.toNat - 0x80)) = byte := by
        rw [Nat.add_sub_of_le (isTail.trans inBounds.1), UInt8.ofNat_toNat]
      refine ⟨byte.toNat - 0x80, following, by rw [byteEq], by omega, by omega, ?_⟩
      simpa [inBounds] using completed
    · have outside : (decide (bounds.1 ≤ byte.toNat) && decide (byte.toNat ≤ bounds.2)) = false := by
        simpa using inBounds
      rw [outside] at completed
      cases completed

/-- A further byte of a character has six bits of its code. -/
theorem exists_next_of_decodeTail {code taken more result : Nat} {rest : Bytes}
    (completed : decodeTail code taken (0x80, 0xBF) (more + 1) rest = .ok result) :
    ∃ bits following, rest = UInt8.ofNat (0x80 + bits) :: following ∧ bits < 0x40
      ∧ decodeTail (0x40 * code + bits) (taken + 1) (0x80, 0xBF) more following = .ok result := by
  rcases exists_byte_of_decodeTail (Nat.le_refl _) completed with
    ⟨bits, following, restEq, _, high, completed⟩
  exact ⟨bits, following, restEq, by simp only at high; omega, completed⟩

theorem eq_of_decodeTail_done {code taken result : Nat} {bounds : Nat × Nat} {rest : Bytes}
    (completed : decodeTail code taken bounds 0 rest = .ok result) : result = code := by
  rw [decodeTail_done] at completed
  exact (Except.ok.inj completed).symm

/-- A code outside the surrogates is the code of a character. -/
theorem toNat_ofNat_char {code : Nat}
    (valid : code < 0xD800 ∨ 0xDFFF < code ∧ code < 0x110000) : (Char.ofNat code).toNat = code := by
  rw [Char.toNat_ofNat, if_pos valid]

/-- The bounds of the second byte are within those of all following bytes. -/
theorem le_secondBounds (first : Nat) : 0x80 ≤ (secondBounds first).1 := by
  unfold secondBounds
  split_ifs <;> decide

theorem secondBounds_le (first : Nat) : (secondBounds first).2 ≤ 0xBF := by
  unfold secondBounds
  split_ifs <;> decide

section Widths

variable {first : UInt8} {rest : Bytes} {code : Nat}

/-- What is read from one byte is written as that byte. -/
theorem encodeChar_of_one (widthEq : width first.toNat = 1)
    (completed : decodeTail (leadBits first.toNat) 1 (secondBounds first.toNat) 0 rest = .ok code) :
    encodeChar (Char.ofNat code) ++ rest = first :: rest := by
  have small : first.toNat < 0x80 := by grind [width]
  have leadEq : leadBits first.toNat = first.toNat := by simp only [leadBits, widthEq]
  rw [leadEq] at completed
  cases eq_of_decodeTail_done completed
  have codeKept : (Char.ofNat first.toNat).toNat = first.toNat := toNat_ofNat_char (by omega)
  simp only [encodeChar, codeKept]
  rw [if_pos small, UInt8.ofNat_toNat]
  rfl

/-- What is read from two bytes is written as those bytes. -/
theorem encodeChar_of_two (widthEq : width first.toNat = 2)
    (completed : decodeTail (leadBits first.toNat) 1 (secondBounds first.toNat) 1 rest = .ok code) :
    encodeChar (Char.ofNat code) ++ rest.drop 1 = first :: rest := by
  have lead : 0xC2 ≤ first.toNat ∧ first.toNat ≤ 0xDF := by grind [width]
  have leadEq : leadBits first.toNat = first.toNat - 0xC0 := by simp only [leadBits, widthEq]
  have boundsEq : secondBounds first.toNat = (0x80, 0xBF) := by grind [secondBounds]
  rw [leadEq, boundsEq] at completed
  rcases exists_next_of_decodeTail completed with ⟨bits, following, rfl, small, completed⟩
  have codeEq := eq_of_decodeTail_done completed
  have firstEq : UInt8.ofNat (0xC0 + code / 0x40) = first := by
    rw [show 0xC0 + code / 0x40 = first.toNat by omega, UInt8.ofNat_toNat]
  have bitsEq : code % 0x40 = bits := by omega
  have codeKept : (Char.ofNat code).toNat = code := toNat_ofNat_char (by omega)
  simp only [encodeChar, codeKept]
  rw [if_neg (by omega), if_pos (by omega), firstEq, bitsEq]
  rfl

/-- What is read from three bytes is written as those bytes. -/
theorem encodeChar_of_three (widthEq : width first.toNat = 3)
    (completed : decodeTail (leadBits first.toNat) 1 (secondBounds first.toNat) 2 rest = .ok code) :
    encodeChar (Char.ofNat code) ++ rest.drop 2 = first :: rest := by
  have lead : 0xE0 ≤ first.toNat ∧ first.toNat ≤ 0xEF := by grind [width]
  have leadEq : leadBits first.toNat = first.toNat - 0xE0 := by simp only [leadBits, widthEq]
  rw [leadEq] at completed
  rcases exists_byte_of_decodeTail (le_secondBounds _) completed with
    ⟨bits, following, rfl, low, high, completed⟩
  rcases exists_next_of_decodeTail completed with ⟨last, following, rfl, lastSmall, completed⟩
  have codeEq := eq_of_decodeTail_done completed
  have small := secondBounds_le first.toNat
  have least : 0x800 ≤ code := by
    unfold secondBounds at low
    split_ifs at low <;> simp only at low <;> omega
  have noSurrogate : code < 0xD800 ∨ 0xDFFF < code := by
    unfold secondBounds at high
    split_ifs at high <;> simp only at high <;> omega
  have firstEq : UInt8.ofNat (0xE0 + code / 0x1000) = first := by
    rw [show 0xE0 + code / 0x1000 = first.toNat by omega, UInt8.ofNat_toNat]
  have bitsEq : code / 0x40 % 0x40 = bits := by omega
  have lastEq : code % 0x40 = last := by omega
  have codeKept : (Char.ofNat code).toNat = code := toNat_ofNat_char (by omega)
  simp only [encodeChar, codeKept]
  rw [if_neg (by omega), if_neg (by omega), if_pos (by omega), firstEq, bitsEq, lastEq]
  rfl

/-- What is read from four bytes is written as those bytes. -/
theorem encodeChar_of_four (widthEq : width first.toNat = 4)
    (completed : decodeTail (leadBits first.toNat) 1 (secondBounds first.toNat) 3 rest = .ok code) :
    encodeChar (Char.ofNat code) ++ rest.drop 3 = first :: rest := by
  have lead : 0xF0 ≤ first.toNat ∧ first.toNat ≤ 0xF4 := by grind [width]
  have leadEq : leadBits first.toNat = first.toNat - 0xF0 := by simp only [leadBits, widthEq]
  rw [leadEq] at completed
  rcases exists_byte_of_decodeTail (le_secondBounds _) completed with
    ⟨bits, following, rfl, low, high, completed⟩
  rcases exists_next_of_decodeTail completed with ⟨third, following, rfl, thirdSmall, completed⟩
  rcases exists_next_of_decodeTail completed with ⟨last, following, rfl, lastSmall, completed⟩
  have codeEq := eq_of_decodeTail_done completed
  have small := secondBounds_le first.toNat
  have least : 0x10000 ≤ code := by
    unfold secondBounds at low
    split_ifs at low <;> simp only at low <;> omega
  have most : code < 0x110000 := by
    unfold secondBounds at high
    split_ifs at high <;> simp only at high <;> omega
  have firstEq : UInt8.ofNat (0xF0 + code / 0x40000) = first := by
    rw [show 0xF0 + code / 0x40000 = first.toNat by omega, UInt8.ofNat_toNat]
  have bitsEq : code / 0x1000 % 0x40 = bits := by omega
  have thirdEq : code / 0x40 % 0x40 = third := by omega
  have lastEq : code % 0x40 = last := by omega
  have codeKept : (Char.ofNat code).toNat = code := toNat_ofNat_char (by omega)
  simp only [encodeChar, codeKept]
  rw [if_neg (by omega), if_neg (by omega), if_neg (by omega), firstEq, bitsEq, thirdEq, lastEq]
  rfl

end Widths

/-- A character has at most four bytes. -/
theorem width_le (first : Nat) : width first ≤ 4 := by
  unfold width
  split_ifs <;> decide

/-- A character is read from its own bytes only: no longer form, no surrogate and no code past
the last character is taken for one. -/
theorem encodeChar_of_decodeChar {first : UInt8} {rest : Bytes} {char : Char} {more : Nat}
    (decoded : decodeChar first rest = .ok (char, more)) :
    encodeChar char ++ rest.drop more = first :: rest := by
  unfold decodeChar at decoded
  split at decoded
  · cases decoded
  · rename_i following widthEq
    cases completed : decodeTail (leadBits first.toNat) 1 (secondBounds first.toNat) following rest with
    | error malformed =>
      rw [completed] at decoded
      cases decoded
    | ok code =>
      rw [completed] at decoded
      cases decoded
      have fewer : more < 4 := widthEq.ge.trans (width_le first.toNat)
      interval_cases more
      · exact encodeChar_of_one widthEq completed
      · exact encodeChar_of_two widthEq completed
      · exact encodeChar_of_three widthEq completed
      · exact encodeChar_of_four widthEq completed

/-- A text is read from its own bytes only. -/
theorem encode_of_decodeFrom {index : Nat} {bytes : Bytes} {chars : List Char}
    (decoded : decodeFrom index bytes = .ok chars) : chars.flatMap encodeChar = bytes := by
  fun_induction decodeFrom index bytes generalizing chars with
  | case1 index =>
    cases decoded
    rfl
  | case2 index first rest malformed _ => cases decoded
  | case3 index first rest char more found ih =>
    rcases bind_eq_ok.1 decoded with ⟨later, decodedLater, given⟩
    cases given
    rw [List.flatMap_cons, ih decodedLater]
    exact encodeChar_of_decodeChar found

/-- A text is written as the bytes that it was read from. -/
theorem encode_of_decode {bytes : Bytes} {text : String} (decoded : decode bytes = .ok text) :
    encode text = bytes := by
  rcases map_eq_ok.1 decoded with ⟨chars, decodedChars, rfl⟩
  rw [encode, String.toList_ofList]
  exact encode_of_decodeFrom decodedChars

end UnitLinker.Binary.Utf8
