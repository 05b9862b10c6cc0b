import RowCursor.Text.Utf8

/-!
# Decoding what was encoded

The decoding machine, idle before a character, is idle behind its bytes and has gained
the character.  There is one case for each length of the encoding; the ranges that a lead
byte opens are those that the second byte of a scalar value stays in.
-/

set_option autoImplicit false

namespace RowCursor.Utf8

variable {decoder : Decoder}

/-! ## Lead bytes -/

theorem toNat_ofNat {number : Nat} (small : number < 256) : (UInt8.ofNat number).toNat = number := by
  rw [UInt8.toNat_ofNat']
  exact Nat.mod_eq_of_lt small

theorem lead_eq (byte : UInt8) :
    lead byte =
      if byte.toNat < 0x80 then .scalar (Char.ofNat byte.toNat)
      else if byte.toNat < 0xC2 then .illFormed
      else if byte.toNat < 0xE0 then .begins ⟨byte.toNat - 0xC0, 0, 0x80, 0xBF⟩
      else if byte.toNat = 0xE0 then .begins ⟨0, 1, 0xA0, 0xBF⟩
      else if byte.toNat = 0xED then .begins ⟨0xD, 1, 0x80, 0x9F⟩
      else if byte.toNat < 0xF0 then .begins ⟨byte.toNat - 0xE0, 1, 0x80, 0xBF⟩
      else if byte.toNat = 0xF0 then .begins ⟨0, 2, 0x90, 0xBF⟩
      else if byte.toNat < 0xF4 then .begins ⟨byte.toNat - 0xF0, 2, 0x80, 0xBF⟩
      else if byte.toNat = 0xF4 then .begins ⟨4, 2, 0x80, 0x8F⟩
      else .illFormed := by
  unfold lead
  simp only [UInt8.lt_iff_toNat_lt, ← UInt8.toNat_inj]
  rfl

theorem feed_of_scalar {byte : UInt8} {char : Char} (idle : decoder.inside = none)
    (scalar : lead byte = .scalar char) : decoder.feed byte = decoder.push char := by
  simp only [Decoder.feed, idle, Decoder.feedIdle, scalar]

theorem feed_of_begins {byte : UInt8} {inside : Pending} (idle : decoder.inside = none)
    (begins : lead byte = .begins inside) :
    decoder.feed byte = { decoder with inside := some inside } := by
  simp only [Decoder.feed, idle, Decoder.feedIdle, begins]

/-! ## Continuation bytes -/

/-- The byte that continues a character with the low six bits of a number. -/
def continuation (number : Nat) : UInt8 := UInt8.ofNat (number % 64 + 128)

theorem toNat_continuation (number : Nat) : (continuation number).toNat = number % 64 + 128 :=
  toNat_ofNat (by omega)

theorem continuation_sub (number : Nat) : (continuation number).toNat - 0x80 = number % 64 := by
  rw [toNat_continuation]
  omega

/-- The range, low byte to high byte, has the byte that continues with this number. -/
def Admits (low high : UInt8) (number : Nat) : Prop :=
  low.toNat ≤ number % 64 + 128 ∧ number % 64 + 128 ≤ high.toNat

theorem admits_all (number : Nat) : Admits 0x80 0xBF number := by
  have low : (0x80 : UInt8).toNat = 128 := rfl
  have high : (0xBF : UInt8).toNat = 191 := rfl
  unfold Admits
  omega

theorem Admits.within {low high : UInt8} {number : Nat} (admits : Admits low high number) :
    low ≤ continuation number ∧ continuation number ≤ high := by
  rw [UInt8.le_iff_toNat_le, UInt8.le_iff_toNat_le, toNat_continuation]
  exact admits

theorem feed_last {bits number : Nat} {low high : UInt8} (admits : Admits low high number) :
    Decoder.feed { decoder with inside := some ⟨bits, 0, low, high⟩ } (continuation number) =
      decoder.push (Char.ofNat (bits * 64 + number % 64)) := by
  simp only [Decoder.feed, if_pos admits.within, continuation_sub, Decoder.push]

theorem feed_further {bits further number : Nat} {low high : UInt8}
    (admits : Admits low high number) :
    Decoder.feed { decoder with inside := some ⟨bits, further + 1, low, high⟩ }
        (continuation number) =
      { decoder with inside := some ⟨bits * 64 + number % 64, further, 0x80, 0xBF⟩ } := by
  simp only [Decoder.feed, if_pos admits.within, continuation_sub]

/-! ## Characters -/

theorem encodeChar_eq (char : Char) :
    String.utf8EncodeChar char =
      if char.toNat ≤ 0x7F then [UInt8.ofNat char.toNat]
      else if char.toNat ≤ 0x7FF then
        [UInt8.ofNat (char.toNat / 64 % 32 + 192), continuation char.toNat]
      else if char.toNat ≤ 0xFFFF then
        [UInt8.ofNat (char.toNat / 4096 % 16 + 224), continuation (char.toNat / 64),
          continuation char.toNat]
      else
        [UInt8.ofNat (char.toNat / 262144 % 8 + 240), continuation (char.toNat / 4096),
          continuation (char.toNat / 64), continuation char.toNat] := rfl

theorem lead_of_two {number : Nat} (above : 0x7F < number) (below : number ≤ 0x7FF) :
    lead (UInt8.ofNat (number / 64 % 32 + 192)) = .begins ⟨number / 64, 0, 0x80, 0xBF⟩ := by
  have byte : (UInt8.ofNat (number / 64 % 32 + 192)).toNat = number / 64 + 192 := by
    rw [toNat_ofNat (by omega)]
    omega
  rw [lead_eq, byte, if_neg (by omega), if_neg (by omega), if_pos (by omega)]
  rw [Nat.add_sub_cancel]

/-- The second byte is in the range because the number needs three bytes and is no
surrogate. -/
theorem lead_of_three {number : Nat} (above : 0x7FF < number) (below : number ≤ 0xFFFF)
    (scalar : number < 0xD800 ∨ 0xDFFF < number) :
    ∃ low high, lead (UInt8.ofNat (number / 4096 % 16 + 224)) =
      .begins ⟨number / 4096, 1, low, high⟩ ∧ Admits low high (number / 64) := by
  have byte : (UInt8.ofNat (number / 4096 % 16 + 224)).toNat = number / 4096 + 224 := by
    rw [toNat_ofNat (by omega)]
    omega
  rw [lead_eq, byte, if_neg (by omega), if_neg (by omega), if_neg (by omega)]
  by_cases first : number / 4096 = 0
  · have low : (0xA0 : UInt8).toNat = 160 := rfl
    have high : (0xBF : UInt8).toNat = 191 := rfl
    refine ⟨0xA0, 0xBF, ?_, by unfold Admits; omega⟩
    rw [if_pos (by omega), first]
  · rw [if_neg (by omega)]
    by_cases surrogates : number / 4096 = 0xD
    · have low : (0x80 : UInt8).toNat = 128 := rfl
      have high : (0x9F : UInt8).toNat = 159 := rfl
      refine ⟨0x80, 0x9F, ?_, by unfold Admits; omega⟩
      rw [if_pos (by omega), surrogates]
    · refine ⟨0x80, 0xBF, ?_, admits_all _⟩
      rw [if_neg (by omega), if_pos (by omega), Nat.add_sub_cancel]

/-- The second byte is in the range because the number needs four bytes and is no greater
than the last scalar value. -/
theorem lead_of_four {number : Nat} (above : 0xFFFF < number) (below : number < 0x110000) :
    ∃ low high, lead (UInt8.ofNat (number / 262144 % 8 + 240)) =
      .begins ⟨number / 262144, 2, low, high⟩ ∧ Admits low high (number / 4096) := by
  have byte : (UInt8.ofNat (number / 262144 % 8 + 240)).toNat = number / 262144 + 240 := by
    rw [toNat_ofNat (by omega)]
    omega
  rw [lead_eq, byte, if_neg (by omega), if_neg (by omega), if_neg (by omega), if_neg (by omega),
    if_neg (by omega), if_neg (by omega)]
  by_cases first : number / 262144 = 0
  · have low : (0x90 : UInt8).toNat = 144 := rfl
    have high : (0xBF : UInt8).toNat = 191 := rfl
    refine ⟨0x90, 0xBF, ?_, by unfold Admits; omega⟩
    rw [if_pos (by omega), first]
  · rw [if_neg (by omega)]
    by_cases last : number / 262144 = 4
    · have low : (0x80 : UInt8).toNat = 128 := rfl
      have high : (0x8F : UInt8).toNat = 143 := rfl
      refine ⟨0x80, 0x8F, ?_, by unfold Admits; omega⟩
      rw [if_neg (by omega), if_pos (by omega), last]
    · refine ⟨0x80, 0xBF, ?_, admits_all _⟩
      rw [if_pos (by omega), Nat.add_sub_cancel]

theorem foldl_encodeChar (idle : decoder.inside = none) (char : Char) :
    (String.utf8EncodeChar char).foldl Decoder.feed decoder = decoder.push char := by
  have value : Char.ofNat char.toNat = char := Char.ofNat_toNat char
  have scalar : char.toNat < 0xD800 ∨ 0xDFFF < char.toNat ∧ char.toNat < 0x110000 := char.valid
  rw [encodeChar_eq]
  split
  · rename_i short
    have byte : (UInt8.ofNat char.toNat).toNat = char.toNat := toNat_ofNat (by omega)
    have leads : lead (UInt8.ofNat char.toNat) = .scalar char := by
      rw [lead_eq, byte, if_pos (by omega), value]
    exact feed_of_scalar idle leads
  split
  · rename_i above below
    have sum : char.toNat / 64 * 64 + char.toNat % 64 = char.toNat := by omega
    rw [List.foldl_cons, List.foldl_cons, List.foldl_nil,
      feed_of_begins idle (lead_of_two (by omega) below), feed_last (admits_all _), sum, value]
  split
  · rename_i above below
    obtain ⟨low, high, leads, admits⟩ := lead_of_three (by omega) below (by omega)
    have sum : (char.toNat / 4096 * 64 + char.toNat / 64 % 64) * 64 + char.toNat % 64 =
        char.toNat := by omega
    rw [List.foldl_cons, List.foldl_cons, List.foldl_cons, List.foldl_nil,
      feed_of_begins idle leads, feed_further admits, feed_last (admits_all _), sum, value]
  · rename_i above
    have below : char.toNat < 0x110000 := by omega
    obtain ⟨low, high, leads, admits⟩ := lead_of_four (Nat.lt_of_not_le above) below
    have sum : ((char.toNat / 262144 * 64 + char.toNat / 4096 % 64) * 64 +
        char.toNat / 64 % 64) * 64 + char.toNat % 64 = char.toNat := by omega
    rw [List.foldl_cons, List.foldl_cons, List.foldl_cons, List.foldl_cons, List.foldl_nil,
      feed_of_begins idle leads, feed_further admits, feed_further (admits_all _),
      feed_last (admits_all _), sum, value]

/-! ## Texts -/

theorem foldl_encodeChars (chars : List Char) (idle : decoder.inside = none) :
    (chars.flatMap String.utf8EncodeChar).foldl Decoder.feed decoder =
      { decoder with reversed := chars.reverse ++ decoder.reversed } := by
  induction chars generalizing decoder with
  | nil => rfl
  | cons char chars ih =>
      rw [List.flatMap_cons, List.foldl_append, foldl_encodeChar idle, ih rfl]
      simp only [Decoder.push, idle, List.reverse_cons, List.append_assoc, List.singleton_append]

theorem run_encode (text : String) : run (encode text) = ⟨none, text.toList.reverse, true⟩ := by
  have idle : Decoder.start.inside = none := rfl
  have read := foldl_encodeChars text.toList idle
  rw [run, encode, read]
  simp only [Decoder.start, Decoder.finish, List.append_nil]

theorem decodeLossy_encode (text : String) : decodeLossy (encode text) = text := by
  simp only [decodeLossy, run_encode, Decoder.text, List.reverse_reverse, String.ofList_toList]

end RowCursor.Utf8
