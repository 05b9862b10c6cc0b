import RowCursor.Proofs.Bytes
import RowCursor.Proofs.Text.Utf8

/-!
# Decoding well-formed text only

The strict decoder accepts exactly what a text is encoded as (`decode?_eq_some_iff`).  The
machine has then read whole characters and, inside one, bytes that every admitted
continuation completes to a character (`Opens`): the ranges of the lead bytes leave out what
is no scalar value and what a shorter form encodes.  A replacement is never forgotten.
-/

set_option autoImplicit false

namespace RowCursor.Utf8

variable {decoder : Decoder} {seen : Bytes} {byte : UInt8} {inside : Pending} {number : Nat}

/-! ## Openings of characters -/

/-- The last bytes of a character, with six bits of the number each. -/
def continuations : (count : Nat) → (number : Nat) → Bytes
  | 0, _ => []
  | count + 1, number => continuation (number / 64 ^ count) :: continuations count number

/-- The number is that of a scalar value, and its character is encoded as these bytes. -/
def IsCharacter (number : Nat) (bytes : Bytes) : Prop :=
  number.isValidChar ∧ String.utf8EncodeChar (Char.ofNat number) = bytes

/-- Any number that begins with the bits and goes on with an admitted byte is a character with
this opening. -/
structure Opens (opening : Bytes) (inside : Pending) : Prop where
  low : 0x80 ≤ inside.low
  high : inside.high ≤ 0xBF
  closes : ∀ number, number / 64 ^ (inside.further + 1) = inside.bits →
    Admits inside.low inside.high (number / 64 ^ inside.further) →
    IsCharacter number (opening ++ continuations (inside.further + 1) number)

theorem toNat_ofNat_char (valid : number.isValidChar) : (Char.ofNat number).toNat = number := by
  rw [Char.ofNat, dif_pos valid]
  rfl

theorem isCharacter_of_two (above : 0x80 ≤ number) (below : number < 0x800) :
    IsCharacter number [UInt8.ofNat (number / 64 + 0xC0), continuation number] := by
  have valid : number.isValidChar := Or.inl (by omega)
  refine ⟨valid, ?_⟩
  rw [encodeChar_eq, toNat_ofNat_char valid, if_neg (by omega), if_pos (by omega),
    Nat.mod_eq_of_lt (by omega)]

theorem isCharacter_of_three (above : 0x800 ≤ number) (below : number < 0x10000)
    (scalar : number < 0xD800 ∨ 0xDFFF < number) :
    IsCharacter number
      [UInt8.ofNat (number / 4096 + 0xE0), continuation (number / 64), continuation number] := by
  have valid : number.isValidChar := by
    unfold Nat.isValidChar
    omega
  refine ⟨valid, ?_⟩
  rw [encodeChar_eq, toNat_ofNat_char valid, if_neg (by omega), if_neg (by omega),
    if_pos (by omega), Nat.mod_eq_of_lt (by omega)]

theorem isCharacter_of_four (above : 0x10000 ≤ number) (below : number < 0x110000) :
    IsCharacter number
      [UInt8.ofNat (number / 262144 + 0xF0), continuation (number / 4096),
        continuation (number / 64), continuation number] := by
  have valid : number.isValidChar := by
    unfold Nat.isValidChar
    omega
  refine ⟨valid, ?_⟩
  rw [encodeChar_eq, toNat_ofNat_char valid, if_neg (by omega), if_neg (by omega),
    if_neg (by omega), Nat.mod_eq_of_lt (by omega)]

theorem opens_two {bits : Nat} (first : byte.toNat = bits + 0xC0) (least : 2 ≤ bits)
    (most : bits < 0x20) : Opens [byte] ⟨bits, 0, 0x80, 0xBF⟩ where
  low := UInt8.le_refl _
  high := UInt8.le_refl _
  closes number begins _ := by
    simp only [Nat.zero_add, Nat.pow_one] at begins
    subst begins
    have char : IsCharacter number _ := isCharacter_of_two (by omega) (by omega)
    rw [← first, UInt8.ofNat_toNat] at char
    simpa [continuations] using char

theorem opens_three {bits : Nat} {low high : UInt8} (first : byte.toNat = bits + 0xE0)
    (least : 0x80 ≤ low) (most : high ≤ 0xBF) (small : bits < 0x10)
    (range : ∀ number, number / 64 = bits → Admits low high number →
      0x20 ≤ number ∧ (number < 0x360 ∨ 0x37F < number)) :
    Opens [byte] ⟨bits, 1, low, high⟩ where
  low := least
  high := most
  closes number begins admits := by
    simp only [Nat.reduceAdd, Nat.reducePow, Nat.pow_one] at begins admits
    have middle := range (number / 64) (by omega) admits
    subst begins
    have char : IsCharacter number _ := isCharacter_of_three (by omega) (by omega) (by omega)
    rw [← first, UInt8.ofNat_toNat] at char
    simpa [continuations] using char

theorem opens_four {bits : Nat} {low high : UInt8} (first : byte.toNat = bits + 0xF0)
    (least : 0x80 ≤ low) (most : high ≤ 0xBF)
    (range : ∀ number, number / 64 = bits → Admits low high number →
      0x10 ≤ number ∧ number < 0x110) :
    Opens [byte] ⟨bits, 2, low, high⟩ where
  low := least
  high := most
  closes number begins admits := by
    simp only [Nat.reduceAdd, Nat.reducePow] at begins admits
    have middle := range (number / 4096) (by omega) admits
    subst begins
    have char : IsCharacter number _ := isCharacter_of_four (by omega) (by omega)
    rw [← first, UInt8.ofNat_toNat] at char
    simpa [continuations] using char

/-- A byte that begins a character opens what it announces. -/
theorem opens_of_begins (begins : lead byte = .begins inside) : Opens [byte] inside := by
  rw [lead_eq] at begins
  split at begins
  · cases begins
  split at begins
  · cases begins
  split at begins
  · injection begins with opened
    subst opened
    exact opens_two (by omega) (by omega) (by omega)
  split at begins
  · injection begins with opened
    subst opened
    refine opens_three (by omega) (by decide) (by decide) (by decide) fun number begins admits => ?_
    have overlong : 0xA0 ≤ number % 64 + 128 := admits.1
    omega
  split at begins
  · injection begins with opened
    subst opened
    refine opens_three (by omega) (by decide) (by decide) (by decide) fun number begins admits => ?_
    have surrogates : number % 64 + 128 ≤ 0x9F := admits.2
    omega
  split at begins
  · injection begins with opened
    subst opened
    exact opens_three (by omega) (UInt8.le_refl 0x80) (UInt8.le_refl 0xBF) (by omega) (by omega)
  split at begins
  · injection begins with opened
    subst opened
    refine opens_four (by omega) (by decide) (by decide) fun number begins admits => ?_
    have overlong : 0x90 ≤ number % 64 + 128 := admits.1
    omega
  split at begins
  · injection begins with opened
    subst opened
    exact opens_four (by omega) (UInt8.le_refl 0x80) (UInt8.le_refl 0xBF) (by omega)
  split at begins
  · injection begins with opened
    subst opened
    refine opens_four (by omega) (by decide) (by decide) fun number begins admits => ?_
    have beyond : number % 64 + 128 ≤ 0x8F := admits.2
    omega
  · cases begins

/-! ## Bytes inside a character -/

theorem encodeChar_of_scalar {char : Char} (scalar : lead byte = .scalar char) :
    String.utf8EncodeChar char = [byte] := by
  rw [lead_eq] at scalar
  split at scalar
  · injection scalar with same
    subst same
    have ascii : byte.toNat.isValidChar := Or.inl (by omega)
    rw [encodeChar_eq, toNat_ofNat_char ascii, if_pos (by omega), UInt8.ofNat_toNat]
  -- Any other byte begins a character or is ill-formed.
  · repeat' split at scalar
    all_goals cases scalar

theorem Opens.range (opens : Opens seen inside) (low : inside.low ≤ byte)
    (high : byte ≤ inside.high) : 0x80 ≤ byte.toNat ∧ byte.toNat ≤ 0xBF :=
  ⟨UInt8.le_iff_toNat_le.mp (UInt8.le_trans opens.low low),
    UInt8.le_iff_toNat_le.mp (UInt8.le_trans high opens.high)⟩

/-- An admitted byte continues with the six bits that the decoder takes from it. -/
theorem continuation_of_admitted (opens : Opens seen inside) (low : inside.low ≤ byte)
    (high : byte ≤ inside.high) (number : Nat) (bits : number % 64 = byte.toNat - 0x80) :
    continuation number = byte ∧ Admits inside.low inside.high number := by
  have range := opens.range low high
  have same : number % 64 + 128 = byte.toNat := by omega
  refine ⟨?_, ?_⟩
  · rw [continuation, same, UInt8.ofNat_toNat]
  · rw [Admits, same]
    exact ⟨UInt8.le_iff_toNat_le.mp low, UInt8.le_iff_toNat_le.mp high⟩

theorem Opens.last {bits : Nat} {low high : UInt8} (opens : Opens seen ⟨bits, 0, low, high⟩)
    (least : low ≤ byte) (most : byte ≤ high) :
    String.utf8EncodeChar (Char.ofNat (bits * 64 + (byte.toNat - 0x80))) = seen ++ [byte] := by
  have range := opens.range least most
  have front : (bits * 64 + (byte.toNat - 0x80)) / 64 ^ (0 + 1) = bits := by
    rw [Nat.zero_add, Nat.pow_one]
    omega
  obtain ⟨same, admits⟩ := continuation_of_admitted opens least most
    (bits * 64 + (byte.toNat - 0x80)) (by omega)
  have char := opens.closes _ front (by simpa using admits)
  simpa [continuations, same] using char.2

theorem Opens.further {bits further : Nat} {low high : UInt8}
    (opens : Opens seen ⟨bits, further + 1, low, high⟩) (least : low ≤ byte) (most : byte ≤ high) :
    Opens (seen ++ [byte]) ⟨bits * 64 + (byte.toNat - 0x80), further, 0x80, 0xBF⟩ where
  low := UInt8.le_refl _
  high := UInt8.le_refl _
  closes number begins admits := by
    have range := opens.range least most
    obtain ⟨same, admitted⟩ := continuation_of_admitted opens least most
      (number / 64 ^ (further + 1)) (by simp only at begins; omega)
    have front : number / 64 ^ (further + 1 + 1) = bits := by
      rw [Nat.pow_succ, ← Nat.div_div_eq_div_mul]
      simp only at begins
      omega
    have char := opens.closes number front admitted
    rw [continuations, same] at char
    rw [List.append_assoc]
    exact char

/-! ## Runs of the decoder -/

/-- The decoder, all well-formed, has read these bytes: whole characters, and the opening of
one if it is inside. -/
inductive Spells : Decoder → Bytes → Prop where
  | idle (reversed : List Char) :
      Spells ⟨none, reversed, true⟩ (reversed.reverse.flatMap String.utf8EncodeChar)
  | inside {opening : Bytes} {inside : Pending} (reversed : List Char)
      (opens : Opens opening inside) :
      Spells ⟨some inside, reversed, true⟩
        (reversed.reverse.flatMap String.utf8EncodeChar ++ opening)

theorem spells_push {reversed : List Char} {char : Char} {bytes : Bytes}
    (encoded : String.utf8EncodeChar char = bytes) :
    Spells ⟨none, char :: reversed, true⟩
      (reversed.reverse.flatMap String.utf8EncodeChar ++ bytes) := by
  have spells := Spells.idle (char :: reversed)
  rwa [List.reverse_cons, List.flatMap_append, List.flatMap_singleton, encoded] at spells

theorem feedIdle_of_illFormed (ill : decoder.wellFormed = false) :
    (decoder.feedIdle byte).wellFormed = false := by
  unfold Decoder.feedIdle
  cases lead byte with
  | scalar char => exact ill
  | begins inside => exact ill
  | illFormed => rfl

theorem feed_of_illFormed (ill : decoder.wellFormed = false) :
    (decoder.feed byte).wellFormed = false := by
  unfold Decoder.feed
  split
  · exact feedIdle_of_illFormed ill
  split
  · split
    · exact ill
    · exact ill
  · exact feedIdle_of_illFormed rfl

/-- A byte keeps the decoder in step with what was read, or closes an ill-formed part. -/
theorem Spells.feed (spells : Spells decoder seen) (byte : UInt8) :
    (decoder.feed byte).wellFormed = false ∨ Spells (decoder.feed byte) (seen ++ [byte]) := by
  cases spells with
  | idle reversed =>
      cases leads : lead byte with
      | scalar char =>
          rw [feed_of_scalar rfl leads]
          exact Or.inr (spells_push (encodeChar_of_scalar leads))
      | begins inside =>
          rw [feed_of_begins rfl leads]
          exact Or.inr (.inside reversed (opens_of_begins leads))
      | illFormed =>
          simp only [Decoder.feed, Decoder.feedIdle, leads]
          exact Or.inl rfl
  | @inside opening inside reversed opens =>
      obtain ⟨bits, further, low, high⟩ := inside
      rw [List.append_assoc]
      by_cases admitted : low ≤ byte ∧ byte ≤ high
      · cases further with
        | zero =>
            simp only [Decoder.feed, if_pos admitted]
            exact Or.inr (spells_push (opens.last admitted.1 admitted.2))
        | succ further =>
            simp only [Decoder.feed, if_pos admitted]
            exact Or.inr (.inside reversed (opens.further admitted.1 admitted.2))
      · simp only [Decoder.feed, if_neg admitted]
        exact Or.inl (feedIdle_of_illFormed rfl)

theorem spells_foldl (bytes : Bytes) :
    ∀ {decoder : Decoder} {seen : Bytes}, decoder.wellFormed = false ∨ Spells decoder seen →
      (bytes.foldl Decoder.feed decoder).wellFormed = false ∨
        Spells (bytes.foldl Decoder.feed decoder) (seen ++ bytes) := by
  induction bytes with
  | nil =>
      intro decoder seen before
      rwa [List.append_nil]
  | cons byte rest ih =>
      intro decoder seen before
      have later : (decoder.feed byte).wellFormed = false ∨
          Spells (decoder.feed byte) (seen ++ [byte]) := by
        rcases before with ill | spells
        · exact Or.inl (feed_of_illFormed ill)
        · exact spells.feed byte
      have done := ih later
      rwa [List.append_assoc] at done

theorem Spells.finish (spells : Spells decoder seen) (well : decoder.finish.wellFormed = true) :
    seen = encode decoder.finish.text := by
  cases spells with
  | idle reversed => simp only [encode, Decoder.finish, Decoder.text, String.toList_ofList]
  | inside reversed opens => cases well

theorem finish_of_illFormed (ill : decoder.wellFormed = false) :
    decoder.finish.wellFormed = false := by
  unfold Decoder.finish
  split
  · exact ill
  · rfl

theorem eq_encode_of_decode? {bytes : Bytes} {text : String} (decoded : decode? bytes = some text) :
    bytes = encode text := by
  simp only [decode?] at decoded
  split at decoded
  · rename_i well
    injection decoded with same
    subst same
    have begun : Spells Decoder.start [] := .idle []
    rcases spells_foldl bytes (Or.inr begun) with ill | spells
    · rw [run, finish_of_illFormed ill] at well
      cases well
    · exact spells.finish well
  · cases decoded

theorem decode?_encode (text : String) : decode? (encode text) = some text := by
  rw [decode?, run_encode]
  simp only [if_true, Decoder.text, List.reverse_reverse, String.ofList_toList]

/-- The strict decoder accepts exactly the encodings of texts. -/
theorem decode?_eq_some_iff {bytes : Bytes} {text : String} :
    decode? bytes = some text ↔ bytes = encode text := by
  constructor
  · exact eq_encode_of_decode?
  · rintro rfl
    exact decode?_encode text

end RowCursor.Utf8
