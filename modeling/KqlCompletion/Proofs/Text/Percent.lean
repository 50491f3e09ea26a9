import KqlCompletion.Text.Percent

/-! Text that has been percent-encoded reads back as the text it was, and is made of `%` and of
characters that may stand for themselves only. -/
namespace KqlCompletion.Text

theorem toNat_scalar (c : Char) :
    c.toNat < 0xD800 ∨ 0xDFFF < c.toNat ∧ c.toNat < 0x110000 := c.valid

theorem isAlphanum_iff {c : Char} : c.isAlphanum = true ↔
    'A' ≤ c ∧ c ≤ 'Z' ∨ 'a' ≤ c ∧ c ≤ 'z' ∨ '0' ≤ c ∧ c ≤ '9' := by
  have ranges : c.isAlphanum = (decide (65 ≤ c.val ∧ c.val ≤ 90) ||
    decide (97 ≤ c.val) && decide (c.val ≤ 122) || decide (48 ≤ c.val) && decide (c.val ≤ 57)) := rfl
  simp [ranges, Char.le_def, or_assoc]

namespace Utf8

/-- The bytes complete a character that has been begun. -/
inductive Partial.Reads (c : Char) : Partial → List UInt8 → Prop where
  | last {p : Partial} {byte : UInt8} (admitted : p.admits byte = true) (need : p.need = 1)
      (value : (p.push byte).value = c.toNat) : Reads c p [byte]
  | more {p : Partial} {byte : UInt8} {bytes : List UInt8} (admitted : p.admits byte = true)
      (need : p.need ≠ 1) (others : Reads c (p.push byte) bytes) : Reads c p (byte :: bytes)

/-- The bytes of a character are one byte or begin one. -/
inductive Spells (c : Char) : List UInt8 → Prop where
  | one {byte : UInt8} (starts : lead false byte = .char c) : Spells c [byte]
  | several {byte : UInt8} {p : Partial} {bytes : List UInt8} (starts : lead false byte = .partly p)
      (others : p.Reads c bytes) : Spells c (byte :: bytes)

theorem toNat_tail (n shift : Nat) : (tail n shift).toNat = 0x80 + (n >>> shift) % 64 := by
  have small : (n >>> shift) % 64 < 64 := Nat.mod_lt _ (by decide)
  rw [tail, UInt8.toNat_ofNat', Nat.mod_eq_of_lt]
  omega

theorem admits_tail {p : Partial} (n shift : Nat) (low : p.low ≤ 0x80 + (n >>> shift) % 64)
    (high : 0x80 + (n >>> shift) % 64 ≤ p.high) : p.admits (tail n shift) = true := by
  rw [Partial.admits, toNat_tail]
  simp [low, high]

/-- Behind its second byte a character goes on with any tails. -/
theorem reads_last {c : Char} {p : Partial} {n : Nat} (low : p.low = 0x80) (high : p.high = 0xBF)
    (need : p.need = 1) (value : p.value * 64 + n % 64 = c.toNat) : p.Reads c [tail n 0] := by
  refine .last (admits_tail n 0 ?_ ?_) need ?_
  · omega
  · omega
  · rw [Partial.push, toNat_tail, Nat.shiftRight_zero]
    dsimp only
    omega

theorem lead_of_two {n : Nat} (low : 0x80 ≤ n) (high : n < 0x800) :
    lead false (UInt8.ofNat (0xC0 + n / 64)) = .partly ⟨1, 1, n / 64, 0x80, 0xBF⟩ := by
  have byte : (UInt8.ofNat (0xC0 + n / 64)).toNat = 0xC0 + n / 64 := by
    rw [UInt8.toNat_ofNat', Nat.mod_eq_of_lt]
    omega
  rw [lead, byte]
  rw [if_neg (by omega), if_neg (by omega), if_pos (by omega), Nat.add_sub_cancel_left]

/-- The second of three bytes lies in a narrower range where the first one is `E0` or `ED`. -/
theorem lead_of_three {n : Nat} (low : 0x800 ≤ n) (high : n < 0x10000)
    (scalar : n < 0xD800 ∨ 0xDFFF < n) :
    ∃ least most, lead false (UInt8.ofNat (0xE0 + n / 4096)) =
        .partly ⟨1, 2, n / 4096, least, most⟩ ∧
      least ≤ 0x80 + n / 64 % 64 ∧ 0x80 + n / 64 % 64 ≤ most := by
  have byte : (UInt8.ofNat (0xE0 + n / 4096)).toNat = 0xE0 + n / 4096 := by
    rw [UInt8.toNat_ofNat', Nat.mod_eq_of_lt]
    omega
  rw [lead, byte]
  rw [if_neg (by omega), if_neg (by omega), if_neg (by omega)]
  by_cases first : n / 4096 = 0
  · refine ⟨0xA0, 0xBF, ?_, by omega, by omega⟩
    rw [first]
    rfl
  · rw [if_neg (by simp [first])]
    by_cases surrogate : n / 4096 = 0xD
    · refine ⟨0x80, 0x9F, ?_, by omega, by omega⟩
      rw [surrogate]
      rfl
    · refine ⟨0x80, 0xBF, ?_, by omega, by omega⟩
      rw [if_neg (by simp; omega), if_pos (by omega), Nat.add_sub_cancel_left]

theorem lead_of_four {n : Nat} (low : 0x10000 ≤ n) (high : n < 0x110000) :
    ∃ least most, lead false (UInt8.ofNat (0xF0 + n / 262144)) =
        .partly ⟨1, 3, n / 262144, least, most⟩ ∧
      least ≤ 0x80 + n / 4096 % 64 ∧ 0x80 + n / 4096 % 64 ≤ most := by
  have few : n / 262144 ≤ 4 := by omega
  have byte : (UInt8.ofNat (0xF0 + n / 262144)).toNat = 0xF0 + n / 262144 := by
    rw [UInt8.toNat_ofNat', Nat.mod_eq_of_lt]
    omega
  rw [lead, byte]
  rw [if_neg (by omega), if_neg (by omega), if_neg (by omega), if_neg (by simp; omega),
    if_neg (by simp; omega), if_neg (by omega)]
  by_cases first : n / 262144 = 0
  · refine ⟨0x90, 0xBF, ?_, by omega, by omega⟩
    rw [first]
    rfl
  · rw [if_neg (by simp [first])]
    by_cases last : n / 262144 = 4
    · refine ⟨0x80, 0x8F, ?_, by omega, by omega⟩
      rw [last]
      rfl
    · refine ⟨0x80, 0xBF, ?_, by omega, by omega⟩
      rw [if_pos (by omega), Nat.add_sub_cancel_left]

theorem spells_encodeChar (c : Char) : Spells c (encodeChar c) := by
  have scalar := toNat_scalar c
  rw [encodeChar]
  generalize code : c.toNat = n at scalar
  -- one case for each number of bytes; the tails add up to the code by division by 64
  split
  · refine .one ?_
    have byte : (UInt8.ofNat n).toNat = n := by
      rw [UInt8.toNat_ofNat', Nat.mod_eq_of_lt]
      omega
    rw [lead, byte, if_pos ‹_›, ← code, Char.ofNat_toNat]
  split
  · exact .several (lead_of_two (by omega) ‹_›) (reads_last rfl rfl rfl (by dsimp only; omega))
  split
  · obtain ⟨least, most, starts, low, high⟩ :=
      lead_of_three (n := n) (by omega) ‹_› (by omega)
    have admitted : Partial.admits ⟨1, 2, n / 4096, least, most⟩ (tail n 6) = true :=
      admits_tail n 6 (by dsimp only; omega) (by dsimp only; omega)
    refine .several starts (.more admitted (by simp) ?_)
    refine reads_last rfl rfl rfl ?_
    rw [Partial.push, toNat_tail]
    dsimp only
    omega
  · obtain ⟨least, most, starts, low, high⟩ := lead_of_four (n := n) (by omega) (by omega)
    have admitted : Partial.admits ⟨1, 3, n / 262144, least, most⟩ (tail n 12) = true :=
      admits_tail n 12 (by dsimp only; omega) (by dsimp only; omega)
    refine .several starts (.more admitted (by simp) ?_)
    refine .more (admits_tail n 6 ?_ ?_) (by simp [Partial.push]) (reads_last rfl rfl rfl ?_)
    · show 0x80 ≤ _
      omega
    · show _ ≤ 0xBF
      omega
    · rw [Partial.push, Partial.push, toNat_tail, toNat_tail]
      dsimp only
      omega

theorem decodeReplacing_of_reads {c : Char} {p : Partial} {bytes : List UInt8}
    (reads : p.Reads c bytes) (rest : List UInt8) :
    decodeReplacing (some p) (bytes ++ rest) = c :: decodeReplacing none rest := by
  induction reads with
  | last admitted need value =>
    rw [List.singleton_append, decodeReplacing]
    simp only [admitted, need, value, Char.ofNat_toNat]
    rfl
  | more admitted need _ ih =>
    rw [List.cons_append, decodeReplacing]
    simp only [admitted, ih, if_true, beq_iff_eq, need, if_false]

theorem decodeReplacing_of_spells {c : Char} {bytes : List UInt8} (spells : Spells c bytes)
    (rest : List UInt8) :
    decodeReplacing none (bytes ++ rest) = c :: decodeReplacing none rest := by
  cases spells with
  | one starts =>
    rw [List.singleton_append, decodeReplacing]
    simp only [starts, List.nil_append]
  | several starts others =>
    rw [List.cons_append, decodeReplacing]
    simp only [starts, List.nil_append, decodeReplacing_of_reads others]

/-- What has been encoded reads back as it was. -/
theorem decodeReplacing_encode (text : List Char) : decodeReplacing none (encode text) = text := by
  induction text with
  | nil => rfl
  | cons c text ih =>
    rw [encode, List.flatMap_cons, decodeReplacing_of_spells (spells_encodeChar c)]
    exact congrArg (c :: ·) ih

theorem tail_eq (n shift : Nat) : tail n shift = UInt8.ofNat (n >>> shift % 64 + 128) := by
  rw [tail, Nat.add_comm]

/-- A character is encoded in the bytes that a string has for it. -/
theorem encodeChar_eq (c : Char) : encodeChar c = String.utf8EncodeChar c := by
  have scalar := toNat_scalar c
  have code : c.val.toNat = c.toNat := rfl
  rw [encodeChar, String.utf8EncodeChar, code]
  generalize c.toNat = n at scalar
  have last : tail n 0 = UInt8.ofNat (n % 64 + 128) := by
    rw [tail_eq, Nat.shiftRight_zero]
  have second : tail n 6 = UInt8.ofNat (n / 64 % 64 + 128) := by
    rw [tail_eq, Nat.shiftRight_eq_div_pow]
  have third : tail n 12 = UInt8.ofNat (n / 4096 % 64 + 128) := by
    rw [tail_eq, Nat.shiftRight_eq_div_pow]
  rw [last, second, third]
  split
  · rw [if_pos (by omega)]
  split
  · have lead : n / 64 % 32 + 192 = 0xC0 + n / 64 := by omega
    rw [if_neg (by omega), if_pos (by omega), lead]
  split
  · have lead : n / 4096 % 16 + 224 = 0xE0 + n / 4096 := by omega
    rw [if_neg (by omega), if_neg (by omega), if_pos (by omega), lead]
  · have lead : n / 262144 % 8 + 240 = 0xF0 + n / 262144 := by omega
    rw [if_neg (by omega), if_neg (by omega), if_neg (by omega), lead]

theorem fromUTF8?_encode (text : String) :
    String.fromUTF8? (encode text.toList).toByteArray = some text := by
  have bytes : (encode text.toList).toByteArray = text.toByteArray := by
    rw [encode, funext encodeChar_eq, ← String.utf8Encode_toList]
    rfl
  rw [bytes, String.fromUTF8?, dif_pos text.isValidUTF8]
  rfl

end Utf8

namespace Percent

variable {keep : Char → Bool} {text : List Char} {c : Char}

theorem hexValue?_upperHex : ∀ n < 16, hexValue? (upperHex n) = some n := by decide

theorem isUnreserved_upperHex : ∀ n < 16, isUnreserved (upperHex n) = true := by decide

theorem bytes_encodeByte (byte : UInt8) (rest : List Char) :
    bytes (encodeByte byte ++ rest) = byte :: bytes rest := by
  have small := byte.toNat_lt
  have whole : byte.toNat / 16 * 16 + byte.toNat % 16 = byte.toNat := Nat.div_add_mod' _ _
  show bytes ('%' :: upperHex _ :: upperHex _ :: rest) = _
  rw [bytes, hexValue?_upperHex _ (by omega), hexValue?_upperHex _ (by omega)]
  simp only [whole, UInt8.ofNat_toNat]

theorem bytes_encodeBytes (front : List UInt8) (rest : List Char) :
    bytes (front.flatMap encodeByte ++ rest) = front ++ bytes rest := by
  induction front with
  | nil => rfl
  | cons byte front ih =>
    rw [List.flatMap_cons, List.append_assoc, bytes_encodeByte, ih]
    rfl

theorem bytes_cons (plain : c ≠ '%') (rest : List Char) :
    bytes (c :: rest) = Utf8.encodeChar c ++ bytes rest := by
  rw [bytes]
  exact fun _ _ _ same => absurd same plain

/-- An encoded text stands for the bytes of the text, as long as no `%` stands for itself. -/
theorem bytes_encode (mark : keep '%' = false) (text : List Char) :
    bytes (encode keep text) = Utf8.encode text := by
  induction text with
  | nil => rfl
  | cons c text ih =>
    rw [encode, List.flatMap_cons, encodeChar, Utf8.encode, List.flatMap_cons]
    by_cases kept : keep c = true
    · have plain : c ≠ '%' := by
        rintro rfl
        exact absurd (mark.symm.trans kept) Bool.false_ne_true
      rw [if_pos kept, List.singleton_append, bytes_cons plain]
      exact congrArg _ ih
    · rw [if_neg kept, bytes_encodeBytes]
      exact congrArg _ ih

theorem decode_encode (mark : keep '%' = false) (text : List Char) :
    decode (encode keep text) = text := by
  rw [decode, bytes_encode mark, Utf8.decodeReplacing_encode]

theorem encode_append (keep : Char → Bool) (front back : List Char) :
    encode keep (front ++ back) = encode keep front ++ encode keep back := List.flatMap_append

theorem encode_of_kept (kept : ∀ c ∈ text, keep c = true) : encode keep text = text := by
  induction text with
  | nil => rfl
  | cons c text ih =>
    rw [encode, List.flatMap_cons, encodeChar, if_pos (kept c List.mem_cons_self)]
    exact congrArg (c :: ·) (ih fun other member => kept other (List.mem_cons_of_mem c member))

theorem toNat_lt_of_isUnreserved (kept : isUnreserved c = true) : c.toNat < 0x80 := by
  have below {last : Char} (most : c ≤ last) (small : last.toNat < 0x80) : c.toNat < 0x80 :=
    Nat.lt_of_le_of_lt (UInt32.le_iff_toNat_le.1 (Char.le_def.1 most)) small
  simp only [isUnreserved, Bool.or_eq_true, isAlphanum_iff, beq_iff_eq] at kept
  rcases kept with ((((upper | lower | digit) | rfl) | rfl) | rfl) | rfl
  · exact below upper.2 (by decide)
  · exact below lower.2 (by decide)
  · exact below digit.2 (by decide)
  all_goals decide

/-- Hexadecimal digits stand for themselves, so `%` is the only character an encoded text may have
besides. -/
theorem unreserved_of_mem_encode (member : c ∈ encode isUnreserved text) :
    isUnreserved c = true ∨ c = '%' := by
  obtain ⟨source, -, spelled⟩ := List.mem_flatMap.1 member
  rw [encodeChar] at spelled
  split at spelled
  · next kept => exact .inl (List.mem_singleton.1 spelled ▸ kept)
  · obtain ⟨byte, -, written⟩ := List.mem_flatMap.1 spelled
    have small := byte.toNat_lt
    simp only [encodeByte, List.mem_cons, List.not_mem_nil, or_false] at written
    rcases written with rfl | rfl | rfl
    · exact .inr rfl
    · exact .inl (isUnreserved_upperHex _ (by omega))
    · exact .inl (isUnreserved_upperHex _ (by omega))

def IsUpperHex (c : Char) : Prop := '0' ≤ c ∧ c ≤ '9' ∨ 'A' ≤ c ∧ c ≤ 'F'

theorem isUpperHex_upperHex : ∀ n < 16, IsUpperHex (upperHex n) := by
  unfold IsUpperHex
  decide

/-- Text of unreserved characters and of escapes, and of nothing else: a `%` begins an escape. -/
inductive Escaped : List Char → Prop where
  | nil : Escaped []
  | kept {c : Char} {text : List Char} (unreserved : isUnreserved c = true)
      (rest : Escaped text) : Escaped (c :: text)
  | escape {high low : Char} {text : List Char} (first : IsUpperHex high)
      (second : IsUpperHex low) (rest : Escaped text) : Escaped ('%' :: high :: low :: text)

theorem Escaped.append {front back : List Char} (first : Escaped front) (second : Escaped back) :
    Escaped (front ++ back) := by
  induction first with
  | nil => exact second
  | kept unreserved _ ih => exact .kept unreserved ih
  | escape high low _ ih => exact .escape high low ih

theorem Escaped.encodeBytes (bytes : List UInt8) : Escaped (bytes.flatMap encodeByte) := by
  induction bytes with
  | nil => exact .nil
  | cons byte bytes ih =>
    have small := byte.toNat_lt
    exact .escape (isUpperHex_upperHex _ (by omega)) (isUpperHex_upperHex _ (by omega)) ih

theorem Escaped.encode (text : List Char) : Escaped (encode isUnreserved text) := by
  induction text with
  | nil => exact .nil
  | cons c text ih =>
    rw [Percent.encode, List.flatMap_cons, encodeChar]
    split
    · next unreserved => exact .kept unreserved ih
    · exact (Escaped.encodeBytes _).append ih

end Percent
end KqlCompletion.Text
