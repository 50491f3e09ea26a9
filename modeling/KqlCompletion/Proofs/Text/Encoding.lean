import KqlCompletion.Proofs.Text.Percent
import KqlCompletion.Text.Encoding

/-! A text that is sent as UTF-8, without any mark, is taken for that and read as it was, as long as
it begins with ASCII and has no null characters. -/
namespace KqlCompletion.Text

namespace Utf8

variable {c : Char} {byte : UInt8} {p : Partial} {bytes : List UInt8}

/-- The other partial character goes on with whatever this one goes on with. -/
structure Partial.Within (p q : Partial) : Prop where
  need : q.need = p.need
  value : q.value = p.value
  low : q.low ≤ p.low
  high : p.high ≤ q.high

theorem Partial.Within.refl (p : Partial) : p.Within p := ⟨rfl, rfl, Nat.le_refl _, Nat.le_refl _⟩

theorem Partial.Within.admits {q : Partial} (within : p.Within q)
    (admitted : p.admits byte = true) : q.admits byte = true := by
  have low := within.low
  have high := within.high
  simp only [Partial.admits, Bool.and_eq_true, decide_eq_true_eq] at admitted ⊢
  omega

theorem Partial.Within.push {q : Partial} (within : p.Within q) (byte : UInt8) :
    (p.push byte).Within (q.push byte) := by
  refine ⟨?_, ?_, Nat.le_refl _, Nat.le_refl _⟩
  · simp [Partial.push, within.need]
  · simp [Partial.push, within.value]

/-- What begins a character begins it also where surrogates are let through. -/
theorem lead_true (starts : lead false byte = .partly p) :
    ∃ q, lead true byte = .partly q ∧ p.Within q := by
  by_cases surrogates : byte.toNat = 0xED
  · refine ⟨⟨1, 2, 0xD, 0x80, 0xBF⟩, by simp [lead, surrogates], ?_⟩
    obtain rfl : (⟨1, 2, 0xD, 0x80, 0x9F⟩ : Partial) = p := by
      simpa [lead, surrogates] using starts
    exact ⟨rfl, rfl, Nat.le_refl _, by decide⟩
  · refine ⟨p, ?_, rfl, rfl, Nat.le_refl _, Nat.le_refl _⟩
    simpa [lead, surrogates] using starts

theorem lead_char (starts : lead false byte = .char c) (surrogates : Bool) :
    lead surrogates byte = .char c := by
  have ascii : byte.toNat < 0x80 := by grind [lead]
  simpa [lead, ascii] using starts

theorem lead_partly (starts : lead false byte = .partly p) (surrogates : Bool) :
    ∃ q, lead surrogates byte = .partly q ∧ p.Within q := by
  cases surrogates with
  | false => exact ⟨p, starts, .refl p⟩
  | true => exact lead_true starts

theorem decodeFrom_of_reads {q : Partial} (reads : p.Reads c bytes) (within : p.Within q)
    (surrogates : Bool) (position : Nat) (rest : List UInt8) :
    decodeFrom surrogates (some q) position (bytes ++ rest) =
      (decodeFrom surrogates none (position + bytes.length) rest).map (.char c :: ·) := by
  induction reads generalizing q position with
  | @last p byte admitted need value =>
    have sum : (q.push byte).value = c.toNat := (within.push byte).value.trans value
    rw [List.singleton_append, decodeFrom, if_pos (within.admits admitted),
      if_pos (by simp [within.need, need]), sum, ← CodePoint.toNat_char, CodePoint.ofNat_toNat]
    rfl
  | @more p byte bytes admitted need _ ih =>
    have further : ¬ (q.need == 1) = true := by simpa [within.need] using need
    rw [List.cons_append, decodeFrom, if_pos (within.admits admitted), if_neg further,
      ih (within.push byte), List.length_cons, Nat.add_assoc, Nat.add_comm 1]

theorem decodeFrom_of_spells (spells : Spells c bytes) (surrogates : Bool) (position : Nat)
    (rest : List UInt8) :
    decodeFrom surrogates none position (bytes ++ rest) =
      (decodeFrom surrogates none (position + bytes.length) rest).map (.char c :: ·) := by
  cases spells with
  | one starts =>
    rw [List.singleton_append, decodeFrom, lead_char starts surrogates]
    rfl
  | @several byte p bytes starts others =>
    obtain ⟨q, begins, within⟩ := lead_partly starts surrogates
    rw [List.cons_append, decodeFrom, begins]
    dsimp only
    rw [decodeFrom_of_reads others within, List.length_cons, Nat.add_assoc, Nat.add_comm 1]

/-- What has been encoded is decoded as it was. -/
theorem decodeFrom_encode (surrogates : Bool) (position : Nat) (text : List Char) :
    decodeFrom surrogates none position (encode text) = .ok (text.map .char) := by
  induction text generalizing position with
  | nil => rfl
  | cons c text ih =>
    rw [encode, List.flatMap_cons, decodeFrom_of_spells (spells_encodeChar c), ← encode, ih]
    rfl

/-- Bytes of a character are zero only for the null character. -/
theorem ne_zero_of_mem_encodeChar (solid : c.toNat ≠ 0) :
    ∀ byte ∈ encodeChar c, byte.toNat ≠ 0 := by
  have scalar := toNat_scalar c
  have tails (shift : Nat) : (tail c.toNat shift).toNat ≠ 0 := by
    rw [toNat_tail]
    omega
  have leads {n : Nat} (low : 0 < n) (high : n < 0x100) : (UInt8.ofNat n).toNat ≠ 0 := by
    rw [UInt8.toNat_ofNat', Nat.mod_eq_of_lt high]
    omega
  rw [encodeChar]
  split
  · exact List.forall_mem_cons.2 ⟨leads (by omega) (by omega), by simp⟩
  split
  · exact List.forall_mem_cons.2 ⟨leads (by omega) (by omega), by simp [tails]⟩
  split
  · exact List.forall_mem_cons.2 ⟨leads (by omega) (by omega), by simp [tails]⟩
  · exact List.forall_mem_cons.2 ⟨leads (by omega) (by omega), by simp [tails]⟩

end Utf8

theorem ne_of_ascii {byte : UInt8} (ascii : 0 < byte.toNat ∧ byte.toNat < 0x80) (other : UInt8)
    (off : other.toNat = 0 ∨ 0x80 ≤ other.toNat) : other ≠ byte := by
  rintro rfl
  omega

/-- Every mark begins with a byte that is not ASCII, or is zero, and all other encodings are told by
zero bytes. -/
theorem detect_of_head {byte : UInt8} {bytes : List UInt8}
    (ascii : 0 < byte.toNat ∧ byte.toNat < 0x80) (solid : ∀ other ∈ bytes, other.toNat ≠ 0) :
    Encoding.detect (byte :: bytes) = ⟨.utf8, 0⟩ := by
  have differs := ne_of_ascii ascii
  have unmarked :
      Encoding.marks.find? (fun mark => mark.1.isPrefixOf (byte :: bytes)) = none := by
    simp [Encoding.marks, List.isPrefixOf, differs 0x00 (by decide), differs 0xFF (by decide),
      differs 0xFE (by decide), differs 0xEF (by decide)]
  have zero : ∀ other ∈ byte :: bytes, other ≠ 0 := by
    refine List.forall_mem_cons.2 ⟨(differs 0 (by decide)).symm, ?_⟩
    rintro other member rfl
    exact solid 0 member rfl
  have plain : Encoding.ofZeros (byte :: bytes) = .utf8 := by
    generalize byte :: bytes = all at zero
    fun_cases Encoding.ofZeros all <;> simp_all
  rw [Encoding.detect, unmarked, plain]

/-- A text that begins with ASCII and has no null characters is read as it was sent. -/
theorem decodeDetected_encode {c : Char} {text : List Char} (ascii : c.toNat < 0x80)
    (solid : ∀ d ∈ c :: text, d.toNat ≠ 0) :
    decodeDetected (Utf8.encode (c :: text)) = .ok ((c :: text).map .char) := by
  have bytes : Utf8.encode (c :: text) = UInt8.ofNat c.toNat :: Utf8.encode text := by
    simp [Utf8.encode, Utf8.encodeChar, ascii]
  have head : 0 < (UInt8.ofNat c.toNat).toNat ∧ (UInt8.ofNat c.toNat).toNat < 0x80 := by
    have := solid c List.mem_cons_self
    rw [UInt8.toNat_ofNat', Nat.mod_eq_of_lt (by omega)]
    omega
  have others : ∀ byte ∈ Utf8.encode text, byte.toNat ≠ 0 := by
    intro byte member
    obtain ⟨d, listed, spelled⟩ := List.mem_flatMap.1 member
    exact Utf8.ne_zero_of_mem_encodeChar (solid d (List.mem_cons_of_mem c listed)) byte spelled
  have detected : Encoding.detect (Utf8.encode (c :: text)) = ⟨.utf8, 0⟩ := by
    rw [bytes]
    exact detect_of_head head others
  rw [decodeDetected, detected]
  dsimp only
  rw [List.drop_zero, Utf8.decodeFrom_encode]
  rfl

end KqlCompletion.Text
