import KqlCompletion.Json.Reader
import KqlCompletion.Proofs.Text.Encoding

/-! Texts beyond the limits of reading: lists nested too deep, and integers of too many digits. Both
are texts of the grammar, so no complaint is made about them; reading just stops. -/
namespace KqlCompletion

namespace Text

/-- Plain ASCII is what it looks like, in UTF-8 and without any mark. -/
theorem decodeFrom_ascii (surrogates : Bool) (position : Nat) (bytes : List UInt8)
    (ascii : ∀ byte ∈ bytes, byte.toNat < 0x80) :
    Utf8.decodeFrom surrogates none position bytes =
      .ok (bytes.map fun byte => .char (Char.ofNat byte.toNat)) := by
  induction bytes generalizing position with
  | nil => rfl
  | cons byte bytes ih =>
    rw [List.forall_mem_cons] at ascii
    simp [Utf8.decodeFrom, Utf8.lead, ascii.1, ih _ ascii.2, Except.map]

theorem detect_ascii {bytes : List UInt8}
    (ascii : ∀ byte ∈ bytes, 0 < byte.toNat ∧ byte.toNat < 0x80) :
    Encoding.detect bytes = ⟨.utf8, 0⟩ := by
  cases bytes with
  | nil => rfl
  | cons byte bytes =>
    rw [List.forall_mem_cons] at ascii
    exact detect_of_head ascii.1 fun other member => Nat.ne_of_gt (ascii.2 other member).1

theorem decodeDetected_ascii {bytes : List UInt8}
    (ascii : ∀ byte ∈ bytes, 0 < byte.toNat ∧ byte.toNat < 0x80) :
    decodeDetected bytes = .ok (bytes.map fun byte => .char (Char.ofNat byte.toNat)) := by
  have below : ∀ byte ∈ bytes, byte.toNat < 0x80 := fun byte member => (ascii byte member).2
  rw [decodeDetected, detect_ascii ascii]
  dsimp only
  rw [List.drop_zero, decodeFrom_ascii _ _ _ below]
  rfl

end Text

namespace Json

open Reader
open Text (CodePoint)

/-- Bytes of a list in a list, and so on, `depth` of them. -/
def nested (depth : Nat) : List UInt8 := List.replicate depth 0x5B ++ List.replicate depth 0x5D

/-- Digits that spell an integer: a zero does not lead others. -/
structure IsInteger (digits : List UInt8) : Prop where
  digit : ∀ digit ∈ digits, 0x30 ≤ digit.toNat ∧ digit.toNat ≤ 0x39
  lead : digits.head? ≠ some 0x30

theorem run_nested {depth position : Nat} {frames : List Frame} (text : Text)
    (deep : nestingLimit ≤ frames.length + depth) (opens : 0 < depth) :
    Reader.run position (List.replicate depth (.char '[') ++ text) ⟨.firstItem, frames⟩ =
      .error (.limit .depth) := by
  induction depth generalizing position frames with
  | zero => omega
  | succ depth ih =>
    have stepped : step position '[' ⟨.firstItem, frames⟩ =
        opened .firstItem (.array [] :: frames) := by
      simp [step, isSpace, beginValue]
    rw [List.replicate_succ, List.cons_append, Reader.run, stepped, opened]
    by_cases room : (Frame.array [] :: frames).length < nestingLimit
    · rw [if_pos room]
      rw [List.length_cons] at room
      exact ih (by rw [List.length_cons]; omega) (by omega)
    · rw [if_neg room]

theorem read_nested {depth : Nat} (text : Text) (deep : nestingLimit < depth) :
    read (List.replicate depth (.char '[') ++ text) = .error (.limit .depth) := by
  obtain ⟨rest, rfl⟩ : ∃ rest, depth = rest + 1 := ⟨depth - 1, by omega⟩
  have opening : step 0 '[' Reader.initial = .ok ⟨.firstItem, []⟩ := by
    simp [step, Reader.initial, isSpace, beginValue, opened, nestingLimit]
  rw [List.replicate_succ, List.cons_append, read, Reader.run, opening]
  simp only
  have positive : 0 < nestingLimit := by decide
  rw [run_nested text (by simp; omega) (by omega)]

theorem ofText_nested {depth : Nat} (text : Text) (deep : nestingLimit < depth) :
    ofText (List.replicate depth (.char '[') ++ text) = .error (.limit .depth) := by
  obtain ⟨rest, rfl⟩ : ∃ rest, depth = rest + 1 := ⟨depth - 1, by omega⟩
  simp only [ofText, read_nested text deep]
  rfl

theorem run_digits {digits : Text} (isDigits : ∀ c ∈ digits, isDigit c = true)
    (position : Nat) (n : Numeral) (whole : n.phase = .whole) :
    ∃ longer : Numeral, Reader.run position digits ⟨.numeral n, []⟩ = .ok ⟨.numeral longer, []⟩ ∧
      longer.phase = .whole ∧ longer.isFloat = n.isFloat ∧
      longer.count = n.count + digits.length := by
  induction digits generalizing position n with
  | nil => exact ⟨n, rfl, whole, rfl, rfl⟩
  | cons c digits ih =>
    rw [List.forall_mem_cons] at isDigits
    have stepped : step position c ⟨.numeral n, []⟩ = .ok ⟨.numeral (n.push c), []⟩ := by
      simp [step, stepNumeral, Numeral.extend?, whole, isDigits.1]
    obtain ⟨longer, ran, phase, float, count⟩ :=
      ih isDigits.2 (position + 1) (n.push c) whole
    refine ⟨longer, ?_, phase, float, ?_⟩
    · rw [Reader.run, stepped]
      exact ran
    · have pushed : (n.push c).count = n.count + 1 := rfl
      rw [count, pushed, List.length_cons]
      omega

theorem read_digits {digit : CodePoint} {digits : Text} (first : isDigit digit = true)
    (lead : digit ≠ .char '0') (isDigits : ∀ c ∈ digits, isDigit c = true)
    (long : digitLimit < digits.length + 1) :
    read (digit :: digits) = .error (.limit (.digits (digits.length + 1))) := by
  have others : ∀ c ∈ [' ', '\t', '\n', '\r', '"', '[', '\x7b', 'n', 't', 'f', 'N', 'I', '-'],
      isDigit (.char c) = false := by simp [isDigit]
  have other : ∀ c ∈ [' ', '\t', '\n', '\r', '"', '[', '\x7b', 'n', 't', 'f', 'N', 'I', '-'],
      digit ≠ .char c := by
    rintro c member rfl
    exact absurd (first.symm.trans (others _ member)) (by decide)
  let begun : Numeral :=
    { start := 0, negative := false, phase := .whole, digits := digit.toNat - 48, count := 1 }
  have opening : step 0 digit Reader.initial = .ok ⟨.numeral begun, []⟩ := by
    simp only [List.forall_mem_cons] at other
    simp [step, Reader.initial, isSpace, beginValue, first, lead, other, begun]
  obtain ⟨longer, ran, phase, float, count⟩ := run_digits isDigits 1 begun rfl
  have many : longer.count = digits.length + 1 := by rw [count]; exact Nat.add_comm _ _
  rw [read, Reader.run, opening]
  simp only
  rw [ran]
  simp only [finish, Numeral.close, phase, Numeral.value, float, many, long, if_true]
  rfl

/-- Lists nested too deep are not read, however well they are formed. -/
theorem ofBytes_nested {depth : Nat} (deep : nestingLimit < depth) :
    ofBytes (nested depth) = .error (.limit .depth) := by
  have ascii : ∀ byte ∈ nested depth, 0 < byte.toNat ∧ byte.toNat < 0x80 := by
    intro byte member
    rcases List.mem_append.1 member with opening | closing
    · simp [List.eq_of_mem_replicate opening]
    · simp [List.eq_of_mem_replicate closing]
  have spelled : (nested depth).map (fun byte => CodePoint.char (Char.ofNat byte.toNat)) =
      List.replicate depth (.char '[') ++ List.replicate depth (.char ']') := by
    simp [nested]
  rw [ofBytes, Text.decodeDetected_ascii ascii, spelled]
  simp only
  rw [read_nested _ deep]
  rfl

theorem isDigit_ofNat : ∀ n < 0x3A, 0x30 ≤ n → isDigit (.char (Char.ofNat n)) = true := by decide

theorem ofNat_eq_zero : ∀ n < 0x3A, Char.ofNat n = '0' → n = 0x30 := by decide

/-- Nor are integers of too many digits. -/
theorem ofBytes_digits {digits : List UInt8} (integer : IsInteger digits)
    (long : digitLimit < digits.length) :
    ofBytes digits = .error (.limit (.digits digits.length)) := by
  have ascii : ∀ byte ∈ digits, 0 < byte.toNat ∧ byte.toNat < 0x80 := by
    intro byte member
    have := integer.digit byte member
    omega
  rw [ofBytes, Text.decodeDetected_ascii ascii]
  cases digits with
  | nil => simp [digitLimit] at long
  | cons first rest =>
    have isDigits : ∀ c ∈ (first :: rest).map (fun byte => CodePoint.char (Char.ofNat byte.toNat)),
        isDigit c = true := by
      intro c spelled
      obtain ⟨byte, member, rfl⟩ := List.mem_map.1 spelled
      have bounds := integer.digit byte member
      exact isDigit_ofNat _ (by omega) bounds.1
    have lead : CodePoint.char (Char.ofNat first.toNat) ≠ .char '0' := by
      intro zero
      have bounds := integer.digit first (.head _)
      have same : first.toNat = 0x30 := ofNat_eq_zero _ (by omega) (CodePoint.char.inj zero)
      exact integer.lead (congrArg some (UInt8.toNat_inj.1 same))
    rw [List.map_cons, List.forall_mem_cons] at isDigits
    simp only [List.map_cons]
    rw [read_digits isDigits.1 lead isDigits.2 (by simpa using long)]
    simp only [List.length_map]
    rfl

end Json
end KqlCompletion
