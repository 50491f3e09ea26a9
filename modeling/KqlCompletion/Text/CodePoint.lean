/-! Texts as sequences of code points. A code point is a character, or half of a surrogate pair that
stands without the other half: such a half can be read, held and compared, but not sent. -/
namespace KqlCompletion

namespace Text

/-- The halves of surrogate pairs are numbered from U+D800 on. -/
inductive CodePoint where
  | char (c : Char)
  | half (offset : Fin 0x800)
  deriving DecidableEq, Repr

namespace CodePoint

instance : Inhabited CodePoint := ⟨char default⟩

instance : Coe Char CodePoint := ⟨char⟩

def toNat : CodePoint → Nat
  | char c => c.toNat
  | half offset => 0xD800 + offset

/-- The code point of a number below `0x110000`. -/
def ofNat (code : Nat) : CodePoint :=
  if code.isValidChar then char (Char.ofNat code) else half (Fin.ofNat 0x800 (code - 0xD800))

@[simp] theorem toNat_char (c : Char) : (char c).toNat = c.toNat := rfl

@[simp] theorem ofNat_toNat (p : CodePoint) : ofNat p.toNat = p := by
  cases p with
  | char c =>
    have valid : c.toNat.isValidChar := c.valid
    simp [ofNat, toNat, valid, Char.ofNat_toNat]
  | half offset =>
    have below := offset.isLt
    have invalid : ¬ (0xD800 + offset.val).isValidChar := by
      rw [Nat.isValidChar]
      omega
    rw [ofNat, toNat, if_neg invalid, Nat.add_sub_cancel_left]
    simp

theorem toNat_ofNat {code : Nat} (below : code < 0x110000) : (ofNat code).toNat = code := by
  rw [ofNat]
  split
  · next valid =>
    rw [toNat, Char.ofNat, dif_pos valid]
    rfl
  · next invalid =>
    rw [Nat.isValidChar] at invalid
    rw [toNat, Fin.val_ofNat, Nat.mod_eq_of_lt (by omega)]
    omega

def char? : CodePoint → Option Char
  | char c => some c
  | half _ => none

end CodePoint
end Text

abbrev Text := List Text.CodePoint

namespace Text

def of (written : String) : Text := written.toList.map .char

instance : Coe String Text := ⟨of⟩

/-- The characters of a text that has nothing else. -/
def characters? : Text → Option (List Char)
  | [] => some []
  | .char c :: text => (characters? text).map (c :: ·)
  | .half _ :: _ => none

/-- Whether the text can be sent. -/
def isSound (text : Text) : Bool := text.characters?.isSome

def replacement : Char := '\uFFFD'

/-- The characters of a text. In the place of a half stand three replacement characters, one for
each byte that it would be written as. -/
def shown (text : Text) : String :=
  String.ofList <| text.flatMap fun
    | .char c => [c]
    | .half _ => List.replicate 3 replacement

theorem map_char_inj {first second : List Char} :
    first.map CodePoint.char = second.map .char ↔ first = second :=
  List.map_inj_right fun _ _ same => CodePoint.char.inj same

@[simp] theorem of_inj {first second : String} : of first = of second ↔ first = second := by
  rw [of, of, map_char_inj, String.toList_inj]

theorem of_append (first second : String) : of (first ++ second) = of first ++ of second := by
  simp [of]

theorem characters?_eq_some_iff {text : Text} {read : List Char} :
    characters? text = some read ↔ text = read.map .char := by
  induction text generalizing read with
  | nil => cases read <;> simp [characters?]
  | cons p text ih =>
    cases p with
    | half offset => cases read <;> simp [characters?]
    | char c =>
      rw [characters?]
      cases read with
      | nil => simp
      | cons d read =>
        simp only [Option.map_eq_some_iff, ih, List.map_cons, List.cons.injEq, CodePoint.char.injEq]
        constructor
        · rintro ⟨_, same, rfl, rfl⟩
          exact ⟨rfl, same⟩
        · rintro ⟨rfl, same⟩
          exact ⟨read, same, rfl, rfl⟩

/-- A text that can be sent is one of characters only. -/
theorem isSound_iff {text : Text} : isSound text = true ↔ ∃ written, text = of written := by
  simp only [isSound, Option.isSome_iff_exists, characters?_eq_some_iff, of]
  exact ⟨fun ⟨read, same⟩ => ⟨String.ofList read, by simpa using same⟩,
    fun ⟨written, same⟩ => ⟨written.toList, same⟩⟩

@[simp] theorem shown_of (written : String) : shown (of written) = written := by
  simp [shown, of, List.flatMap_map]

end Text
end KqlCompletion
