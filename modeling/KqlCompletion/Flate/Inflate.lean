import KqlCompletion.Flate.Code

/-! Decompression of data in blocks, each of which is stored as it is or written in prefix codes for
bytes and for repetitions of what came before. -/
namespace KqlCompletion.Flate

/-- Lengths of repetitions by symbol: a base, and how many bits hold what is added to it. -/
def lengthBases : Array (Nat × Nat) := #[
  (3, 0), (4, 0), (5, 0), (6, 0), (7, 0), (8, 0), (9, 0), (10, 0), (11, 1), (13, 1), (15, 1),
  (17, 1), (19, 2), (23, 2), (27, 2), (31, 2), (35, 3), (43, 3), (51, 3), (59, 3), (67, 4),
  (83, 4), (99, 4), (115, 4), (131, 5), (163, 5), (195, 5), (227, 5), (258, 0)]

def distanceBases : Array (Nat × Nat) := #[
  (1, 0), (2, 0), (3, 0), (4, 0), (5, 1), (7, 1), (9, 2), (13, 2), (17, 3), (25, 3), (33, 4),
  (49, 4), (65, 5), (97, 5), (129, 6), (193, 6), (257, 7), (385, 7), (513, 8), (769, 8),
  (1025, 9), (1537, 9), (2049, 10), (3073, 10), (4097, 11), (6145, 11), (8193, 12), (12289, 12),
  (16385, 13), (24577, 13)]

def endOfBlock : Nat := 256

/-- A base with its bits, or `fault` if there is no such base. -/
def based (bases : Array (Nat × Nat)) (fault : Fault) (index : Nat) : Reader Nat :=
  match bases[index]? with
  | some (base, width) => return base + (← number width)
  | none => refuse fault

/-- Puts out again what was put out `distance` bytes before. -/
def copyBack (distance : Nat) : Nat → Reader Unit
  | 0 => return
  | length + 1 => do
    let output := (← get).output
    emit (output.getD (output.size - distance) 0)
    copyBack distance length

/-- Repeats `length` bytes from the distance that comes next. -/
def repetition (distances : Code) (length : Nat) : Reader Unit := do
  let some index ← distances.symbol | refuse .distance
  let distance ← based distanceBases .distance index
  if (← get).output.size < distance then refuse .tooFarBack
  copyBack distance length

/-- Reads symbols up to the end of the block. Every symbol takes a bit at least, so `fuel` need not
exceed the number of bits. -/
def codedBlock (literals distances : Code) : Nat → Reader Unit
  | 0 => throw .endOfInput
  | fuel + 1 => do
    let some symbol ← literals.symbol | refuse .literal
    if symbol == endOfBlock then return
    if symbol < endOfBlock then emit (UInt8.ofNat symbol)
    else repetition distances (← based lengthBases .literal (symbol - endOfBlock - 1))
    codedBlock literals distances fuel

def storedBytes : Nat → Reader Unit
  | 0 => return
  | length + 1 => do
    emit (UInt8.ofNat (← number 8))
    storedBytes length

def storedBlock : Reader Unit := do
  align
  let length ← number 16
  if length + (← number 16) != 0xFFFF then refuse .storedLength
  storedBytes length

def fixedLiterals : Code :=
  .ofLengths (List.replicate 144 8 ++ List.replicate 112 9 ++ List.replicate 24 7 ++
    List.replicate 8 8)

def fixedDistances : Code := .ofLengths (List.replicate 32 5)

def lengthOrder : List Nat := [16, 17, 18, 0, 8, 7, 9, 6, 10, 5, 11, 4, 12, 3, 13, 2, 14, 1, 15]

def numbers (width : Nat) : Nat → Reader (List Nat)
  | 0 => return []
  | count + 1 => return (← number width) :: (← numbers width count)

/-- A length, or how many times which length is repeated. `lengths` has the last length first. -/
def nextLengths (code : Code) (lengths : List Nat) : Reader (List Nat) := do
  match (← code.symbol).getD 0 with
  | 16 =>
    let count ← number 2
    match lengths with
    | [] => refuse .repetition
    | last :: _ => return List.replicate (3 + count) last
  | 17 => return List.replicate (3 + (← number 3)) 0
  | 18 => return List.replicate (11 + (← number 7)) 0
  | length => return [length]

/-- `wanted` lengths; `fuel` need not exceed their number. -/
def codeLengths (code : Code) (wanted : Nat) : Nat → List Nat → Reader (List Nat)
  | 0, lengths => return lengths.reverse
  | fuel + 1, lengths => do
    if wanted ≤ lengths.length then return lengths.reverse
    let more ← nextLengths code lengths
    if wanted < lengths.length + more.length then refuse .repetition
    codeLengths code wanted fuel (more ++ lengths)

def writtenCodes : Reader (Code × Code) := do
  let literalCount := (← number 5) + 257
  let distanceCount := (← number 5) + 1
  let count := (← number 4) + 4
  if 286 < literalCount || 30 < distanceCount then refuse .tooManySymbols
  let written := lengthOrder.zip (← numbers 3 count)
  let lengthOf (symbol : Nat) : Nat := (written.lookup symbol).getD 0
  let lengthCode := Code.ofLengths ((List.range 19).map lengthOf)
  if !lengthCode.isComplete then refuse .lengthCode
  let wanted := literalCount + distanceCount
  let lengths ← codeLengths lengthCode wanted wanted []
  if lengths.getD endOfBlock 0 == 0 then refuse .noEndOfBlock
  let literals := Code.ofLengths (lengths.take literalCount)
  if !literals.isUsable then refuse .literalCode
  let distances := Code.ofLengths (lengths.drop literalCount)
  if !distances.isUsable then refuse .distanceCode
  return (literals, distances)

def block : Nat → Reader Unit
  | 0 => storedBlock
  | 1 => do codedBlock fixedLiterals fixedDistances (← get).bits.length
  | 2 => do
    let (literals, distances) ← writtenCodes
    codedBlock literals distances (← get).bits.length
  | _ => refuse .blockKind

/-- Reads blocks up to the last one. Every block takes some bits, so `fuel` need not exceed their
number. -/
def blocks : Nat → Reader Unit
  | 0 => throw .endOfInput
  | fuel + 1 => do
    let isLast ← bit
    block (← number 2)
    if !isLast then blocks fuel

def inflate : Reader Unit := do
  blocks (← get).bits.length
  align

end KqlCompletion.Flate
