/-! Reading compressed data bit by bit. Whatever ends the reading, the bytes put out so far are
kept. -/
namespace KqlCompletion.Flate

inductive Fault where
  | header
  | method
  | flags
  | window
  | headerChecksum
  | blockKind
  | storedLength
  | tooManySymbols
  | lengthCode
  | repetition
  | noEndOfBlock
  | literalCode
  | distanceCode
  | literal
  | distance
  | tooFarBack
  | dictionary
  | checksum
  | size
  deriving DecidableEq, Repr

namespace Fault

/-- What is wrong, in a few words; none for data that need a dictionary. -/
def reason? : Fault → Option String
  | header => "incorrect header check"
  | method => "unknown compression method"
  | flags => "unknown header flags set"
  | window => "invalid window size"
  | headerChecksum => "header crc mismatch"
  | blockKind => "invalid block type"
  | storedLength => "invalid stored block lengths"
  | tooManySymbols => "too many length or distance symbols"
  | lengthCode => "invalid code lengths set"
  | repetition => "invalid bit length repeat"
  | noEndOfBlock => "invalid code -- missing end-of-block"
  | literalCode => "invalid literal/lengths set"
  | distanceCode => "invalid distances set"
  | literal => "invalid literal/length code"
  | distance => "invalid distance code"
  | tooFarBack => "invalid distance too far back"
  | dictionary => none
  | checksum => "incorrect data check"
  | size => "incorrect length check"

def message (fault : Fault) : String :=
  match fault.reason? with
  | some reason => "Error -3 while decompressing data: " ++ reason
  | none => "Error 2 while decompressing data"

end Fault

/-- The input may also just end, which is no fault. -/
inductive Stop where
  | endOfInput
  | fault (fault : Fault)
  deriving DecidableEq, Repr

structure Progress where
  bits : List Bool
  output : Array UInt8 := #[]

abbrev Reader := ExceptT Stop (StateM Progress)

/-- The bits of a byte, lowest first. -/
def bitsOfByte (byte : UInt8) : List Bool := (List.range 8).map byte.toNat.testBit

def bitsOf (bytes : List UInt8) : List Bool := bytes.flatMap bitsOfByte

def refuse (fault : Fault) : Reader α := throw (.fault fault)

def bit : Reader Bool := do
  match (← get).bits with
  | [] => throw .endOfInput
  | b :: bits =>
    modify ({ · with bits })
    return b

/-- A number of `width` bits, lowest first. -/
def number : Nat → Reader Nat
  | 0 => return 0
  | width + 1 => do
    let low ← bit
    return low.toNat + 2 * (← number width)

def align : Reader Unit := modify fun progress =>
  { progress with bits := progress.bits.drop (progress.bits.length % 8) }

def emit (byte : UInt8) : Reader Unit := modify fun progress =>
  { progress with output := progress.output.push byte }

def Reader.run (reader : Reader Unit) (bytes : List UInt8) : Except Fault (List UInt8) :=
  match StateT.run (ExceptT.run reader) ⟨bitsOf bytes, #[]⟩ with
  | (.error (.fault fault), _) => .error fault
  | (_, progress) => .ok progress.output.toList

end KqlCompletion.Flate
