import KqlCompletion.Flate.Inflate

/-! Containers of compressed data, with headers and checksums. -/
namespace KqlCompletion.Flate

def crcStep (crc : UInt32) : UInt32 :=
  if crc % 2 == 1 then (crc >>> 1) ^^^ 0xEDB88320 else crc >>> 1

def crcByte (crc : UInt32) (byte : UInt8) : UInt32 :=
  (List.range 8).foldl (fun crc _ => crcStep crc) (crc ^^^ byte.toUInt32)

def crc32 (bytes : List UInt8) : Nat :=
  ((bytes.foldl crcByte 0xFFFFFFFF) ^^^ 0xFFFFFFFF).toNat

/-- Two sums modulo 65521, of the bytes and of these sums. -/
def adler32 (bytes : List UInt8) : Nat :=
  let sums := bytes.foldl (fun (low, high) byte =>
    let low := (low + byte.toNat) % 65521
    (low, (high + low) % 65521)) (1, 0)
  sums.2 * 65536 + sums.1

def outputBytes : Reader (List UInt8) := do return (← get).output.toList

def bigNumber : Nat → Nat → Reader Nat
  | 0, value => return value
  | count + 1, value => do bigNumber count (value * 256 + (← number 8))

namespace Gzip

def skip : Nat → Reader (List UInt8)
  | 0 => return []
  | count + 1 => return UInt8.ofNat (← number 8) :: (← skip count)

/-- Skips a text and the zero behind it; `fuel` need not exceed the number of bytes. -/
def skipText : Nat → Reader (List UInt8)
  | 0 => throw .endOfInput
  | fuel + 1 => do
    let byte ← number 8
    if byte == 0 then return [0] else return UInt8.ofNat byte :: (← skipText fuel)

def optional (isThere : Bool) (reader : Reader (List UInt8)) : Reader (List UInt8) :=
  if isThere then reader else return []

def extraField : Reader (List UInt8) := do
  let low ← number 8
  let high ← number 8
  return UInt8.ofNat low :: UInt8.ofNat high :: (← skip (low + 256 * high))

/-- The flags tell whether extra data, a name, a comment and a checksum of the header follow. -/
def header : Reader Unit := do
  if (← number 16) != 0x8B1F then refuse .header
  let method ← number 8
  let flags ← number 8
  if method != 8 then refuse .method
  if 0x20 ≤ flags then refuse .flags
  let times ← skip 6
  let count := (← get).bits.length / 8
  let extra ← optional (flags.testBit 2) extraField
  let name ← optional (flags.testBit 3) (skipText (count + 1))
  let comment ← optional (flags.testBit 4) (skipText (count + 1))
  if flags.testBit 1 then
    let read := [0x1F, 0x8B, 8, UInt8.ofNat flags] ++ times ++ extra ++ name ++ comment
    if (← number 16) != crc32 read % 65536 then refuse .headerChecksum

/-- Checksum and size follow the data. -/
def unpack : Reader Unit := do
  header
  inflate
  let output ← outputBytes
  if (← number 32) != crc32 output then refuse .checksum
  if (← number 32) != output.length % 4294967296 then refuse .size

end Gzip

namespace Wrapped

/-- The two bytes of the header, as a number, are a multiple of 31. Data that need a dictionary
cannot be read. -/
def header : Reader Unit := do
  let method ← number 8
  let flags ← number 8
  if (method * 256 + flags) % 31 != 0 then refuse .header
  if method % 16 != 8 then refuse .method
  if 7 < method / 16 then refuse .window
  if flags.testBit 5 then
    let _ ← number 32
    refuse .dictionary

def unpack : Reader Unit := do
  header
  inflate
  let output ← outputBytes
  if (← bigNumber 4 0) != adler32 output then refuse .checksum

end Wrapped
end KqlCompletion.Flate
