import Acquisition.Bytes

/-!
# The frame checksum

A 16-bit cyclic redundancy code with the reflected polynomial `0xA001`. `crc16` shifts one bit at a
time and can be continued over several pieces; `frameChecksum`, the one on the link, looks a whole
byte up in a table of `crc16` results.
-/

namespace Acquisition.Checksum

/-- The register before the first byte of a frame. -/
def initial : UInt16 := 0xFFFF

def polynomial : UInt16 := 0xA001

def stepBit (crc : UInt16) : UInt16 :=
  if crc &&& 1 ≠ 0 then (crc >>> 1) ^^^ polynomial else crc >>> 1

def stepBits : Nat → UInt16 → UInt16
  | 0, crc => crc
  | n + 1, crc => stepBits n (stepBit crc)

def stepByte (crc : UInt16) (byte : UInt8) : UInt16 :=
  stepBits 8 (crc ^^^ byte.toUInt16)

/-- The bit-serial checksum of `data` from the register `init`. -/
def crc16 (data : Bytes) (init : UInt16) : UInt16 :=
  data.foldl stepByte init

theorem crc16_append (a b : Bytes) (init : UInt16) :
    crc16 (a ++ b) init = crc16 b (crc16 a init) :=
  List.foldl_append

/-- Entry `i` is the bit-serial result for the byte `i` alone. -/
def table : Vector UInt16 256 :=
  Vector.ofFn fun i => stepBits 8 (UInt16.ofNat i.val)

def stepTable (crc : UInt16) (byte : UInt8) : UInt16 :=
  (crc >>> 8) ^^^ table[(crc.toUInt8 ^^^ byte).toFin]

def tableChecksum (data : Bytes) (init : UInt16) : UInt16 :=
  data.foldl stepTable init

def frameChecksum (data : Bytes) : UInt16 :=
  tableChecksum data initial

end Acquisition.Checksum
