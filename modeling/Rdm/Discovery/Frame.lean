import Rdm.Address
import Rdm.Packet.Checksum
import Rdm.Transmission

/-! The answer to a search has no header, and several devices may send theirs at once.
So every byte goes out as a pair with alternate bits forced high, and a controller sees
a collision where a forced bit is missing. The checksum is that of the encoded bytes. -/
namespace Rdm.Discovery

def preambleByte : UInt8 := 0xFE

def separatorByte : UInt8 := 0xAA

def highMask : UInt8 := 0xAA

def lowMask : UInt8 := 0x55

def preamble : Bytes := List.replicate 7 preambleByte ++ [separatorByte]

/-- Preamble and separator, an encoded identifier, an encoded checksum. -/
def frameSize : Nat := 24

def encodePairs (bytes : Bytes) : Bytes :=
  bytes.flatMap fun byte => [byte ||| highMask, byte ||| lowMask]

/-- Fails where a forced bit is missing, and on half a pair. -/
def decodePairs : Bytes → Option Bytes
  | [] => some []
  | high :: low :: rest =>
    if high &&& highMask = highMask ∧ low &&& lowMask = lowMask then
      (decodePairs rest).map ((high &&& low) :: ·)
    else none
  | [_] => none

theorem length_encodePairs (bytes : Bytes) : (encodePairs bytes).length = 2 * bytes.length := by
  induction bytes with
  | nil => rfl
  | cons byte rest ih =>
    rw [show encodePairs (byte :: rest) =
      (byte ||| highMask) :: (byte ||| lowMask) :: encodePairs rest from rfl]
    simp only [List.length_cons, ih]
    omega

structure Frame where
  bytes : Bytes
  length_eq : bytes.length = frameSize
  deriving DecidableEq, Repr

namespace Frame

def ofBytes? (bytes : Bytes) : Option Frame :=
  if h : bytes.length = frameSize then some ⟨bytes, h⟩ else none

def ofUid (uid : Uid) : Frame where
  bytes := preamble ++ encodePairs uid.toBytes ++
    encodePairs (Checksum.toBytes (Checksum.sum (encodePairs uid.toBytes)))
  length_eq := by
    simp [preamble, length_encodePairs, Packet.checksumSize, frameSize]

/-- The device that a controller reads out of a frame, if it is a sound one. -/
def uid? (frame : Frame) : Option Uid :=
  let encodedUid := frame.bytes.slice 8 12
  match decodePairs encodedUid, decodePairs (frame.bytes.slice 20 4) with
  | some uidBytes, some sumBytes =>
    if frame.bytes.take 8 = preamble ∧
        Bytes.toNat sumBytes = (Checksum.sum encodedUid).toNat then
      match Address.ofBytes uidBytes with
      | .device uid => some uid
      | _ => none
    else none
  | _, _ => none

def transmission (frame : Frame) : Transmission :=
  ⟨false, [frame.bytes]⟩

end Frame

end Rdm.Discovery
