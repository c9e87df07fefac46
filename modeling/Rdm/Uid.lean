import Rdm.Bytes
import Rdm.Hexadecimal

/-! A device is known by its manufacturer and a device number of that manufacturer. The
device number with all bits set is kept for broadcasts, so no `Uid` has it. -/
namespace Rdm

structure Uid where
  manufacturer : UInt16
  device : UInt32
  device_ne : device ≠ 0xFFFFFFFF
  deriving DecidableEq, Repr

inductive UidError where
  | reserved
  deriving DecidableEq, Repr

def UidError.message : UidError → String
  | .reserved => "uid is reserved for broadcasts"

namespace Uid

def ofParts (manufacturer : UInt16) (device : UInt32) : Except UidError Uid :=
  if h : device = 0xFFFFFFFF then .error .reserved else .ok ⟨manufacturer, device, h⟩

/-- The 48 bit value, manufacturer above device. Discovery orders devices by it. -/
def toNat (uid : Uid) : Nat :=
  uid.manufacturer.toNat * 0x100000000 + uid.device.toNat

def toBytes (uid : Uid) : Bytes :=
  Bytes.ofNat 2 uid.manufacturer.toNat ++ Bytes.ofNat 4 uid.device.toNat

/-- Manufacturer and device in hexadecimal, as `7A70:01020304`. -/
def text (uid : Uid) : String :=
  Hexadecimal.text 4 uid.manufacturer.toNat ++ ":" ++ Hexadecimal.text 8 uid.device.toNat

@[simp] theorem length_toBytes (uid : Uid) : uid.toBytes.length = 6 := by
  simp [toBytes]

theorem toNat_lt (uid : Uid) : uid.toNat < 0x1000000000000 := by
  have hm := uid.manufacturer.toNat_lt
  have hd := uid.device.toNat_lt
  simp only [toNat]
  omega

theorem toNat_toBytes (uid : Uid) : Bytes.toNat uid.toBytes = uid.toNat := by
  have hm := uid.manufacturer.toNat_lt
  have hd := uid.device.toNat_lt
  simp only [toBytes, toNat, Bytes.toNat_append, Bytes.length_ofNat, Bytes.toNat_ofNat,
    Bytes.capacity]
  omega

theorem toNat_inj {u v : Uid} (h : u.toNat = v.toNat) : u = v := by
  have hu := u.device.toNat_lt
  have hv := v.device.toNat_lt
  simp only [toNat] at h
  have hd : u.device = v.device := UInt32.toNat_inj.1 (by omega)
  have hm : u.manufacturer = v.manufacturer := UInt16.toNat_inj.1 (by omega)
  cases u
  cases v
  simp_all

end Uid

end Rdm
