import Rdm.Uid

/-! A packet goes to one device, to every device of a manufacturer, or to every device.
An address has six bytes and a 48 bit value. A vendorcast to manufacturer 0xFFFF has the
bytes of the broadcast, so reading never gives that one. -/
namespace Rdm

inductive Address where
  | broadcast
  | vendorcast (manufacturer : UInt16)
  | device (uid : Uid)
  deriving DecidableEq, Repr

inductive Addressing where
  | unicast
  | broadcastAll
  | vendorcast
  | notForMe
  deriving DecidableEq, Repr

namespace Addressing

def requiresAction : Addressing → Bool
  | notForMe => false
  | _ => true

/-- Only a packet for exactly one device may be answered with a response. -/
def allowsResponse : Addressing → Bool
  | unicast => true
  | _ => false

end Addressing

namespace Address

def broadcastValue : Nat := 0xFFFFFFFFFFFF

def ofParts (manufacturer : UInt16) (device : UInt32) : Address :=
  if h : device = 0xFFFFFFFF then
    if manufacturer = 0xFFFF then .broadcast else .vendorcast manufacturer
  else
    .device ⟨manufacturer, device, h⟩

def ofBytes (bytes : Bytes) : Address :=
  ofParts (UInt16.ofNat (bytes.numberAt 0 2)) (UInt32.ofNat (bytes.numberAt 2 4))

def toBytes : Address → Bytes
  | broadcast => List.replicate 6 0xFF
  | vendorcast manufacturer => Bytes.ofNat 2 manufacturer.toNat ++ List.replicate 4 0xFF
  | device uid => uid.toBytes

/-- Numbers of more than 48 bits are no address. -/
def ofNat (n : Nat) : Except UidError Address :=
  if n ≤ broadcastValue then .ok (ofParts (UInt16.ofNat (n / 0x100000000)) (UInt32.ofNat n))
  else .error .reserved

def toNat : Address → Nat
  | broadcast => broadcastValue
  | vendorcast manufacturer => manufacturer.toNat * 0x100000000 + 0xFFFFFFFF
  | device uid => uid.toNat

def vendorcastOf (uid : Uid) : Address :=
  .vendorcast uid.manufacturer

def isBroadcast : Address → Bool
  | device _ => false
  | _ => true

def classify (address : Address) (own : Uid) : Addressing :=
  match address with
  | device uid => if uid = own then .unicast else .notForMe
  | broadcast => .broadcastAll
  | vendorcast manufacturer => if manufacturer = own.manufacturer then .vendorcast else .notForMe

def requiresAction (address : Address) (own : Uid) : Bool :=
  (address.classify own).requiresAction

/-- The addresses under which a packet concerns the device `own`. -/
def reaching (own : Uid) : List Address :=
  [.device own, .broadcast, .vendorcastOf own]

@[simp] theorem length_toBytes (address : Address) : address.toBytes.length = 6 := by
  cases address <;> simp [toBytes]

@[simp] theorem classify_device_self (uid : Uid) : (device uid).classify uid = .unicast := by
  simp [classify]

theorem classify_eq_unicast_iff {address : Address} {own : Uid} :
    address.classify own = .unicast ↔ address = .device own := by
  cases address with
  | broadcast => simp [classify]
  | vendorcast manufacturer => by_cases h : manufacturer = own.manufacturer <;> simp [classify, h]
  | device uid => simp [classify]

theorem requiresAction_iff {address : Address} {own : Uid} :
    address.requiresAction own = true ↔
      address = .device own ∨ address = .broadcast ∨ address = .vendorcast own.manufacturer := by
  cases address with
  | broadcast => simp [requiresAction, classify, Addressing.requiresAction]
  | vendorcast manufacturer =>
    by_cases h : manufacturer = own.manufacturer <;>
      simp [requiresAction, classify, Addressing.requiresAction, h]
  | device uid =>
    by_cases h : uid = own <;> simp [requiresAction, classify, Addressing.requiresAction, h]

theorem mem_reaching_iff {address : Address} {own : Uid} :
    address ∈ reaching own ↔ address.requiresAction own = true := by
  simp [requiresAction_iff, reaching, vendorcastOf]

theorem toNat_ofParts (manufacturer : UInt16) (device : UInt32) :
    (ofParts manufacturer device).toNat = manufacturer.toNat * 0x100000000 + device.toNat := by
  unfold ofParts
  split
  next hdevice =>
    subst hdevice
    split
    next hmanufacturer =>
      subst hmanufacturer
      rfl
    next => rfl
  next => rfl

/-- Reserved or not, an address is worth the big-endian number in its bytes. -/
theorem toNat_ofBytes {bytes : Bytes} (h : bytes.length = 6) :
    (ofBytes bytes).toNat = Bytes.toNat bytes := by
  have hmanufacturer : bytes.numberAt 0 2 < 65536 := Bytes.numberAt_lt bytes 0 2
  have hdevice : bytes.numberAt 2 4 < 4294967296 := Bytes.numberAt_lt bytes 2 4
  have split : bytes = bytes.slice 0 2 ++ bytes.slice 2 4 := by
    have tail : (bytes.drop 2).take 4 = bytes.drop 2 := List.take_of_length_le (by simp [h])
    simp [Bytes.slice, tail]
  have parts : Bytes.toNat bytes =
      bytes.numberAt 0 2 * 0x100000000 + bytes.numberAt 2 4 := by
    have hlength : (bytes.slice 2 4).length = 4 := by simp [Bytes.length_slice, h]
    rw [congrArg Bytes.toNat split, Bytes.toNat_append, hlength]
    rfl
  rw [ofBytes, toNat_ofParts, parts, UInt16.toNat_ofNat', UInt32.toNat_ofNat',
    Nat.mod_eq_of_lt hmanufacturer, Nat.mod_eq_of_lt hdevice]

@[simp] theorem ofBytes_toBytes_device (uid : Uid) : ofBytes uid.toBytes = .device uid := by
  simp [ofBytes, ofParts, Uid.toBytes, Bytes.numberAt, Bytes.slice, List.take_of_length_le,
    uid.device_ne]

@[simp] theorem toNat_toBytes (address : Address) :
    Bytes.toNat address.toBytes = address.toNat := by
  cases address with
  | broadcast => rfl
  | vendorcast manufacturer =>
    rw [toBytes, Bytes.toNat_append, Bytes.toNat_ofNat_word]
    rfl
  | device uid => exact uid.toNat_toBytes

theorem toBytes_ofBytes {bytes : Bytes} (h : bytes.length = 6) : (ofBytes bytes).toBytes = bytes :=
  Bytes.toNat_inj (by rw [length_toBytes, h]) (by rw [toNat_toBytes, toNat_ofBytes h])

theorem ofParts_ne_vendorcast (manufacturer : UInt16) (device : UInt32) :
    ofParts manufacturer device ≠ .vendorcast 0xFFFF := by
  unfold ofParts
  split
  · split
    · simp
    next other => simpa using other
  · simp

/-- One address is not read back: its bytes are those of the broadcast. -/
theorem ofBytes_toBytes {address : Address} (h : address ≠ .vendorcast 0xFFFF) :
    ofBytes address.toBytes = address := by
  cases address with
  | broadcast => rfl
  | vendorcast manufacturer =>
    have other : manufacturer ≠ 0xFFFF := fun same => h (same ▸ rfl)
    simp [ofBytes, ofParts, toBytes, Bytes.numberAt, Bytes.slice, Bytes.toNat, Bytes.capacity,
      other]
  | device uid => exact ofBytes_toBytes_device uid

theorem toNat_inj {first second : Address} (hfirst : first ≠ .vendorcast 0xFFFF)
    (hsecond : second ≠ .vendorcast 0xFFFF) (h : first.toNat = second.toNat) :
    first = second := by
  have bytes : first.toBytes = second.toBytes :=
    Bytes.toNat_inj (by simp) (by simpa using h)
  rw [← ofBytes_toBytes hfirst, ← ofBytes_toBytes hsecond, bytes]

/-- The address of a device is one whose last four bytes are not all set. -/
theorem exists_device_iff {bytes : Bytes} (h : bytes.length = 6) :
    (∃ uid, ofBytes bytes = .device uid) ↔ bytes.slice 2 4 ≠ List.replicate 4 0xFF := by
  have size : (bytes.slice 2 4).length = 4 := by simp [Bytes.length_slice, h]
  have all : bytes.slice 2 4 = List.replicate 4 0xFF ↔ bytes.numberAt 2 4 = 0xFFFFFFFF := by
    constructor
    · intro same
      rw [Bytes.numberAt, same]
      rfl
    · intro value
      exact Bytes.toNat_inj size value
  have number : bytes.numberAt 2 4 < 4294967296 := Bytes.numberAt_lt bytes 2 4
  have word : UInt32.ofNat (bytes.numberAt 2 4) = 0xFFFFFFFF ↔
      bytes.numberAt 2 4 = 0xFFFFFFFF := by
    rw [← UInt32.toNat_inj, UInt32.toNat_ofNat', Nat.mod_eq_of_lt number]
    rfl
  rw [ne_eq, all, ← word, ofBytes, ofParts]
  split
  · split <;> simp_all
  next device => simp [device]

end Address

def Uid.ofNat (n : Nat) : Except UidError Uid :=
  match Address.ofNat n with
  | .ok (.device uid) => .ok uid
  | _ => .error .reserved

end Rdm
