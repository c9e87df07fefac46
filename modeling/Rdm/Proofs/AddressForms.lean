import Rdm.Address

/-! An address is a value of its own, six bytes, and a number of 48 bits. Bytes and
number are one to one. `Address.received` is what becomes of an address on its way
through either of them: it stays what it is, but for the vendorcast to manufacturer
0xFFFF, which arrives as the broadcast (`ofBytes_toBytes_eq_received`,
`ofNat_toNat_eq_received`). So that manufacturer has no vendorcast of its own, and every
other one has (`classify_vendorcastOf`). -/
namespace Rdm

namespace Bytes

/-- Of two numbers with one radix the leading digits decide, and among equal ones the rest. -/
theorem mul_add_le_mul_add_iff {radix high low high' low' : Nat} (hlow : low < radix)
    (hlow' : low' < radix) :
    high * radix + low ≤ high' * radix + low' ↔ high < high' ∨ high = high' ∧ low ≤ low' := by
  have carry {small large : Nat} (h : small < large) : small * radix + radix ≤ large * radix := by
    rw [← Nat.succ_mul]
    exact Nat.mul_le_mul_right radix h
  rcases Nat.lt_trichotomy high high' with below | rfl | above
  · have := carry below
    omega
  · omega
  · have := carry above
    omega

/-- Byte strings of one length stand in the order of their values. -/
theorem toNat_le_toNat_iff {first second : Bytes} (size : first.length = second.length) :
    toNat first ≤ toNat second ↔ first ≤ second := by
  induction first generalizing second with
  | nil =>
    obtain rfl := List.length_eq_zero_iff.1 size.symm
    exact iff_of_true (Nat.le_refl _) (List.nil_le _)
  | cons byte rest ih =>
    cases second with
    | nil => contradiction
    | cons other tail =>
      have restSize : rest.length = tail.length := Nat.succ.inj size
      have hrest := toNat_lt rest
      have htail := toNat_lt tail
      rw [← restSize] at htail
      rw [List.cons_le_cons_iff, ← ih restSize, UInt8.lt_iff_toNat_lt, ← UInt8.toNat_inj, toNat,
        toNat, ← restSize]
      exact mul_add_le_mul_add_iff hrest htail

end Bytes

namespace Address

variable {n : Nat} {address : Address}

theorem toNat_lt (address : Address) : address.toNat < 0x1000000000000 := by
  rw [← toNat_toBytes]
  calc Bytes.toNat address.toBytes
      < Bytes.capacity address.toBytes.length := Bytes.toNat_lt _
    _ = 0x1000000000000 := by
      rw [length_toBytes]
      rfl

/-- What an address is taken for where its bytes or its value are read. -/
def received (address : Address) : Address :=
  if address = .vendorcast 0xFFFF then .broadcast else address

theorem received_of_ne (other : address ≠ .vendorcast 0xFFFF) : address.received = address :=
  if_neg other

theorem received_ne (address : Address) : address.received ≠ .vendorcast 0xFFFF := by
  rw [received]
  split
  next => simp
  next other => exact other

theorem toNat_received (address : Address) : address.received.toNat = address.toNat := by
  rw [received]
  split
  next reserved =>
    rw [reserved]
    rfl
  next => rfl

theorem ofBytes_toBytes_eq_received (address : Address) :
    ofBytes address.toBytes = address.received := by
  have value : (ofBytes address.toBytes).toNat = address.received.toNat := by
    rw [toNat_ofBytes address.length_toBytes, toNat_toBytes, toNat_received]
  exact toNat_inj (ofParts_ne_vendorcast _ _) address.received_ne value

theorem exists_ofNat_iff : (∃ address, ofNat n = .ok address) ↔ n < 0x1000000000000 := by
  have within : n ≤ broadcastValue ↔ n < 0x1000000000000 := Nat.lt_succ_iff.symm
  rw [← within, ofNat]
  split
  next small => exact iff_of_true ⟨_, rfl⟩ small
  next large => exact iff_of_false (by simp) large

theorem ofNat_eq_ok_iff :
    ofNat n = .ok address ↔ address.toNat = n ∧ address ≠ .vendorcast 0xFFFF := by
  have value (small : n < 0x1000000000000) :
      (ofParts (UInt16.ofNat (n / 0x100000000)) (UInt32.ofNat n)).toNat = n := by
    rw [toNat_ofParts, UInt16.toNat_ofNat', UInt32.toNat_ofNat']
    omega
  have read (small : n < 0x1000000000000) :
      ofNat n = .ok (ofParts (UInt16.ofNat (n / 0x100000000)) (UInt32.ofNat n)) :=
    if_pos (Nat.le_of_lt_succ small)
  constructor
  · intro accepted
    have small := exists_ofNat_iff.1 ⟨address, accepted⟩
    rw [read small] at accepted
    cases accepted
    exact ⟨value small, ofParts_ne_vendorcast _ _⟩
  · rintro ⟨rfl, other⟩
    have small := address.toNat_lt
    rw [read small, toNat_inj (ofParts_ne_vendorcast _ _) other (value small)]

theorem ofNat_toNat_eq_received (address : Address) :
    ofNat address.toNat = .ok address.received :=
  ofNat_eq_ok_iff.2 ⟨address.toNat_received, address.received_ne⟩

/-- The two upper bytes of a word of eight are no part of an address. -/
theorem toBytes_of_ofNat (accepted : ofNat n = .ok address) :
    address.toBytes = (Bytes.ofNat 8 n).drop 2 := by
  have low : (Bytes.ofNat 8 n).drop 2 = Bytes.ofNat 6 n := rfl
  have small := exists_ofNat_iff.1 ⟨address, accepted⟩
  rw [low]
  apply Bytes.toNat_inj (by simp)
  rw [toNat_toBytes, Bytes.toNat_ofNat_of_lt small]
  exact (ofNat_eq_ok_iff.1 accepted).1

theorem toNat_le_toNat_iff (first second : Address) :
    first.toNat ≤ second.toNat ↔ first.toBytes ≤ second.toBytes := by
  rw [← toNat_toBytes, ← toNat_toBytes, Bytes.toNat_le_toNat_iff (by simp)]

end Address

namespace Uid

variable {n : Nat} {uid : Uid}

theorem ofNat_eq_ok_iff : Uid.ofNat n = .ok uid ↔ uid.toNat = n := by
  have device : Uid.ofNat n = .ok uid ↔ Address.ofNat n = .ok (.device uid) := by
    rw [Uid.ofNat]
    split
    next found read => simp [read]
    next other =>
      constructor
      · intro accepted
        contradiction
      · intro read
        exact absurd read (other uid)
  rw [device, Address.ofNat_eq_ok_iff]
  exact and_iff_left (by simp)

theorem ofParts_toNat (uid : Uid) :
    Uid.ofParts (UInt16.ofNat (uid.toNat / 0x100000000))
      (UInt32.ofNat (uid.toNat % 0x100000000)) = .ok uid := by
  have device := uid.device.toNat_lt
  have high : uid.toNat / 0x100000000 = uid.manufacturer.toNat := by
    rw [toNat]
    omega
  have low : uid.toNat % 0x100000000 = uid.device.toNat := by
    rw [toNat]
    omega
  rw [high, low, UInt16.ofNat_toNat, UInt32.ofNat_toNat]
  exact dif_neg uid.device_ne

theorem exists_ofNat_iff :
    (∃ uid, Uid.ofNat n = .ok uid) ↔ n < 0x1000000000000 ∧ n % 0x100000000 ≠ 0xFFFFFFFF := by
  constructor
  · rintro ⟨uid, accepted⟩
    obtain rfl := ofNat_eq_ok_iff.1 accepted
    refine ⟨uid.toNat_lt, ?_⟩
    intro reserved
    have parts := uid.ofParts_toNat
    rw [reserved] at parts
    contradiction
  · rintro ⟨small, free⟩
    have device_ne : UInt32.ofNat (n % 0x100000000) ≠ 0xFFFFFFFF := by
      rw [ne_eq, ← UInt32.toNat_inj, UInt32.toNat_ofNat']
      simpa using free
    refine ⟨⟨UInt16.ofNat (n / 0x100000000), UInt32.ofNat (n % 0x100000000), device_ne⟩, ?_⟩
    rw [ofNat_eq_ok_iff, toNat, UInt16.toNat_ofNat', UInt32.toNat_ofNat']
    omega

end Uid

namespace Address

/-- Value, bytes and address agree. Bytes and value of one address are the same number; a number
is an address below 2^48, and a device where its lower half is not all ones; what was written is
read back, but for the vendorcast that is written as the broadcast; and the order of the values
is that of the bytes. -/
theorem forms_agree :
    (∀ bytes : Bytes, bytes.length = 6 →
      (ofBytes bytes).toBytes = bytes ∧ (ofBytes bytes).toNat = Bytes.toNat bytes) ∧
    (∀ n, ((∃ address, ofNat n = .ok address) ↔ n < 0x1000000000000) ∧
      ∀ address, ofNat n = .ok address →
        address.toNat = n ∧ address.toBytes = (Bytes.ofNat 8 n).drop 2) ∧
    (∀ n, ((∃ uid, Uid.ofNat n = .ok uid) ↔
        n < 0x1000000000000 ∧ n % 0x100000000 ≠ 0xFFFFFFFF) ∧
      ∀ uid, Uid.ofNat n = .ok uid →
        Uid.ofParts (UInt16.ofNat (n / 0x100000000)) (UInt32.ofNat (n % 0x100000000)) = .ok uid ∧
          uid.toNat = n) ∧
    (∀ address, address ≠ .vendorcast 0xFFFF →
      ofBytes address.toBytes = address ∧ ofNat address.toNat = .ok address) ∧
    (ofBytes (vendorcast 0xFFFF).toBytes = .broadcast ∧
      ofNat (vendorcast 0xFFFF).toNat = .ok .broadcast) ∧
    ∀ first second : Address, first.toNat ≤ second.toNat ↔ first.toBytes ≤ second.toBytes := by
  refine ⟨?bytes, ?number, ?device, ?writtenRead, ?reserved, toNat_le_toNat_iff⟩
  case bytes =>
    intro bytes size
    exact ⟨toBytes_ofBytes size, toNat_ofBytes size⟩
  case number =>
    intro n
    refine ⟨exists_ofNat_iff, ?_⟩
    intro address accepted
    exact ⟨(ofNat_eq_ok_iff.1 accepted).1, toBytes_of_ofNat accepted⟩
  case device =>
    intro n
    refine ⟨Uid.exists_ofNat_iff, ?_⟩
    intro uid accepted
    obtain rfl := Uid.ofNat_eq_ok_iff.1 accepted
    exact ⟨uid.ofParts_toNat, rfl⟩
  case writtenRead =>
    intro address other
    have received := received_of_ne other
    rw [ofBytes_toBytes_eq_received, ofNat_toNat_eq_received, received]
    exact ⟨rfl, rfl⟩
  case reserved =>
    rw [ofBytes_toBytes_eq_received, ofNat_toNat_eq_received]
    exact ⟨rfl, rfl⟩

/-- The largest number of a device, the broadcast behind it, the first number that is no address,
and the last vendorcast that is read back. -/
theorem forms_agree_at_the_end :
    (∃ uid, Uid.ofNat 0xFFFFFFFFFFFE = .ok uid ∧ uid.toNat = 0xFFFFFFFFFFFE) ∧
      (¬ ∃ uid, Uid.ofNat 0xFFFFFFFFFFFF = .ok uid) ∧
      (∃ address, ofNat 0xFFFFFFFFFFFF = .ok address ∧
        address.toBytes = [0xFF, 0xFF, 0xFF, 0xFF, 0xFF, 0xFF]) ∧
      (¬ ∃ address, ofNat 0x1000000000000 = .ok address) ∧
      ofBytes (vendorcast 0xFFFE).toBytes = .vendorcast 0xFFFE ∧
      (ofBytes [0xFF, 0xFE, 0xFF, 0xFF, 0xFF, 0xFF]).toBytes =
        [0xFF, 0xFE, 0xFF, 0xFF, 0xFF, 0xFF] := by
  obtain ⟨strings, numbers, devices, written, _⟩ := forms_agree
  obtain ⟨address, accepted⟩ := (numbers 0xFFFFFFFFFFFF).1.2 (by decide)
  obtain ⟨uid, found⟩ := (devices 0xFFFFFFFFFFFE).1.2 (by decide)
  refine ⟨⟨uid, found, ((devices _).2 uid found).2⟩, ?_, ⟨address, accepted, ?_⟩, ?_,
    (written _ (by decide)).1, (strings _ rfl).1⟩
  · rw [(devices 0xFFFFFFFFFFFF).1]
    decide
  · exact ((numbers _).2 address accepted).2
  · rw [(numbers 0x1000000000000).1]
    decide

theorem classify_vendorcastOf (sender own : Uid) :
    (ofBytes (vendorcastOf sender).toBytes).classify own =
      if sender.manufacturer = 0xFFFF then .broadcastAll
      else if sender.manufacturer = own.manufacturer then .vendorcast
      else .notForMe := by
  rw [ofBytes_toBytes_eq_received, vendorcastOf]
  by_cases reserved : sender.manufacturer = 0xFFFF
  · rw [reserved]
    rfl
  · rw [received_of_ne (by simpa using reserved), if_neg reserved]
    rfl

/-- A vendorcast to the manufacturer of one device concerns another device exactly where that is
of the same manufacturer, and is then no broadcast. The one exception is manufacturer 0xFFFF:
its vendorcast is the broadcast on the wire. -/
theorem vendorcast_concerns_iff (sender own : Uid) :
    let sent := ofBytes (vendorcastOf sender).toBytes
    (sent.requiresAction own = true ↔
      sender.manufacturer = own.manufacturer ∨ sender.manufacturer = 0xFFFF) ∧
    (sent.classify own = .vendorcast ↔
      sender.manufacturer = own.manufacturer ∧ sender.manufacturer ≠ 0xFFFF) ∧
    (sent.classify own = .broadcastAll ↔ sender.manufacturer = 0xFFFF) := by
  intro sent
  have classified : sent.classify own = _ := classify_vendorcastOf sender own
  rw [requiresAction, classified]
  by_cases reserved : sender.manufacturer = 0xFFFF
  · rw [if_pos reserved]
    exact ⟨iff_of_true rfl (.inr reserved), iff_of_false (by simp) fun free => free.2 reserved,
      iff_of_true rfl reserved⟩
  · rw [if_neg reserved]
    by_cases same : sender.manufacturer = own.manufacturer
    · rw [if_pos same]
      exact ⟨iff_of_true rfl (.inl same), iff_of_true rfl ⟨same, reserved⟩,
        iff_of_false (by simp) reserved⟩
    · rw [if_neg same]
      exact ⟨iff_of_false Bool.false_ne_true (not_or.2 ⟨same, reserved⟩),
        iff_of_false (by simp) fun free => same free.1, iff_of_false (by simp) reserved⟩

/-- A device of manufacturer 0xFFFF is a valid one, and the vendorcast to its manufacturer
concerns a device of another as a broadcast. -/
theorem vendorcast_concerns_other_manufacturer :
    let sender : Uid := ⟨0xFFFF, 1, by decide⟩
    let own : Uid := ⟨0x7A70, 1, by decide⟩
    let sent := ofBytes (vendorcastOf sender).toBytes
    Uid.ofParts 0xFFFF 1 = .ok sender ∧ Uid.ofParts 0x7A70 1 = .ok own ∧
      ¬ (sent.requiresAction own = true ↔ sender.manufacturer = own.manufacturer) ∧
      sent.classify own = .broadcastAll := by
  intro sender own sent
  exact ⟨rfl, rfl, by decide, by decide⟩

end Address

end Rdm
