import Mathlib.Data.List.Forall2
import Rdm.Packet.Checksum

/-! Of two packets that both verify, the closing bytes are the same exactly where the
sums are (`sum_body_eq_iff`). A sum moves with every byte that is raised, by 255 at
most, so it takes 258 of them to move it by all of 2^16 (`sum_ne_of_oneSided`). Hence
one changed byte is noticed in a packet of any size, and in a packet of the largest size
any change in one direction. -/
namespace Rdm.Checksum

/-- In how many places two byte strings differ. -/
def changes (first second : Bytes) : Nat :=
  (first.zip second).countP fun pair => pair.1 ≠ pair.2

/-- Either all bytes that differ are greater in the second string, or all are smaller. -/
def OneSided (first second : Bytes) : Prop :=
  List.Forall₂ (· ≤ ·) first second ∨ List.Forall₂ (· ≤ ·) second first

section Changes

variable {first second : Bytes}

theorem changes_cons (byte other : UInt8) (first second : Bytes) :
    changes (byte :: first) (other :: second) =
      changes first second + if byte = other then 0 else 1 := by
  by_cases same : byte = other <;> simp [changes, same]

theorem changes_le_length : changes first second ≤ first.length := by
  calc changes first second
      ≤ (first.zip second).length := List.countP_le_length
    _ ≤ first.length := by
      rw [List.length_zip]
      exact Nat.min_le_left _ _

theorem changes_comm (first second : Bytes) : changes first second = changes second first := by
  induction first generalizing second with
  | nil => simp [changes]
  | cons byte rest ih =>
    cases second with
    | nil => rfl
    | cons other tail => simp only [changes_cons, ih, eq_comm]

theorem eq_of_changes_eq_zero (size : first.length = second.length)
    (none : changes first second = 0) : first = second := by
  induction first generalizing second with
  | nil => exact (List.length_eq_zero_iff.1 size.symm).symm
  | cons byte rest ih =>
    cases second with
    | nil => contradiction
    | cons other tail =>
      rw [changes_cons] at none
      have same : byte = other := by
        by_contra differs
        simp [differs] at none
      rw [same, ih (Nat.succ.inj size) (by omega)]

theorem changes_set_le (bytes : Bytes) (index : Nat) (value : UInt8) :
    changes bytes (bytes.set index value) ≤ 1 := by
  have unchanged (bytes : Bytes) : changes bytes bytes = 0 := by
    induction bytes with
    | nil => rfl
    | cons byte rest ih => rw [changes_cons, ih, if_pos rfl]
  induction bytes generalizing index with
  | nil => exact Nat.zero_le 1
  | cons byte rest ih =>
    cases index with
    | zero =>
      rw [List.set_cons_zero, changes_cons, unchanged]
      split <;> omega
    | succ index =>
      rw [List.set_cons_succ, changes_cons, if_pos rfl]
      exact ih index

/-- One byte can only go in one direction. -/
theorem oneSided_set (bytes : Bytes) (index : Nat) (value : UInt8) :
    OneSided bytes (bytes.set index value) := by
  have kept (bytes : Bytes) : List.Forall₂ (· ≤ ·) bytes bytes :=
    List.forall₂_same.2 fun byte _ => UInt8.le_refl byte
  induction bytes generalizing index with
  | nil => exact .inl .nil
  | cons byte rest ih =>
    cases index with
    | zero =>
      rcases UInt8.le_total byte value with raised | lowered
      · exact .inl (.cons raised (kept rest))
      · exact .inr (.cons lowered (kept rest))
    | succ index =>
      rcases ih index with raised | lowered
      · exact .inl (.cons (UInt8.le_refl byte) raised)
      · exact .inr (.cons (UInt8.le_refl byte) lowered)

/-- Each raised byte adds to the sum, and no more than 255. -/
theorem exactSum_of_raised (raised : List.Forall₂ (· ≤ ·) first second) :
    exactSum first + changes first second ≤ exactSum second ∧
      exactSum second ≤ exactSum first + 255 * changes first second := by
  induction raised with
  | nil => exact ⟨Nat.le_refl 0, Nat.le_refl 0⟩
  | @cons byte other rest tail le _ ih =>
    have largest := other.toNat_lt
    rw [UInt8.le_iff_toNat_le] at le
    rw [exactSum, exactSum, changes_cons]
    split
    next same =>
      subst same
      omega
    next differs =>
      have strict : byte.toNat ≠ other.toNat := fun same => differs (UInt8.toNat_inj.1 same)
      omega

theorem sum_ne_of_raised (raised : List.Forall₂ (· ≤ ·) first second) (changed : first ≠ second)
    (few : changes first second ≤ 257) : sum first ≠ sum second := by
  obtain ⟨least, most⟩ := exactSum_of_raised raised
  have some : changes first second ≠ 0 :=
    fun none => changed (eq_of_changes_eq_zero raised.length_eq none)
  intro same
  have wrapped := congrArg UInt16.toNat same
  rw [toNat_sum, toNat_sum] at wrapped
  omega

/-- Up to 257 bytes that change in one direction change the sum, however long the string. -/
theorem sum_ne_of_oneSided (oneSided : OneSided first second) (changed : first ≠ second)
    (few : changes first second ≤ 257) : sum first ≠ sum second := by
  rcases oneSided with raised | lowered
  · exact sum_ne_of_raised raised changed few
  · rw [changes_comm] at few
    exact (sum_ne_of_raised lowered changed.symm few).symm

end Changes

def body (packet : Bytes) : Bytes :=
  packet.take (packet.length - Packet.checksumSize)

def closing (packet : Bytes) : Bytes :=
  packet.drop (packet.length - Packet.checksumSize)

section Packets

variable {packet received : Bytes}

theorem eq_of_parts (bodies : body packet = body received)
    (closes : closing packet = closing received) : packet = received := by
  calc packet
      = body packet ++ closing packet := (List.take_append_drop _ _).symm
    _ = body received ++ closing received := by rw [bodies, closes]
    _ = received := List.take_append_drop _ _

theorem verify_iff :
    verify packet = true ↔
      Packet.minSize ≤ packet.length ∧
        (sum (body packet)).toNat = Bytes.toNat (closing packet) := by
  simp [verify, body, closing]

theorem length_closing (verified : verify packet = true) :
    (closing packet).length = Packet.checksumSize := by
  have minSize := (verify_iff.1 verified).1
  simp only [Packet.minSize, Packet.headerSize, Packet.checksumSize] at minSize
  simp only [closing, List.length_drop, Packet.checksumSize]
  omega

/-- Packets that verify close alike exactly where they sum up alike. -/
theorem sum_body_eq_iff (verified : verify packet = true) (other : verify received = true) :
    sum (body packet) = sum (body received) ↔ closing packet = closing received := by
  rw [← UInt16.toNat_inj, (verify_iff.1 verified).2, (verify_iff.1 other).2]
  constructor
  · exact Bytes.toNat_inj ((length_closing verified).trans (length_closing other).symm)
  · exact congrArg Bytes.toNat

theorem verify_eq_false_of_oneSided (verified : verify packet = true)
    (closes : closing packet = closing received) (changed : packet ≠ received)
    (oneSided : OneSided (body packet) (body received))
    (few : changes (body packet) (body received) ≤ 257) : verify received = false := by
  rw [← Bool.not_eq_true]
  intro other
  have same := (sum_body_eq_iff verified other).2 closes
  have bodies : body packet ≠ body received := fun same => changed (eq_of_parts same closes)
  exact sum_ne_of_oneSided oneSided bodies few same

theorem body_set (packet : Bytes) (index : Nat) (value : UInt8) :
    body (packet.set index value) = (body packet).set index value := by
  rw [body, List.length_set, List.take_set, body]

theorem ne_set {index : Nat} {value : UInt8} (within : index < packet.length)
    (changed : value ≠ packet.byteAt index) : packet ≠ packet.set index value := by
  intro same
  have read : Bytes.byteAt (packet.set index value) index = value := by
    simp [Bytes.byteAt, within]
  rw [← same] at read
  exact changed read.symm

theorem verify_set (verified : verify packet = true) {index : Nat} {value : UInt8}
    (within : index < packet.length) (changed : value ≠ packet.byteAt index) :
    verify (packet.set index value) = false := by
  have different := ne_set within changed
  by_cases summed : index < packet.length - Packet.checksumSize
  · have closes : closing packet = closing (packet.set index value) := by
      rw [closing, closing, List.length_set, List.drop_set, if_pos summed]
    apply verify_eq_false_of_oneSided verified closes different
    · rw [body_set]
      exact oneSided_set _ _ _
    · rw [body_set]
      exact Nat.le_trans (changes_set_le _ _ _) (by decide)
  · -- one of the closing bytes: the sum stays, so they had to stay as well
    have bodies : body packet = body (packet.set index value) := by
      rw [body_set, List.set_eq_of_length_le]
      rw [body, List.length_take]
      omega
    rw [← Bool.not_eq_true]
    intro other
    have closes := (sum_body_eq_iff verified other).1 (by rw [bodies])
    exact different (eq_of_parts bodies closes)

def Raised (packet received : Bytes) : Prop :=
  ∀ index < packet.length, received.byteAt index ≠ packet.byteAt index →
    packet.byteAt index < received.byteAt index

theorem Raised.forall₂ (raised : Raised packet received)
    (size : received.length = packet.length) : List.Forall₂ (· ≤ ·) packet received := by
  apply List.forall₂_iff_get.2
  refine ⟨size.symm, ?_⟩
  intro index hpacket hreceived
  have read : packet.byteAt index = packet[index] := by simp [Bytes.byteAt, hpacket]
  have readReceived : received.byteAt index = received[index] := by
    simp [Bytes.byteAt, hreceived]
  have direction := raised index hpacket
  rw [read, readReceived] at direction
  by_cases same : received[index] = packet[index]
  · exact UInt8.le_of_eq same.symm
  · exact UInt8.le_of_lt (direction same)

theorem oneSided_body (size : received.length = packet.length)
    (direction : Raised packet received ∨ Raised received packet) :
    OneSided (body packet) (body received) := by
  rw [body, body, size]
  rcases direction with raised | lowered
  · exact .inl (List.forall₂_take _ (raised.forall₂ size))
  · exact .inr (List.forall₂_take _ (lowered.forall₂ size.symm))

theorem length_body_le (maxSize : packet.length ≤ Packet.maxSize) :
    (body packet).length ≤ 255 := by
  rw [Packet.maxSize] at maxSize
  rw [body, List.length_take, Packet.checksumSize]
  omega

/-- A packet that verifies does not any more once one of its bytes has changed, be it one of the
checksum; nor, if it is of no more than the largest size, once some of those in front of the
checksum have, all of them up or all of them down. -/
theorem corruption_noticed (verified : verify packet = true) :
    (∀ index < packet.length, ∀ value, value ≠ packet.byteAt index →
      verify (packet.set index value) = false) ∧
    (packet.length ≤ Packet.maxSize → ∀ received : Bytes, received.length = packet.length →
      closing received = closing packet → received ≠ packet →
      Raised packet received ∨ Raised received packet → verify received = false) := by
  constructor
  · intro index within value changed
    exact verify_set verified within changed
  · intro maxSize received size closes changed direction
    have few : changes (body packet) (body received) ≤ 255 :=
      Nat.le_trans changes_le_length (length_body_le maxSize)
    exact verify_eq_false_of_oneSided verified closes.symm changed.symm
      (oneSided_body size direction) (Nat.le_trans few (by decide))

/-- A mute request: the last byte of its checksum changes, then its data length and its
transaction number both rise. -/
theorem corruption_noticed_mute :
    let packet : Bytes := [0xCC, 0x01, 0x18, 0x7A, 0x70, 0, 0, 0, 0, 0x7A, 0x70, 0x12, 0x34, 0x56,
      0x78, 0, 0, 0, 0, 0, 0x10, 0, 0x02, 0, 0x03, 0xDF]
    let received : Bytes := (packet.set 15 0x20).set 23 0xFF
    verify packet = true ∧ verify (packet.set 25 0xE0) = false ∧
      Raised packet received ∧ verify received = false := by
  intro packet received
  have verified : verify packet = true := by decide
  have raised : Raised packet received := by
    unfold Raised
    decide
  obtain ⟨single, oneDirection⟩ := corruption_noticed verified
  exact ⟨verified, single 25 (by decide) 0xE0 (by decide), raised,
    oneDirection (by decide) received rfl rfl (by decide) (.inl raised)⟩

end Packets

end Rdm.Checksum
