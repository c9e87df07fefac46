import Rdm.Discovery.Frame
import Rdm.Event

/-! A controller finds devices by asking for those inside a bracket of identifiers. A
muted device stays out of it; the others answer when the bracket holds them. -/
namespace Rdm.Discovery

def bracketSize : Nat := 12

/-- The data is a bracket whose bounds, both inclusive, hold the device. A bound is
written as an address, also one that no device can have. -/
def bracketHolds (data : Bytes) (uid : Uid) : Bool :=
  data.length == bracketSize &&
    decide ((Address.ofBytes (data.slice 0 6)).toNat ≤ uid.toNat) &&
    decide (uid.toNat ≤ (Address.ofBytes (data.slice 6 6)).toNat)

/-- Bounds compare as plain 48 bit values, those of broadcasts and vendorcasts too. -/
theorem bracketHolds_iff {data : Bytes} {uid : Uid} :
    bracketHolds data uid = true ↔
      data.length = bracketSize ∧
        data.numberAt 0 6 ≤ uid.toNat ∧ uid.toNat ≤ data.numberAt 6 6 := by
  by_cases h : data.length = bracketSize
  · have lower : (data.slice 0 6).length = 6 := by simp [Bytes.length_slice, h, bracketSize]
    have upper : (data.slice 6 6).length = 6 := by simp [Bytes.length_slice, h, bracketSize]
    simp [bracketHolds, h, Address.toNat_ofBytes lower, Address.toNat_ofBytes upper,
      Bytes.numberAt]
  · simp [bracketHolds, h]

def search (uid : Uid) (state : State) (request : Request) : Reaction State (Option Frame) :=
  if state.muted then ⟨none, state, [.log .ignoringSearch]⟩
  else if bracketHolds request.parameterData uid then ⟨some (.ofUid uid), state, []⟩
  else ⟨none, state, []⟩

@[simp] theorem next_search (uid : Uid) (state : State) (request : Request) :
    (search uid state request).next = state := by
  unfold search
  split
  · rfl
  · split <;> rfl

theorem search_eq_some_iff {uid : Uid} {state : State} {request : Request}
    {frame : Frame} :
    (search uid state request).result = some frame ↔
      state.muted = false ∧ bracketHolds request.parameterData uid = true ∧
        frame = .ofUid uid := by
  unfold search
  split
  next muted => simp [muted]
  next unmuted =>
    split
    next held =>
      simp only [unmuted, held, Option.some.injEq, true_and]
      exact eq_comm
    next held => simp [held]

end Rdm.Discovery
