import Mathlib.Data.Finset.Basic
import Rdm.Proofs.Answering
import Rdm.Proofs.Command

/-! All devices on a bus hear the same requests. A controller finds them by halving a
bracket and muting each device it has found. `Bus.found_eq_union` says that no half
loses a device, and `Bus.found_handle_of_mutes` that a mute takes out exactly the device
it is for. -/
namespace Rdm

namespace Answer

def isResponse : Answer → Bool
  | response _ => true
  | _ => false

def isDiscovery : Answer → Bool
  | discovery _ => true
  | _ => false

theorem isResponse_iff {answer : Answer} :
    answer.isResponse = true ↔ ∃ reply, answer = .response reply := by
  cases answer <;> simp [isResponse]

theorem isDiscovery_iff {answer : Answer} :
    answer.isDiscovery = true ↔ ∃ frame, answer = .discovery frame := by
  cases answer <;> simp [isDiscovery]

end Answer

namespace Request

structure Searches (request : Request) (lower upper : Nat) : Prop where
  destination : request.destination = .broadcast
  commandClass : request.commandClass = .discovery
  pid : request.pid = .discUniqueBranch
  parameterData : request.parameterData = Bytes.ofNat 6 lower ++ Bytes.ofNat 6 upper

structure Mutes (request : Request) (uid : Uid) : Prop where
  destination : request.destination = .device uid
  commandClass : request.commandClass = .discovery
  pid : request.pid = .discMute
  parameterData : request.parameterData = []

end Request

namespace Request.Searches

variable {request : Request} {lower upper : Nat}

theorem numberAt_lower (search : request.Searches lower upper)
    (h : lower ≤ Address.broadcastValue) : request.parameterData.numberAt 0 6 = lower := by
  have fits : lower < Bytes.capacity 6 := Nat.lt_of_le_of_lt h (by decide)
  have bound : request.parameterData.slice 0 6 = Bytes.ofNat 6 lower := by
    simp [search.parameterData, Bytes.slice]
  rw [Bytes.numberAt, bound, Bytes.toNat_ofNat_of_lt fits]

theorem numberAt_upper (search : request.Searches lower upper)
    (h : upper ≤ Address.broadcastValue) : request.parameterData.numberAt 6 6 = upper := by
  have fits : upper < Bytes.capacity 6 := Nat.lt_of_le_of_lt h (by decide)
  have bound : request.parameterData.slice 6 6 = Bytes.ofNat 6 upper := by
    simp [search.parameterData, Bytes.slice]
  rw [Bytes.numberAt, bound, Bytes.toNat_ofNat_of_lt fits]

theorem foundBy_iff (search : request.Searches lower upper)
    (hlower : lower ≤ Address.broadcastValue) (hupper : upper ≤ Address.broadcastValue)
    (responder : Responder) :
    responder.FoundBy request ↔
      responder.state.muted = false ∧ lower ≤ responder.uid.toNat ∧
        responder.uid.toNat ≤ upper := by
  have first := search.numberAt_lower hlower
  have second := search.numberAt_upper hupper
  constructor
  · intro found
    exact ⟨found.unmuted, first ▸ found.lower, second ▸ found.upper⟩
  · rintro ⟨unmuted, above, below⟩
    exact ⟨.inr (.inl search.destination), search.commandClass, search.pid, unmuted,
      by simp [search.parameterData], first.symm ▸ above, second.symm ▸ below⟩

theorem next_eq (search : request.Searches lower upper) (responder : Responder) :
    (responder.handleRequest request).next = responder := by
  have apart : request.pid ≠ .discMute ∧ request.pid ≠ .discUnMute := by
    rw [search.pid]
    decide
  rw [Responder.next_handleRequest,
    Request.command?_of_other_discovery search.commandClass apart.1 apart.2]
  rfl

end Request.Searches

/-- The searches of a bracket and of its two halves, cut behind `middle`. -/
structure Request.Halves (whole first second : Request) (lower middle upper : Nat) : Prop where
  lower_le : lower ≤ middle
  middle_lt : middle < upper
  upper_le : upper ≤ Address.broadcastValue
  whole : whole.Searches lower upper
  first : first.Searches lower middle
  second : second.Searches (middle + 1) upper

namespace Request.Halves

variable {whole first second : Request} {lower middle upper : Nat} {responder : Responder}

theorem foundBy_first_iff (halves : whole.Halves first second lower middle upper) :
    responder.FoundBy first ↔
      responder.state.muted = false ∧ lower ≤ responder.uid.toNat ∧
        responder.uid.toNat ≤ middle := by
  have middle_le := Nat.le_trans (Nat.le_of_lt halves.middle_lt) halves.upper_le
  exact halves.first.foundBy_iff (Nat.le_trans halves.lower_le middle_le) middle_le responder

theorem foundBy_second_iff (halves : whole.Halves first second lower middle upper) :
    responder.FoundBy second ↔
      responder.state.muted = false ∧ middle + 1 ≤ responder.uid.toNat ∧
        responder.uid.toNat ≤ upper :=
  halves.second.foundBy_iff (Nat.le_trans halves.middle_lt halves.upper_le) halves.upper_le
    responder

theorem foundBy_iff (halves : whole.Halves first second lower middle upper) :
    responder.FoundBy whole ↔ responder.FoundBy first ∨ responder.FoundBy second := by
  have lower_lt : lower < upper := Nat.lt_of_le_of_lt halves.lower_le halves.middle_lt
  have lower_le := Nat.le_trans (Nat.le_of_lt lower_lt) halves.upper_le
  rw [halves.whole.foundBy_iff lower_le halves.upper_le, halves.foundBy_first_iff,
    halves.foundBy_second_iff]
  constructor
  · rintro ⟨unmuted, above, below⟩
    rcases Nat.lt_or_ge middle responder.uid.toNat with beyond | within
    · exact .inr ⟨unmuted, beyond, below⟩
    · exact .inl ⟨unmuted, above, within⟩
  · rintro (⟨unmuted, above, below⟩ | ⟨unmuted, above, below⟩)
    · exact ⟨unmuted, above, Nat.le_trans below (Nat.le_of_lt halves.middle_lt)⟩
    · exact ⟨unmuted, Nat.le_trans (Nat.le_succ_of_le halves.lower_le) above, below⟩

end Request.Halves

namespace Request.Mutes

variable {request : Request} {uid : Uid} {responder : Responder}

theorem muted_next (mute : request.Mutes uid) (same : responder.uid = uid) :
    (responder.handleRequest request).next.state.muted = true := by
  have act : request.destination.requiresAction responder.uid = true :=
    Address.requiresAction_iff.2 (.inl (same ▸ mute.destination))
  have pid : request.pid = if true then .discMute else .discUnMute := mute.pid
  have command : request.command? responder.uid = some (.mute true) := by
    rw [Request.command?_of_muting act mute.commandClass pid, if_pos mute.parameterData]
  rw [Responder.next_handleRequest, command]
  rfl

theorem handled_elsewhere (mute : request.Mutes uid) (other : responder.uid ≠ uid) :
    responder.handleRequest request = ⟨.nothing, responder, []⟩ := by
  apply Responder.handleRequest_of_elsewhere
  rw [mute.destination, Address.requiresAction, Address.classify, if_neg (Ne.symm other)]
  rfl

theorem callsForResponse_iff (mute : request.Mutes uid) {own : Uid} :
    request.CallsForResponse own ↔ own = uid := by
  constructor
  · intro call
    exact (Address.device.inj (mute.destination.symm.trans call.destination)).symm
  · rintro rfl
    refine ⟨mute.destination, ?_, .inr ⟨.inl mute.pid, mute.parameterData⟩⟩
    rw [mute.commandClass]
    decide

end Request.Mutes

structure Bus where
  responders : List Responder
  nodup : (responders.map Responder.uid).Nodup

namespace Bus

def answering (bus : Bus) (kind : Answer → Bool) (request : Request) : Finset Uid where
  val := (bus.responders.filter fun responder =>
    kind (responder.handleRequest request).result).map Responder.uid
  nodup := Multiset.coe_nodup.2 (bus.nodup.sublist (List.filter_sublist.map _))

def found (bus : Bus) (request : Request) : Finset Uid :=
  bus.answering Answer.isDiscovery request

def responding (bus : Bus) (request : Request) : Finset Uid :=
  bus.answering Answer.isResponse request

def handle (bus : Bus) (request : Request) : Bus where
  responders := bus.responders.map fun responder => (responder.handleRequest request).next
  nodup := by simpa [Function.comp_def, Responder.uid_next_handleRequest] using bus.nodup

variable {bus : Bus} {request : Request} {uid : Uid}

theorem mem_answering {kind : Answer → Bool} :
    uid ∈ bus.answering kind request ↔
      ∃ responder ∈ bus.responders,
        kind (responder.handleRequest request).result = true ∧ responder.uid = uid := by
  simp [answering, and_assoc]

theorem mem_found :
    uid ∈ bus.found request ↔
      ∃ responder ∈ bus.responders, responder.FoundBy request ∧ responder.uid = uid := by
  simp [found, mem_answering, Answer.isDiscovery_iff, Responder.result_eq_discovery_iff]

theorem mem_responding :
    uid ∈ bus.responding request ↔
      ∃ responder ∈ bus.responders,
        request.CallsForResponse responder.uid ∧ responder.uid = uid := by
  simp only [responding, mem_answering, Answer.isResponse_iff, Responder.exists_response_iff]

theorem handle_of_searches {lower upper : Nat} (search : request.Searches lower upper) :
    bus.handle request = bus := by
  have same : bus.responders.map (fun responder => (responder.handleRequest request).next) =
      bus.responders := by
    simp [search.next_eq]
  cases bus
  simp only [handle, same]

/-- A search finds what the searches of its two halves find together. -/
theorem found_eq_union {whole first second : Request} {lower middle upper : Nat}
    (halves : whole.Halves first second lower middle upper) :
    bus.found whole = bus.found first ∪ bus.found second := by
  ext uid
  simp only [Finset.mem_union, mem_found, halves.foundBy_iff, or_and_right, and_or_left, exists_or]

/-- No device is found in both halves of a bracket. -/
theorem disjoint_found {whole first second : Request} {lower middle upper : Nat}
    (halves : whole.Halves first second lower middle upper) :
    Disjoint (bus.found first) (bus.found second) := by
  apply Finset.disjoint_left.2
  intro uid inFirst inSecond
  obtain ⟨_, _, foundFirst, rfl⟩ := mem_found.1 inFirst
  obtain ⟨_, _, foundSecond, same⟩ := mem_found.1 inSecond
  have below := (halves.foundBy_first_iff.1 foundFirst).2.2
  have above := (halves.foundBy_second_iff.1 foundSecond).2.1
  rw [same] at above
  omega

/-- After a mute each search finds the same devices as before, without the muted one. -/
theorem found_handle_of_mutes (mute : request.Mutes uid) (search : Request) :
    (bus.handle request).found search = (bus.found search).erase uid := by
  ext other
  rw [Finset.mem_erase, mem_found, mem_found]
  constructor
  · rintro ⟨_, heard, found, rfl⟩
    obtain ⟨responder, member, rfl⟩ := List.mem_map.1 heard
    by_cases same : responder.uid = uid
    · have muted := mute.muted_next same
      rw [found.unmuted] at muted
      contradiction
    · rw [mute.handled_elsewhere same] at found ⊢
      exact ⟨same, responder, member, found, rfl⟩
  · rintro ⟨apart, responder, member, found, rfl⟩
    refine ⟨responder, List.mem_map.2 ⟨responder, member, ?_⟩, found, rfl⟩
    rw [mute.handled_elsewhere apart]

theorem responding_of_mutes (mute : request.Mutes uid)
    (present : uid ∈ bus.responders.map Responder.uid) : bus.responding request = {uid} := by
  obtain ⟨responder, member, same⟩ := List.mem_map.1 present
  ext other
  rw [Finset.mem_singleton, mem_responding]
  constructor
  · rintro ⟨answering, _, call, rfl⟩
    exact mute.callsForResponse_iff.1 call
  · rintro rfl
    exact ⟨responder, member, mute.callsForResponse_iff.2 same, same⟩

/-- A bracket that is cut in two finds each of its devices in one half only, and a search
changes nothing on the bus. A mute is answered by the device it is for and passes by all
others; after it every search finds the same devices, but for that one. -/
theorem search_by_halves (bus : Bus) :
    (∀ (lower middle upper : Nat) (whole first second : Request),
      whole.Halves first second lower middle upper →
        bus.found whole = bus.found first ∪ bus.found second ∧
        Disjoint (bus.found first) (bus.found second) ∧
        bus.handle whole = bus ∧ bus.handle first = bus ∧ bus.handle second = bus) ∧
    ∀ (mute : Request) (uid : Uid), mute.Mutes uid → uid ∈ bus.responders.map Responder.uid →
      bus.responding mute = {uid} ∧
      (∀ responder ∈ bus.responders, responder.uid ≠ uid →
        responder.handleRequest mute = ⟨.nothing, responder, []⟩) ∧
      ∀ search : Request, (bus.handle mute).found search = (bus.found search).erase uid := by
  constructor
  · intro lower middle upper whole first second halves
    exact ⟨found_eq_union halves, disjoint_found halves, handle_of_searches halves.whole,
      handle_of_searches halves.first, handle_of_searches halves.second⟩
  · intro mute uid mutes present
    exact ⟨responding_of_mutes mutes present, fun _ _ => mutes.handled_elsewhere,
      found_handle_of_mutes mutes⟩

/-- Of three devices one is muted. The first half of the bracket ends at the vendorcast of
the first manufacturer, and the second one at the broadcast. -/
theorem search_of_three :
    let device (uid : Uid) (muted : Bool) : Responder := ⟨⟨uid, ⟨0, 0⟩, ⟨0, 1⟩, {}⟩, ⟨muted, false⟩⟩
    let near : Uid := ⟨0x7A70, 1, by decide⟩
    let hidden : Uid := ⟨0x7A70, 2, by decide⟩
    let far : Uid := ⟨0x7A71, 1, by decide⟩
    let bus : Bus := ⟨[device near false, device hidden true, device far false], by decide⟩
    let ask (destination : Address) (pid : Pid) (data : Bytes) : Request :=
      ⟨destination, ⟨0x7A70, 0, by decide⟩, 0, 1, 0, 0, .discovery, pid, data⟩
    let whole := ask .broadcast .discUniqueBranch
      [0, 0, 0, 0, 0, 0, 0xFF, 0xFF, 0xFF, 0xFF, 0xFF, 0xFF]
    let first := ask .broadcast .discUniqueBranch
      [0, 0, 0, 0, 0, 0, 0x7A, 0x70, 0xFF, 0xFF, 0xFF, 0xFF]
    let second := ask .broadcast .discUniqueBranch
      [0x7A, 0x71, 0, 0, 0, 0, 0xFF, 0xFF, 0xFF, 0xFF, 0xFF, 0xFF]
    let mute := ask (.device near) .discMute []
    whole.Halves first second 0 0x7A70FFFFFFFF 0xFFFFFFFFFFFF ∧ mute.Mutes near ∧
      bus.found first = {near} ∧ bus.found second = {far} ∧
      bus.found whole = {near} ∪ {far} ∧ bus.responding mute = {near} ∧
      (bus.handle mute).found whole = {far} := by
  intro device near hidden far bus ask whole first second mute
  obtain ⟨searching, muting⟩ := bus.search_by_halves
  have foundFirst : bus.found first = {near} := by decide
  have foundSecond : bus.found second = {far} := by decide
  have halves : whole.Halves first second 0 0x7A70FFFFFFFF 0xFFFFFFFFFFFF :=
    ⟨by decide, by decide, by decide, ⟨rfl, rfl, rfl, rfl⟩, ⟨rfl, rfl, rfl, rfl⟩,
      ⟨rfl, rfl, rfl, rfl⟩⟩
  obtain ⟨union, _⟩ := searching _ _ _ whole first second halves
  have mutes : mute.Mutes near := ⟨rfl, rfl, rfl, rfl⟩
  obtain ⟨answered, _, erased⟩ := muting mute near mutes (by decide)
  have foundWhole : bus.found whole = {near} ∪ {far} := by rw [union, foundFirst, foundSecond]
  refine ⟨halves, mutes, foundFirst, foundSecond, foundWhole, answered, ?_⟩
  rw [erased, foundWhole]
  decide

end Bus

end Rdm
