import Rdm.Proofs.Refusal

/-! A byte string in which numbers stand one behind the other is known from the numbers
that are read at their offsets (`Bytes.eq_ofNumbers_iff`). So `DeviceInfo.Describes`,
which reads the nineteen bytes field by field, holds of one string only
(`DeviceInfo.describes_iff`). A missing start address is read as 0xFFFF, which is all
that a description leaves open (`DeviceInfo.encode_eq_iff`). -/
namespace Rdm

namespace Bytes

/-- Numbers one behind the other, each with its width in front. -/
def ofNumbers (numbers : List (Nat × Nat)) : Bytes :=
  numbers.flatMap fun number => ofNat number.1 number.2

def sizeOfNumbers : List (Nat × Nat) → Nat
  | [] => 0
  | (width, _) :: rest => width + sizeOfNumbers rest

/-- The numbers are read from `offset` on, each behind the one before. -/
def Holds (bytes : Bytes) : (offset : Nat) → (numbers : List (Nat × Nat)) → Prop
  | _, [] => True
  | offset, (width, n) :: rest =>
    bytes.numberAt offset width = n ∧ Holds bytes (offset + width) rest

def Fit (numbers : List (Nat × Nat)) : Prop :=
  ∀ number ∈ numbers, number.2 < capacity number.1

variable {bytes : Bytes} {offset width n : Nat} {numbers : List (Nat × Nat)}

theorem length_ofNumbers (numbers : List (Nat × Nat)) :
    (ofNumbers numbers).length = sizeOfNumbers numbers := by
  induction numbers with
  | nil => rfl
  | cons number rest ih =>
    rw [ofNumbers, List.flatMap_cons, List.length_append, length_ofNat, sizeOfNumbers, ← ih,
      ofNumbers]

theorem slice_eq_ofNat_iff (size : (bytes.slice offset width).length = width)
    (fits : n < capacity width) :
    bytes.slice offset width = ofNat width n ↔ bytes.numberAt offset width = n := by
  constructor
  · intro written
    rw [numberAt, written, toNat_ofNat_of_lt fits]
  · intro value
    apply toNat_inj (size.trans (length_ofNat width n).symm)
    rw [toNat_ofNat_of_lt fits]
    exact value

theorem drop_eq_ofNumbers_iff (fit : Fit numbers) :
    bytes.drop offset = ofNumbers numbers ↔
      (bytes.drop offset).length = sizeOfNumbers numbers ∧ bytes.Holds offset numbers := by
  induction numbers generalizing offset with
  | nil =>
    rw [Holds, and_true]
    exact List.length_eq_zero_iff.symm
  | cons number rest ih =>
    obtain ⟨width, n⟩ := number
    obtain ⟨fits, restFit⟩ := List.forall_mem_cons.1 fit
    have written : ofNumbers ((width, n) :: rest) = ofNat width n ++ ofNumbers rest := rfl
    have cut : bytes.drop offset = bytes.slice offset width ++ bytes.drop (offset + width) := by
      rw [slice, ← List.drop_drop, List.take_append_drop]
    have sliceSize (size : (bytes.drop offset).length = width + sizeOfNumbers rest) :
        (bytes.slice offset width).length = width :=
      List.length_take_of_le (size ▸ Nat.le_add_right _ _)
    rw [Holds, written, sizeOfNumbers]
    constructor
    · intro same
      have size := congrArg List.length same
      rw [List.length_append, length_ofNat, length_ofNumbers] at size
      obtain ⟨front, back⟩ :=
        List.append_inj (cut ▸ same) ((sliceSize size).trans (length_ofNat width n).symm)
      have value := (slice_eq_ofNat_iff (sliceSize size) fits).1 front
      exact ⟨size, value, ((ih restFit).1 back).2⟩
    · rintro ⟨size, value, others⟩
      have restSize : (bytes.drop (offset + width)).length = sizeOfNumbers rest := by
        rw [← List.drop_drop, List.length_drop, size, Nat.add_sub_cancel_left]
      have front := (slice_eq_ofNat_iff (sliceSize size) fits).2 value
      rw [cut, front, (ih restFit).2 ⟨restSize, others⟩]

/-- Numbers written one behind the other are known from what is read at their offsets. -/
theorem eq_ofNumbers_iff (fit : Fit numbers) :
    bytes = ofNumbers numbers ↔
      bytes.length = sizeOfNumbers numbers ∧ bytes.Holds 0 numbers := by
  have whole : bytes.drop 0 = ofNumbers numbers ↔ _ := drop_eq_ofNumbers_iff fit
  exact whole

end Bytes

namespace DeviceInfo

def numbers (info : DeviceInfo) : List (Nat × Nat) :=
  [(2, protocolVersion.toNat), (2, info.deviceModel.toNat), (2, info.productCategory.toNat),
    (4, info.softwareVersion.toNat), (2, info.dmxFootprint.toNat),
    (1, info.currentPersonality.toNat), (1, info.personalityCount.toNat),
    (2, (info.dmxStartAddress.getD noStartAddress).toNat), (2, info.subDeviceCount.toNat),
    (1, info.sensorCount.toNat)]

theorem fit_numbers (info : DeviceInfo) : Bytes.Fit info.numbers := by
  simp only [Bytes.Fit, numbers, List.forall_mem_cons]
  exact ⟨protocolVersion.toNat_lt, info.deviceModel.toNat_lt, info.productCategory.toNat_lt,
    info.softwareVersion.toNat_lt, info.dmxFootprint.toNat_lt, info.currentPersonality.toNat_lt,
    info.personalityCount.toNat_lt, UInt16.toNat_lt _, info.subDeviceCount.toNat_lt,
    info.sensorCount.toNat_lt, nofun⟩

theorem encode_eq_ofNumbers (info : DeviceInfo) : info.encode = Bytes.ofNumbers info.numbers := by
  have single (byte : UInt8) : Bytes.ofNat 1 byte.toNat = [byte] := by
    simp [Bytes.ofNat, Bytes.capacity]
  simp only [encode, numbers, Bytes.ofNumbers, List.flatMap_cons, List.flatMap_nil, single,
    List.append_assoc, List.append_nil, List.cons_append, List.nil_append]

/-- What is read in the bytes that describe a device: every number, big-endian at its offset. -/
structure Describes (bytes : Bytes) (info : DeviceInfo) : Prop where
  size : bytes.length = 19
  protocolVersion : bytes.numberAt 0 2 = 0x0100
  deviceModel : bytes.numberAt 2 2 = info.deviceModel.toNat
  productCategory : bytes.numberAt 4 2 = info.productCategory.toNat
  softwareVersion : bytes.numberAt 6 4 = info.softwareVersion.toNat
  dmxFootprint : bytes.numberAt 10 2 = info.dmxFootprint.toNat
  currentPersonality : bytes.numberAt 12 1 = info.currentPersonality.toNat
  personalityCount : bytes.numberAt 13 1 = info.personalityCount.toNat
  dmxStartAddress : bytes.numberAt 14 2 = (info.dmxStartAddress.getD 0xFFFF).toNat
  subDeviceCount : bytes.numberAt 16 2 = info.subDeviceCount.toNat
  sensorCount : bytes.numberAt 18 1 = info.sensorCount.toNat

variable {bytes : Bytes} {info other : DeviceInfo}

/-- One byte string describes a device. -/
theorem describes_iff : Describes bytes info ↔ bytes = info.encode := by
  rw [encode_eq_ofNumbers, Bytes.eq_ofNumbers_iff info.fit_numbers]
  constructor
  · intro describes
    exact ⟨describes.size, describes.protocolVersion, describes.deviceModel,
      describes.productCategory, describes.softwareVersion, describes.dmxFootprint,
      describes.currentPersonality, describes.personalityCount, describes.dmxStartAddress,
      describes.subDeviceCount, describes.sensorCount, trivial⟩
  · rintro ⟨size, protocolVersion, deviceModel, productCategory, softwareVersion, dmxFootprint,
      currentPersonality, personalityCount, dmxStartAddress, subDeviceCount, sensorCount, -⟩
    exact ⟨size, protocolVersion, deviceModel, productCategory, softwareVersion, dmxFootprint,
      currentPersonality, personalityCount, dmxStartAddress, subDeviceCount, sensorCount⟩

theorem describes_encode (info : DeviceInfo) : Describes info.encode info :=
  describes_iff.2 rfl

/-- The same device, but that one may have no start address where the other has 0xFFFF. -/
structure Alike (info other : DeviceInfo) : Prop where
  fields : other = { info with dmxStartAddress := other.dmxStartAddress }
  dmxStartAddress : other.dmxStartAddress = info.dmxStartAddress ∨
    info.dmxStartAddress = none ∧ other.dmxStartAddress = some 0xFFFF ∨
    info.dmxStartAddress = some 0xFFFF ∧ other.dmxStartAddress = none

theorem getD_startAddress_eq_iff {first second : Option UInt16} :
    first.getD 0xFFFF = second.getD 0xFFFF ↔
      second = first ∨ first = none ∧ second = some 0xFFFF ∨
        first = some 0xFFFF ∧ second = none := by
  cases first <;> cases second <;> simp [eq_comm]

theorem alike_of_describes (describes : Describes bytes info)
    (describesOther : Describes bytes other) : info.Alike other := by
  have deviceModel :=
    UInt16.toNat_inj.1 (describes.deviceModel.symm.trans describesOther.deviceModel)
  have productCategory :=
    UInt16.toNat_inj.1 (describes.productCategory.symm.trans describesOther.productCategory)
  have softwareVersion :=
    UInt32.toNat_inj.1 (describes.softwareVersion.symm.trans describesOther.softwareVersion)
  have dmxFootprint :=
    UInt16.toNat_inj.1 (describes.dmxFootprint.symm.trans describesOther.dmxFootprint)
  have currentPersonality :=
    UInt8.toNat_inj.1 (describes.currentPersonality.symm.trans describesOther.currentPersonality)
  have personalityCount :=
    UInt8.toNat_inj.1 (describes.personalityCount.symm.trans describesOther.personalityCount)
  have dmxStartAddress :=
    UInt16.toNat_inj.1 (describes.dmxStartAddress.symm.trans describesOther.dmxStartAddress)
  have subDeviceCount :=
    UInt16.toNat_inj.1 (describes.subDeviceCount.symm.trans describesOther.subDeviceCount)
  have sensorCount :=
    UInt8.toNat_inj.1 (describes.sensorCount.symm.trans describesOther.sensorCount)
  refine ⟨?_, getD_startAddress_eq_iff.1 dmxStartAddress⟩
  rw [deviceModel, productCategory, softwareVersion, dmxFootprint, currentPersonality,
    personalityCount, subDeviceCount, sensorCount]

/-- A description tells everything about a device but whether 0xFFFF is its start address. -/
theorem encode_eq_iff : info.encode = other.encode ↔ info.Alike other := by
  constructor
  · intro same
    have describesOther := describes_encode other
    rw [← same] at describesOther
    exact alike_of_describes (describes_encode info) describesOther
  · rintro ⟨fields, dmxStartAddress⟩
    have read : info.dmxStartAddress.getD noStartAddress =
        other.dmxStartAddress.getD noStartAddress := getD_startAddress_eq_iff.2 dmxStartAddress
    rw [fields]
    simp only [encode, read]

end DeviceInfo

structure Request.AsksForDescription (request : Request) : Prop where
  commandClass : request.commandClass = .get
  pid : request.pid = .deviceInfo

namespace Request.AsksForDescription

variable {config : Config} {state : State} {request : Request}

theorem lookup? (asks : request.AsksForDescription) :
    Parameter.lookup? request.pid request.commandClass = some (.get .deviceInfo) := by
  rw [asks.pid, asks.commandClass]
  rfl

theorem exists_acknowledged_iff (asks : request.AsksForDescription) :
    (∃ data, (Parameter.dispatch config state request).result = .acknowledged data) ↔
      request.subDevice = 0 ∧ request.parameterData = [] := by
  have supported : request.Supported := Request.supported_iff.2 ⟨_, asks.lookup?⟩
  have verdict := Parameter.verdict config state request
  rw [verdict.exists_acknowledged_iff, Request.refusal?_eq_none_iff]
  simp [supported, Request.Misshapen, asks.commandClass]

theorem bytes_of_acknowledged (asks : request.AsksForDescription) {data : ParameterData}
    (acknowledged : (Parameter.dispatch config state request).result = .acknowledged data) :
    data.bytes = (DeviceInfo.ofMetadata config.metadata).encode := by
  have fits : (DeviceInfo.ofMetadata config.metadata).encode.length ≤ ParameterData.maxLength := by
    rw [DeviceInfo.length_encode]
    decide
  have read : Getter.read config state .deviceInfo =
      .acknowledged ⟨(DeviceInfo.ofMetadata config.metadata).encode, fits⟩ := by
    rw [Getter.read, Getter.payload, ParameterData.ofBytes?_eq_some fits]
  obtain ⟨root, bare⟩ := asks.exists_acknowledged_iff.1 ⟨data, acknowledged⟩
  rw [Parameter.result_of_read root asks.lookup? bare, read] at acknowledged
  cases acknowledged
  rfl

end Request.AsksForDescription

namespace DeviceInfo

/-- Nineteen bytes describe a device, field by field; two descriptions are the same exactly for
devices that are alike; and who asks for the description of a device is told its metadata, with
no sub devices and no sensors. -/
theorem description_lossless :
    let ofConfig (config : Config) : DeviceInfo :=
      { deviceModel := config.metadata.deviceModel
        productCategory := config.metadata.productCategory
        softwareVersion := config.metadata.softwareVersion
        dmxFootprint := config.metadata.dmxFootprint
        currentPersonality := config.metadata.currentPersonality
        personalityCount := config.metadata.personalityCount
        dmxStartAddress := config.metadata.dmxStartAddress
        subDeviceCount := 0
        sensorCount := 0 }
    (∀ info : DeviceInfo, Describes info.encode info) ∧
    (∀ info other : DeviceInfo, info.encode = other.encode ↔ info.Alike other) ∧
    (∀ (config : Config) (state : State) (request : Request), request.AsksForDescription →
      ((∃ data, (Parameter.dispatch config state request).result = .acknowledged data) ↔
        request.subDevice = 0 ∧ request.parameterData = []) ∧
      ∀ data, (Parameter.dispatch config state request).result = .acknowledged data →
        data.bytes = (ofConfig config).encode) ∧
    ∀ (responder : Responder) (request : Request) (response : Response),
      request.AsksForDescription →
      (responder.handleRequest request).result = .response response →
      response.responseType = .ack →
        response.parameterData.bytes = (ofConfig responder.config).encode := by
  intro ofConfig
  refine ⟨describes_encode, fun _ _ => encode_eq_iff, ?dispatched, ?answered⟩
  case dispatched =>
    intro config state request asks
    exact ⟨asks.exists_acknowledged_iff, fun data => asks.bytes_of_acknowledged⟩
  case answered =>
    intro responder request response asks answer acknowledged
    obtain ⟨-, reply⟩ := Responder.result_eq_response_iff.1 answer
    rcases Outcome.response?_eq_some_iff.1 reply with ⟨data, outcome, rfl⟩ | ⟨_, _, rfl⟩
    · have outside : request.commandClass ≠ .discovery := by
        rw [asks.commandClass]
        decide
      rw [Responder.outcome, if_neg outside] at outcome
      exact asks.bytes_of_acknowledged outcome
    · contradiction

/-- A device without a start address, which is described as one with 0xFFFF is. -/
theorem description_lossless_no_start_address :
    let responder : Responder := ⟨⟨⟨0x7A70, 1, by decide⟩, ⟨0, 0⟩, ⟨0, 1⟩,
      { deviceModel := 0x0203, softwareVersion := 0x04050607, personalityCount := 8 }⟩, {}⟩
    let request : Request :=
      ⟨.device responder.uid, ⟨0x7A70, 2, by decide⟩, 0, 1, 0, 0, .get, .deviceInfo, []⟩
    let info := ofMetadata responder.config.metadata
    info.encode = { info with dmxStartAddress := some 0xFFFF }.encode ∧
      ∃ data response,
        (Parameter.dispatch responder.config responder.state request).result =
          .acknowledged data ∧
        data.bytes = info.encode ∧
        (responder.handleRequest request).result = .response response ∧
        response.responseType = .ack ∧
        response.parameterData.bytes = [0x01, 0x00, 0x02, 0x03, 0, 0, 0x04, 0x05, 0x06, 0x07, 0, 0,
          0, 8, 0xFF, 0xFF, 0, 0, 0] := by
  intro responder request info
  obtain ⟨_, same_iff, dispatched, answered⟩ := description_lossless
  have asks : request.AsksForDescription := ⟨rfl, rfl⟩
  obtain ⟨acknowledged_iff, carries⟩ := dispatched responder.config responder.state request asks
  obtain ⟨data, acknowledged⟩ := acknowledged_iff.2 ⟨rfl, rfl⟩
  let response := request.mirror responder.uid .ack data
  have answer : (responder.handleRequest request).result = .response response := by
    apply Responder.result_eq_response_iff.2
    refine ⟨⟨rfl, by decide, .inl (by decide)⟩, ?_⟩
    rw [Responder.outcome, if_neg (by decide), acknowledged]
    rfl
  refine ⟨(same_iff _ _).2 ⟨rfl, .inr (.inl ⟨rfl, rfl⟩)⟩, data, response, acknowledged,
    carries data acknowledged, answer, rfl, ?_⟩
  rw [answered responder request response asks answer rfl]
  decide

end DeviceInfo

end Rdm
