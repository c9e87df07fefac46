import Rdm.Proofs.Answering

/-! `Responder.reply_mirrors_request` follows a response from the request to the bytes
that are sent: read as a request themselves, they give the fields of the request back
and tell what became of it. A read never fails for its size, so a refusal has one of
three reasons. -/
namespace Rdm

theorem length_labelBytes (label : String) : (labelBytes label).length ≤ maxLabelLength :=
  List.length_take_le _ _

theorem Parameter.exists_ofPids?_listed : ∃ data, ParameterData.ofPids? listed = some data := by
  rw [listed_eq_filter]
  exact ⟨_, rfl⟩

/-- Whatever the configuration is, each payload fits one response. -/
theorem Getter.exists_payload (config : Config) (state : State) (getter : Getter) :
    ∃ data, getter.payload config state = some data := by
  have label (text : String) : ∃ data, payload.label text = some data := by
    have short : (labelBytes text).length ≤ ParameterData.maxLength :=
      Nat.le_trans (length_labelBytes text) (by decide)
    exact ⟨_, ParameterData.ofBytes?_eq_some short⟩
  cases getter with
  | supportedParameters => exact Parameter.exists_ofPids?_listed
  | deviceInfo =>
    have short : (DeviceInfo.ofMetadata config.metadata).encode.length ≤
        ParameterData.maxLength := by
      rw [DeviceInfo.length_encode]
      decide
    exact ⟨_, ParameterData.ofBytes?_eq_some short⟩
  | deviceModelDescription => exact label _
  | manufacturerLabel => exact label _
  | softwareVersionLabel => exact label _
  | identifyDevice => exact ⟨_, rfl⟩

theorem Getter.read_ne_refused (config : Config) (state : State) (getter : Getter)
    (reason : NackReason) : getter.read config state ≠ .refused reason := by
  obtain ⟨data, payload⟩ := getter.exists_payload config state
  simp [Getter.read, payload]

theorem Setter.reason_of_write {config : Config} {state : State} {data : Bytes}
    {setter : Setter} {reason : NackReason}
    (refused : (setter.write config state data).result = .refused reason) :
    reason = .formatError := by
  cases setter
  simp only [Setter.write] at refused
  split at refused
  · contradiction
  · exact (Outcome.refused.inj refused).symm

def NackReason.given : List NackReason :=
  [.unknownPid, .formatError, .subDeviceOutOfRange]

theorem Parameter.reason_of_dispatch {config : Config} {state : State} {request : Request}
    {reason : NackReason}
    (refused : (dispatch config state request).result = .refused reason) :
    reason ∈ NackReason.given := by
  cases dispatched config request with
  | subDevice _ handled | unsupported _ _ handled | readWithData _ _ _ _ handled =>
    rw [handled] at refused
    cases refused
    decide
  | read _ getter _ _ handled =>
    rw [handled] at refused
    exact absurd refused (getter.read_ne_refused config state reason)
  | write _ setter _ handled =>
    rw [handled] at refused
    rw [Setter.reason_of_write refused]
    decide

theorem Responder.reason_of_outcome {responder : Responder} {request : Request}
    {reason : NackReason} (refused : responder.outcome request = .refused reason) :
    reason ∈ NackReason.given := by
  rw [outcome] at refused
  split at refused
  · split at refused <;> contradiction
  · exact Parameter.reason_of_dispatch refused

namespace Request

structure MirroredBy (request reply : Request) (own : Uid) : Prop where
  destination : reply.destination = .device request.source
  source : reply.source = own
  transaction : reply.transaction = request.transaction
  pid : reply.pid = request.pid
  messageCount : reply.messageCount = 0
  subDevice : reply.subDevice = Packet.rootDevice
  commandClass : reply.commandClass.code = request.commandClass.code + 1

/-- The reply tells what became of a request. Its type stands where a request has its
`portId`. -/
structure Reports (reply : Request) (outcome : Outcome) : Prop where
  portId : reply.portId = 0x00 ∨ reply.portId = 0x02
  refused_iff : reply.portId = 0x02 ↔ ∃ reason, outcome = .refused reason
  refusal : reply.portId = 0x02 → ∃ reason ∈ NackReason.given,
    outcome = .refused reason ∧ reply.parameterData = reason.toBytes
  payload : reply.portId ≠ 0x02 → ∃ data,
    outcome = .acknowledged data ∧ reply.parameterData = data.bytes

theorem mirroredBy_received {request : Request} {own : Uid} (responseType : ResponseType)
    (data : ParameterData) :
    request.MirroredBy (request.mirror own responseType data).received own :=
  ⟨rfl, rfl, rfl, rfl, rfl, rfl, by
    simp [Response.received, mirror, CommandClass.code_response]⟩

end Request

namespace Response

theorem length_spans (response : Response) :
    ∃ header data checksum, response.spans = [header, data, checksum] ∧
      header.length = 24 ∧ data.length ≤ 231 ∧ checksum.length = 2 :=
  ⟨_, _, _, rfl, response.header.length_encode, response.parameterData.length_le,
    Checksum.length_toBytes _⟩

end Response

namespace Responder

variable {responder : Responder} {request : Request}

theorem mirroredBy_of_response {response : Response}
    (answer : (responder.handleRequest request).result = .response response) :
    request.MirroredBy response.received responder.uid ∧
      response.received.Reports (responder.outcome request) := by
  obtain ⟨_, reply⟩ := result_eq_response_iff.1 answer
  rcases Outcome.response?_eq_some_iff.1 reply with ⟨data, outcome, rfl⟩ | ⟨reason, outcome, rfl⟩
  · have apart : ResponseType.ack.code ≠ 0x02 := by decide
    rw [outcome]
    refine ⟨Request.mirroredBy_received _ _, .inl rfl, ?_, ?_, ?_⟩
    · simp [Response.received, Request.mirror, apart]
    · intro portId
      exact absurd portId apart
    · intro _
      exact ⟨data, rfl, rfl⟩
  · have given := reason_of_outcome outcome
    rw [outcome]
    refine ⟨Request.mirroredBy_received _ _, .inr rfl, ?_, ?_, ?_⟩
    · simp [Response.received, Request.mirror, ResponseType.code]
    · intro _
      exact ⟨reason, given, rfl, rfl⟩
    · intro portId
      exact absurd rfl portId

variable {ε : Type} {transport : Transport ε} {packet : Bytes}

/-- What is sent after a break has a header, data and a checksum, and any device reads it as
the mirror of the request: with the type of a refusal exactly where the request was refused,
and then with the reason, and with the payload otherwise. -/
theorem reply_mirrors_request {transmission : Transmission}
    (sent : transmission ∈ transmissions (responder.handlePacket transport packet).events)
    (withBreak : transmission.withBreak = true) :
    ∃ request reply header data checksum, Request.parse packet = .ok request ∧
      transmission.spans = [header, data, checksum] ∧
      header.length = 24 ∧ data.length ≤ 231 ∧ checksum.length = 2 ∧
      Request.parse transmission.bytes = .ok reply ∧
      request.MirroredBy reply responder.uid ∧ reply.Reports (responder.outcome request) := by
  obtain ⟨request, response, accepted, answer, rfl⟩ :=
    mem_transmissions_withBreak_iff.1 ⟨sent, withBreak⟩
  obtain ⟨header, data, checksum, spans, sizes⟩ := response.length_spans
  obtain ⟨mirrored, reports⟩ := mirroredBy_of_response answer
  exact ⟨request, response.received, header, data, checksum, accepted, spans, sizes.1, sizes.2.1,
    sizes.2.2, response.parse_encode, mirrored, reports⟩

/-- A request of the last class, for a sub device, is refused in the name of the device
itself, with class zero. -/
theorem reply_mirrors_request_last_class :
    let responder : Responder := ⟨⟨⟨0x7A70, 1, by decide⟩, ⟨0, 0⟩, ⟨0, 1⟩, {}⟩, {}⟩
    let line : Transport Unit := fun _ => .ok ()
    let packet : Bytes := [0xCC, 0x01, 0x18, 0x7A, 0x70, 0, 0, 0, 1, 0x7A, 0x70, 0, 0, 0, 2,
      5, 1, 3, 0, 1, 0xFF, 0, 0x60, 0, 0x04, 0x25]
    let sent : Transmission := ⟨true, [[0xCC, 0x01, 0x1A, 0x7A, 0x70, 0, 0, 0, 2,
      0x7A, 0x70, 0, 0, 0, 1, 5, 2, 0, 0, 0, 0, 0, 0x60, 2], [0, 9], [0x03, 0x30]]⟩
    sent ∈ transmissions (responder.handlePacket line packet).events ∧
      sent.withBreak = true ∧
      ∃ request reply, Request.parse packet = .ok request ∧
        Request.parse sent.bytes = .ok reply ∧ request.commandClass = .unknown 0xFF ∧
        request.subDevice = 1 ∧ reply.commandClass.code = 0 ∧ reply.subDevice = 0 ∧
        responder.outcome request = .refused .subDeviceOutOfRange ∧ reply.portId = 0x02 := by
  intro responder line packet sent
  have member : sent ∈ transmissions (responder.handlePacket line packet).events := by decide
  have known : Request.parse packet = .ok ⟨.device responder.uid, ⟨0x7A70, 2, by decide⟩, 5, 1,
      3, 1, .unknown 0xFF, .deviceInfo, []⟩ := rfl
  obtain ⟨request, reply, _, _, _, accepted, _, _, _, _, heard, mirrored, reports⟩ :=
    reply_mirrors_request member rfl
  cases known.symm.trans accepted
  have wrapped : (CommandClass.unknown 0xFF).code + 1 = 0 := by decide
  exact ⟨member, rfl, _, reply, known, heard, rfl, rfl,
    mirrored.commandClass.trans wrapped, mirrored.subDevice, rfl,
    reports.refused_iff.2 ⟨.subDeviceOutOfRange, rfl⟩⟩

end Responder

end Rdm
