import Rdm.Proofs.Answering
import Rdm.Proofs.Command

/-! A responder hears what other responders send. `Request.RepliedBy` says what a
request and the reply to it have in common once the reply is read as a request itself. A
reply to a class outside the standard may be answered again, but it never carries a
command, and the class grows from reply to reply until it is one that is not answered. -/
namespace Rdm

namespace CommandClass

/-- How many codes follow before the next one that a reply is not answered with. -/
def echoLimit (c : CommandClass) : Nat :=
  min (0x10 - c.code).toNat (min (0x21 - c.code).toNat (0x31 - c.code).toNat)

theorem toNat_sub_succ {code stop : UInt8} (h : code ≠ stop) :
    (stop - (code + 1)).toNat + 1 = (stop - code).toNat := by
  have apart : code.toNat ≠ stop.toNat := fun same => h (UInt8.toNat_inj.1 same)
  have := code.toNat_lt
  have := stop.toNat_lt
  simp only [UInt8.toNat_sub, UInt8.toNat_add, UInt8.reduceToNat]
  omega

theorem echoLimit_response {c : CommandClass} (h : c.code ∉ [0x10, 0x21, 0x31]) :
    c.response.echoLimit + 1 = c.echoLimit := by
  simp only [List.mem_cons, List.not_mem_nil, or_false, not_or] at h
  obtain ⟨discovery, get, set⟩ := h
  have := toNat_sub_succ discovery
  have := toNat_sub_succ get
  have := toNat_sub_succ set
  simp only [echoLimit, code_response]
  omega

theorem echoLimit_response_le {c : CommandClass} (h : c.code ≠ 0x31) :
    c.response.echoLimit ≤ 221 := by
  have apart : c.code.toNat ≠ 0x31 := fun same => h (UInt8.toNat_inj.1 same)
  have := c.code.toNat_lt
  simp only [echoLimit, code_response, UInt8.toNat_sub, UInt8.toNat_add, UInt8.reduceToNat]
  omega

end CommandClass

namespace Responder

theorem outcome_of_not_isResponse (responder : Responder) {request : Request}
    (h : request.commandClass.response.isResponse = false) :
    ∃ reason, responder.outcome request = .refused reason := by
  have discovery : request.commandClass ≠ .discovery := by
    intro class_eq
    rw [class_eq] at h
    contradiction
  have unhandled (handler : Handler) :
      Parameter.lookup? request.pid request.commandClass ≠ some handler := by
    intro found
    rw [Parameter.class_of_lookup? found] at h
    cases handler <;> contradiction
  rw [outcome, if_neg discovery]
  cases Parameter.dispatched responder.config request with
  | subDevice _ handled | unsupported _ _ handled =>
    rw [handled]
    exact ⟨_, rfl⟩
  | read _ _ found _ _ | readWithData _ _ found _ _ | write _ _ found _ =>
    exact absurd found (unhandled _)

end Responder

/-- What a request and the reply to it, as another responder reads it, have in common. -/
structure Request.RepliedBy (request reply : Request) : Prop where
  destination : reply.destination = .device request.source
  commandClass : reply.commandClass = request.commandClass.response
  asked : request.commandClass.isResponse = false
  refused : reply.commandClass.isResponse = false → reply.parameterData.length = 2

theorem Responder.repliedBy_of_response {responder : Responder} {request : Request}
    {response : Response}
    (answer : (responder.handleRequest request).result = .response response) :
    request.RepliedBy response.received := by
  obtain ⟨call, reply⟩ := result_eq_response_iff.1 answer
  have asked := CommandClass.isResponse_eq_false_iff.2 call.commandClass
  have class_eq := CommandClass.ofCode_code_response request.commandClass
  rcases Outcome.response?_eq_some_iff.1 reply with ⟨data, outcome, rfl⟩ | ⟨reason, _, rfl⟩
  · refine ⟨rfl, class_eq, asked, ?_⟩
    intro h
    have unfamiliar : request.commandClass.response.isResponse = false := class_eq ▸ h
    obtain ⟨reason, refused⟩ := outcome_of_not_isResponse responder unfamiliar
    rw [outcome] at refused
    contradiction
  · refine ⟨rfl, class_eq, asked, ?_⟩
    intro _
    exact Bytes.length_ofNat 2 _

namespace Request.RepliedBy

variable {request reply : Request}

/-- No reply carries a command: the data of a refusal is too long for any. -/
theorem command?_eq_none (h : request.RepliedBy reply) (own : Uid) :
    reply.command? own = none := by
  cases isResponse : reply.commandClass.isResponse with
  | true =>
    apply command?_of_other_class <;> intro class_eq <;> rw [class_eq] at isResponse <;>
      contradiction
  | false =>
    have two := h.refused isResponse
    match data : reply.parameterData with
    | [] | [_] => simp [data] at two
    | first :: second :: rest => exact command?_of_data data

theorem length_of_discovery (h : request.RepliedBy reply)
    (discovery : reply.commandClass = .discovery) : reply.parameterData.length = 2 := by
  apply h.refused
  rw [discovery]
  rfl

theorem not_foundBy (h : request.RepliedBy reply) (responder : Responder) :
    ¬ responder.FoundBy reply := by
  intro found
  have two := h.length_of_discovery found.commandClass
  have twelve := found.size
  omega

theorem callsForResponse_iff (h : request.RepliedBy reply) {own : Uid} :
    reply.CallsForResponse own ↔
      own = request.source ∧ reply.commandClass.isResponse = false ∧
        reply.commandClass ≠ .discovery := by
  constructor
  · intro call
    have same := call.destination
    rw [h.destination] at same
    have isRequest := CommandClass.isResponse_eq_false_iff.2 call.commandClass
    refine ⟨(Address.device.inj same).symm, isRequest, ?_⟩
    intro discovery
    have two := h.length_of_discovery discovery
    have data := (call.discovery.resolve_left (not_not_intro discovery)).2
    simp [data] at two
  · rintro ⟨rfl, isRequest, discovery⟩
    exact ⟨h.destination, CommandClass.isResponse_eq_false_iff.1 isRequest, .inl discovery⟩

theorem class_iff (h : request.RepliedBy reply) :
    reply.commandClass.isResponse = false ∧ reply.commandClass ≠ .discovery ↔
      request.commandClass.code ∉ [0x0F, 0x10, 0x20, 0x30] := by
  rw [h.commandClass, ← Bool.not_eq_true, CommandClass.isResponse_response_iff, Ne,
    CommandClass.response_eq_discovery_iff, ← not_or, or_comm, ← List.mem_cons]

end Request.RepliedBy

namespace Responder

variable {responder : Responder} {request : Request}

theorem parse_transmission {transmission : Transmission}
    (sent : (responder.handleRequest request).result.transmission? = some transmission) :
    (∃ reply, Request.parse transmission.bytes = .ok reply ∧ request.RepliedBy reply) ∨
      Request.parse transmission.bytes = .error .bufferTooSmall := by
  rcases Answer.transmission?_eq_some_iff.1 sent with
    ⟨response, answer, rfl⟩ | ⟨frame, answer, rfl⟩
  · left
    exact ⟨response.received, response.parse_encode, repliedBy_of_response answer⟩
  · right
    exact frame.parse_bytes

/-- Only a class outside the standard gets a reply answered, and only by a response. -/
theorem replied_again {reply : Request} {transmission : Transmission}
    (replied : request.RepliedBy reply)
    (sent : (responder.handleRequest reply).result.transmission? = some transmission) :
    ∃ echo, Request.parse transmission.bytes = .ok echo ∧ reply.RepliedBy echo ∧
      reply.commandClass.isResponse = false ∧ reply.commandClass ≠ .discovery := by
  rcases Answer.transmission?_eq_some_iff.1 sent with
    ⟨response, answer, rfl⟩ | ⟨frame, answer, rfl⟩
  · have call := (result_eq_response_iff.1 answer).1
    obtain ⟨_, isResponse, discovery⟩ := replied.callsForResponse_iff.1 call
    exact ⟨response.received, response.parse_encode, repliedBy_of_response answer, isResponse,
      discovery⟩
  · have found := (result_eq_discovery_iff.1 answer).1
    exact absurd found (replied.not_foundBy responder)

variable {ε : Type} {transport : Transport ε} {packet : Bytes}

theorem sends_nothing_of_reply_iff {reply : Request} (replied : request.RepliedBy reply)
    (accepted : Request.parse packet = .ok reply) :
    transmissions (responder.handlePacket transport packet).events = [] ↔
      responder.uid ≠ request.source ∨
        request.commandClass.code ∈ [0x0F, 0x10, 0x20, 0x30] := by
  have silent : transmissions (responder.handlePacket transport packet).events = [] ↔
      ¬ reply.CallsForResponse responder.uid := by
    rw [sends_nothing_iff]
    constructor
    · intro quiet
      exact (quiet reply accepted).1
    · intro uncalled other parsed
      cases accepted.symm.trans parsed
      exact ⟨uncalled, replied.not_foundBy responder⟩
  rw [silent, replied.callsForResponse_iff, replied.class_iff,
    Decidable.not_and_iff_not_or_not, Decidable.not_not]

/-- A response that a packet brings about is read as a reply to it. Its class is one of a
response only where the request is of one of the three standard classes. Where it is of
another, the device that the reply goes to answers once more, unless the reply passes
for a discovery request. -/
theorem reply_answered_iff {sender : Responder} {transmission : Transmission}
    (sent : transmission ∈ transmissions (sender.handlePacket transport packet).events)
    (withBreak : transmission.withBreak = true) :
    ∃ request reply, Request.parse packet = .ok request ∧
      Request.parse transmission.bytes = .ok reply ∧
      reply.commandClass = request.commandClass.response ∧
      (reply.commandClass.isResponse = true ↔
        request.commandClass.code ∈ [0x10, 0x20, 0x30]) ∧
      ∀ {δ : Type} (receiver : Responder) (line : Transport δ),
        transmissions (receiver.handlePacket line transmission.bytes).events = [] ↔
          receiver.uid ≠ request.source ∨
            request.commandClass.code ∈ [0x0F, 0x10, 0x20, 0x30] := by
  obtain ⟨request, response, accepted, answer, rfl⟩ :=
    mem_transmissions_withBreak_iff.1 ⟨sent, withBreak⟩
  have replied := repliedBy_of_response answer
  have heard : Request.parse response.transmission.bytes = .ok response.received :=
    response.parse_encode
  refine ⟨request, response.received, accepted, heard, replied.commandClass, ?_, ?_⟩
  · rw [replied.commandClass]
    exact CommandClass.isResponse_response_iff
  · intro δ receiver line
    exact sends_nothing_of_reply_iff replied heard

/-- A device that asks with an unknown class, and is itself a responder, refuses the refusal
that it gets. -/
theorem reply_answered_unknown_class :
    let sender : Responder := ⟨⟨⟨0x7A70, 1, by decide⟩, ⟨0, 0⟩, ⟨0, 1⟩, {}⟩, {}⟩
    let receiver : Responder := ⟨⟨⟨0x7A70, 2, by decide⟩, ⟨0, 0⟩, ⟨0, 1⟩, {}⟩, {}⟩
    let line : Transport Unit := fun _ => .ok ()
    let packet : Bytes := [0xCC, 0x01, 0x18, 0x7A, 0x70, 0, 0, 0, 1, 0x7A, 0x70, 0, 0, 0, 2,
      0, 1, 0, 0, 0, 0x40, 0, 0, 0, 0x02, 0xFD]
    let reply : Transmission := ⟨true, [[0xCC, 0x01, 0x1A, 0x7A, 0x70, 0, 0, 0, 2,
      0x7A, 0x70, 0, 0, 0, 1, 0, 2, 0, 0, 0, 0x41, 0, 0, 2], [0, 0], [0x03, 0x03]]⟩
    reply ∈ transmissions (sender.handlePacket line packet).events ∧ reply.withBreak = true ∧
      transmissions (receiver.handlePacket line reply.bytes).events ≠ [] := by
  intro sender receiver line packet reply
  have sent : reply ∈ transmissions (sender.handlePacket line packet).events := by decide
  have known : Request.parse packet =
      .ok ⟨.device sender.uid, receiver.uid, 0, 1, 0, 0, .unknown 0x40, 0, []⟩ := rfl
  refine ⟨sent, rfl, ?_⟩
  intro silent
  obtain ⟨request, _, accepted, _, _, _, answered⟩ := reply_answered_iff sent rfl
  cases known.symm.trans accepted
  exact absurd ((answered receiver line).1 silent) (by decide)

end Responder

namespace Packet

/-- Some responder that is given the packet puts these bytes on the bus. -/
def Evokes (packet reply : Bytes) : Prop :=
  ∃ (ε : Type) (transport : Transport ε) (responder : Responder),
    ∃ transmission ∈ transmissions (responder.handlePacket transport packet).events,
      reply = transmission.bytes

/-- No responder that is given the packet changes its state or drives a pin. -/
def Inert (packet : Bytes) : Prop :=
  ∀ (ε : Type) (transport : Transport ε) (responder : Responder),
    (responder.handlePacket transport packet).next = responder ∧
      pinCalls (responder.handlePacket transport packet).events = []

/-- A packet, and answers to it and to one another: each is given to some responder, and
the next is what that responder sends. -/
inductive Exchange : Bytes → List Bytes → Prop where
  | quiet (packet : Bytes) : Exchange packet []
  | answered {packet reply : Bytes} {rest : List Bytes} (evokes : Evokes packet reply)
      (exchange : Exchange reply rest) : Exchange packet (reply :: rest)

theorem inert_of_transmission {responder : Responder} {request : Request}
    {transmission : Transmission}
    (sent : (responder.handleRequest request).result.transmission? = some transmission) :
    Inert transmission.bytes := by
  have uncommanding (own : Uid) : Request.packetCommand? transmission.bytes own = none := by
    rw [Request.packetCommand?]
    rcases Responder.parse_transmission sent with ⟨reply, heard, replied⟩ | dropped
    · rw [heard]
      exact replied.command?_eq_none own
    · rw [dropped]
      rfl
  intro ε transport receiver
  constructor
  · rw [Responder.next_handlePacket, uncommanding]
    rfl
  · rw [Responder.pinCalls_handlePacket, uncommanding]
    rfl

theorem Evokes.request {packet reply : Bytes} (h : Evokes packet reply) :
    ∃ request responder transmission, Request.parse packet = .ok request ∧
      (Responder.handleRequest responder request).result.transmission? = some transmission ∧
      reply = transmission.bytes := by
  obtain ⟨ε, transport, responder, transmission, sent, rfl⟩ := h
  obtain ⟨request, accepted, sent⟩ := Responder.mem_transmissions_handlePacket_iff.1 sent
  exact ⟨request, responder, transmission, accepted, sent, rfl⟩

def echoLimit (reply : Bytes) : Nat :=
  match Request.parse reply with
  | .ok reply => reply.commandClass.echoLimit
  | .error _ => 0

theorem echoLimit_le_of_evokes {packet reply : Bytes} (h : Evokes packet reply) :
    echoLimit reply ≤ 221 := by
  obtain ⟨request, responder, transmission, accepted, sent, rfl⟩ := h.request
  rw [echoLimit]
  rcases Responder.parse_transmission sent with ⟨reply, heard, replied⟩ | dropped
  · simp only [heard, replied.commandClass]
    apply CommandClass.echoLimit_response_le
    intro code
    have asked := replied.asked
    rw [← Request.commandClass_of_parse accepted, code] at asked
    contradiction
  · simp only [dropped]
    omega

/-- One answer more leaves one answer less to come. -/
theorem echoLimit_of_evokes {packet reply echo : Bytes} (first : Evokes packet reply)
    (second : Evokes reply echo) : echoLimit echo + 1 = echoLimit reply := by
  obtain ⟨request, _, _, _, sent, rfl⟩ := first.request
  obtain ⟨reply, receiver, transmission, accepted, answer, rfl⟩ := second.request
  rcases Responder.parse_transmission sent with ⟨_, heard, replied⟩ | dropped
  · cases heard.symm.trans accepted
    obtain ⟨echo, echoed, repliedAgain, isResponse, discovery⟩ :=
      Responder.replied_again replied answer
    have class_eq := Request.commandClass_of_parse accepted
    have apart : reply.commandClass.code ∉ [0x10, 0x21, 0x31] := by
      rw [← class_eq, ← Bool.not_eq_true, CommandClass.isResponse_ofCode_iff] at isResponse
      rw [← class_eq, Ne, CommandClass.ofCode_eq_discovery_iff] at discovery
      simp only [List.mem_cons, List.not_mem_nil, or_false]
      rintro (code | code | code)
      · exact discovery code
      · exact isResponse (.inr (.inl code))
      · exact isResponse (.inr (.inr code))
    simp only [echoLimit, heard, echoed, repliedAgain.commandClass]
    exact CommandClass.echoLimit_response apart
  · rw [dropped] at accepted
    contradiction

/-- The step is `echoLimit_of_evokes`: a reply leads to no more answers than its limit. -/
theorem Exchange.length_le_echoLimit {packet reply : Bytes} {rest : List Bytes}
    (first : Evokes packet reply) (exchange : Exchange reply rest) :
    rest.length ≤ echoLimit reply := by
  induction exchange generalizing packet with
  | quiet reply => exact Nat.zero_le _
  | answered evokes exchange ih =>
    have step := echoLimit_of_evokes first evokes
    have rest := ih evokes
    simp only [List.length_cons]
    omega

theorem Exchange.length_le {packet : Bytes} {replies : List Bytes}
    (exchange : Exchange packet replies) : replies.length ≤ 222 := by
  cases exchange with
  | quiet => exact Nat.zero_le _
  | answered evokes exchange =>
    have start := echoLimit_le_of_evokes evokes
    have rest := exchange.length_le_echoLimit evokes
    simp only [List.length_cons]
    omega

theorem Exchange.inert {packet : Bytes} {replies : List Bytes}
    (exchange : Exchange packet replies) : ∀ reply ∈ replies, Inert reply := by
  induction exchange with
  | quiet => simp
  | answered evokes exchange ih =>
    obtain ⟨request, responder, transmission, _, sent, rfl⟩ := evokes.request
    intro reply member
    rcases List.mem_cons.1 member with rfl | later
    · exact inert_of_transmission sent
    · exact ih reply later

/-- Answers to answers come to an end, and none of them does anything to a device that
hears it. Nor does any other answer that a device makes to a request. An answer that is
put together by a caller and handed to `sendAnswer` is not covered: it may be a command. -/
theorem exchange_ends {packet : Bytes} {replies : List Bytes}
    (exchange : Exchange packet replies) :
    replies.length ≤ 222 ∧ (∀ reply ∈ replies, Inert reply) ∧
      ∀ (responder : Responder) (request : Request) (transmission : Transmission),
        (responder.handleRequest request).result.transmission? = some transmission →
          Inert transmission.bytes :=
  ⟨exchange.length_le, exchange.inert, fun _ _ _ => inert_of_transmission⟩

/-- Between two responders a request of an unknown class goes back and forth. -/
theorem exchange_of_unknown_class :
    let packet : Bytes := [0xCC, 0x01, 0x18, 0x7A, 0x70, 0, 0, 0, 1, 0x7A, 0x70, 0, 0, 0, 2,
      0, 1, 0, 0, 0, 0x40, 0, 0, 0, 0x02, 0xFD]
    let reply : Bytes := [0xCC, 0x01, 0x1A, 0x7A, 0x70, 0, 0, 0, 2, 0x7A, 0x70, 0, 0, 0, 1,
      0, 2, 0, 0, 0, 0x41, 0, 0, 2, 0, 0, 0x03, 0x03]
    let echo : Bytes := [0xCC, 0x01, 0x1A, 0x7A, 0x70, 0, 0, 0, 1, 0x7A, 0x70, 0, 0, 0, 2,
      0, 2, 0, 0, 0, 0x42, 0, 0, 2, 0, 0, 0x03, 0x04]
    Exchange packet [reply, echo] ∧ Inert reply ∧ Inert echo := by
  intro packet reply echo
  let first : Responder := ⟨⟨⟨0x7A70, 1, by decide⟩, ⟨0, 0⟩, ⟨0, 1⟩, {}⟩, {}⟩
  let second : Responder := ⟨⟨⟨0x7A70, 2, by decide⟩, ⟨0, 0⟩, ⟨0, 1⟩, {}⟩, {}⟩
  let line : Transport Unit := fun _ => .ok ()
  have replied : Evokes packet reply := ⟨Unit, line, first,
    ⟨true, [reply.take 24, [0, 0], [0x03, 0x03]]⟩, by decide, rfl⟩
  have echoed : Evokes reply echo := ⟨Unit, line, second,
    ⟨true, [echo.take 24, [0, 0], [0x03, 0x04]]⟩, by decide, rfl⟩
  have exchange : Exchange packet [reply, echo] :=
    .answered replied (.answered echoed (.quiet echo))
  obtain ⟨_, inert, _⟩ := exchange_ends exchange
  exact ⟨exchange, inert reply (by simp), inert echo (by simp)⟩

end Packet

end Rdm
