import Mathlib.Data.List.Forall2
import Rdm.Proofs.Answering
import Rdm.Run

/-! A request names its sender and is numbered by it. A device looks at neither before
it writes a response, so requests for the same have the same effect, whoever sends them
and however they are numbered (`Responder.turn_alike`). In two conversations that ask
for the same at each place, answers differ only in whom they are for and in the number
they hand back. -/
namespace Rdm

structure Asker where
  source : Uid
  transaction : UInt8
  portId : UInt8
  messageCount : UInt8
  deriving DecidableEq, Repr

namespace Request

def askedBy (request : Request) (asker : Asker) : Request :=
  { request with
    source := asker.source
    transaction := asker.transaction
    portId := asker.portId
    messageCount := asker.messageCount }

/-- Two requests to the same address for the same. -/
structure SameDemand (first second : Request) : Prop where
  destination : first.destination = second.destination
  subDevice : first.subDevice = second.subDevice
  commandClass : first.commandClass = second.commandClass
  pid : first.pid = second.pid
  parameterData : first.parameterData = second.parameterData

theorem sameDemand_iff {first second : Request} :
    first.SameDemand second ↔ ∃ asker, second = first.askedBy asker := by
  constructor
  · intro same
    refine ⟨⟨second.source, second.transaction, second.portId, second.messageCount⟩, ?_⟩
    rw [askedBy, same.destination, same.subDevice, same.commandClass, same.pid,
      same.parameterData]
  · rintro ⟨asker, rfl⟩
    exact ⟨rfl, rfl, rfl, rfl, rfl⟩

end Request

def Response.addressedTo (response : Response) (request : Request) : Response :=
  { response with
    destination := request.source
    transaction := request.transaction }

/-- Answers to two requests that are one answer but for whom a response goes to. -/
inductive Answer.Alike (first second : Request) : Answer → Answer → Prop where
  | response (response : Response) :
      Alike first second (.response (response.addressedTo first))
        (.response (response.addressedTo second))
  | discovery (frame : Discovery.Frame) : Alike first second (.discovery frame) (.discovery frame)
  | nothing : Alike first second .nothing .nothing

variable {request : Request} {asker : Asker}

theorem Answer.alike_ofFrame? (found : Option Discovery.Frame) :
    Alike request (request.askedBy asker) (ofFrame? found) (ofFrame? found) := by
  cases found with
  | none => exact .nothing
  | some frame => exact .discovery frame

theorem Answer.alike_ofOutcome (own : Uid) (outcome : Outcome) :
    Alike request (request.askedBy asker)
      (ofOutcome request (request.destination.classify own) outcome)
      (ofOutcome (request.askedBy asker) (request.destination.classify own) outcome) := by
  by_cases device : request.destination = .device own
  · have again : ofOutcome (request.askedBy asker) (request.destination.classify own) outcome = _ :=
      ofOutcome_of_device device
    rw [ofOutcome_of_device device, again]
    cases outcome with
    | acknowledged data => exact .response (request.mirror own .ack data)
    | refused reason =>
      exact .response (request.mirror own .nackReason reason.parameterData)
    | silent => exact .nothing
  · have again : ofOutcome (request.askedBy asker) (request.destination.classify own) outcome = _ :=
      ofOutcome_of_ne_device device
    rw [ofOutcome_of_ne_device device, again]
    exact .nothing

/-- What is done for a request is settled without its sender. -/
theorem Parameter.dispatch_askedBy (config : Config) (state : State) :
    dispatch config state (request.askedBy asker) = dispatch config state request :=
  rfl

theorem Discovery.setMuted_askedBy (muted : Bool) (config : Config) (state : State) :
    setMuted muted config state (request.askedBy asker) = setMuted muted config state request :=
  rfl

theorem Discovery.search_askedBy (uid : Uid) (state : State) :
    search uid state (request.askedBy asker) = search uid state request :=
  rfl

/-- Requests for the same that are handled the same. Only the record of a response that goes by
names its sender. -/
structure Turn.Alike (first second : Turn) : Prop where
  demand : first.request.SameDemand second.request
  next : first.reaction.next = second.reaction.next
  pinCalls : pinCalls first.reaction.events = pinCalls second.reaction.events
  events : first.request.commandClass.isResponse = false →
    first.reaction.events = second.reaction.events
  answer : Answer.Alike first.request second.request first.reaction.result second.reaction.result

namespace Responder

theorem turn_askedBy (responder : Responder) (request : Request) (asker : Asker) :
    (responder.turn request).Alike (responder.turn (request.askedBy asker)) := by
  have demand : request.SameDemand (request.askedBy asker) :=
    Request.sameDemand_iff.2 ⟨asker, rfl⟩
  have reached (act : request.destination.requiresAction responder.uid = true) :
      (request.askedBy asker).destination.requiresAction responder.uid = true := act
  rw [turn, turn]
  cases responder.handling request with
  | elsewhere act handled =>
    have ignored : responder.handleRequest (request.askedBy asker) = _ :=
      handleRequest_of_elsewhere act
    rw [handled, ignored]
    exact ⟨demand, rfl, rfl, fun _ => rfl, .nothing⟩
  | response act isResponse handled =>
    have ignored : responder.handleRequest (request.askedBy asker) = _ :=
      handleRequest_of_isResponse (reached act) isResponse
    rw [handled, ignored]
    refine ⟨demand, rfl, rfl, fun isRequest => ?_, .nothing⟩
    exact absurd (isResponse.symm.trans isRequest) (by decide)
  | search act discovery pid handled =>
    have searched : responder.discover (request.askedBy asker) = _ := discover_of_search pid
    rw [handled, handleRequest_of_discovery (reached act) discovery, searched,
      Discovery.search_askedBy]
    exact ⟨demand, rfl, rfl, fun _ => rfl, Answer.alike_ofFrame? _⟩
  | muting act discovery muted pid handled =>
    have set : responder.discover (request.askedBy asker) = _ := discover_of_muting pid
    rw [handled, handleRequest_of_discovery (reached act) discovery, set,
      Discovery.setMuted_askedBy]
    exact ⟨demand, rfl, rfl, fun _ => rfl, Answer.alike_ofOutcome responder.uid _⟩
  | unknownDiscovery act discovery search mute unMute handled =>
    have ignored : responder.discover (request.askedBy asker) = _ :=
      discover_of_other search mute unMute
    rw [handled, handleRequest_of_discovery (reached act) discovery, ignored]
    exact ⟨demand, rfl, rfl, fun _ => rfl, .nothing⟩
  | parameter act isResponse other handled =>
    rw [handled, handleRequest_of_parameter (reached act) isResponse other,
      Parameter.dispatch_askedBy]
    exact ⟨demand, rfl, rfl, fun _ => rfl, Answer.alike_ofOutcome responder.uid _⟩

theorem turn_alike {first second : Request} (same : first.SameDemand second)
    (responder : Responder) :
    (responder.turn first).Alike (responder.turn second) := by
  obtain ⟨asker, rfl⟩ := Request.sameDemand_iff.1 same
  exact responder.turn_askedBy first asker

/-- Two conversations that ask for the same at each place, whoever asks and however the
requests are numbered: at each place the device is left the same and makes the same pin calls,
and the answers are one answer but for the receiver and the number of a response. -/
theorem handled_alike_whoever_asks {first second : List Request}
    (same : List.Forall₂ Request.SameDemand first second) (responder : Responder) :
    List.Forall₂ Turn.Alike (responder.conversation first)
      (responder.conversation second) := by
  induction same generalizing responder with
  | nil => exact .nil
  | cons demand _ ih =>
    have alike := responder.turn_alike demand
    refine .cons alike ?_
    rw [alike.next]
    exact ih _

/-- A device is muted, told to identify itself and asked whether it does, by one controller
alone or by three in turn. -/
theorem handled_alike_whoever_asks_in_turn :
    let responder : Responder := ⟨⟨⟨0x7A70, 1, by decide⟩, ⟨0, 0⟩, ⟨0, 1⟩, {}⟩, {}⟩
    let ask (transaction : UInt8) (commandClass : CommandClass) (pid : Pid) (data : Bytes) :
        Request :=
      ⟨.device responder.uid, ⟨0x7A70, 2, by decide⟩, transaction, 1, 0, 0, commandClass, pid,
        data⟩
    let mute := ask 0 .discovery .discMute []
    let identify := ask 1 .set .identifyDevice [1]
    let read := ask 2 .get .identifyDevice []
    let last := read.askedBy ⟨⟨0x0001, 9, by decide⟩, 255, 1, 9⟩
    let alone := responder.conversation [mute, identify, read]
    let inTurn := responder.conversation [mute.askedBy ⟨⟨0x7A70, 3, by decide⟩, 7, 2, 1⟩,
      identify.askedBy ⟨⟨0x7A70, 4, by decide⟩, 7, 1, 0⟩, last]
    List.Forall₂ Turn.Alike alone inTurn ∧
      (inTurn.map fun turn => turn.reaction.next.state) =
        [⟨true, false⟩, ⟨true, true⟩, ⟨true, true⟩] ∧
      (inTurn.map fun turn => pinCalls turn.reaction.events) =
        [[⟨⟨0, 1⟩, .low⟩], [⟨⟨0, 0⟩, .high⟩], []] ∧
      (inTurn.map fun turn => turn.reaction.result).getLast? =
        some (.response (last.mirror responder.uid .ack ⟨[1], by decide⟩)) := by
  intro responder ask mute identify read last alone inTurn
  have demand (request : Request) (asker : Asker) : request.SameDemand (request.askedBy asker) :=
    Request.sameDemand_iff.2 ⟨asker, rfl⟩
  refine ⟨handled_alike_whoever_asks ?_ responder, rfl, rfl, rfl⟩
  exact .cons (demand _ _) (.cons (demand _ _) (.cons (demand _ _) .nil))

end Responder

end Rdm
