/-! The class of a packet tells requests from responses. Codes outside the standard are
kept, so that requests with such a code can still be refused. -/
namespace Rdm

inductive CommandClass where
  | discovery
  | discoveryResponse
  | get
  | getResponse
  | set
  | setResponse
  | unknown (code : UInt8)
  deriving DecidableEq, Repr

namespace CommandClass

def ofCode : UInt8 → CommandClass
  | 0x10 => discovery
  | 0x11 => discoveryResponse
  | 0x20 => get
  | 0x21 => getResponse
  | 0x30 => set
  | 0x31 => setResponse
  | code => unknown code

def code : CommandClass → UInt8
  | discovery => 0x10
  | discoveryResponse => 0x11
  | get => 0x20
  | getResponse => 0x21
  | set => 0x30
  | setResponse => 0x31
  | unknown code => code

/-- The class of the answer to a request: the next code, zero after the last. -/
def response (c : CommandClass) : CommandClass :=
  ofCode (c.code + 1)

def isResponse : CommandClass → Bool
  | discoveryResponse | getResponse | setResponse => true
  | _ => false

def name : CommandClass → String
  | discovery => "DiscoveryCommand"
  | discoveryResponse => "DiscoveryCommandResponse"
  | get => "GetCommand"
  | getResponse => "GetCommandResponse"
  | set => "SetCommand"
  | setResponse => "SetCommandResponse"
  | unknown code => "Unknown(" ++ code.toNat.repr ++ ")"

@[simp] theorem code_ofCode (code : UInt8) : (ofCode code).code = code := by
  unfold ofCode
  split <;> rfl

theorem code_response (c : CommandClass) : c.response.code = c.code + 1 :=
  code_ofCode _

theorem ofCode_code_response (c : CommandClass) : ofCode c.response.code = c.response := by
  rw [response, code_ofCode]

theorem isResponse_eq_false_iff {c : CommandClass} :
    c.isResponse = false ↔ c ∉ [discoveryResponse, getResponse, setResponse] := by
  cases c <;> simp [isResponse]

theorem isResponse_ofCode_iff {code : UInt8} :
    (ofCode code).isResponse = true ↔ code = 0x11 ∨ code = 0x21 ∨ code = 0x31 := by
  unfold ofCode
  split <;> simp_all [isResponse]

theorem ofCode_eq_discovery_iff {code : UInt8} : ofCode code = .discovery ↔ code = 0x10 := by
  unfold ofCode
  split <;> simp_all

/-- Only an answer to one of the three standard requests shows by its class that it is one. -/
theorem isResponse_response_iff {c : CommandClass} :
    c.response.isResponse = true ↔ c.code ∈ [0x10, 0x20, 0x30] := by
  have next (code : UInt8) : c.code + 1 = code + 1 ↔ c.code = code := UInt8.add_left_inj 1
  rw [response, isResponse_ofCode_iff]
  simpa using or_congr (next 0x10) (or_congr (next 0x20) (next 0x30))

theorem response_eq_discovery_iff {c : CommandClass} : c.response = .discovery ↔ c.code = 0x0F := by
  have next : c.code + 1 = 0x0F + 1 ↔ c.code = 0x0F := UInt8.add_left_inj 1
  rw [response, ofCode_eq_discovery_iff]
  exact next

end CommandClass

end Rdm
