import Rdm.Packet.Basic
import Rdm.Packet.Pid

/-! The payload of a response. It is short enough by construction, so that a response
with it always fits one packet. -/
namespace Rdm

def ParameterData.maxLength : Nat := 231

structure ParameterData where
  bytes : Bytes
  length_le : bytes.length ≤ ParameterData.maxLength
  deriving DecidableEq, Repr

namespace ParameterData

/-- Identifiers take two bytes each, so this many fit one response. -/
def maxPids : Nat := maxLength / 2

def empty : ParameterData := ⟨[], by decide⟩

def ofBytes? (bytes : Bytes) : Option ParameterData :=
  if h : bytes.length ≤ maxLength then some ⟨bytes, h⟩ else none

def ofPids? (pids : List Pid) : Option ParameterData :=
  if pids.length ≤ maxPids then ofBytes? (pids.flatMap fun pid => Bytes.ofNat 2 pid.toNat)
  else none

theorem ofBytes?_eq_some {bytes : Bytes} (h : bytes.length ≤ maxLength) :
    ofBytes? bytes = some ⟨bytes, h⟩ := by
  simp [ofBytes?, h]

end ParameterData

end Rdm
