import Rdm.Hexadecimal

/-! The identifiers of the standard that a responder meets, and those among them that
every responder supports without listing them. -/
namespace Rdm

abbrev Pid := UInt16

namespace Pid

def discUniqueBranch : Pid := 0x0001

def discMute : Pid := 0x0002

def discUnMute : Pid := 0x0003

def supportedParameters : Pid := 0x0050

def parameterDescription : Pid := 0x0051

def deviceInfo : Pid := 0x0060

def deviceModelDescription : Pid := 0x0080

def manufacturerLabel : Pid := 0x0081

def softwareVersionLabel : Pid := 0x00C0

def dmxStartAddress : Pid := 0x00F0

def identifyDevice : Pid := 0x1000

/-- Supported by every responder, so never part of a list of supported parameters. -/
def mandatory : List Pid :=
  [discUniqueBranch, discMute, discUnMute, supportedParameters, parameterDescription,
    deviceInfo, softwareVersionLabel, dmxStartAddress, identifyDevice]

def text (pid : Pid) : String :=
  "0x" ++ Hexadecimal.text 4 pid.toNat

theorem discovery_cases (pid : Pid) :
    pid = .discUniqueBranch ∨ (∃ muted : Bool, pid = if muted then .discMute else .discUnMute) ∨
      (pid ≠ .discUniqueBranch ∧ pid ≠ .discMute ∧ pid ≠ .discUnMute) := by
  by_cases search : pid = .discUniqueBranch
  · exact .inl search
  by_cases mute : pid = .discMute
  · exact .inr (.inl ⟨true, mute⟩)
  by_cases unMute : pid = .discUnMute
  · exact .inr (.inl ⟨false, unMute⟩)
  exact .inr (.inr ⟨search, mute, unMute⟩)

end Pid

end Rdm
