import Rdm.Bytes

/-! What goes on the bus at once: some spans in order, after a break or without one.
Framing on the line, timing and gaps are the transport's own affair. -/
namespace Rdm

structure Transmission where
  withBreak : Bool
  spans : List Bytes
  deriving DecidableEq, Repr

/-- How the line takes a transmission: it is sent, or fails for a reason of the line. -/
abbrev Transport (ε : Type) := Transmission → Except ε Unit

namespace Transmission

def bytes (transmission : Transmission) : Bytes :=
  transmission.spans.flatten

end Transmission

end Rdm
