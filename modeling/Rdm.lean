import Rdm.Proofs.RoundTrip
import Rdm.Run
import Rdm.Proofs.Answering
import Rdm.Proofs.Command
import Rdm.Proofs.Echo
import Rdm.Proofs.History
import Rdm.Proofs.Indicators
import Rdm.Proofs.Bus
import Rdm.Proofs.Reply
import Rdm.Proofs.Grammar
import Rdm.Proofs.Canonical
import Rdm.Proofs.Addressing
import Rdm.Proofs.Restart
import Rdm.Proofs.Repetition
import Rdm.Proofs.Delivery
import Rdm.Proofs.Independence
import Rdm.Proofs.Refusal
import Rdm.Proofs.Advertising
import Rdm.Proofs.FrameCode
import Rdm.Proofs.Asker
import Rdm.Proofs.AddressForms
import Rdm.Proofs.Corruption
import Rdm.Proofs.Description
import Rdm.Proofs.MutePayload
import Rdm.Proofs.PieceSums
