import Readout.Proofs.Accounting
import Readout.Proofs.Casing
import Readout.Proofs.Conservation
import Readout.Proofs.Construction
import Readout.Proofs.Decoding
import Readout.Proofs.Description
import Readout.Proofs.Encoding
import Readout.Proofs.Faults
import Readout.Proofs.Gathering
import Readout.Proofs.Isolation
import Readout.Proofs.Joining
import Readout.Proofs.Lettering
import Readout.Proofs.Lockstep
import Readout.Proofs.Losses
import Readout.Proofs.Overwriting
import Readout.Proofs.Peak
import Readout.Proofs.Precedence
import Readout.Proofs.Progress
import Readout.Proofs.Recent
import Readout.Proofs.Resumption
import Readout.Proofs.Uncut
import Readout.Proofs.Validation
