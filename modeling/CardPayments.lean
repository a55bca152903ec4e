import CardPayments.Main
import CardPayments.Network.Directory
import CardPayments.Proofs.Alone.Reverse
import CardPayments.Proofs.Capture.Failures
import CardPayments.Proofs.Card.CheckDigit
import CardPayments.Proofs.Csv.Amounts
import CardPayments.Proofs.Csv.Columns
import CardPayments.Proofs.Csv.Outcomes
import CardPayments.Proofs.Csv.Skipped
import CardPayments.Proofs.Decimal.Shown
import CardPayments.Proofs.Delivery.Runs
import CardPayments.Proofs.Intake.Kept
import CardPayments.Proofs.Isolation.Runs
import CardPayments.Proofs.Mirror.Requests
import CardPayments.Proofs.Overflow.Captures
import CardPayments.Proofs.Replay.Simulation
import CardPayments.Proofs.Risk.Assessment
import CardPayments.Proofs.Secrecy.Replay
import CardPayments.Proofs.Sequence.Retries
import CardPayments.Proofs.Service.Resubmission
import CardPayments.Proofs.Settlement.Contention
import CardPayments.Proofs.Settlement.Overtaking
import CardPayments.Proofs.Settlement.Prefetched
import CardPayments.Proofs.Settlement.Restored
import CardPayments.Proofs.Trace.Closing
import CardPayments.Proofs.Wire.Origin
