import AttestedPayments.Main
import AttestedPayments.Proofs.Certificate.Policies
import AttestedPayments.Proofs.CommandLine.Validation
import AttestedPayments.Proofs.Envelope.Coverage
import AttestedPayments.Proofs.Envelope.Exactness
import AttestedPayments.Proofs.Envelope.Metadata
import AttestedPayments.Proofs.Envelope.RoundTrip
import AttestedPayments.Proofs.Exchange.Acknowledgement
import AttestedPayments.Proofs.Exchange.Addresses
import AttestedPayments.Proofs.Exchange.Binding
import AttestedPayments.Proofs.Exchange.Completeness
import AttestedPayments.Proofs.Exchange.Independence
import AttestedPayments.Proofs.Exchange.Placement
import AttestedPayments.Proofs.Exchange.Preservation
import AttestedPayments.Proofs.Exchange.Primaries
import AttestedPayments.Proofs.Exchange.Requirements
import AttestedPayments.Proofs.Exchange.Separation
import AttestedPayments.Proofs.Exchange.Stability
import AttestedPayments.Proofs.Exchange.Status
import AttestedPayments.Proofs.Exchange.Verdicts
import AttestedPayments.Proofs.Key.Generation
import AttestedPayments.Proofs.Trust.Order
import AttestedPayments.Proofs.Trust.Store
