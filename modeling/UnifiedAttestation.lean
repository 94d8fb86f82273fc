import UnifiedAttestation.Shrubs.Membership
import UnifiedAttestation.Shrubs.Collisions
import UnifiedAttestation.Shrubs.Words
import UnifiedAttestation.Toolkit.Commitments
import UnifiedAttestation.Toolkit.Metered
import UnifiedAttestation.Attester.Dispatch
import UnifiedAttestation.RelyingParty.Soundness
import UnifiedAttestation.RelyingParty.Acceptance
import UnifiedAttestation.RelyingParty.Windows
import UnifiedAttestation.RelyingParty.Cache
import UnifiedAttestation.Protocol.Sessions
import UnifiedAttestation.Protocol.Encodings
import UnifiedAttestation.Grpc.Influence
import UnifiedAttestation.Grpc.Registry
import UnifiedAttestation.Grpc.ChipIds
import UnifiedAttestation.Grpc.ConfigIds
import UnifiedAttestation.Grpc.CcaPolicy
import UnifiedAttestation.Eventlog.Totality
import UnifiedAttestation.Eventlog.Completeness
import UnifiedAttestation.Ima.Coverage
import UnifiedAttestation.Virtcca.Challenges
import UnifiedAttestation.Csv.Mask
import UnifiedAttestation.Csv.CertPaths
import UnifiedAttestation.Protocol.Network
import UnifiedAttestation.Protocol.Provenance
import UnifiedAttestation.Itrustee.Binding
import UnifiedAttestation.TeeEvidence.Firmware
import UnifiedAttestation.Verifier.Progress
import UnifiedAttestation.Contracts.DeviceVCRecord
import UnifiedAttestation.Grpc.TdxAcceptance
