import Secrets.Lib.Effects
import Secrets.Lib.Tables
import Secrets.EnvelopeBinding
import Secrets.Refinement
import Secrets.Commit
import Secrets.Rotation
import Secrets.WriteBinding
import Secrets.Wire
import Secrets.Router
import Secrets.Ownership
import Secrets.TenantCalls
import Secrets.BatchIntegrity
import Secrets.TenantIsolation
import Secrets.Answers
import Secrets.AuditLedger
import Secrets.Client
import Secrets.NamedOwners
import Secrets.OwnerView
import Secrets.Remote
import Secrets.RemoteAgreement
import Secrets.RemoteSerial
import Secrets.Addresses
import Secrets.Config
import Secrets.Federation
import Secrets.Local
import Secrets.LocalCommands
import Secrets.PutWhole
import Secrets.Keychain
import Secrets.FileChanges
import Secrets.FileMirror
import Secrets.FileRaces
import Secrets.KeychainMap
import Secrets.KeychainRename
import Secrets.Deployment
import Secrets.KeyCodecs
import Secrets.KeychainEntries
import Secrets.Lib.Rules
import Secrets.NameRules
import Secrets.BatchPayload
import Secrets.OutFile
import Secrets.BatchPaths
import Secrets.Availability
import Secrets.CommandEnds
import Secrets.FailedCommands
import Secrets.FederatedRaces
import Secrets.FederatedMap
import Secrets.BatchLifecycle
import Secrets.RecordOutcomes
import Secrets.LocalSilence
import Secrets.KeychainVersions
