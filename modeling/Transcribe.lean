import Transcribe.Lib.Resumption
import Transcribe.Lib.EventSystem
import Transcribe.Lib.Binary64
import Transcribe.Lib.TtlStore
import Transcribe.Lib.Lease
import Transcribe.Lib.CountingLog
import Transcribe.Model.Schemas
import Transcribe.Model.Redis
import Transcribe.Model.Orchestrator
import Transcribe.Model.Service
import Transcribe.Proof.Protocol
import Transcribe.Proof.Outcome
import Transcribe.Proof.Backend
import Transcribe.Model.Sample
import Transcribe.Proof.Steps
import Transcribe.Proof.Regression
import Transcribe.Proof.LogComplete
import Transcribe.Proof.Acks
import Transcribe.Lib.Sequencer
import Transcribe.Proof.Ordered
import Transcribe.Proof.Healthy
import Transcribe.Model.Client
import Transcribe.Proof.Retry
import Transcribe.Proof.Saturation
import Transcribe.Proof.Completion
import Transcribe.Model.Scope
import Transcribe.Proof.Paths
import Transcribe.Model.Session
import Transcribe.Model.Handshake
import Transcribe.Model.Cluster
import Transcribe.Model.Dialogue
import Transcribe.Proof.Mediation
import Transcribe.Proof.Identity
import Transcribe.Proof.Release
import Transcribe.Proof.Cluster
import Transcribe.Proof.StaleRefresh
import Transcribe.Proof.Owner
import Transcribe.Proof.Conduct
import Transcribe.Proof.Transcript
import Transcribe.Proof.Confinement
import Transcribe.Proof.Exclusion
import Transcribe.Model.Documents
import Transcribe.Proof.RoundTrip
import Transcribe.Model.Settings
import Transcribe.Proof.KeyFamilies
import Transcribe.Lib.Dict
import Transcribe.Model.Secrets
import Transcribe.Proof.Deployed
import Transcribe.Proof.Layers
import Transcribe.Model.Scripts
import Transcribe.Proof.Scripts
import Transcribe.Model.Producer
import Transcribe.Proof.Producer
import Transcribe.Model.Registry
import Transcribe.Proof.Registry
import Transcribe.Model.Instance
import Transcribe.Proof.Seats
import Transcribe.Lib.Sections
import Transcribe.Proof.Instance
import Transcribe.Proof.Limit
import Transcribe.Proof.Drain
import Transcribe.Model.SlowMessages
import Transcribe.Proof.SlowMessages
import Transcribe.Model.UrlPrefix
import Transcribe.Proof.UrlPrefix
import Transcribe.Model.Configuration
import Transcribe.Lib.Partition
import Transcribe.Lib.Lock
import Transcribe.Lib.Replace
import Transcribe.Model.RedisUrl
import Transcribe.Proof.RedisUrl
import Transcribe.Model.Validation
import Transcribe.Proof.Validation
import Transcribe.Proof.ContractTypes
import Transcribe.Model.Auth
import Transcribe.Proof.Frames
import Transcribe.Proof.Leased
import Transcribe.Proof.Epochs
import Transcribe.Proof.ExactlyOnce
import Transcribe.Proof.Tenure
import Transcribe.Model.Process
import Transcribe.Model.TokenProvider
import Transcribe.Proof.Process
import Transcribe.Proof.Lifecycle
import Transcribe.Proof.TokenProvider
import Transcribe.Model.SecretSync
import Transcribe.Proof.SecretSync
import Transcribe.Model.RedactText
import Transcribe.Model.Wiring
import Transcribe.Proof.RedactText
import Transcribe.Proof.Settings
import Transcribe.Proof.Configuration
import Transcribe.Proof.Wiring
import Transcribe.Proof.Bearer
