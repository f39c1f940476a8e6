import EosChain.Spec.Types
import EosChain.Spec.Storage
import EosChain.Spec.ForkDatabase
import EosChain.Spec.State
import EosChain.Spec.Finalize
import EosChain.Spec.Authorization
import EosChain.Spec.Apply
import EosChain.Spec.Pending
import EosChain.Spec.PushBlock
import EosChain.Spec.Controller
import EosChain.Proofs.Monad
import EosChain.Proofs.Frame
import EosChain.Proofs.Traversal
import EosChain.Proofs.Chain
import EosChain.Proofs.Runs
import EosChain.Proofs.Calls
import EosChain.Proofs.PopBlock
import EosChain.Proofs.Forks
import EosChain.Proofs.Producer
import EosChain.Proofs.Irreversible
import EosChain.Proofs.Schedule
import EosChain.Proofs.Atomicity
import EosChain.Proofs.RequiredKeys
import EosChain.Proofs.Bounds
import EosChain.Proofs.Skip
import EosChain.Proofs.Slots
import EosChain.Proofs.Participation
import EosChain.Proofs.Branches
import EosChain.Proofs.Head
import EosChain.Proofs.Speculative
import EosChain.Proofs.Log
import EosChain.Proofs.Produce
import EosChain.Proofs.Quorum
import EosChain.Proofs.Undo
import EosChain.Proofs.Bandwidth
import EosChain.Proofs.Shards
import EosChain.Proofs.Rollback
