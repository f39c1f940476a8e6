import Mathlib.Data.List.Basic

/-!
# `EosChain.Spec.Types`: the data the chain controller reads and writes

The records of `chain_controller.cpp`: names and ids, transactions and their traces,
blocks with their region, cycle and shard summaries, producer schedules, and the
objects of the versioned store that the controller touches. Machine names and digests
are `Nat`; a `block_id_type` keeps its block number apart from its hash, as
`block_header::num_from_id` reads it.

The constants of `config.hpp` are not under `src/`, so they enter as the fields of
`Config`. The collaborators the controller calls but whose code is not under `src/`
(hashing, Merkle roots, signatures, the contract sandbox behind `apply_context`) enter
as the fields of `Env`. Every definition of the model takes an `Env`; the theorems hold
for every one of them unless a hypothesis says otherwise.
-/

set_option autoImplicit false

namespace EosChain

/-- `account_name` and the other 64-bit names of `eosiolib/types.h`. -/
abbrev AccountName := Nat
/-- `scope_name`. -/
abbrev ScopeName := Nat
/-- `action_name`. -/
abbrev ActionName := Nat
/-- `permission_name`. -/
abbrev PermissionName := Nat
/-- A `sha256`: `digest_type`, `checksum_type`, `transaction_id_type`. -/
abbrev Digest := Nat
/-- `public_key_type`. -/
abbrev PublicKey := Nat
/-- `private_key_type`. -/
abbrev PrivateKey := Nat
/-- `fc::time_point`, in microseconds. -/
abbrev TimePoint := Nat

/-- `block_id_type`: the header hash with the block number in its first 32 bits. The
all-zero id `block_id_type()` is the `previous` of block 1. -/
structure BlockId where
  num : Nat
  hash : Digest
deriving DecidableEq, Repr, Inhabited

/-! ### Constants -/

/-- The consensus constants of `config.hpp` and `block_timestamp.hpp`. -/
structure Config where
  blocksPerRound : Nat
  producerRepititions : Nat
  producerCount : Nat
  percent100 : Nat
  irreversibleThresholdPercent : Nat
  blockIntervalMs : Nat
  blockTimestampEpochMs : Nat
  producersAuthorityThreshold : Nat
  fixedBandwidthOverheadPerTransaction : Nat
  eosioAllScope : ScopeName
  eosioAuthScope : ScopeName
  producersAccountName : AccountName
  activeName : PermissionName

/-- The number of values of `uint16_t`. -/
def uint16Modulus : Nat := Nat.pow 2 16

/-- The number of values of `uint32_t`. -/
def uint32Modulus : Nat := Nat.pow 2 32

/-- The number of values of `uint64_t`. -/
def uint64Modulus : Nat := Nat.pow 2 64

/-- The skip flags of `chain_controller::validation_steps`, one bit each; `~0` sets
them all. Their values are in the header, which is not under `src/`: any distinct bits
do, and these follow the order in which the spec lists the flags. -/
def skipProducerSignature : Nat := 1
def skipTransactionSignatures : Nat := 2
def skipTransactionDupeCheck : Nat := 4
def skipForkDb : Nat := 8
def skipTaposCheck : Nat := 16
def skipAuthorityCheck : Nat := 32
def skipMerkleCheck : Nat := 64
def skipProducerScheduleCheck : Nat := 128
def skipScopeCheck : Nat := 256
def receivedBlock : Nat := 512

/-- `uint32_t(~0)`. -/
def skipEverything : Nat := uint32Modulus - 1

/-- `skip & flag` is nonzero. -/
def hasFlag (skip flag : Nat) : Bool := skip &&& flag != 0

/-! ### Transactions and traces -/

/-- `permission_level`. -/
structure PermissionLevel where
  actor : AccountName
  permission : PermissionName
deriving DecidableEq, Repr

/-- `action`. -/
structure Action where
  scope : AccountName
  name : ActionName
  authorization : List PermissionLevel
  data : List Nat
deriving DecidableEq, Repr

/-- `transaction`; `expiration` is a `time_point_sec`. -/
structure Transaction where
  expiration : Nat
  refBlockNum : Nat
  refBlockPrefix : Nat
  readScope : List ScopeName
  writeScope : List ScopeName
  actions : List Action
deriving DecidableEq, Repr

/-- `signed_transaction`. -/
structure SignedTransaction extends Transaction where
  signatures : List Nat
deriving DecidableEq, Repr

/-- `deferred_transaction`: a transaction a contract schedules for later. -/
structure DeferredTransaction extends Transaction where
  senderId : Nat
  sender : AccountName
  executeAfter : Nat
deriving DecidableEq, Repr

/-- `action_trace`, with the fields that enter a shard root. `console` is only printed
by `_apply_cycle_trace` and is left out. -/
structure ActionTrace where
  receiver : AccountName
  act : Action
  regionId : Nat
  cycleIndex : Nat
  dataAccess : List Nat
deriving DecidableEq, Repr

/-- `transaction_trace`. -/
structure TransactionTrace where
  id : Digest
  actionTraces : List ActionTrace
  deferredTransactions : List DeferredTransaction
deriving DecidableEq, Repr

/-- `shard_trace`. -/
structure ShardTrace where
  transactionTraces : List TransactionTrace
  shardRoot : Digest
deriving DecidableEq, Repr

/-- `cycle_trace`. -/
structure CycleTrace where
  shardTraces : List ShardTrace
deriving DecidableEq, Repr

/-- `region_trace`. -/
structure RegionTrace where
  cycleTraces : List CycleTrace
deriving DecidableEq, Repr

/-! ### Blocks -/

/-- `transaction_receipt::status_enum`. -/
inductive ReceiptStatus where
  | executed
  | softFail
  | hardFail
  | delayed
deriving DecidableEq, Repr

/-- `transaction_receipt`. -/
structure TransactionReceipt where
  status : ReceiptStatus
  id : Digest
deriving DecidableEq, Repr

/-- A shard of a cycle summary: its receipts in order. -/
abbrev ShardSummary := List TransactionReceipt
/-- A cycle of a region: its shards in order. -/
abbrev CycleSummary := List ShardSummary

/-- `region_summary`. -/
structure RegionSummary where
  region : Nat
  cyclesSummary : List CycleSummary
deriving DecidableEq, Repr

/-- `producer_key`. -/
structure ProducerKey where
  producerName : AccountName
  blockSigningKey : PublicKey
deriving DecidableEq, Repr

/-- `producer_schedule_type`. -/
structure ProducerScheduleType where
  version : Nat
  producers : List ProducerKey
deriving DecidableEq, Repr

/-- `block_header`. -/
structure BlockHeader where
  previous : BlockId
  timestamp : Nat
  producer : AccountName
  transactionMroot : Digest
  actionMroot : Digest
  blockMroot : Digest
  newProducers : Option ProducerScheduleType
deriving DecidableEq, Repr

/-- `signed_block_header`. -/
structure SignedBlockHeader extends BlockHeader where
  producerSignature : Nat
deriving DecidableEq, Repr

/-- `signed_block`. -/
structure SignedBlock extends SignedBlockHeader where
  regions : List RegionSummary
  inputTransactions : List SignedTransaction
deriving DecidableEq, Repr

/-- `block_header::block_num`: one above the number carried by `previous`. -/
def SignedBlock.blockNum (b : SignedBlock) : Nat := b.previous.num + 1

/-- `block_trace`: the block and the traces of its regions. -/
structure BlockTrace where
  block : SignedBlock
  regionTraces : List RegionTrace

/-! ### Objects of the versioned store -/

/-- `chain_config`, the part the controller reads. -/
structure ChainConfig where
  maxAuthorityDepth : Nat
  maxTransactionLifetime : Nat
deriving DecidableEq, Repr

/-- `global_property_object`. -/
structure GlobalPropertyObject where
  configuration : ChainConfig
  activeProducers : ProducerScheduleType
  pendingActiveProducers : List (Nat × ProducerScheduleType)
deriving DecidableEq, Repr

/-- `dynamic_global_property_object`. `blockMerkleRoot` is the `incremental_merkle` of
the head ids, kept as the list of ids appended to it. `recentSlotsFilled` is a
`uint64_t`. -/
structure DynamicGlobalPropertyObject where
  headBlockNumber : Nat
  headBlockId : BlockId
  time : TimePoint
  currentProducer : AccountName
  currentAbsoluteSlot : Nat
  recentSlotsFilled : Nat
  lastIrreversibleBlockNum : Nat
  blockMerkleRoot : List BlockId
deriving DecidableEq, Repr

/-- The fields of `producer_object` the controller maintains. `owner` and `signing_key`
are written by the producer contract and live in `ExtState.producers`. -/
structure ProducerStats where
  lastAslot : Nat
  lastConfirmedBlockNum : Nat
  totalMissed : Nat
deriving DecidableEq, Repr

/-- `producer_object`, as `get_producer` returns it. -/
structure ProducerObject where
  owner : AccountName
  signingKey : PublicKey
  lastAslot : Nat
  lastConfirmedBlockNum : Nat
  totalMissed : Nat
deriving DecidableEq, Repr

/-- `key_weight`. -/
structure KeyWeight where
  key : PublicKey
  weight : Nat
deriving DecidableEq, Repr

/-- `permission_level_weight`. -/
structure PermissionLevelWeight where
  permission : PermissionLevel
  weight : Nat
deriving DecidableEq, Repr

/-- `authority`. Wait weights are not read by the static check and are left out. -/
structure Authority where
  threshold : Nat
  keys : List KeyWeight
  accounts : List PermissionLevelWeight
deriving DecidableEq, Repr

/-- `permission_object`; `parent` names the parent permission of the same owner, and a
root permission names itself. -/
structure PermissionObject where
  owner : AccountName
  name : PermissionName
  parent : PermissionName
  auth : Authority
deriving DecidableEq, Repr

/-- `permission_link_object`: `(account, code, message_type) → required_permission`. -/
structure PermissionLinkObject where
  account : AccountName
  code : AccountName
  messageType : ActionName
  requiredPermission : PermissionName
deriving DecidableEq, Repr

/-- The tables written by contracts (native and user) and read by the controller:
accounts, permissions and their links, producer registrations, the producer vote index
in `by_votes` order, staked balances, bandwidth usage, and the contracts' own rows. -/
structure ExtState where
  accounts : List AccountName
  permissions : List PermissionObject
  permissionLinks : List PermissionLinkObject
  producers : List (AccountName × PublicKey)
  producerVotes : List AccountName
  stakedBalances : List AccountName
  bandwidthUsage : List (AccountName × Nat)
  tables : List Nat
deriving DecidableEq, Repr

/-- `generated_transaction_object`; `packedTrx` is the deferred transaction it packs. -/
structure GeneratedTransactionObject where
  trxId : Digest
  sender : AccountName
  senderId : Nat
  expiration : Nat
  delayUntil : Nat
  packedTrx : DeferredTransaction
deriving DecidableEq, Repr

/-- `transaction_object`: an entry of the dedup index. -/
structure TransactionObject where
  trxId : Digest
  expiration : Nat
deriving DecidableEq, Repr

/-- The objects of the versioned store that the controller touches. `blockSummaries` is
the ring of `0x10000` `block_summary_object`s by id. `chain` is a ghost field: the
blocks whose `update_global_dynamic_data` produced this state, oldest first. It is
written only where the head is written and is restored by undo with everything else,
so it names the chain ending at `head_block_id`. -/
structure Objects where
  gpo : GlobalPropertyObject
  dgpo : DynamicGlobalPropertyObject
  producerStats : AccountName → ProducerStats
  blockSummaries : Nat → BlockId
  transactions : List TransactionObject
  generatedTransactions : List GeneratedTransactionObject
  ext : ExtState
  chain : List SignedBlock

/-! ### Failures -/

/-- The exception types the controller raises or lets through. -/
inductive ExceptionKind where
  | assertException
  | blockValidateException
  | transactionException
  | txMissingSigs
  | txIrrelevantAuth
  | txIrrelevantSig
  | txDuplicate
  | popEmptyChain
  | unknownBlockException
  | unlinkableBlockException
  | keyNotFound
  | outOfRange
  | contractException
  | logicError
deriving DecidableEq, Repr

/-- How a call can end other than by returning: an `fc::exception` (which callers may
catch, and after which the node runs on), an `assert` or a use of an empty `optional`
(the process stops), or a loop that never ends. -/
inductive Failure where
  | exception (kind : ExceptionKind) (what : String)
  | abort (what : String)
  | hang
deriving DecidableEq, Repr

/-! ### Collaborators -/

/-- What `apply_context::exec` returns besides the new tables: `applied_actions` and
`generated_transactions`. -/
structure ApplyResults where
  appliedActions : List ActionTrace
  generatedTransactions : List DeferredTransaction

/-- The code the controller calls whose source is not under `src/`: the header hash,
transaction ids, Merkle roots, block signatures, signature recovery, the size of a
packed transaction, and the contract sandbox. `exec` reads and writes only the
contract-written tables. -/
structure Env where
  cfg : Config
  headerDigest : BlockHeader → Digest
  transactionId : Transaction → Digest
  merkle : List Digest → Digest
  blockMerkle : List BlockId → Digest
  actionDigest : ActionTrace → Digest
  validateSignee : SignedBlockHeader → PublicKey → Bool
  sign : SignedBlockHeader → PrivateKey → Nat
  getPublicKey : PrivateKey → PublicKey
  signatureKeys : SignedTransaction → List PublicKey
  bandwidthUsage : SignedTransaction → Nat
  exec : Transaction → Action → ExtState → Except Failure (ExtState × ApplyResults)

variable (env : Env)

/-- `block_header::id`: the header digest with the block number in front. -/
def SignedBlock.id (b : SignedBlock) : BlockId := ⟨b.blockNum, env.headerDigest b.toBlockHeader⟩

@[simp] theorem SignedBlock.id_num (b : SignedBlock) : (b.id env).num = b.blockNum := rfl

/-- `transaction::id`. -/
def SignedTransaction.id (t : SignedTransaction) : Digest := env.transactionId t.toTransaction

/-- `signed_block::calculate_transaction_merkle_root`: the Merkle root of the ids of the
input transactions. -/
def SignedBlock.calculateTransactionMerkleRoot (b : SignedBlock) : Digest :=
  env.merkle (b.inputTransactions.map (SignedTransaction.id env))

/-- `shard_trace::calculate_root`: the Merkle root of the digests of the shard's action
traces, in order. -/
def ShardTrace.calculateRoot (st : ShardTrace) : ShardTrace :=
  { st with shardRoot :=
      env.merkle ((st.transactionTraces.flatMap (·.actionTraces)).map env.actionDigest) }

/-- `block_trace::calculate_action_merkle_root`: the Merkle root of all shard roots, in
region, cycle and shard order. -/
def BlockTrace.calculateActionMerkleRoot (bt : BlockTrace) : Digest :=
  env.merkle (bt.regionTraces.flatMap fun rt =>
    rt.cycleTraces.flatMap fun ct => ct.shardTraces.map (·.shardRoot))

end EosChain
