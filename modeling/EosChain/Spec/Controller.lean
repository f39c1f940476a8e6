import EosChain.Spec.PushBlock

/-!
# `EosChain.Spec.Controller`: the public interface and the runs it makes up

The public mutators of `chain_controller`, each its private counterpart under
`with_skip_flags`; the constructor on a fresh store (`_initialize_chain`, `_spinup_db`,
`_spinup_fork_db` and `replay`); and the runs a node goes through: a constructed
controller, then any sequence of public calls, each of which returns or throws an
`fc::exception` after which the node runs on.

The store's write lock, the `with_applying_block` flag and the signals change no state
the controller reads and are left out.
-/

set_option autoImplicit false

namespace EosChain

variable (env : Env)

/-- Modelled from the spec: `without_pending_transactions(f)`, which is declared in
`chain_controller.hpp`, not under `src/`. It drops the pending block before `f` runs, as
the comment of `_push_transaction` expects ("rewind to the clean state of the head block,
in case a new block arrives"). -/
def withoutPendingTransactions {α : Type} (f : ControllerM α) : ControllerM α := do
  clearPending
  f

/-- `push_block(new_block, skip)`. -/
def pushBlock (newBlock : SignedBlock) (skip : Nat) : ControllerM Unit :=
  withSkipFlags skip (withoutPendingTransactions (discard (_pushBlock env newBlock)))

/-- `push_transaction(trx, skip)`. -/
def pushTransaction (trx : SignedTransaction) (skip : Nat) : ControllerM TransactionTrace :=
  withSkipFlags skip (_pushTransaction env trx)

/-- `generate_block(when, producer, block_signing_private_key, skip)`. -/
def generateBlock (when : Nat) (producer : AccountName) (blockSigningPrivateKey : PrivateKey)
    (skip : Nat) : ControllerM SignedBlock :=
  withSkipFlags skip (_generateBlock env when producer blockSigningPrivateKey)

/-- `_checkpoints[n] = id` on the map kept ascending by block number. -/
def insertCheckpoint (p : Nat × BlockId) : List (Nat × BlockId) → List (Nat × BlockId)
  | [] => [p]
  | q :: rest =>
    if p.1 < q.1 then p :: q :: rest
    else if p.1 = q.1 then p :: rest
    else q :: insertCheckpoint p rest

/-- `add_checkpoints(checkpts)`. -/
def addCheckpoints (checkpts : List (Nat × BlockId)) : ControllerM Unit :=
  modify fun c => { c with
    checkpoints := checkpts.foldl (fun cps p => insertCheckpoint p cps) c.checkpoints }

/-! ### Construction -/

/-- Modelled from the spec: `contracts::chain_initializer`, which is not under `src/`:
the genesis time, configuration and producers, the contract-side objects that
`prepare_database` creates, and the actions it returns for the genesis transaction. -/
structure Genesis where
  startTime : TimePoint
  configuration : ChainConfig
  producers : ProducerScheduleType
  ext : ExtState
  acts : List Action

/-- The objects `_initialize_chain` creates: the global properties with the genesis
schedule, the dynamic properties at the genesis time with every recent slot filled,
the 0x10000 empty block summaries, and what `prepare_database` creates. -/
def Genesis.objects (g : Genesis) : Objects where
  gpo := ⟨g.configuration, g.producers, []⟩
  dgpo := ⟨0, default, g.startTime, 0, 0, uint64Modulus - 1, 0, []⟩
  producerStats := fun _ => ⟨0, 0, 0⟩
  blockSummaries := fun _ => default
  transactions := []
  generatedTransactions := []
  ext := g.ext
  chain := []

/-- `genesis_setup_transaction`: the genesis actions, writing the all scope. -/
def Genesis.setupTransaction (g : Genesis) : SignedTransaction :=
  ⟨⟨0, 0, 0, [], [env.cfg.eosioAllScope], g.acts⟩, []⟩

/-- The flags the genesis transaction runs under. -/
def genesisSkip : Nat :=
  skipScopeCheck ||| skipTransactionSignatures ||| skipAuthorityCheck ||| receivedBlock

/-- A controller over a fresh store that holds the genesis objects, with the block log
found on disk and an empty fork database. -/
def Controller.fresh (g : Genesis) (log : BlockLog) : Controller where
  db := ⟨g.objects, [], 0⟩
  forkDb := ⟨[], none, 1024⟩
  blockLog := log
  pendingBlock := none
  pendingBlockTrace := none
  pendingBlockSession := false
  pendingCycle := PendingCycleState.empty
  pendingCycleTrace := none
  skipFlags := 0
  checkpoints := []
  currentlyReplayingBlocks := false

/-- `_initialize_chain(starter)` on a fresh store: the two checks on the genesis time,
then the genesis transaction. The objects it creates are `Genesis.objects`, which the
fresh store already holds: nothing reads the store before they exist. The transaction's
metadata (modelled from the spec: `transaction_metadata(const transaction&)` is not under
`src/`) puts it at region, cycle and shard 0 with no size of its own. -/
def _initializeChain (g : Genesis) : ControllerM Unit := do
  fcAssert (g.startTime ≠ 0) .assertException "Must initialize genesis timestamp."
  fcAssert (Controller.slotToTimePoint env (Controller.timePointToSlot env g.startTime) = g.startTime)
    .assertException "Genesis timestamp must be divisible by config::block_interval_ms"
  let trx := g.setupTransaction env
  withSkipFlags genesisSkip (discard (applyTransaction env ⟨trx, trx.id env, 0, 0, 0, 0⟩))

/-- `_spinup_db()`: roll every undo record back; the revision must then be the head
block number. -/
def _spinupDb : ControllerM Unit := do
  modifyDb Database.undoAll
  let c ← get
  fcAssert (c.db.revision = c.headBlockNum) .assertException
    "Chainbase revision does not match head block num"

/-- `_spinup_fork_db()`: the fork database starts from the block log's head. -/
def _spinupForkDb : ControllerM Unit := do
  let c ← get
  if let some lastBlock := c.blockLog.readHead then
    modifyForkDb (·.startBlock lastBlock)
    if lastBlock.id env ≠ c.headBlockId then
      fcAssert (c.headBlockNum = 0) .assertException
        "last block ID does not match current chain state"

/-- The flags blocks are replayed under. -/
def replaySkip : Nat :=
  skipProducerSignature ||| skipTransactionSignatures ||| skipTransactionDupeCheck |||
    skipTaposCheck ||| skipProducerScheduleCheck ||| skipAuthorityCheck ||| receivedBlock

/-- The loop of `replay()`: blocks `i` to the log's head, each applied without a
session. -/
def replayBlocks : List Nat → ControllerM Unit
  | [] => pure ()
  | i :: rest => do
    let some block := (← get).blockLog.readBlockByNum i
      | throwException .assertException "Could not find block #${n} in block_log!"
    _applyBlock env block replaySkip
    replayBlocks rest

/-- `replay()`: apply every block of the log from block 1, then set the store's revision
to the head block number. `_currently_replaying_blocks` is set meanwhile. -/
def replay : ControllerM Unit := do
  modify fun c => { c with currentlyReplayingBlocks := true }
  let body : ControllerM Unit := do
    if let some lastBlock := (← get).blockLog.readHead then
      replayBlocks env (List.range' 1 lastBlock.blockNum)
      let c ← get
      let db ← liftExcept (c.db.setRevision c.headBlockNum)
      modify fun c => { c with db := db }
  tryCatch body fun e => do
    modify fun c => { c with currentlyReplayingBlocks := false }
    throw e
  modify fun c => { c with currentlyReplayingBlocks := false }

/-- `chain_controller(cfg)` on a fresh store. -/
def construct (g : Genesis) : ControllerM Unit := do
  _initializeChain env g
  _spinupDb
  _spinupForkDb env
  let c ← get
  if let some lastBlock := c.blockLog.readHead then
    if c.headBlockNum < lastBlock.blockNum then replay env

/-- The controller the constructor builds from `g` and the block log `log`, when it
does not throw. -/
def Controller.start (g : Genesis) (log : BlockLog) : Option Controller :=
  match construct env g (Controller.fresh g log) with
  | .ok _ c => some c
  | .error _ _ => none

/-! ### Runs -/

/-- A call of the public interface, with its arguments. -/
inductive Call where
  | pushBlock (newBlock : SignedBlock) (skip : Nat)
  | pushTransaction (trx : SignedTransaction) (skip : Nat)
  | generateBlock (when : Nat) (producer : AccountName) (key : PrivateKey) (skip : Nat)
  | popBlock
  | clearPending
  | addCheckpoints (checkpts : List (Nat × BlockId))

/-- What a call does to the controller. -/
def Call.run : Call → ControllerM Unit
  | .pushBlock b skip => EosChain.pushBlock env b skip
  | .pushTransaction trx skip => discard (EosChain.pushTransaction env trx skip)
  | .generateBlock when producer key skip =>
    discard (EosChain.generateBlock env when producer key skip)
  | .popBlock => EosChain.popBlock env
  | .clearPending => EosChain.clearPending
  | .addCheckpoints checkpts => EosChain.addCheckpoints checkpts

/-- The state a call leaves when the node runs on after it: the call returned, or threw
an `fc::exception`. After an `assert` or a loop that never ends there is none. -/
def continuation {α : Type} : EStateM.Result Failure Controller α → Option Controller
  | .ok _ c => some c
  | .error (.exception _ _) c => some c
  | .error _ _ => none

/-- One public call, after which the node runs on. -/
def Step (c c' : Controller) : Prop :=
  ∃ call : Call, continuation (call.run env c) = some c'

/-- The states a node reaches: a constructed controller, then public calls. -/
inductive Reachable : Controller → Prop
  | start {g : Genesis} {log : BlockLog} {c : Controller} :
      Controller.start env g log = some c → Reachable c
  | step {c c' : Controller} : Reachable c → Step env c c' → Reachable c'

end EosChain
