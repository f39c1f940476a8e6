import EosChain.Spec.ForkDatabase

/-!
# `EosChain.Spec.State`: the controller's state and its read accessors

`Controller` holds what `chain_controller` owns: the versioned store, the fork database,
the block log, the pending-block bookkeeping (`_pending_block`, `_pending_block_trace`,
`_pending_block_session`, `_pending_cycle`, `_pending_cycle_trace`), the current skip
flags and the checkpoints. The controller's methods run in `ControllerM`, an
`EStateM` whose failures keep the state they were raised in, as a C++ exception leaves
every member as it was at the `throw`.

This module also holds the read-only methods: the head accessors, `get_producer`,
`get_permission`, `get_slot_time`, `get_slot_at_time`, `producer_participation_rate`,
`get_scheduled_producer`, `fetch_block_by_id`, `fetch_block_by_number` and
`get_block_ids_on_fork`.
-/

set_option autoImplicit false

namespace EosChain

/-- Modelled from the spec: `pending_cycle_state`, whose code is in a header that is not
under `src/`. It remembers the scopes read in the current cycle, the shard each written
scope went to, and how many shards it has handed out. -/
structure PendingCycleState where
  readScopes : List ScopeName
  writeScopeToShard : List (ScopeName × Nat)
  shardCount : Nat
deriving DecidableEq, Repr

namespace PendingCycleState

/-- `pending_cycle_state()`. -/
def empty : PendingCycleState := ⟨[], [], 0⟩

/-- The shard a scope set must go to, given the shard forced so far: `none` is a
conflict, `some none` leaves the choice open. A written scope that was read in this
cycle conflicts; a scope written in shard `k` forces shard `k`. -/
def forcedShard (p : PendingCycleState) (writes : Bool) :
    List ScopeName → Option (Option Nat) → Option (Option Nat)
  | [], acc => acc
  | _, none => none
  | s :: rest, some cur =>
    if writes ∧ s ∈ p.readScopes then none
    else match (p.writeScopeToShard.find? (·.1 = s)).map (·.2), cur with
      | none, _ => forcedShard p writes rest (some cur)
      | some k, none => forcedShard p writes rest (some (some k))
      | some k, some c => if k = c then forcedShard p writes rest (some cur) else none

/-- Modelled from the spec: `_pending_cycle.schedule(trx)`. The shard the transaction is
placed into, or `none` (the code's `-1`) when its scopes conflict with the write scopes
of this cycle: write scopes are exclusive to one shard, read scopes are shared. A placed
transaction records its write scopes under its shard and its read scopes as read. -/
def schedule (p : PendingCycleState) (trx : Transaction) : Option Nat × PendingCycleState :=
  match p.forcedShard false trx.readScope (p.forcedShard true trx.writeScope (some none)) with
  | none => (none, p)
  | some cur =>
    let (shard, count) := match cur with
      | some k => (k, p.shardCount)
      | none => (p.shardCount, p.shardCount + 1)
    (some shard,
      { readScopes := p.readScopes ++ trx.readScope
        writeScopeToShard := trx.writeScope.map (·, shard) ++ p.writeScopeToShard
        shardCount := count })

end PendingCycleState

/-- The members of `chain_controller` the modelled methods read and write.
`pendingBlockSession` says whether `_pending_block_session` holds a session;
`pendingBlockTrace` holds the region traces of `_pending_block_trace`, whose `block` is
always `_pending_block`. `checkpoints` is `_checkpoints`, ascending by block number. -/
structure Controller where
  db : Database
  forkDb : ForkDatabase
  blockLog : BlockLog
  pendingBlock : Option SignedBlock
  pendingBlockTrace : Option (List RegionTrace)
  pendingBlockSession : Bool
  pendingCycle : PendingCycleState
  pendingCycleTrace : Option CycleTrace
  skipFlags : Nat
  checkpoints : List (Nat × BlockId)
  currentlyReplayingBlocks : Bool

/-- The controller's methods: a call returns a value or fails, and either way leaves a
state. -/
abbrev ControllerM := EStateM Failure Controller

/-- An `fc::exception` of the given kind. -/
def throwException {α : Type} (kind : ExceptionKind) (what : String) : ControllerM α :=
  throw (.exception kind what)

/-- `FC_ASSERT(c)` and `EOS_ASSERT(c, kind, ...)`. -/
def fcAssert (c : Bool) (kind : ExceptionKind) (what : String) : ControllerM Unit :=
  if c then pure () else throwException kind what

/-- An `assert`, or a use of an empty `optional`: the process stops. -/
def abortWith {α : Type} (what : String) : ControllerM α := throw (.abort what)

/-- A collaborator's result, its failure raised in the controller. -/
def liftExcept {α : Type} : Except Failure α → ControllerM α
  | .ok a => pure a
  | .error e => throw e

/-- `try { x } catch (const fc::exception& e) { h(e) }`: aborts and hangs pass through. -/
def catchException {α : Type} (x : ControllerM α) (h : Failure → ControllerM α) :
    ControllerM α :=
  tryCatch x fun e => match e with
    | .exception _ _ => h e
    | _ => throw e

/-- A change of the store's current objects. -/
def modifyObjects (f : Objects → Objects) : ControllerM Unit :=
  modify fun c => { c with db := c.db.modify f }

/-- A change of the store itself: a session operation. -/
def modifyDb (f : Database → Database) : ControllerM Unit :=
  modify fun c => { c with db := f c.db }

/-- A change of the fork database. -/
def modifyForkDb (f : ForkDatabase → ForkDatabase) : ControllerM Unit :=
  modify fun c => { c with forkDb := f c.forkDb }

/-- `__builtin_popcountll(x)`: the set bits of a 64-bit value. -/
def popcountll (x : Nat) : Nat := (List.range 64).countP x.testBit

namespace Controller

variable (env : Env)

/-- The store's current objects. -/
def objects (c : Controller) : Objects := c.db.objects

/-- `get_dynamic_global_properties()`. -/
def dgpo (c : Controller) : DynamicGlobalPropertyObject := c.db.objects.dgpo

/-- `get_global_properties()`. -/
def gpo (c : Controller) : GlobalPropertyObject := c.db.objects.gpo

/-- `head_block_num()`. -/
def headBlockNum (c : Controller) : Nat := c.dgpo.headBlockNumber

/-- `head_block_id()`. -/
def headBlockId (c : Controller) : BlockId := c.dgpo.headBlockId

/-- `head_block_time()`. -/
def headBlockTime (c : Controller) : TimePoint := c.dgpo.time

/-- `last_irreversible_block_num()`. -/
def lastIrreversibleBlockNum (c : Controller) : Nat := c.dgpo.lastIrreversibleBlockNum

/-- `_pending_block` is set. -/
def hasPendingBlock (c : Controller) : Bool := c.pendingBlock.isSome

/-- `get_producer(owner)`, when the producer is registered. -/
def findProducer (c : Controller) (owner : AccountName) : Option ProducerObject :=
  (c.objects.ext.producers.find? (·.1 = owner)).map fun p =>
    let st := c.objects.producerStats owner
    ⟨owner, p.2, st.lastAslot, st.lastConfirmedBlockNum, st.totalMissed⟩

/-- `get_permission(level)`, when the permission exists. -/
def findPermission (c : Controller) (level : PermissionLevel) : Option PermissionObject :=
  c.objects.ext.permissions.find? fun p => p.owner = level.actor ∧ p.name = level.permission

/-- `(fc::time_point)` of a `block_timestamp_type`. -/
def slotToTimePoint (slot : Nat) : TimePoint :=
  (slot * env.cfg.blockIntervalMs + env.cfg.blockTimestampEpochMs) * 1000

/-- `block_timestamp_type(fc::time_point)`: the slot is a `uint32_t`. -/
def timePointToSlot (t : TimePoint) : Nat :=
  ((t / 1000 - env.cfg.blockTimestampEpochMs) / env.cfg.blockIntervalMs) % uint32Modulus

/-- `get_slot_time(slot_num)`: the slot `slot_num` slots after the head (after genesis
while there is no block). -/
def getSlotTime (c : Controller) (slotNum : Nat) : Nat :=
  if slotNum = 0 then 0
  else if c.headBlockNum = 0 then
    timePointToSlot env (slotToTimePoint env ((timePointToSlot env c.dgpo.time + slotNum) % uint32Modulus))
  else (timePointToSlot env c.headBlockTime + slotNum) % uint32Modulus

/-- `get_slot_at_time(when)`. -/
def getSlotAtTime (c : Controller) (when : Nat) : Nat :=
  let firstSlotTime := c.getSlotTime env 1
  if when < firstSlotTime then 0 else (when - firstSlotTime + 1) % uint32Modulus

/-- `producer_participation_rate()`: the product is a `uint64_t`, the result a
`uint32_t`. -/
def producerParticipationRate (c : Controller) : Nat :=
  env.cfg.percent100 * popcountll c.dgpo.recentSlotsFilled % uint64Modulus / 64 % uint32Modulus

/-- `get_scheduled_producer(slot_num)`, when the index falls inside the schedule. -/
def scheduledProducer (c : Controller) (slotNum : Nat) : Option AccountName :=
  let index := (c.dgpo.currentAbsoluteSlot + slotNum) % env.cfg.blocksPerRound /
    env.cfg.producerRepititions
  (c.gpo.activeProducers.producers[index]?).map (·.producerName)

/-- The walk of `fetch_block_by_number` down the fork database from `b`. The fuel bounds
the number of steps; each step lowers the height by one. -/
def findOnBranch (f : ForkDatabase) (num : Nat) : Nat → Option SignedBlock → Option SignedBlock
  | _, none => none
  | 0, some b => if b.blockNum = num then some b else none
  | fuel + 1, some b =>
    if num < b.blockNum then findOnBranch f num fuel (f.prev env b)
    else if b.blockNum = num then some b else none

/-- `fetch_block_by_number(num)`: the block log first, then the fork database, walking
down from its head. -/
def fetchBlockByNumber (c : Controller) (num : Nat) : Option SignedBlock :=
  match c.blockLog.readBlockByNum num with
  | some b => some b
  | none =>
    if num ≤ c.headBlockNum then
      findOnBranch env c.forkDb num ((c.forkDb.head.map SignedBlock.blockNum).getD 0) c.forkDb.head
    else none

/-- `fetch_block_by_id(id)`. -/
def fetchBlockById (c : Controller) (id : BlockId) : Option SignedBlock :=
  match c.forkDb.fetchBlock env id with
  | some b => some b
  | none => c.blockLog.readBlockById env id

/-- `is_known_block(id)`. -/
def isKnownBlock (c : Controller) (id : BlockId) : Bool :=
  c.forkDb.isKnownBlock env id || (c.blockLog.readBlockById env id).isSome

/-- `is_known_transaction(id)`: the dedup index holds the id. -/
def isKnownTransaction (c : Controller) (id : Digest) : Bool :=
  c.objects.transactions.any (·.trxId = id)

end Controller

variable (env : Env)

/-- `get_producer(owner)`. -/
def getProducer (owner : AccountName) : ControllerM ProducerObject := do
  match (← get).findProducer owner with
  | some p => pure p
  | none => throwException .keyNotFound "unknown key"

/-- `get_permission(level)`. -/
def getPermission (level : PermissionLevel) : ControllerM PermissionObject := do
  match (← get).findPermission level with
  | some p => pure p
  | none => throwException .keyNotFound "unknown key"

/-- `get_scheduled_producer(slot_num)`: `producers[index]` of the active schedule. -/
def getScheduledProducer (slotNum : Nat) : ControllerM AccountName := do
  match (← get).scheduledProducer env slotNum with
  | some p => pure p
  | none => abortWith "producers[index] out of range"

/-- `get_block_ids_on_fork(head_of_fork)`: the ids of the fork's branch, tip first, then the
previous id of the head's branch's last block. The two branches' last blocks must name the
same previous block (`assert`); `back()` of an empty branch is undefined in C++, and the
model stops there too. -/
def getBlockIdsOnFork (headOfFork : BlockId) : ControllerM (List BlockId) := do
  let c ← get
  let (first, second) ← liftExcept (c.forkDb.fetchBranchFrom env c.headBlockId headOfFork)
  match first.getLast?, second.getLast? with
  | some firstBack, some secondBack =>
    if firstBack.previous ≠ secondBack.previous then
      abortWith "branches.first.back()->previous_id() == branches.second.back()->previous_id()"
    else pure (second.map (SignedBlock.id env) ++ [firstBack.previous])
  | _, _ => abortWith "branches.back()"

end EosChain
