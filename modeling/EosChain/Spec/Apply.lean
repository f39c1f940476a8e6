import EosChain.Spec.Authorization

/-!
# `EosChain.Spec.Apply`: executing transactions and applying a block

`_apply_transaction` runs the actions of one transaction through the contract sandbox
(`Env.exec`), stamps the region and cycle into the action traces, and charges bandwidth
to each authorizing account. `_apply_cycle_trace` writes the deferred transactions of a
finished cycle into the generated-transaction table. `__apply_block` checks the header,
replays every executed receipt region by region, cycle by cycle and shard by shard,
checks the action Merkle root and finalizes the block; `_apply_block` puts the
checkpoint gate in front of it.
-/

set_option autoImplicit false

namespace EosChain

variable (env : Env)

/-- `with_skip_flags(skip, f)`: run `f` under `skip`, and put the old flags back however
`f` ends. -/
def withSkipFlags {α : Type} (skip : Nat) (f : ControllerM α) : ControllerM α := do
  let old := (← get).skipFlags
  modify fun c => { c with skipFlags := skip }
  let r ← tryCatch f fun e => do
    modify fun c => { c with skipFlags := old }
    throw e
  modify fun c => { c with skipFlags := old }
  pure r

/-- `transaction_metadata`: the transaction with its id, where it runs, and the size
charged as bandwidth. -/
structure TransactionMetadata where
  trx : SignedTransaction
  id : Digest
  regionId : Nat
  cycleIndex : Nat
  shardIndex : Nat
  bandwidthUsage : Nat

/-- `transaction_metadata(trx, chain_id, region_id, cycle_index, shard_index)`. -/
def TransactionMetadata.make (trx : SignedTransaction) (regionId cycleIndex shardIndex : Nat) :
    TransactionMetadata :=
  ⟨trx, trx.id env, regionId, cycleIndex, shardIndex, env.bandwidthUsage trx⟩

/-- The loop of `_apply_transaction` over the actions: `apply_context(...).exec()` for
each, appending its action traces and generated transactions to the result. -/
def applyActions (trx : Transaction) : List Action → TransactionTrace → ControllerM TransactionTrace
  | [], result => pure result
  | act :: rest, result => do
    let (ext, res) ← liftExcept (env.exec trx act (← get).objects.ext)
    modifyObjects fun o => { o with ext := ext }
    applyActions trx rest { result with
      actionTraces := result.actionTraces ++ res.appliedActions
      deferredTransactions := result.deferredTransactions ++ res.generatedTransactions }

/-- The loop of `_apply_transaction` over the authorizing accounts: the account's
`bandwidth_usage_object` and `staked_balance_object` must exist, and the usage grows by
the transaction's size. Modelled from the spec: the rate limiter behind `add_usage` is
not under `src/`; the usage is kept as a running total. -/
def chargeBandwidth (trxSize : Nat) : List AccountName → ControllerM Unit
  | [] => pure ()
  | a :: rest => do
    let o := (← get).objects
    fcAssert (o.ext.bandwidthUsage.any (·.1 = a)) .keyNotFound "unknown key"
    modifyObjects fun o => { o with ext := { o.ext with
      bandwidthUsage := o.ext.bandwidthUsage.map fun u => if u.1 = a then (a, u.2 + trxSize) else u } }
    fcAssert (a ∈ o.ext.stakedBalances) .keyNotFound "unknown key"
    chargeBandwidth trxSize rest

/-- `_apply_transaction(meta)`. -/
def applyTransaction (meta : TransactionMetadata) : ControllerM TransactionTrace := do
  let result ← applyActions env meta.trx.toTransaction meta.trx.actions ⟨meta.id, [], []⟩
  let result := { result with actionTraces := result.actionTraces.map fun t =>
    { t with regionId := meta.regionId, cycleIndex := meta.cycleIndex } }
  let authorizingAccounts :=
    ((meta.trx.actions.flatMap fun act => act.authorization.map (·.actor)).insertionSort
      (· ≤ ·)).dedup
  chargeBandwidth (meta.bandwidthUsage + env.cfg.fixedBandwidthOverheadPerTransaction)
    authorizingAccounts
  pure result

/-- The `generated_transaction_object` that `_apply_cycle_trace` creates for `dt`. -/
def generatedObject (dt : DeferredTransaction) : GeneratedTransactionObject :=
  ⟨env.transactionId dt.toTransaction, dt.sender, dt.senderId, dt.expiration, dt.executeAfter, dt⟩

/-- `_apply_cycle_trace(res)`: create a generated transaction for every deferred
transaction of the cycle, in shard, transaction and emission order. The console output
it prints changes no state. -/
def applyCycleTrace (res : CycleTrace) : ControllerM Unit :=
  let created := res.shardTraces.flatMap fun st => st.transactionTraces.flatMap fun tr =>
    tr.deferredTransactions.map (generatedObject env)
  modifyObjects fun o => { o with generatedTransactions := o.generatedTransactions ++ created }

/-- The `trx_index` lookup of `__apply_block`: the map keeps the last input transaction
with a given id. -/
def findInput (inputs : List SignedTransaction) (id : Digest) : Option SignedTransaction :=
  inputs.reverse.find? fun t => t.id env = id

/-- The receipts of one shard: each executed receipt's transaction is applied and its
trace appended; a receipt whose transaction is not in the block throws. -/
def applyReceipts (inputs : List SignedTransaction) (region cycleIndex shardIndex : Nat) :
    ShardSummary → ShardTrace → ControllerM ShardTrace
  | [], st => pure st
  | r :: rest, st =>
    if r.status = .executed then
      match findInput env inputs r.id with
      | some t => do
        let tr ← applyTransaction env (TransactionMetadata.make env t region cycleIndex shardIndex)
        applyReceipts inputs region cycleIndex shardIndex rest
          { st with transactionTraces := st.transactionTraces ++ [tr] }
      | none => throwException .assertException "deferred transactions not yet supported"
    else applyReceipts inputs region cycleIndex shardIndex rest st

/-- The shards of one cycle, each with its root computed. -/
def applyShards (inputs : List SignedTransaction) (region cycleIndex : Nat) :
    Nat → List ShardSummary → List ShardTrace → ControllerM (List ShardTrace)
  | _, [], acc => pure acc
  | shardIndex, shard :: rest, acc => do
    let st ← applyReceipts env inputs region cycleIndex shardIndex shard ⟨[], 0⟩
    applyShards inputs region cycleIndex (shardIndex + 1) rest (acc ++ [st.calculateRoot env])

/-- The cycles of one region; each finished cycle's trace is applied before the next
cycle runs. -/
def applyCycles (inputs : List SignedTransaction) (region : Nat) :
    Nat → List CycleSummary → List CycleTrace → ControllerM (List CycleTrace)
  | _, [], acc => pure acc
  | cycleIndex, cycle :: rest, acc => do
    let ct : CycleTrace := ⟨← applyShards env inputs region cycleIndex 0 cycle []⟩
    applyCycleTrace env ct
    applyCycles inputs region (cycleIndex + 1) rest (acc ++ [ct])

/-- The regions of a block, in order. -/
def applyRegions (inputs : List SignedTransaction) :
    List RegionSummary → List RegionTrace → ControllerM (List RegionTrace)
  | [], acc => pure acc
  | r :: rest, acc => do
    let cts ← applyCycles env inputs r.region 0 r.cyclesSummary []
    applyRegions inputs rest (acc ++ [⟨cts⟩])

/-- `__apply_block(next_block)`. -/
def __applyBlock (nextBlock : SignedBlock) : ControllerM Unit := do
  let _ ← validateBlockHeader env (← get).skipFlags nextBlock
  fcAssert (strictlyAscending (nextBlock.regions.map (·.region))) .assertException ""
  let regionTraces ← applyRegions env nextBlock.inputTransactions nextBlock.regions []
  let trace : BlockTrace := ⟨nextBlock, regionTraces⟩
  fcAssert (nextBlock.actionMroot = trace.calculateActionMerkleRoot env) .assertException ""
  finalizeBlock env trace

/-- The skip flags `_apply_block` applies a block under: everything is skipped at or
below the last checkpoint, when that checkpoint names a block. -/
def Controller.checkpointSkip (c : Controller) (blockNum skip : Nat) : Nat :=
  match c.checkpoints.getLast? with
  | some (n, id) => if id ≠ default ∧ blockNum ≤ n then skipEverything else skip
  | none => skip

/-- `_apply_block(next_block, skip)`: the checkpoint gate, then `__apply_block` under the
resulting skip flags. -/
def _applyBlock (nextBlock : SignedBlock) (skip : Nat) : ControllerM Unit := do
  let c ← get
  if let some (_, lastId) := c.checkpoints.getLast? then
    if lastId ≠ default then
      if let some (_, id) := c.checkpoints.find? (·.1 = nextBlock.blockNum) then
        fcAssert (nextBlock.id env = id) .assertException "Block did not match checkpoint"
  withSkipFlags (c.checkpointSkip nextBlock.blockNum skip) (__applyBlock env nextBlock)

end EosChain
