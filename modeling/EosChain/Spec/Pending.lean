import EosChain.Spec.Apply

/-!
# `EosChain.Spec.Pending`: the pending block

The block a producer assembles from pushed transactions. `_start_pending_block` opens the
pending block with one region, its trace and the pending undo session; a new cycle gets
one empty shard and a fresh `_pending_cycle`; `_finalize_pending_cycle` computes the
shard roots, writes the cycle's deferred transactions and moves the cycle trace into the
block trace. `_push_transaction` applies one transaction under a temporary session
nested in the pending one and records its receipt, trace and body; `_generate_block`
finishes, signs and finalizes the pending block; `clear_pending` drops it.

`regions.back()` and `cycles_summary.back()` of an empty list, and `->` on an empty
`optional`, are undefined in C++; the model stops there (`abortWith`).
-/

set_option autoImplicit false

namespace EosChain

/-- `back() = f(back())`: change the last entry. -/
def mapLast {α : Type} (f : α → α) : List α → List α
  | [] => []
  | [a] => [f a]
  | a :: b :: rest => a :: mapLast f (b :: rest)

/-- `vector::resize(n)`: cut to `n` entries, or pad with `d`. -/
def resize {α : Type} (l : List α) (n : Nat) (d : α) : List α :=
  (l ++ List.replicate (n - l.length) d).take n

/-- `regions.back().cycles_summary.back()`: the cycle the pending block is filling. -/
def SignedBlock.currentCycle? (b : SignedBlock) : Option CycleSummary :=
  b.regions.getLast? >>= fun r => r.cyclesSummary.getLast?

/-- Change the cycle the pending block is filling. -/
def SignedBlock.mapCurrentCycle (f : CycleSummary → CycleSummary) (b : SignedBlock) :
    SignedBlock :=
  { b with regions := mapLast (fun r => { r with cyclesSummary := mapLast f r.cyclesSummary }) b.regions }

variable (env : Env)

/-- `*_pending_block`. -/
def pendingBlockRef : ControllerM SignedBlock := do
  match (← get).pendingBlock with
  | some b => pure b
  | none => abortWith "_pending_block"

/-- `*_pending_cycle_trace`. -/
def pendingCycleTraceRef : ControllerM CycleTrace := do
  match (← get).pendingCycleTrace with
  | some t => pure t
  | none => abortWith "_pending_cycle_trace"

/-- `*_pending_block_trace`. -/
def pendingBlockTraceRef : ControllerM (List RegionTrace) := do
  match (← get).pendingBlockTrace with
  | some t => pure t
  | none => abortWith "_pending_block_trace"

/-- `_start_pending_shard()`: one more empty shard in the current cycle and its trace. -/
def _startPendingShard : ControllerM Unit := do
  let b ← pendingBlockRef
  if b.currentCycle?.isNone then abortWith "cycles_summary.back()"
  let ct ← pendingCycleTraceRef
  modify fun c => { c with
    pendingBlock := some (b.mapCurrentCycle (· ++ [[]]))
    pendingCycleTrace := some ⟨ct.shardTraces ++ [⟨[], 0⟩]⟩ }

/-- `_start_pending_cycle()`: a new cycle with one empty shard, a fresh schedule and a
fresh cycle trace. -/
def _startPendingCycle : ControllerM Unit := do
  let b ← pendingBlockRef
  let some r0 := b.regions.head? | abortWith "regions[0]"
  let grow (r : RegionSummary) : RegionSummary :=
    { r with cyclesSummary := resize r.cyclesSummary (r0.cyclesSummary.length + 1) [] }
  let b := { b with regions := mapLast grow b.regions }
  modify fun c => { c with
    pendingBlock := some b
    pendingCycle := PendingCycleState.empty
    pendingCycleTrace := some ⟨[]⟩ }
  _startPendingShard

/-- `_start_pending_block()`: an empty block with one region, its trace, and the pending
undo session. -/
def _startPendingBlock : ControllerM Unit := do
  fcAssert (!(← get).hasPendingBlock) .assertException "!_pending_block"
  let empty : SignedBlock := ⟨⟨⟨default, 0, 0, 0, 0, 0, none⟩, 0⟩, [], []⟩
  modify fun c => { c with
    pendingBlock := some { empty with regions := [⟨0, []⟩] }
    pendingBlockTrace := some [⟨[]⟩]
    pendingBlockSession := true
    db := c.db.startUndoSession }
  _startPendingCycle

/-- `_finalize_pending_cycle()`: compute the shard roots, apply the cycle trace, and move
it to the last region of the block trace. -/
def _finalizePendingCycle : ControllerM Unit := do
  let ct ← pendingCycleTraceRef
  let ct : CycleTrace := ⟨ct.shardTraces.map (ShardTrace.calculateRoot env)⟩
  applyCycleTrace env ct
  let bt ← pendingBlockTraceRef
  if bt.isEmpty then abortWith "region_traces.back()"
  modify fun c => { c with
    pendingBlockTrace := some (mapLast (fun rt => ⟨rt.cycleTraces ++ [ct]⟩) bt)
    pendingCycleTrace := none }

/-- `bcycle.at(shardnum).emplace_back(tid)`: the receipt goes to the shard, which must
exist. -/
def appendReceipt (shardnum : Nat) (tid : Digest) : ControllerM Unit := do
  let b ← pendingBlockRef
  let some cycle := b.currentCycle? | abortWith "cycles_summary.back()"
  fcAssert (decide (shardnum < cycle.length)) .outOfRange "vector::_M_range_check"
  modify fun c => { c with pendingBlock := some (b.mapCurrentCycle fun cyc =>
    cyc.modify (· ++ [⟨.executed, tid⟩]) shardnum) }

/-- `_pending_cycle_trace->shard_traces.at(shardnum).append(result)`. -/
def appendShardTrace (shardnum : Nat) (result : TransactionTrace) : ControllerM Unit := do
  let ct ← pendingCycleTraceRef
  fcAssert (decide (shardnum < ct.shardTraces.length)) .outOfRange "vector::_M_range_check"
  modify fun c => { c with pendingCycleTrace := some ⟨ct.shardTraces.modify
    (fun st => { st with transactionTraces := st.transactionTraces ++ [result] }) shardnum⟩ }

/-- `_pending_cycle.schedule(trx)`, recording the new schedule state. -/
def schedulePending (trx : Transaction) : ControllerM (Option Nat) := do
  let (shardnum, cycle) := (← get).pendingCycle.schedule trx
  modify fun c => { c with pendingCycle := cycle }
  pure shardnum

/-- The body of `_push_transaction` between the opening of the temporary session and its
squash. -/
def pushTransactionBody (trx : SignedTransaction) : ControllerM TransactionTrace := do
  validateReferencedAccounts env trx.toTransaction
  checkTransactionAuthorization env trx false
  let shardnum ← schedulePending trx.toTransaction
  let b ← pendingBlockRef
  let some region := b.regions.getLast? | abortWith "regions.back()"
  let cyclenum := region.cyclesSummary.length - 1 + (if shardnum.isNone then 1 else 0)
  let result ← applyTransaction env (TransactionMetadata.make env trx region.region cyclenum 0)
  let shardnum ← match shardnum with
    | some s => pure s
    | none => do
      _finalizePendingCycle env
      _startPendingCycle
      pure ((← schedulePending trx.toTransaction).getD (uint32Modulus - 1))
  let some bcycle := (← pendingBlockRef).currentCycle? | abortWith "cycles_summary.back()"
  if bcycle.length ≤ shardnum then _startPendingShard
  appendReceipt shardnum (trx.id env)
  appendShardTrace shardnum result
  let b ← pendingBlockRef
  modify fun c => { c with pendingBlock := some { b with inputTransactions := b.inputTransactions ++ [trx] } }
  pure result

/-- `_push_transaction(trx)`: start a pending block if there is none, then run the
transaction under a temporary session that is squashed into the pending one on success
and rolled back on failure. -/
def _pushTransaction (trx : SignedTransaction) : ControllerM TransactionTrace := do
  if !(← get).hasPendingBlock then _startPendingBlock
  modifyDb Database.startUndoSession
  let result ← tryCatch (pushTransactionBody env trx) fun e => do
    modifyDb Database.undo
    throw e
  modifyDb Database.squash
  pure result

/-- The header fields `_generate_block` assigns before signing. -/
def setPendingHeader (when : Nat) (producer : AccountName) : ControllerM Unit := do
  let c ← get
  let b ← pendingBlockRef
  let bt ← pendingBlockTraceRef
  let b := { b with
    timestamp := when
    producer := producer
    previous := c.headBlockId
    blockMroot := env.blockMerkle c.dgpo.blockMerkleRoot }
  let b := { b with
    transactionMroot := b.calculateTransactionMerkleRoot env
    actionMroot := BlockTrace.calculateActionMerkleRoot env ⟨b, bt⟩ }
  modify fun c => { c with pendingBlock := some b }

/-- `_generate_block(when, producer, block_signing_key)`. -/
def _generateBlock (when : Nat) (producer : AccountName) (blockSigningKey : PrivateKey) :
    ControllerM SignedBlock := do
  let skip := (← get).skipFlags
  let slotNum := (← get).getSlotAtTime env when
  fcAssert (decide (0 < slotNum)) .assertException "slot_num > 0"
  let scheduledProducer ← getScheduledProducer env slotNum
  fcAssert (scheduledProducer = producer) .assertException "scheduled_producer == producer"
  let producerObj ← getProducer scheduledProducer
  (if !(← get).hasPendingBlock then _startPendingBlock else pure ())
  _finalizePendingCycle env
  (if !hasFlag skip skipProducerSignature then
    fcAssert (producerObj.signingKey = env.getPublicKey blockSigningKey) .assertException
      "producer_obj.signing_key == block_signing_key.get_public_key()"
  else pure ())
  setPendingHeader env when producerObj.owner
  let b ← pendingBlockRef
  (if isStartOfRound env b.blockNum then do
    let latestProducerSchedule ← calculateProducerSchedule env
    if latestProducerSchedule ≠ (← get).gpo.headProducerSchedule then
      modify fun c => { c with pendingBlock := some { b with newProducers := some latestProducerSchedule } }
  else pure ())
  (if !hasFlag skip skipProducerSignature then do
    let b ← pendingBlockRef
    modify fun c => { c with pendingBlock := some { b with
      producerSignature := env.sign b.toSignedBlockHeader blockSigningKey } }
  else pure ())
  finalizeBlock env ⟨← pendingBlockRef, ← pendingBlockTraceRef⟩
  (if !(← get).pendingBlockSession then abortWith "_pending_block_session" else pure ())
  let result ← pendingBlockRef
  modify fun c => { c with
    pendingBlockTrace := none, pendingBlock := none, pendingBlockSession := false }
  (if !hasFlag skip skipForkDb then do
    let f ← liftExcept ((← get).forkDb.pushBlock env result)
    modify fun c => { c with forkDb := f }
  else pure ())
  pure result

/-- `clear_pending()`: drop the pending block and its trace, and roll the pending
session back if there is one. -/
def clearPending : ControllerM Unit :=
  modify fun c => { c with
    pendingBlockTrace := none
    pendingBlock := none
    pendingBlockSession := false
    db := if c.pendingBlockSession then c.db.undo else c.db }

end EosChain
