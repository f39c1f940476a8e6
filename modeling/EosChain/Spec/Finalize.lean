import EosChain.Spec.State
import Mathlib.Data.List.Sort

/-!
# `EosChain.Spec.Finalize`: finalizing a block

`_finalize_block` and what it calls, in the order of `chain_controller.cpp`:
`validate_block_header`, `update_global_properties` (with
`_calculate_producer_schedule` and `_head_producer_schedule`),
`update_global_dynamic_data`, `update_signing_producer`,
`update_last_irreversible_block` and `create_block_summary`. The signals
(`applied_block`, `applied_irreversible_block`) go to observers and change nothing here.

`update_global_dynamic_data` is the only place that writes the head; it also appends the
block to the ghost `chain`. `update_last_irreversible_block` is the only place that
writes the last irreversible block number, appends to the block log and commits the
store's undo history.
-/

set_option autoImplicit false

namespace EosChain

variable (env : Env)

/-- `uint32_t` arithmetic. -/
def u32 (x : Int) : Nat := (x % Int.ofNat uint32Modulus).toNat

/-- `is_start_of_round(block_num)`. -/
def isStartOfRound (blockNum : Nat) : Bool := blockNum % env.cfg.blocksPerRound = 0

/-- `validate_block_header(skip, next_block)`: returns the scheduled producer. -/
def validateBlockHeader (skip : Nat) (nextBlock : SignedBlock) : ControllerM ProducerObject := do
  let c ← get
  fcAssert (c.headBlockId = nextBlock.previous) .blockValidateException ""
  fcAssert (decide (c.headBlockTime < Controller.slotToTimePoint env nextBlock.timestamp))
    .blockValidateException ""
  if nextBlock.blockNum % env.cfg.blocksPerRound ≠ 0 then
    fcAssert nextBlock.newProducers.isNone .blockValidateException
      "Producer changes may only occur at the end of a round."
  let producer ← getProducer
    (← getScheduledProducer env (c.getSlotAtTime env nextBlock.timestamp))
  if !hasFlag skip skipProducerSignature then
    fcAssert (env.validateSignee nextBlock.toSignedBlockHeader producer.signingKey)
      .blockValidateException "Incorrect block producer key"
  if !hasFlag skip skipProducerScheduleCheck then
    fcAssert (nextBlock.producer = producer.owner) .blockValidateException
      "Producer produced block at wrong time"
  fcAssert (nextBlock.calculateTransactionMerkleRoot env = nextBlock.transactionMroot)
    .assertException "merkle root does not match"
  pure producer

/-- `_head_producer_schedule()`: the latest pending schedule, else the active one. -/
def GlobalPropertyObject.headProducerSchedule (g : GlobalPropertyObject) : ProducerScheduleType :=
  match g.pendingActiveProducers.getLast? with
  | some p => p.2
  | none => g.activeProducers

/-- The loop of `_calculate_producer_schedule` over the `by_votes` index: each producer
is written at slot `count`, which moves on only past a producer with a signing key. -/
def fillSchedule (producers : List ProducerKey) (count : Nat) :
    List AccountName → ControllerM (List ProducerKey)
  | [] => pure producers
  | owner :: rest =>
    if count < producers.length then do
      let key := (← getProducer owner).signingKey
      fillSchedule (producers.set count ⟨owner, key⟩) (if key ≠ 0 then count + 1 else count) rest
    else pure producers

/-- `_calculate_producer_schedule()`: the top `producer_count` producers by vote with a
signing key; its version moves past the head schedule's when the producers differ. -/
def calculateProducerSchedule : ControllerM ProducerScheduleType := do
  let c ← get
  let producers ← fillSchedule (List.replicate env.cfg.producerCount ⟨0, 0⟩) 0
    c.objects.ext.producerVotes
  let hps := c.gpo.headProducerSchedule
  let schedule : ProducerScheduleType := ⟨hps.version, producers⟩
  pure (if hps ≠ schedule then { schedule with version := hps.version + 1 } else schedule)

/-- The `authority` of the producers account: one vote for each active producer. -/
def activeProducersAuthority (g : GlobalPropertyObject) : Authority :=
  ⟨env.cfg.producersAuthorityThreshold, [],
    g.activeProducers.producers.map fun p => ⟨⟨p.producerName, env.cfg.activeName⟩, 1⟩⟩

/-- `update_global_properties(b)`: at the start of a round, record the computed schedule
as pending at this block and reset the producers account's authority. -/
def updateGlobalProperties (b : SignedBlock) : ControllerM Unit := do
  if isStartOfRound env b.blockNum then
    let schedule ← calculateProducerSchedule env
    if let some np := b.newProducers then
      fcAssert (schedule = np) .assertException "pending producer set different than expected"
    let gpo := (← get).gpo
    if gpo.headProducerSchedule ≠ schedule then
      fcAssert b.newProducers.isSome .assertException
        "pending producer set changed but block didn't indicate it"
    modifyObjects fun o =>
      let pending := o.gpo.pendingActiveProducers
      let pending := match pending.getLast? with
        | some p =>
          if p.1 = b.blockNum then pending.dropLast ++ [(b.blockNum, schedule)]
          else pending ++ [(b.blockNum, schedule)]
        | none => [(b.blockNum, schedule)]
      { o with gpo := { o.gpo with pendingActiveProducers := pending } }
    let auth := activeProducersAuthority env gpo
    let po ← getPermission ⟨env.cfg.producersAccountName, env.cfg.activeName⟩
    modifyObjects fun o =>
      let permissions := o.ext.permissions.map fun p => if p = po then { p with auth := auth } else p
      { o with ext := { o.ext with permissions := permissions } }

/-- The loop of `update_global_dynamic_data` over the missed slots: each scheduled
producer other than the block's gets a missed block. -/
def markMissed (b : SignedBlock) : List Nat → ControllerM Unit
  | [] => pure ()
  | i :: rest => do
    let producerMissed ← getProducer (← getScheduledProducer env (i + 1))
    if producerMissed.owner ≠ b.producer then
      modifyObjects fun o =>
        let st := o.producerStats producerMissed.owner
        let st := { st with totalMissed := st.totalMissed + 1 }
        { o with producerStats := Function.update o.producerStats producerMissed.owner st }
    markMissed b rest

/-- `recent_slots_filled` after a block that follows `missed` empty slots, as the
`uint64_t` shifts compute it. -/
def shiftRecentSlots (filled missed : Nat) : Nat :=
  if missed < 64 then ((((filled <<< 1) % uint64Modulus + 1) % uint64Modulus) <<< missed) % uint64Modulus else 0

/-- `update_global_dynamic_data(b)`: check the block Merkle root, count the missed
slots, and make `b` the head. -/
def updateGlobalDynamicData (b : SignedBlock) : ControllerM Unit := do
  let c ← get
  fcAssert (env.blockMerkle c.dgpo.blockMerkleRoot = b.blockMroot) .assertException
    "block merkle root does not match expected value"
  let missedBlocks := if c.headBlockNum = 0 then 1 else c.getSlotAtTime env b.timestamp
  if missedBlocks = 0 then abortWith "missed_blocks != 0"
  let missedBlocks := missedBlocks - 1
  markMissed env b (List.range missedBlocks)
  modifyObjects fun o => { o with
    dgpo := { o.dgpo with
      headBlockNumber := b.blockNum
      headBlockId := b.id env
      time := Controller.slotToTimePoint env b.timestamp
      currentProducer := b.producer
      currentAbsoluteSlot := o.dgpo.currentAbsoluteSlot + missedBlocks + 1
      recentSlotsFilled := shiftRecentSlots o.dgpo.recentSlotsFilled missedBlocks
      blockMerkleRoot := o.dgpo.blockMerkleRoot ++ [b.id env] }
    chain := o.chain ++ [b] }
  let d := (← get).dgpo
  modifyForkDb fun f => f.setMaxSize (u32 ((d.headBlockNumber : Int) - d.lastIrreversibleBlockNum + 1))

/-- `update_signing_producer(signing_producer, new_block)`. -/
def updateSigningProducer (signingProducer : ProducerObject) (newBlock : SignedBlock) :
    ControllerM Unit := do
  let c ← get
  let newBlockAslot := c.dgpo.currentAbsoluteSlot + c.getSlotAtTime env newBlock.timestamp
  modifyObjects fun o =>
    let st := o.producerStats signingProducer.owner
    let st := { st with lastAslot := newBlockAslot, lastConfirmedBlockNum := newBlock.blockNum }
    { o with producerStats := Function.update o.producerStats signingProducer.owner st }

/-- `get_producer` of every active producer, in schedule order. -/
def getProducers : List ProducerKey → ControllerM (List ProducerObject)
  | [] => pure []
  | pk :: rest => do
    let p ← getProducer pk.producerName
    pure (p :: (← getProducers rest))

/-- The loop of `update_last_irreversible_block` that writes the blocks from `n` up to
`upTo` to the block log, fetching each by number. The fuel is the number of blocks. -/
def appendIrreversible (upTo : Nat) : Nat → Nat → ControllerM Unit
  | 0, _ => pure ()
  | fuel + 1, n =>
    if n ≤ upTo then do
      match (← get).fetchBlockByNumber env n with
      | none => abortWith "assert(block)"
      | some block =>
        let log ← liftExcept ((← get).blockLog.append block)
        modify fun c => { c with blockLog := log }
        appendIrreversible upTo fuel (n + 1)
    else pure ()

/-- The `while` loop that erases the activated pending schedules: it erases entries from
the front while they are below `lib`, and never ends when an entry is not. -/
def eraseActivated (lib : Nat) : List (Nat × ProducerScheduleType) →
    Option (List (Nat × ProducerScheduleType))
  | [] => some []
  | p :: rest => if p.1 < lib then eraseActivated lib rest else none

/-- `EOS_PERCENT(value, percentage)`. -/
def eosPercent (value percentage : Nat) : Nat := value * percentage / env.cfg.percent100

/-- `update_last_irreversible_block()`. -/
def updateLastIrreversibleBlock : ControllerM Unit := do
  let gpo := (← get).gpo
  let producerObjs ← getProducers gpo.activeProducers.producers
  let offset := eosPercent env producerObjs.length
    (env.cfg.percent100 - env.cfg.irreversibleThresholdPercent)
  let confirmed := (producerObjs.map (·.lastConfirmedBlockNum)).insertionSort (· ≤ ·)
  let some newLastIrreversibleBlockNum := confirmed[offset]?
    | abortWith "producer_objs[offset] out of range"
  if (← get).lastIrreversibleBlockNum < newLastIrreversibleBlockNum then
    modifyObjects fun o => { o with dgpo := { o.dgpo with
      lastIrreversibleBlockNum := newLastIrreversibleBlockNum } }
  let lastBlockOnDisk := ((← get).blockLog.readHead.map SignedBlock.blockNum).getD 0
  if lastBlockOnDisk < newLastIrreversibleBlockNum then
    appendIrreversible env newLastIrreversibleBlockNum
      (newLastIrreversibleBlockNum - lastBlockOnDisk) (lastBlockOnDisk + 1)
  if lastBlockOnDisk < newLastIrreversibleBlockNum then
    let newProducerSchedule :=
      (gpo.pendingActiveProducers.filter (·.1 < newLastIrreversibleBlockNum)).getLast?.map (·.2)
    if let some sched := newProducerSchedule then
      match eraseActivated newLastIrreversibleBlockNum (← get).gpo.pendingActiveProducers with
      | none => throw .hang
      | some rest =>
        modifyObjects fun o => { o with gpo := { o.gpo with
          pendingActiveProducers := rest, activeProducers := sched } }
  let head := (← get).headBlockNum
  modifyForkDb fun f => f.setMaxSize (u32 ((head : Int) - newLastIrreversibleBlockNum + 1))
  modifyDb fun d => d.commit newLastIrreversibleBlockNum

/-- `create_block_summary(next_block)`: slot `block_num & 0xffff` of the ring. -/
def createBlockSummary (nextBlock : SignedBlock) : ControllerM Unit :=
  modifyObjects fun o => { o with
    blockSummaries := Function.update o.blockSummaries (nextBlock.blockNum &&& 0xffff)
      (nextBlock.id env) }

/-- `_finalize_block(trace)`; `clear_expired_transactions` has its body commented out
in the source and does nothing. -/
def finalizeBlock (trace : BlockTrace) : ControllerM Unit := do
  let b := trace.block
  let signingProducer ← validateBlockHeader env (← get).skipFlags b
  updateGlobalProperties env b
  updateGlobalDynamicData env b
  updateSigningProducer env signingProducer b
  updateLastIrreversibleBlock env
  createBlockSummary env b

end EosChain
