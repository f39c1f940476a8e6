import EosChain.Proofs.Monad
import EosChain.Proofs.Runs

/-!
# `EosChain.Proofs.PopBlock`: the pending block that `pop_block` leaves

`pop_block` rolls the pending session back and clears its flag, but keeps the pending
block and its trace (`popBlock_keeps_pending`). After a `pop_block` with a pending block
the controller holds a pending block with no session of its own, and every later method
takes it for the block being assembled: `_push_transaction` starts no pending session
for it, and `clear_pending` and `_generate_block` find no session to roll back or to
keep. Three runs show what follows:

* the stranded pending block is reachable (`popBlock_strands_pending_block`);
* a transaction pushed on it is squashed into the undo record of the head block, where
  `clear_pending` cannot reach it: two states on the same chain with no pending block
  then hold different stores (`pushTransaction_after_pop_leaks`);
* `_generate_block` on it advances the head outside any session; when it then throws,
  the store's revision stays behind the head (`generateBlock_after_pop_desyncs_revision`)
  and the head's block summary is never written
  (`generateBlock_after_pop_skips_block_summary`).
-/

set_option autoImplicit false

namespace EosChain

variable {env : Env}

/-- What `pop_block` leaves of the pending block of `c`: the block and its trace as they
were, and no session. -/
structure PendingKept (c c' : Controller) : Prop where
  block : c'.pendingBlock = c.pendingBlock
  trace : c'.pendingBlockTrace = c.pendingBlockTrace
  noSession : c'.pendingBlockSession = false

/-- `pop_block`, whether it returns or throws, keeps the pending block and its trace and
drops the pending session. -/
theorem popBlock_keeps_pending (c : Controller) :
    PendingKept c (resultState (popBlock env c)) := by
  refine Triple.result (P := fun c' => c'.pendingBlock = c.pendingBlock ∧
    c'.pendingBlockTrace = c.pendingBlockTrace) ?_ ⟨rfl, rfl⟩
  exact Triple.bind (Triple.update fun _ h => ⟨h.1, h.2, rfl⟩) fun _ =>
    Triple.bind_keep Triple.get fun _ =>
    Triple.bind_keep (Triple.fcAssert _ _ _ fun _ h => h) fun _ =>
    Triple.bind_keep (Triple.liftExcept _ fun _ h => h) fun _ =>
    Triple.bind_keep (Triple.update fun _ h => ⟨h.1, h.2, h.3⟩) fun _ =>
    Triple.modifyDb fun _ h => ⟨h.1, h.2, h.3⟩

/-- A transaction opens a pending block on the genesis state; `pop_block` then finds no
block to pop, after it has dropped the pending session. -/
def strandedRun : Controller :=
  Controller.run (sampleEnv lagConfig) lagGenesis ⟨[]⟩
    [.pushTransaction (sampleTrx 5) trustedSkip, .popBlock]

set_option smartUnfolding false in
theorem popBlock_strands_pending_block :
    Reachable (sampleEnv lagConfig) strandedRun ∧ strandedRun.pendingBlock.isSome ∧
      strandedRun.pendingBlockSession = false :=
  ⟨reachable_run (by decide) (by decide), by decide, by decide⟩

/-- Two blocks, a transaction, `pop_block`, a second transaction and `clear_pending`. -/
def leakRun : Controller :=
  Controller.run (sampleEnv lagConfig) lagGenesis ⟨[]⟩
    [.pushBlock lagB1 trustedSkip, .pushBlock (lagBlock [lagB1] 2) trustedSkip,
      .pushTransaction (sampleTrx 5) trustedSkip, .popBlock,
      .pushTransaction (sampleTrx 6) trustedSkip, .clearPending]

/-- The first block alone. -/
def cleanRun : Controller :=
  Controller.run (sampleEnv lagConfig) lagGenesis ⟨[]⟩ [.pushBlock lagB1 trustedSkip]

set_option smartUnfolding false in
theorem pushTransaction_after_pop_leaks :
    Reachable (sampleEnv lagConfig) leakRun ∧ Reachable (sampleEnv lagConfig) cleanRun ∧
      leakRun.pendingBlock = none ∧ cleanRun.pendingBlock = none ∧
      leakRun.headBlockId = cleanRun.headBlockId ∧
      leakRun.objects.chain = cleanRun.objects.chain ∧
      leakRun.objects.ext ≠ cleanRun.objects.ext :=
  ⟨reachable_run (by decide) (by decide), reachable_run (by decide) (by decide),
    by decide, by decide, by decide, by decide, by decide⟩

/-- A deployment in which every block is irreversible as soon as it is applied: two
producers take turns and the threshold is 50 %. -/
def instantConfig : Config := sampleConfig 2 1 2 50

/-- Its genesis: `prodB` is in the schedule but not voted in. -/
def instantGenesis : Genesis := sampleGenesis [prodA, prodB] [prodA]

/-- The schedule computed at the first round boundary: `prodA`, and the empty entry that
`_calculate_producer_schedule` leaves where no second producer has a key. -/
def instantSchedule : ProducerScheduleType := ⟨1, [⟨prodA, prodA + 90⟩, ⟨0, 0⟩]⟩

/-- Three blocks; the second announces `instantSchedule`, which the third makes active.
Then a transaction, `pop_block` (the head block is irreversible, so nothing is undone),
`generate_block` by `prodA` at the next slot, which throws once the head has moved, when
`update_last_irreversible_block` looks up the producer of the empty entry, and
`clear_pending`. -/
def revisionRun : Controller :=
  let b1 := emptyBlock instantConfig [] 1 prodB
  let b2 := { emptyBlock instantConfig [b1] 2 prodA with newProducers := some instantSchedule }
  Controller.run (sampleEnv instantConfig) instantGenesis ⟨[]⟩
    [.pushBlock b1 trustedSkip, .pushBlock b2 trustedSkip,
      .pushBlock (emptyBlock instantConfig [b1, b2] 3 prodB) trustedSkip,
      .pushTransaction (sampleTrx 5) trustedSkip, .popBlock,
      .generateBlock (genesisSlot instantConfig + 4) prodA (prodA + 90) 0, .clearPending]

set_option smartUnfolding false in
theorem generateBlock_after_pop_desyncs_revision :
    Reachable (sampleEnv instantConfig) revisionRun ∧ revisionRun.pendingBlock = none ∧
      revisionRun.db.revision ≠ revisionRun.headBlockNum :=
  ⟨reachable_run (by decide) (by decide), by decide, by decide⟩

set_option smartUnfolding false in
/-- The same run leaves the head at the generated block 4, whose summary
`create_block_summary` never wrote: the summary ring does not hold the head's id at the
head's slot, and `validate_tapos` compares a transaction referring to block 4 with an
empty summary. -/
theorem generateBlock_after_pop_skips_block_summary :
    Reachable (sampleEnv instantConfig) revisionRun ∧ revisionRun.pendingBlock = none ∧
      revisionRun.headBlockNum = 4 ∧
      revisionRun.objects.blockSummaries (revisionRun.headBlockNum &&& 0xffff) ≠
        revisionRun.headBlockId :=
  ⟨reachable_run (by decide) (by decide), by decide, by decide, by decide⟩

end EosChain
