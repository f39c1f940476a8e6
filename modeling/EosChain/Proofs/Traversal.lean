import EosChain.Proofs.Frame

/-!
# `EosChain.Proofs.Traversal`: every method under any frame

A frame is a relation between the state a method starts from and the state it leaves,
whether it returns or fails. Reflexive and transitive, it composes along a `do` block
(`Moves`). Several facts about whole calls are frames: the block log only grows
(`EosChain.Proofs.Log`), the caller's skip flags come back (`EosChain.Proofs.Skip`), the
fork database's head stays while blocks are applied (`EosChain.Proofs.Forks`), and the
pending session stays closed while a block is pushed (`EosChain.Proofs.Rollback`).

This module walks each method once, for any frame that the method's own writes and its
callees keep. It instantiates the walks for the frames of `EosChain.Proofs.Frame` at its
end; the modules above instantiate them for theirs. The hypotheses name what each
method writes:

* executing transactions, `_apply_cycle_trace`, `update_global_properties` and
  `mark_missed` write the store's objects only, and keep the dynamic global properties,
  the ghost chain, the dedup index and the last confirmed block numbers (`CalmWrite`);
  `update_global_dynamic_data` keeps the last irreversible block number, and
  `update_last_irreversible_block` the head (`HeadWrite`);
* the pending layer writes the pending block, its traces and the cycle schedule, and keeps
  an open pending block open (`PendingWrite`);
* applying and finalizing a block writes the store's objects, sets the fork database's
  window (`set_max_size`), commits undo records and appends to the block log, all under
  `with_skip_flags`;
* pushing and popping blocks also opens and rolls back undo sessions, edits the fork
  database and drops the pending session;
* `_generate_block` opens the pending block, finalizes it and closes the pending session;
* the constructor rolls back the undo history, starts the fork database, replays the block
  log and sets the store's revision.
-/

set_option autoImplicit false

namespace EosChain

theorem Moves.of_unchanged {R : Controller → Controller → Prop} [IsRefl Controller R] {α : Type}
    {x : ControllerM α} (h : Moves Unchanged x) : Moves R x :=
  h.mono fun c _ h => h ▸ refl_of R c

variable (env : Env) {R : Controller → Controller → Prop} [IsRefl Controller R]
  [IsTrans Controller R]

/-! ### The store's objects -/

section Objects

variable (hObj : ∀ f : Objects → Objects, CalmWrite f → Moves R (modifyObjects f))
include hObj

theorem applyActions_moves (trx : Transaction) :
    ∀ (acts : List Action) (result : TransactionTrace), Moves R (applyActions env trx acts result)
  | [], _ => Moves.pure _
  | _ :: rest, _ => Moves.bind Moves.get fun _ => Moves.bind (Moves.liftExcept _) fun _ =>
      Moves.bind (hObj _ ⟨fun _ => rfl, fun _ => rfl, fun _ => rfl, fun _ _ => rfl⟩) fun _ => applyActions_moves trx rest _

theorem chargeBandwidth_moves (trxSize : Nat) :
    ∀ accounts : List AccountName, Moves R (chargeBandwidth trxSize accounts)
  | [] => Moves.pure _
  | _ :: rest => Moves.bind Moves.get fun _ => Moves.bind (Moves.fcAssert _ _ _) fun _ =>
      Moves.bind (hObj _ ⟨fun _ => rfl, fun _ => rfl, fun _ => rfl, fun _ _ => rfl⟩) fun _ =>
        Moves.bind (Moves.fcAssert _ _ _) fun _ =>
        chargeBandwidth_moves trxSize rest

/-- `_apply_transaction` changes the store's objects only: it keeps every frame that each
change of the objects keeps. -/
theorem applyTransaction_moves (meta : TransactionMetadata) : Moves R (applyTransaction env meta) :=
  Moves.bind (applyActions_moves env hObj _ _ _) fun _ =>
    Moves.bind (chargeBandwidth_moves hObj _ _) fun _ => Moves.pure _

theorem applyReceipts_moves (inputs : List SignedTransaction) (region cycleIndex shardIndex : Nat) :
    ∀ (receipts : ShardSummary) (st : ShardTrace),
      Moves R (applyReceipts env inputs region cycleIndex shardIndex receipts st)
  | [], _ => Moves.pure _
  | r :: rest, _ => by
    unfold applyReceipts
    split
    · split
      · exact Moves.bind (applyTransaction_moves env hObj _) fun _ =>
          applyReceipts_moves inputs region cycleIndex shardIndex rest _
      · exact Moves.throwException _ _
    · exact applyReceipts_moves inputs region cycleIndex shardIndex rest _

theorem applyShards_moves (inputs : List SignedTransaction) (region cycleIndex : Nat) :
    ∀ (shardIndex : Nat) (shards : List ShardSummary) (acc : List ShardTrace),
      Moves R (applyShards env inputs region cycleIndex shardIndex shards acc)
  | _, [], _ => Moves.pure _
  | _, _ :: rest, _ => Moves.bind (applyReceipts_moves env hObj _ _ _ _ _ _) fun _ =>
      applyShards_moves inputs region cycleIndex _ rest _

theorem applyCycles_moves (inputs : List SignedTransaction) (region : Nat) :
    ∀ (cycleIndex : Nat) (cycles : List CycleSummary) (acc : List CycleTrace),
      Moves R (applyCycles env inputs region cycleIndex cycles acc)
  | _, [], _ => Moves.pure _
  | _, _ :: rest, _ => Moves.bind (applyShards_moves env hObj _ _ _ _ _ _) fun _ =>
      Moves.bind (hObj _ ⟨fun _ => rfl, fun _ => rfl, fun _ => rfl, fun _ _ => rfl⟩) fun _ =>
        applyCycles_moves inputs region _ rest _

theorem applyRegions_moves (inputs : List SignedTransaction) :
    ∀ (regions : List RegionSummary) (acc : List RegionTrace),
      Moves R (applyRegions env inputs regions acc)
  | [], _ => Moves.pure _
  | _ :: rest, _ => Moves.bind (applyCycles_moves env hObj _ _ _ _ _) fun _ =>
      applyRegions_moves inputs rest _

theorem updateGlobalProperties_moves (b : SignedBlock) :
    Moves R (updateGlobalProperties env b) := by
  unfold updateGlobalProperties
  dsimp only
  repeat' with_reducible
    first
    | apply Moves.ite_join | apply Moves.bind | apply Moves.ite
    | exact Moves.get | exact Moves.pure _ | exact Moves.fcAssert _ _ _
    | exact Moves.of_unchanged (calculateProducerSchedule_unchanged env)
    | exact Moves.of_unchanged (getPermission_unchanged _)
    | exact hObj _ ⟨fun _ => rfl, fun _ => rfl, fun _ => rfl, fun _ _ => rfl⟩
    | split | intro _

theorem markMissed_moves (b : SignedBlock) : ∀ missed : List Nat, Moves R (markMissed env b missed)
  | [] => Moves.pure _
  | _ :: rest => by
    unfold markMissed
    dsimp only
    repeat' with_reducible
      first
      | apply Moves.ite_join | apply Moves.bind | apply Moves.ite | exact Moves.pure _
      | exact Moves.of_unchanged (getScheduledProducer_unchanged env _)
      | exact Moves.of_unchanged (getProducer_unchanged _)
      | exact hObj _ ⟨fun _ => rfl, fun _ => rfl, fun _ => rfl,
          fun o _ => update_lastConfirmed o.producerStats _ _ (by rfl) _⟩
      | exact markMissed_moves b rest | intro _

end Objects

/-! ### The pending layer -/

/-- The controller with the members of the pending layer cleared: the pending block, its
traces and the cycle schedule. -/
@[reducible] def Controller.withoutPending (c : Controller) : Controller :=
  { c with
    pendingBlock := none, pendingBlockTrace := none, pendingCycleTrace := none
    pendingCycle := PendingCycleState.empty }

/-- A write of the pending layer: it changes the pending block, its traces and the cycle
schedule only, and keeps an open pending block open. -/
structure PendingWrite (c c' : Controller) : Prop where
  rest : c'.withoutPending = c.withoutPending
  keepsOpen : c.pendingBlock.isSome = true → c'.pendingBlock.isSome = true

section Pending

variable (hObj : ∀ f : Objects → Objects, CalmWrite f → Moves R (modifyObjects f))
  (hWrite : ∀ f : Controller → Controller, (∀ c, PendingWrite c (f c)) →
    Moves R (modify f : ControllerM PUnit))
include hWrite

theorem startPendingShard_moves : Moves R _startPendingShard := by
  unfold _startPendingShard
  dsimp only
  repeat' with_reducible
    first
    | apply Moves.ite_join | apply Moves.bind | exact Moves.pure _ | exact Moves.abortWith _
    | exact Moves.of_unchanged pendingBlockRef_unchanged
    | exact Moves.of_unchanged pendingCycleTraceRef_unchanged
    | exact hWrite _ fun _ => ⟨rfl, fun _ => Option.isSome_some⟩ | intro _

theorem startPendingCycle_moves : Moves R _startPendingCycle := by
  unfold _startPendingCycle
  refine Moves.bind (Moves.of_unchanged pendingBlockRef_unchanged) fun b => ?_
  split
  · exact Moves.bind (hWrite _ fun _ => ⟨rfl, fun _ => Option.isSome_some⟩) fun _ =>
      startPendingShard_moves hWrite
  · exact Moves.abortWith _

theorem appendReceipt_moves (shardnum : Nat) (tid : Digest) :
    Moves R (appendReceipt shardnum tid) := by
  unfold appendReceipt
  refine Moves.bind (Moves.of_unchanged pendingBlockRef_unchanged) fun b => ?_
  split
  · exact Moves.bind (Moves.fcAssert _ _ _) fun _ =>
      hWrite _ fun _ => ⟨rfl, fun _ => Option.isSome_some⟩
  · exact Moves.abortWith _

theorem appendShardTrace_moves (shardnum : Nat) (result : TransactionTrace) :
    Moves R (appendShardTrace shardnum result) :=
  Moves.bind (Moves.of_unchanged pendingCycleTraceRef_unchanged) fun _ =>
    Moves.bind (Moves.fcAssert _ _ _) fun _ => hWrite _ fun _ => ⟨rfl, fun h => h⟩

theorem schedulePending_moves (trx : Transaction) : Moves R (schedulePending trx) :=
  Moves.bind Moves.get fun _ =>
    Moves.bind (hWrite _ fun _ => ⟨rfl, fun h => h⟩) fun _ => Moves.pure _

/-- `_finalize_pending_cycle` writes the generated transactions of the cycle
(`_apply_cycle_trace`) and the pending layer. -/
theorem finalizePendingCycle_moves (hCycle : ∀ ct : CycleTrace, Moves R (applyCycleTrace env ct)) :
    Moves R (_finalizePendingCycle env) := by
  unfold _finalizePendingCycle
  dsimp only
  repeat' with_reducible
    first
    | apply Moves.ite_join | apply Moves.bind | exact Moves.abortWith _
    | exact Moves.of_unchanged pendingCycleTraceRef_unchanged
    | exact Moves.of_unchanged pendingBlockTraceRef_unchanged
    | exact hCycle _ | exact hWrite _ fun _ => ⟨rfl, fun h => h⟩ | intro _

include hObj in
/-- The body of `_push_transaction` writes the store's objects and the pending layer only. -/
theorem pushTransactionBody_moves (trx : SignedTransaction) :
    Moves R (pushTransactionBody env trx) := by
  have hCycle : ∀ ct : CycleTrace, Moves R (applyCycleTrace env ct) := fun _ => hObj _ ⟨fun _ => rfl, fun _ => rfl, fun _ => rfl, fun _ _ => rfl⟩
  unfold pushTransactionBody
  dsimp only
  repeat' with_reducible
    first
    | apply Moves.ite_join | apply Moves.bind | apply Moves.ite
    | exact Moves.get | exact Moves.pure _ | exact Moves.abortWith _
    | exact Moves.of_unchanged (validateReferencedAccounts_unchanged env _)
    | exact Moves.of_unchanged (checkTransactionAuthorization_unchanged env _ _)
    | exact Moves.of_unchanged pendingBlockRef_unchanged
    | exact schedulePending_moves hWrite _ | exact applyTransaction_moves env hObj _
    | exact finalizePendingCycle_moves env hWrite hCycle | exact startPendingCycle_moves hWrite
    | exact startPendingShard_moves hWrite | exact appendReceipt_moves hWrite _ _
    | exact appendShardTrace_moves hWrite _ _
    | exact hWrite _ fun _ => ⟨rfl, fun _ => Option.isSome_some⟩
    | intro _
    | split

end Pending


/-! ### Applying and finalizing a block -/

section Block


variable (hObj : ∀ f : Objects → Objects, Moves R (modifyObjects f))
  (hMax : ∀ n : Nat, Moves R (modifyForkDb fun f => f.setMaxSize n))
  (hCommit : ∀ r : Int, Moves R (modifyDb fun d => d.commit r))
  (hLog : ∀ c b l, c.blockLog.append b = .ok l → R c { c with blockLog := l })

include hMax in
/-- `update_global_dynamic_data` keeps every frame that setting the fork database's window
and its writes to the objects, which keep the last irreversible block number, keep. -/
theorem updateGlobalDynamicData_moves
    (hLib : ∀ f : Objects → Objects,
      (∀ o, (f o).dgpo.lastIrreversibleBlockNum = o.dgpo.lastIrreversibleBlockNum) →
        Moves R (modifyObjects f))
    (b : SignedBlock) : Moves R (updateGlobalDynamicData env b) := by
  unfold updateGlobalDynamicData
  dsimp only
  repeat' with_reducible
    first
    | apply Moves.ite_join | apply Moves.bind | apply Moves.ite
    | exact Moves.get | exact Moves.pure _
    | exact Moves.fcAssert _ _ _ | exact Moves.abortWith _
    | exact markMissed_moves env (fun f hf => hLib f fun o => congrArg _ (hf.dgpo o)) _ _
    | exact hLib _ fun _ => rfl | exact hMax _
    | intro _

include hLog in
/-- The one write to the block log: each block goes through `append`. -/
theorem appendIrreversible_moves (upTo : Nat) :
    ∀ fuel n : Nat, Moves R (appendIrreversible env upTo fuel n)
  | 0, _ => Moves.pure _
  | fuel + 1, n => by
    unfold appendIrreversible
    refine Moves.ite (Moves.bind Moves.get fun c => ?_) (Moves.pure _)
    split
    · exact Moves.abortWith _
    · rename_i block _
      refine Moves.get_bind fun c₁ => ?_
      cases h : c₁.blockLog.append block with
      | error e => exact refl_of R c₁
      | ok log =>
        exact trans_of R (hLog c₁ block log h)
          ((appendIrreversible_moves upTo fuel (n + 1)).leaves { c₁ with blockLog := log })

include hMax hCommit hLog in
/-- `update_last_irreversible_block` keeps every frame that its writes keep: of the objects
(`HeadWrite`), of the fork database's window, the commits and the block log. -/
theorem updateLastIrreversibleBlock_moves
    (hHead : ∀ f : Objects → Objects, HeadWrite f → Moves R (modifyObjects f)) :
    Moves R (updateLastIrreversibleBlock env) := by
  unfold updateLastIrreversibleBlock
  dsimp only
  repeat' with_reducible
    first
    | apply Moves.ite_join | apply Moves.bind | apply Moves.ite
    | exact Moves.get | exact Moves.pure _ | exact Moves.throw _ | exact Moves.abortWith _
    | exact Moves.of_unchanged (getProducers_unchanged _)
    | exact appendIrreversible_moves env hLog _ _ _
    | exact hHead _ ⟨fun _ => rfl, fun _ => rfl, fun _ => rfl⟩ | exact hMax _ | exact hCommit _
    | split | intro _

include hObj hMax hCommit hLog in
/-- `_finalize_block` keeps every relation that the writes to the objects, the store, the
fork database and the block log keep. -/
theorem finalizeBlock_moves (trace : BlockTrace) : Moves R (finalizeBlock env trace) :=
  Moves.bind Moves.get fun _ =>
    Moves.bind (Moves.of_unchanged (validateBlockHeader_unchanged env _ _)) fun _ =>
    Moves.bind (updateGlobalProperties_moves env (fun f _ => hObj f) _) fun _ =>
    Moves.bind (updateGlobalDynamicData_moves env hMax (fun f _ => hObj f) _) fun _ =>
    Moves.bind (Moves.bind Moves.get fun _ => hObj _) fun _ =>
    Moves.bind (updateLastIrreversibleBlock_moves env hMax hCommit hLog fun f _ => hObj f)
      fun _ => hObj _


include hObj hMax hCommit hLog in
/-- `__apply_block` keeps every frame that the writes of applying and finalizing a block
keep. -/
theorem applyBlockBody_moves (b : SignedBlock) : Moves R (__applyBlock env b) :=
  Moves.bind Moves.get fun _ =>
    Moves.bind (Moves.of_unchanged (validateBlockHeader_unchanged env _ _)) fun _ =>
    Moves.bind (Moves.fcAssert _ _ _) fun _ =>
    Moves.bind (applyRegions_moves env (fun f _ => hObj f) _ _ _) fun _ =>
    Moves.bind (Moves.fcAssert _ _ _) fun _ => finalizeBlock_moves env hObj hMax hCommit hLog _

end Block

/-- `_apply_block` keeps every frame that `with_skip_flags` around `__apply_block` keeps,
whatever the checkpoints make of the skip flags. -/
theorem applyBlock_moves (b : SignedBlock) (skip : Nat)
    (hw : ∀ t, Moves R (withSkipFlags t (__applyBlock env b))) :
    Moves R (_applyBlock env b skip) := by
  unfold _applyBlock
  repeat' with_reducible
    first
    | apply Moves.ite_join | apply Moves.bind | apply Moves.ite
    | exact Moves.get | exact Moves.pure _ | exact Moves.fcAssert _ _ _
    | exact hw _
    | intro _
    | split

/-! ### Pushing and popping blocks -/

section Push

variable (hDb : ∀ f : Database → Database, Moves R (modifyDb f))
  (hFork : ∀ f : ForkDatabase → ForkDatabase, Moves R (modifyForkDb f))
  (hApply : ∀ b skip, Moves R (_applyBlock env b skip))

omit [IsRefl Controller R] [IsTrans Controller R] in
include hFork in
/-- Setting the fork database is one of its edits. -/
theorem setForkDb_moves (f : ForkDatabase) :
    Moves R (modify fun c => { c with forkDb := f } : ControllerM PUnit) :=
  hFork fun _ => f

include hDb hFork in
/-- `pop_block` keeps every frame that dropping the pending session, popping the fork
database and rolling back the head block's undo record keep. -/
theorem popBlock_moves
    (hDrop : Moves R (modify fun c => { c with
      pendingBlockSession := false
      db := if c.pendingBlockSession then c.db.undo else c.db } : ControllerM PUnit)) :
    Moves R (popBlock env) :=
  Moves.bind hDrop fun _ => Moves.bind Moves.get fun _ =>
    Moves.bind (Moves.fcAssert _ _ _) fun _ => Moves.bind (Moves.liftExcept _) fun _ =>
    Moves.bind (setForkDb_moves hFork _) fun _ => hDb _

theorem popUntil_moves (hPop : Moves R (popBlock env)) (target : BlockId) :
    ∀ fuel, Moves R (popUntil env target fuel)
  | 0 => Moves.throw _
  | fuel + 1 => by
    unfold popUntil
    exact Moves.bind Moves.get fun _ =>
      Moves.ite (Moves.bind hPop fun _ => popUntil_moves hPop target fuel) (Moves.pure _)

include hDb hApply in
theorem applyBlockInSession_moves (b : SignedBlock) (skip : Nat) :
    Moves R (applyBlockInSession env b skip) :=
  Moves.bind (hDb _) fun _ => Moves.tryCatch (hApply b skip) fun _ =>
    Moves.bind (hDb _) fun _ => Moves.throw _

include hDb hApply in
theorem applyBranch_moves (skip : Nat) : ∀ bs : List SignedBlock, Moves R (applyBranch env skip bs)
  | [] => Moves.pure _
  | b :: bs => Moves.bind (applyBlockInSession_moves env hDb hApply b skip) fun _ =>
      applyBranch_moves skip bs

include hDb hFork hApply in
theorem applyNewBranch_moves (hPop : Moves R (popBlock env)) (skip : Nat)
    (branchOld : List SignedBlock) (oldPrevious : BlockId) :
    ∀ bs : List SignedBlock, Moves R (applyNewBranch env skip branchOld oldPrevious bs)
  | [] => Moves.pure _
  | b :: bs => by
    unfold applyNewBranch
    refine Moves.bind (Moves.catchException (Moves.bind (applyBlockInSession_moves env hDb hApply b
      skip) fun _ => Moves.pure _) fun _ => Moves.pure _) fun r => ?_
    rcases r with _ | e
    · exact applyNewBranch_moves hPop skip branchOld oldPrevious bs
    · dsimp only
      repeat' with_reducible
        first
        | apply Moves.bind | exact Moves.throw _ | exact Moves.abortWith _ | exact Moves.get
        | exact Moves.forM (fun _ => hFork _) _ | exact hFork _
        | exact popUntil_moves env hPop _ _ | exact applyBranch_moves env hDb hApply _ _
        | intro _
        | split

include hDb hFork hApply in
theorem switchForks_moves (hPop : Moves R (popBlock env)) (newHead : SignedBlock) (skip : Nat) :
    Moves R (switchForks env newHead skip) := by
  unfold switchForks
  dsimp only
  repeat' with_reducible
    first
    | apply Moves.bind | exact Moves.liftExcept _ | exact Moves.abortWith _ | exact Moves.get
    | exact popUntil_moves env hPop _ _ | exact applyNewBranch_moves env hDb hFork hApply hPop _ _ _ _
    | intro _
    | split

include hDb hFork hApply in
/-- `_push_block` keeps every frame that `pop_block`, `_apply_block` and its edits of the
undo history and the fork database keep, on the direct path, the fork switch and the
failure paths. -/
theorem pushBlockBody_moves (hPop : Moves R (popBlock env)) (newBlock : SignedBlock) :
    Moves R (_pushBlock env newBlock) := by
  unfold _pushBlock
  dsimp only
  repeat' with_reducible
    first
    | apply Moves.ite_join | apply Moves.bind | apply Moves.ite | apply Moves.catchException
    | exact Moves.get | exact Moves.pure _ | exact Moves.throw _ | exact Moves.abortWith _
    | exact Moves.liftExcept _
    | exact setForkDb_moves hFork _ | exact hDb _ | exact hFork _
    | exact switchForks_moves env hDb hFork hApply hPop _ _ | exact hApply _ _
    | intro _
    | split

/-! ### The constructor -/

include hApply in
theorem replayBlocks_moves : ∀ ns : List Nat, Moves R (replayBlocks env ns)
  | [] => Moves.pure _
  | n :: ns => by
    unfold replayBlocks
    refine Moves.bind Moves.get fun c => ?_
    split
    · exact Moves.bind (hApply _ _) fun _ => replayBlocks_moves ns
    · exact Moves.throwException _ _

include hDb hFork hApply in
/-- The constructor keeps every frame that the genesis transaction under
`with_skip_flags`, the edits of the store and the fork database, the replay of the block
log and the replay flag keep. -/
theorem construct_moves (hObj : ∀ f : Objects → Objects, Moves R (modifyObjects f))
    (hWith : ∀ (t : Nat) (x : ControllerM PUnit), Moves R x → Moves R (withSkipFlags t x))
    (hReplaying : ∀ b : Bool,
      Moves R (modify fun c => { c with currentlyReplayingBlocks := b } : ControllerM PUnit))
    (g : Genesis) : Moves R (construct env g) := by
  have genesis (meta : TransactionMetadata) :
      Moves R (withSkipFlags genesisSkip (discard (applyTransaction env meta))) :=
    hWith _ _ (applyTransaction_moves env (fun f _ => hObj f) meta).discard
  have setDb (d : Database) : Moves R (modify fun c => { c with db := d } : ControllerM PUnit) :=
    hDb fun _ => d
  unfold construct _initializeChain _spinupDb _spinupForkDb replay
  dsimp only
  repeat' with_reducible
    first
    | apply Moves.ite_join | apply Moves.bind | apply Moves.ite | apply Moves.tryCatch
    | exact Moves.get | exact Moves.pure _ | exact Moves.throw _ | exact Moves.fcAssert _ _ _
    | exact Moves.liftExcept _
    | exact genesis _ | exact replayBlocks_moves env hApply _
    | exact hDb _ | exact hFork _ | exact setDb _ | exact hReplaying _
    | intro _
    | split

end Push

/-! ### Generating a block -/

section Generate

variable (hWrite : ∀ f : Controller → Controller, (∀ c, PendingWrite c (f c)) →
    Moves R (modify f : ControllerM PUnit))

include hWrite in
theorem setPendingHeader_moves (when : Nat) (producer : AccountName) :
    Moves R (setPendingHeader env when producer) :=
  Moves.bind Moves.get fun _ => Moves.bind (Moves.of_unchanged pendingBlockRef_unchanged) fun _ =>
    Moves.bind (Moves.of_unchanged pendingBlockTraceRef_unchanged) fun _ =>
      hWrite _ fun _ => ⟨rfl, fun _ => Option.isSome_some⟩

include hWrite in
/-- `_generate_block` keeps every frame that opening the pending block, finalizing its
cycle and the block, the writes of the pending layer, closing the pending session and the
edit of the fork database keep. -/
theorem generateBlock_moves (hStart : Moves R _startPendingBlock)
    (hCycle : Moves R (_finalizePendingCycle env))
    (hFinalize : ∀ trace, Moves R (finalizeBlock env trace))
    (hClose : Moves R (modify fun c => { c with
      pendingBlockTrace := none, pendingBlock := none, pendingBlockSession := false } :
        ControllerM PUnit))
    (hFork : ∀ f : ForkDatabase → ForkDatabase, Moves R (modifyForkDb f))
    (when : Nat) (producer : AccountName) (key : PrivateKey) :
    Moves R (_generateBlock env when producer key) := by
  unfold _generateBlock
  dsimp only
  repeat' with_reducible
    first
    | apply Moves.bind | apply Moves.ite
    | exact Moves.get | exact Moves.pure _ | exact Moves.abortWith _
    | exact Moves.fcAssert _ _ _ | exact Moves.liftExcept _
    | exact Moves.of_unchanged (getScheduledProducer_unchanged env _)
    | exact Moves.of_unchanged (getProducer_unchanged _)
    | exact Moves.of_unchanged (calculateProducerSchedule_unchanged env)
    | exact Moves.of_unchanged pendingBlockRef_unchanged
    | exact Moves.of_unchanged pendingBlockTraceRef_unchanged
    | exact hFinalize _ | exact hStart | exact hCycle | exact hClose
    | exact setPendingHeader_moves env hWrite _ _
    | exact hWrite _ fun _ => ⟨rfl, fun _ => Option.isSome_some⟩
    | exact setForkDb_moves hFork _
    | intro _

end Generate

/-! ### The frames of the transaction-level methods

The walks above, instantiated for the frames of `EosChain.Proofs.Frame`: the methods that
execute transactions, fill the pending block, or update the properties of a block other
than its head are calm, hence quiet; `update_global_dynamic_data` keeps the last
irreversible block number (`LibSame`), and `update_last_irreversible_block` the head
(`HeadKept`). -/

section Frames

/-- A write of the pending layer is calm. -/
theorem calm_of_pendingWrite {f : Controller → Controller} (h : ∀ c, PendingWrite c (f c)) :
    Moves Calm (modify f : ControllerM PUnit) :=
  calm_update (fun c => (congrArg (·.db) (h c).rest :))
    (fun c => (congrArg (·.pendingBlockSession) (h c).rest :))
    (fun c => (congrArg (·.forkDb) (h c).rest :))

theorem applyTransaction_calm (meta : TransactionMetadata) :
    Moves Calm (applyTransaction env meta) :=
  applyTransaction_moves env (fun _ => calm_modifyObjects) meta

theorem applyRegions_calm (inputs : List SignedTransaction) (regions : List RegionSummary)
    (acc : List RegionTrace) : Moves Calm (applyRegions env inputs regions acc) :=
  applyRegions_moves env (fun _ => calm_modifyObjects) inputs regions acc

theorem updateGlobalProperties_calm (b : SignedBlock) :
    Moves Calm (updateGlobalProperties env b) :=
  updateGlobalProperties_moves env (fun _ => calm_modifyObjects) b

/-- `mark_missed` counts a missed block against the producer and keeps its last confirmed
block number. -/
theorem markMissed_calm (b : SignedBlock) (missed : List Nat) :
    Moves Calm (markMissed env b missed) :=
  markMissed_moves env (fun _ => calm_modifyObjects) b missed

theorem appendIrreversible_calm (upTo fuel n : Nat) :
    Moves Calm (appendIrreversible env upTo fuel n) :=
  appendIrreversible_moves env (fun _ _ _ _ => ⟨⟨rfl, rfl, rfl, rfl, rfl, rfl, rfl⟩, fun _ => rfl⟩)
    upTo fuel n

theorem startPendingCycle_calm : Moves Calm _startPendingCycle :=
  startPendingCycle_moves fun _ => calm_of_pendingWrite

theorem finalizePendingCycle_calm : Moves Calm (_finalizePendingCycle env) :=
  finalizePendingCycle_moves env (fun _ => calm_of_pendingWrite) (applyCycleTrace_calm env)

theorem setPendingHeader_calm (when : Nat) (producer : AccountName) :
    Moves Calm (setPendingHeader env when producer) :=
  setPendingHeader_moves env (fun _ => calm_of_pendingWrite) when producer

theorem pushTransactionBody_calm (trx : SignedTransaction) :
    Moves Calm (pushTransactionBody env trx) :=
  pushTransactionBody_moves env (fun _ => calm_modifyObjects) (fun _ => calm_of_pendingWrite) trx

/-! The quiet frames of the calm methods, as the other modules cite them. -/

theorem applyRegions_quiet (inputs : List SignedTransaction) (regions : List RegionSummary)
    (acc : List RegionTrace) : Moves Quiet (applyRegions env inputs regions acc) :=
  (applyRegions_calm env inputs regions acc).quiet_of_calm

theorem updateGlobalProperties_quiet (b : SignedBlock) :
    Moves Quiet (updateGlobalProperties env b) :=
  (updateGlobalProperties_calm env b).quiet_of_calm

theorem markMissed_quiet (b : SignedBlock) (missed : List Nat) :
    Moves Quiet (markMissed env b missed) :=
  (markMissed_calm env b missed).quiet_of_calm

theorem appendIrreversible_quiet (upTo fuel n : Nat) :
    Moves Quiet (appendIrreversible env upTo fuel n) :=
  (appendIrreversible_calm env upTo fuel n).quiet_of_calm

theorem startPendingCycle_quiet : Moves Quiet _startPendingCycle :=
  startPendingCycle_calm.quiet_of_calm

theorem finalizePendingCycle_quiet : Moves Quiet (_finalizePendingCycle env) :=
  (finalizePendingCycle_calm env).quiet_of_calm

theorem setPendingHeader_quiet (when : Nat) (producer : AccountName) :
    Moves Quiet (setPendingHeader env when producer) :=
  (setPendingHeader_calm env when producer).quiet_of_calm

theorem pushTransactionBody_quiet (trx : SignedTransaction) :
    Moves Quiet (pushTransactionBody env trx) :=
  (pushTransactionBody_calm env trx).quiet_of_calm

theorem updateGlobalDynamicData_libSame (b : SignedBlock) :
    Moves LibSame (updateGlobalDynamicData env b) :=
  updateGlobalDynamicData_moves env (fun _ => (quiet_setMaxSize _).libSame_of_quiet)
    (fun _ hf => libSame_modifyObjects hf) b

theorem updateLastIrreversibleBlock_headKept : Moves HeadKept (updateLastIrreversibleBlock env) :=
  updateLastIrreversibleBlock_moves env (fun _ => (quiet_setMaxSize _).headKept_of_quiet)
    headKept_commit (fun _ _ _ _ => ⟨rfl, rfl, rfl, rfl, fun _ h => h⟩)
    fun _ => headKept_modifyObjects

end Frames

end EosChain
