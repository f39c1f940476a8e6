import EosChain.Proofs.Chain
import EosChain.Proofs.Runs

/-!
# `EosChain.Proofs.Calls`: invariants of the store over every call

An invariant of the objects holds in every reachable state once it holds of the genesis
objects, calm methods keep it, and `_finalize_block` keeps it over the store
(`ObjectsInvariant`): every path of every public call, whether it returns or throws an
`fc::exception`, then keeps it in the current objects and in every snapshot of the undo
history, and so it holds in every reachable state (`reachable_storeInv`). The proofs go
method by method, callees first, with the invariant as a section variable. A calm method
keeps it by the first condition (`inv_of_calm`); the others apply a block, which the
second covers, or are session operations, which move whole snapshots.

`Sound` is such an invariant (`soundInvariant`). From it follow the two facts about the
chain behind the head: it is linked, numbered and time-ordered, and the head fields
describe its last block (`reachable_chain_linked`); and `is_known_transaction` is false in
every reachable state, because nothing in the controller writes the dedup index
(`reachable_not_isKnownTransaction`).
-/

set_option autoImplicit false

namespace EosChain

variable {env : Env}

/-- What a property of the objects needs to hold in every reachable state: it holds of the
genesis objects, calm methods keep it, and `_finalize_block` keeps it over the store. -/
structure ObjectsInvariant (env : Env) (I : Objects → Prop) : Prop where
  genesis : ∀ g : Genesis, I g.objects
  calm : ∀ c c', Calm c c' → I c.objects → I c'.objects
  finalize : ∀ trace, Triple (StoreInv I) (finalizeBlock env trace) (StoreInv I) (StoreInv I)

section Store

variable {I : Objects → Prop}

/-- The invariant reads the store only. -/
theorem StoreInv.of_db {c c' : Controller} (hc : StoreInv I c) (h : c'.db = c.db) :
    StoreInv I c' := by
  unfold StoreInv Controller.objects
  rw [h]
  exact hc

theorem StoreInv.undoIf {c : Controller} (hc : StoreInv I c) (p : Bool) :
    StoreInv I { c with db := if p then c.db.undo else c.db } := by
  cases p
  · exact hc
  · exact hc.undo

/-- A change of the controller that leaves the store alone keeps the invariant. -/
theorem inv_update {f : Controller → Controller} (hf : ∀ c, (f c).db = c.db) :
    Triple (StoreInv I) (modify f) (StoreInv I) (StoreInv I) :=
  Triple.update fun c hc => hc.of_db (hf c)

theorem inv_modifyForkDb {f : ForkDatabase → ForkDatabase} :
    Triple (StoreInv I) (modifyForkDb f) (StoreInv I) (StoreInv I) :=
  inv_update fun _ => rfl

/-- A session operation that keeps the invariant. -/
theorem inv_modifyDb {f : Database → Database}
    (hf : ∀ c, StoreInv I c → StoreInv I { c with db := f c.db }) :
    Triple (StoreInv I) (modifyDb f) (StoreInv I) (StoreInv I) :=
  Triple.modifyDb hf

/-- `with_skip_flags` keeps whatever its body keeps and the skip flags do not affect. -/
theorem withSkipFlags_inv {α : Type} (skip : Nat) {x : ControllerM α}
    (hx : Triple (StoreInv I) x (StoreInv I) (StoreInv I)) :
    Triple (StoreInv I) (withSkipFlags skip x) (StoreInv I) (StoreInv I) :=
  Triple.bind Triple.get fun _ => Triple.bind (inv_update fun _ => rfl) fun _ =>
    Triple.bind (Triple.tryCatch hx fun _ =>
      Triple.bind (inv_update fun _ => rfl) fun _ => Triple.throw _ fun _ h => h) fun _ =>
    Triple.bind (inv_update fun _ => rfl) fun _ => Triple.pure _ fun _ h => h

/-! ### Popping and clearing -/

theorem popBlock_inv : Triple (StoreInv I) (popBlock env) (StoreInv I) (StoreInv I) :=
  Triple.bind (Triple.update fun c hc => (hc.undoIf c.pendingBlockSession).of_db rfl) fun _ =>
    Triple.bind Triple.get fun _ => Triple.bind (Triple.fcAssert _ _ _ fun _ h => h) fun _ =>
    Triple.bind (Triple.liftExcept _ fun _ h => h) fun _ =>
    Triple.bind (inv_update fun _ => rfl) fun _ => inv_modifyDb fun _ hc => hc.undo

theorem popUntil_inv (target : BlockId) :
    ∀ fuel, Triple (StoreInv I) (popUntil env target fuel) (StoreInv I) (StoreInv I)
  | 0 => Triple.throw _ fun _ h => h
  | fuel + 1 => by
    unfold popUntil
    exact Triple.bind Triple.get fun _ =>
      Triple.ite (Triple.bind popBlock_inv fun _ => popUntil_inv target fuel)
        (Triple.pure _ fun _ h => h)

theorem clearPending_inv : Triple (StoreInv I) clearPending (StoreInv I) (StoreInv I) :=
  Triple.update fun c hc => (hc.undoIf c.pendingBlockSession).of_db rfl

/-- `set_revision` keeps the objects and the undo history. -/
theorem setRevision_inv {c₀ : Controller} (r : Int) :
    Triple (fun c => StoreInv I c ∧ c = c₀)
      (liftExcept (c₀.db.setRevision r) >>= fun db => modify fun c => { c with db := db })
      (StoreInv I) (StoreInv I) := by
  unfold Database.setRevision
  split
  · exact ⟨fun c hc => by obtain ⟨hc, rfl⟩ := hc; exact storeInv_db hc.1 hc.2⟩
  · exact Triple.throw_bind _ fun _ h => h.1

end Store

section Invariant

variable {I : Objects → Prop} (hI : ObjectsInvariant env I)
include hI

/-- A calm method keeps the invariant. -/
theorem inv_of_calm {α : Type} {x : ControllerM α} (h : Moves Calm x) :
    Triple (StoreInv I) x (StoreInv I) (StoreInv I) :=
  Triple.of_frame h fun _ _ h hc => ⟨hI.calm _ _ h hc.1, h.stack ▸ hc.2⟩

/-! ### Applying a block -/

theorem applyBlockBody_inv (b : SignedBlock) :
    Triple (StoreInv I) (__applyBlock env b) (StoreInv I) (StoreInv I) := by
  unfold __applyBlock
  exact Triple.bind Triple.get fun _ =>
    Triple.bind (inv_of_calm hI (validateBlockHeader_unchanged env _ _).calm_of_unchanged)
    fun _ => Triple.bind (Triple.fcAssert _ _ _ fun _ h => h) fun _ =>
    Triple.bind (inv_of_calm hI (applyRegions_calm env _ _ _)) fun _ =>
    Triple.bind (Triple.fcAssert _ _ _ fun _ h => h) fun _ => hI.finalize _

theorem applyBlock_inv (b : SignedBlock) (skip : Nat) :
    Triple (StoreInv I) (_applyBlock env b skip) (StoreInv I) (StoreInv I) := by
  unfold _applyBlock
  dsimp only
  repeat' with_reducible
    first
    | exact Triple.fcAssert _ _ _ fun _ h => h | exact Triple.pure _ fun _ h => h
    | exact withSkipFlags_inv _ (applyBlockBody_inv hI b) | exact Triple.get
    | apply Triple.bind_keep
    | intro _
    | split

theorem applyBlockInSession_inv (b : SignedBlock) (skip : Nat) :
    Triple (StoreInv I) (applyBlockInSession env b skip) (StoreInv I) (StoreInv I) :=
  Triple.bind (inv_modifyDb fun _ hc => hc.startUndoSession) fun _ =>
    Triple.tryCatch (applyBlock_inv hI b skip) fun _ =>
      Triple.bind (inv_modifyDb fun _ hc => hc.undo) fun _ => Triple.throw _ fun _ h => h

theorem applyBranch_inv (skip : Nat) :
    ∀ bs : List SignedBlock,
      Triple (StoreInv I) (applyBranch env skip bs) (StoreInv I) (StoreInv I)
  | [] => Triple.pure _ fun _ h => h
  | b :: bs => Triple.bind (applyBlockInSession_inv hI b skip) fun _ => applyBranch_inv skip bs

/-! ### Pushing a block -/

theorem applyNewBranch_inv (skip : Nat) (branchOld : List SignedBlock) (oldPrevious : BlockId) :
    ∀ bs : List SignedBlock, Triple (StoreInv I)
      (applyNewBranch env skip branchOld oldPrevious bs) (StoreInv I) (StoreInv I)
  | [] => Triple.pure _ fun _ h => h
  | b :: bs => by
    unfold applyNewBranch
    refine Triple.bind (Triple.catchException
      (Triple.bind (applyBlockInSession_inv hI b skip) fun _ => Triple.pure _ fun _ h => h)
      fun _ _ => Triple.pure _ fun _ h => h) fun r => ?_
    rcases r with _ | e
    · exact applyNewBranch_inv skip branchOld oldPrevious bs
    · dsimp only
      repeat' with_reducible
        first
        | exact Triple.abortWith_bind _ fun _ h => h | exact Triple.throw _ fun _ h => h
        | exact Triple.forM (fun _ => inv_modifyForkDb) _
        | exact inv_modifyForkDb | exact popUntil_inv _ _
        | exact applyBranch_inv hI _ _ | exact Triple.get
        | apply Triple.bind_keep
        | exact Triple.abortWith _ fun _ h => h
        | intro _
        | split

theorem switchForks_inv (newHead : SignedBlock) (skip : Nat) :
    Triple (StoreInv I) (switchForks env newHead skip) (StoreInv I) (StoreInv I) := by
  unfold switchForks
  dsimp only
  repeat' with_reducible
    first
    | exact Triple.abortWith_bind _ fun _ h => h | exact Triple.liftExcept _ fun _ h => h
    | exact Triple.abortWith _ fun _ h => h
    | exact popUntil_inv _ _ | exact applyNewBranch_inv hI _ _ _ _ | exact Triple.get
    | apply Triple.bind_keep
    | intro _
    | split

theorem pushBlockBody_inv (newBlock : SignedBlock) :
    Triple (StoreInv I) (_pushBlock env newBlock) (StoreInv I) (StoreInv I) := by
  unfold _pushBlock
  dsimp only
  repeat' with_reducible
    first
    | exact Triple.abortWith_bind _ fun _ h => h
    | apply Triple.ite_join | apply Triple.bind_keep | apply Triple.ite | intro _
    | exact Triple.liftExcept _ fun _ h => h
    | exact Triple.throw _ fun _ h => h | exact Triple.pure _ fun _ h => h
    | exact inv_update fun _ => rfl | exact inv_modifyForkDb
    | exact inv_modifyDb fun _ hc => hc.startUndoSession
    | exact inv_modifyDb fun _ hc => hc.undo
    | exact switchForks_inv hI _ _ | exact applyBlock_inv hI _ _ | exact Triple.get
    | apply Triple.catchException
    | split

/-! ### The pending block -/

theorem startPendingBlock_inv :
    Triple (StoreInv I) _startPendingBlock (StoreInv I) (StoreInv I) :=
  Triple.bind Triple.get fun _ => Triple.bind (Triple.fcAssert _ _ _ fun _ h => h) fun _ =>
    Triple.bind (Triple.update fun _ hc => hc.startUndoSession.of_db rfl) fun _ =>
    inv_of_calm hI startPendingCycle_calm

theorem pushTransactionImpl_inv (trx : SignedTransaction) :
    Triple (StoreInv I) (_pushTransaction env trx) (StoreInv I) (StoreInv I) := by
  unfold _pushTransaction
  dsimp only
  repeat' with_reducible
    first
    | exact Triple.pure _ fun _ h => h | exact Triple.throw _ fun _ h => h
    | exact startPendingBlock_inv hI | exact inv_of_calm hI (pushTransactionBody_calm env trx)
    | exact inv_modifyDb fun _ hc => hc.startUndoSession
    | exact inv_modifyDb fun _ hc => hc.undo | exact inv_modifyDb fun _ hc => hc.squash
    | exact Triple.get
    | apply Triple.tryCatch
    | apply Triple.ite_join | apply Triple.bind_keep | apply Triple.ite
    | intro _

theorem generateBlockImpl_inv (when : Nat) (producer : AccountName) (key : PrivateKey) :
    Triple (StoreInv I) (_generateBlock env when producer key) (StoreInv I)
      (StoreInv I) := by
  unfold _generateBlock
  dsimp only
  repeat' with_reducible
    first
    | exact Triple.abortWith_bind _ fun _ h => h
    | apply Triple.ite_join | apply Triple.bind_keep | apply Triple.ite | intro _
    | exact Triple.liftExcept _ fun _ h => h
    | exact Triple.fcAssert _ _ _ fun _ h => h | exact Triple.pure _ fun _ h => h
    | exact inv_update fun _ => rfl | exact startPendingBlock_inv hI
    | exact inv_of_calm hI (getScheduledProducer_unchanged env _).calm_of_unchanged
    | exact inv_of_calm hI (getProducer_unchanged _).calm_of_unchanged
    | exact inv_of_calm hI pendingBlockRef_unchanged.calm_of_unchanged
    | exact inv_of_calm hI pendingBlockTraceRef_unchanged.calm_of_unchanged
    | exact inv_of_calm hI (calculateProducerSchedule_unchanged env).calm_of_unchanged
    | exact inv_of_calm hI (finalizePendingCycle_calm env)
    | exact inv_of_calm hI (setPendingHeader_calm env _ _)
    | exact hI.finalize _ | exact Triple.get | exact Triple.abortWith _ fun _ h => h

/-! ### The public calls -/

theorem Call.run_inv (call : Call) :
    Triple (StoreInv I) (call.run env) (StoreInv I) (StoreInv I) := by
  cases call with
  | pushBlock b skip =>
    exact withSkipFlags_inv _ <| Triple.bind clearPending_inv fun _ =>
      Triple.discard (pushBlockBody_inv hI b)
  | pushTransaction trx skip =>
    exact Triple.discard (withSkipFlags_inv _ (pushTransactionImpl_inv hI trx))
  | generateBlock when producer key skip =>
    exact Triple.discard (withSkipFlags_inv _ (generateBlockImpl_inv hI when producer key))
  | popBlock => exact popBlock_inv
  | clearPending => exact clearPending_inv
  | addCheckpoints checkpts => exact inv_of_calm hI (addCheckpoints_calm checkpts)

/-- One public call, returning or throwing, keeps the invariant. -/
theorem StoreInv.step {c c' : Controller} (hc : StoreInv I c) (h : Step env c c') :
    StoreInv I c' := by
  obtain ⟨call, hcall⟩ := h
  have := (Call.run_inv hI call).run c hc
  revert hcall this
  rcases call.run env c with ⟨_, d⟩ | ⟨e | e | e, d⟩ <;>
    simp [continuation, Holds] <;> rintro rfl <;> exact id

/-! ### Construction -/

theorem replayBlocks_inv :
    ∀ ns : List Nat, Triple (StoreInv I) (replayBlocks env ns) (StoreInv I) (StoreInv I)
  | [] => Triple.pure _ fun _ h => h
  | n :: ns => by
    unfold replayBlocks
    refine Triple.bind Triple.get fun c => ?_
    split
    · exact Triple.bind (applyBlock_inv hI _ _) fun _ => replayBlocks_inv ns
    · exact Triple.throw _ fun _ h => h

theorem replay_inv : Triple (StoreInv I) (replay env) (StoreInv I) (StoreInv I) := by
  unfold replay
  dsimp only
  refine Triple.bind (inv_update fun _ => rfl) fun _ => Triple.bind (Triple.tryCatch ?_
    fun _ => Triple.bind (inv_update fun _ => rfl) fun _ => Triple.throw _ fun _ h => h)
    fun _ => inv_update fun _ => rfl
  refine Triple.bind Triple.get fun c => ?_
  split
  · exact Triple.bind (replayBlocks_inv hI _) fun _ =>
      Triple.get_bind fun _ => setRevision_inv _
  · exact Triple.pure _ fun _ h => h

theorem construct_inv (g : Genesis) :
    Triple (StoreInv I) (construct env g) (StoreInv I) (StoreInv I) := by
  unfold construct _initializeChain _spinupDb _spinupForkDb
  dsimp only
  repeat' with_reducible
    first
    | exact Triple.fcAssert _ _ _ fun _ h => h | exact Triple.pure _ fun _ h => h
    | exact withSkipFlags_inv _ (Triple.discard (inv_of_calm hI (applyTransaction_calm env _)))
    | exact inv_modifyDb fun _ hc => hc.undoAll
    | exact inv_modifyForkDb | exact replay_inv hI | exact Triple.get
    | apply Triple.ite_join | apply Triple.bind_keep | apply Triple.ite
    | intro _
    | split

theorem start_inv {g : Genesis} {log : BlockLog} {c : Controller}
    (h : Controller.start env g log = some c) : StoreInv I c := by
  have := (construct_inv hI g).run (Controller.fresh g log)
    ⟨hI.genesis g, fun _ h => absurd h (List.not_mem_nil _)⟩
  unfold Controller.start at h
  split at h
  · rename_i hr
    rw [hr] at this
    exact Option.some.inj h ▸ this
  · exact absurd h (by simp)

/-- An invariant of the objects holds, in the current objects and every snapshot, in every
state a node reaches. -/
theorem reachable_storeInv {c : Controller} (h : Reachable env c) : StoreInv I c := by
  induction h with
  | start hs => exact start_inv hI hs
  | step _ hs ih => exact ih.step hI hs

end Invariant

/-- The objects' soundness is an invariant: calm methods keep the head, the chain and the
dedup index, and `_finalize_block` keeps the store sound. -/
theorem soundInvariant : ObjectsInvariant env (Sound env) where
  genesis _ := ⟨List.chain'_nil, (fun _ h => nomatch h), ⟨rfl, rfl⟩, rfl⟩
  calm _ _ h ho := ho.congr h.chain (.of_dgpo h.dgpo) h.transactions
  finalize := finalizeBlock_sound

/-- Every state a node reaches has a sound store. -/
theorem reachable_storeSound {c : Controller} (h : Reachable env c) : StoreSound env c :=
  reachable_storeInv soundInvariant h

/-! ### The chain behind the head -/

theorem Extends.blockNum_eq {b b' : SignedBlock} (h : Extends env b b') :
    b'.blockNum = b.blockNum + 1 := by
  show b'.previous.num + 1 = _
  rw [h.1]
  rfl

theorem Extends.timestamp_lt {b b' : SignedBlock} (h : Extends env b b') :
    b.timestamp < b'.timestamp := by
  have h2 := h.2
  unfold Controller.slotToTimePoint at h2
  exact Nat.lt_of_mul_lt_mul_right
    (Nat.lt_of_add_lt_add_right (Nat.lt_of_mul_lt_mul_right h2))

/-- In every reachable state the blocks the store has applied, oldest first, form the
chain ending at the head: each names the one before it as its previous block, is numbered
one above it and has a later timestamp; the first names the null id as its previous block,
so it is block 1; the head of the dynamic global properties is the last of them, with its
number and the time of its slot; and with no block applied the head is the genesis state's,
the null id at number 0. -/
theorem reachable_chain_linked {c : Controller} (hc : Reachable env c) :
    c.objects.chain.Chain' (fun b b' =>
      b'.previous = b.id env ∧ b'.blockNum = b.blockNum + 1 ∧ b.timestamp < b'.timestamp) ∧
    (∀ b ∈ c.objects.chain.head?, b.previous = default ∧ b.blockNum = 1) ∧
    (∀ b ∈ c.objects.chain.getLast?, c.headBlockId = b.id env ∧ c.headBlockNum = b.blockNum ∧
      c.headBlockTime = Controller.slotToTimePoint env b.timestamp) ∧
    (c.objects.chain = [] → c.headBlockId = default ∧ c.headBlockNum = 0) := by
  have hs := (reachable_storeSound hc).1
  have hh := hs.head
  refine ⟨hs.linked.imp fun _ _ h => ⟨h.1, h.blockNum_eq, h.timestamp_lt⟩,
    fun b hb => ⟨hs.rooted b hb, by rw [SignedBlock.blockNum, hs.rooted b hb]; rfl⟩,
    fun b hb => ?_, fun he => ?_⟩
  · rw [Option.mem_def.1 hb] at hh
    exact hh
  · rw [he] at hh
    exact hh

/-- Two blocks of the deployment `lagConfig`. -/
def twoBlockRun : Controller :=
  Controller.run (sampleEnv lagConfig) lagGenesis ⟨[]⟩
    [.pushBlock lagB1 trustedSkip, .pushBlock (lagBlock [lagB1] 2) trustedSkip]

set_option smartUnfolding false in
theorem twoBlockRun_chain_linked :
    Reachable (sampleEnv lagConfig) twoBlockRun ∧
    twoBlockRun.objects.chain.Chain' (fun b b' =>
      b'.previous = b.id (sampleEnv lagConfig) ∧ b'.blockNum = b.blockNum + 1 ∧
        b.timestamp < b'.timestamp) ∧
    (∀ b ∈ twoBlockRun.objects.chain.head?, b.previous = default ∧ b.blockNum = 1) ∧
    (∀ b ∈ twoBlockRun.objects.chain.getLast?,
      twoBlockRun.headBlockId = b.id (sampleEnv lagConfig) ∧
      twoBlockRun.headBlockNum = b.blockNum ∧
      twoBlockRun.headBlockTime = Controller.slotToTimePoint (sampleEnv lagConfig) b.timestamp) ∧
    (twoBlockRun.objects.chain = [] →
      twoBlockRun.headBlockId = default ∧ twoBlockRun.headBlockNum = 0) :=
  have h : Reachable (sampleEnv lagConfig) twoBlockRun := reachable_run (by decide) (by decide)
  ⟨h, reachable_chain_linked h⟩

/-! ### The dedup index -/

/-- Nothing in the controller writes the dedup index, so `is_known_transaction` is false
in every reachable state. -/
theorem reachable_not_isKnownTransaction {c : Controller} (hc : Reachable env c) (id : Digest) :
    c.isKnownTransaction id = false := by
  simp [Controller.isKnownTransaction, (reachable_storeSound hc).1.noDedup]

/-- One transaction pushed on the genesis state of the deployment `lagConfig`. -/
def pushedOnceRun : Controller :=
  Controller.run (sampleEnv lagConfig) lagGenesis ⟨[]⟩
    [.pushTransaction (sampleTrx 5) trustedSkip]

set_option smartUnfolding false in
theorem pushedOnceRun_not_isKnownTransaction :
    Reachable (sampleEnv lagConfig) pushedOnceRun ∧
      pushedOnceRun.isKnownTransaction ((sampleTrx 5).id (sampleEnv lagConfig)) = false :=
  have h : Reachable (sampleEnv lagConfig) pushedOnceRun := reachable_run (by decide) (by decide)
  ⟨h, reachable_not_isKnownTransaction h _⟩

set_option smartUnfolding false in
/-- After the transaction was accepted, the same transaction is accepted again, with the
dupe check on, and the pending block then holds it twice. -/
theorem pushTransaction_accepts_duplicate :
    Reachable (sampleEnv lagConfig) pushedOnceRun ∧
      pushedOnceRun.isKnownTransaction ((sampleTrx 5).id (sampleEnv lagConfig)) = false ∧
      pushedOnceRun.returnsOn (sampleEnv lagConfig) (.pushTransaction (sampleTrx 5) trustedSkip) ∧
      ((pushedOnceRun.after (sampleEnv lagConfig) (.pushTransaction (sampleTrx 5) trustedSkip)
        ).pendingBlock.map (·.inputTransactions)) = some [sampleTrx 5, sampleTrx 5] :=
  ⟨reachable_run (by decide) (by decide), by decide, by decide, by decide⟩

/-! ### Admission -/

/-- A transaction that breaks every admission rule of `validate_scope`, `validate_tapos`
and `validate_expiration`: its write scope is not ascending and shares scope 3 with its
read scope, it refers to block 0 with a prefix that does not match, and it expired at
time 0. -/
def admittedTrx : SignedTransaction := ⟨⟨0, 0, 1, [3], [10, 3], [⟨3, 5, [], []⟩]⟩, []⟩

set_option smartUnfolding false in
/-- `_push_transaction` calls none of the three checks, and accepts it with no check
skipped. -/
theorem pushTransaction_admits_unchecked_transaction :
    Reachable (sampleEnv lagConfig) lagStart ∧
      lagStart.returnsOn (sampleEnv lagConfig) (.pushTransaction admittedTrx 0) ∧
      strictlyAscending admittedTrx.writeScope = false ∧
      3 ∈ admittedTrx.readScope ∧ 3 ∈ admittedTrx.writeScope ∧
      admittedTrx.verifyReferenceBlock
        (lagStart.objects.blockSummaries (admittedTrx.refBlockNum % uint16Modulus)) = false ∧
      admittedTrx.expiration * 1000000 < lagStart.headBlockTime :=
  ⟨@reachable_run (sampleEnv lagConfig) lagGenesis ⟨[]⟩ [] (by decide) rfl, by decide, by decide,
    by decide, by decide, by decide, by decide⟩

end EosChain
