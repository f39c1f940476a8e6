import EosChain.Proofs.Calls

/-!
# `EosChain.Proofs.Atomicity`: what a failed call leaves behind

`_push_transaction` runs the transaction under a temporary session nested in the
pending one and rolls it back when anything fails, so a failed `push_transaction`
leaves the store as it found it, apart from the pending session it opens when there is
no pending block (`pushTransaction_rollsBack`). The session covers the store only. The
members of the controller that describe the pending block are outside it:

* `_pending_cycle.schedule(trx)` runs before the transaction is applied, and the
  comment above `_apply_transaction` ("there is nothing to undo") does not hold for it.
  A transaction the contract rejects keeps the shard it was scheduled into; the next
  transaction in a new shard then finds the shard count ahead of the block's shards,
  and throws after `_start_pending_shard` has grown the pending block
  (`pushTransaction_failure_keeps_schedule`).
* `_generate_block` finalizes the pending cycle before it checks the signing key and
  has no handler: a call with the wrong key throws after the cycle trace is gone, and the
  next transaction pushed on the pending block stops the node when it appends its trace
  (`generateBlock_failure_finalizes_cycle`).
-/

set_option autoImplicit false

namespace EosChain

/-! ### The store across a failed transaction -/

/-- The store did not change. -/
def StoreKept (c c' : Controller) : Prop := c'.db = c.db

instance : IsRefl Controller StoreKept := ⟨fun _ => rfl⟩

instance : IsTrans Controller StoreKept := ⟨fun _ _ _ h₁ h₂ => h₂.trans h₁⟩

theorem storeKept_update {f : Controller → Controller} (h : ∀ c, (f c).db = c.db) :
    Moves StoreKept (modify f : ControllerM PUnit) :=
  Moves.update h

/-- `_start_pending_cycle` writes the pending layer only. -/
theorem startPendingCycle_storeKept : Moves StoreKept _startPendingCycle :=
  startPendingCycle_moves fun _ h => storeKept_update fun c => (congrArg (·.db) (h c).rest :)

/-- `_start_pending_block` on a controller with no pending block opens the pending
session, whether it returns or fails, and changes nothing else in the store. -/
theorem startPendingBlock_opens_session (c₀ : Controller) (h : c₀.hasPendingBlock = false) :
    Triple (· = c₀) _startPendingBlock (fun c => c.db = c₀.db.startUndoSession)
      (fun c => c.db = c₀.db.startUndoSession) := by
  unfold _startPendingBlock
  refine Triple.get_bind_self ?_
  rw [h]
  refine Triple.fcAssert_true_bind _ _ (Triple.bind (Triple.update
    (Q := fun c => c.db = c₀.db.startUndoSession) fun c hc => hc ▸ rfl) fun _ => ?_)
  exact Triple.frame startPendingCycle_storeKept (fun _ _ h hc => h.trans hc) fun _ h => h

/-- A temporary session around a step that keeps the undo history: when the step fails,
rolling the session back puts the store back as it was. -/
theorem tempSession_rollsBack {α : Type} {x : ControllerM α} (hx : Moves Quiet x)
    (d : Database) :
    Triple (fun c => c.db = d)
      (do
        modifyDb Database.startUndoSession
        let result ← tryCatch x fun e => do
          modifyDb Database.undo
          throw e
        modifyDb Database.squash
        pure result)
      (fun _ => True) (fun c => c.db = d) := by
  refine Triple.bind (Triple.modifyDb (Q := fun c => c.db.stack = d.startUndoSession.stack ∧
    c.db.revision = d.startUndoSession.revision) fun _ h => by simp [h]) fun _ => ?_
  refine Triple.bind (Triple.tryCatch (Triple.frame hx
    (fun _ _ h hc => ⟨h.stack ▸ hc.1, h.revision ▸ hc.2⟩) fun _ h => h) fun _ =>
      Triple.bind (Triple.modifyDb (Q := fun c => c.db = d)
        fun _ h => Database.undo_of_session h.1 h.2) fun _ => Triple.throw _ fun _ h => h)
    fun _ => ?_
  exact Triple.bind (Triple.modifyDb (Q := fun _ => True) fun _ _ => trivial) fun _ =>
    Triple.pure _ fun _ _ => trivial

section Push

variable (env : Env)

theorem pushTransactionImpl_rollsBack (trx : SignedTransaction) (c₀ : Controller) :
    Triple (· = c₀) (_pushTransaction env trx) (fun _ => True)
      (fun c => c.db = if c₀.hasPendingBlock then c₀.db else c₀.db.startUndoSession) := by
  unfold _pushTransaction
  refine Triple.get_bind_self ?_
  dsimp only
  split
  · rename_i hp
    rw [Bool.not_eq_true'] at hp
    simp only [hp]
    exact Triple.bind (startPendingBlock_opens_session c₀ hp) fun _ =>
      tempSession_rollsBack (pushTransactionBody_quiet env trx) _
  · rename_i hp
    simp only [Bool.not_eq_true', Bool.not_eq_false] at hp
    simp only [hp, if_true]
    exact Triple.bind (Triple.pure _ fun _ h => h ▸ rfl) fun _ =>
      tempSession_rollsBack (pushTransactionBody_quiet env trx) _

/-- A `push_transaction` that fails, for whatever reason, leaves the store as it found
it, apart from the pending session it opens when there is no pending block. -/
theorem pushTransaction_rollsBack (trx : SignedTransaction) (skip : Nat) (c₀ : Controller) :
    Triple (· = c₀) (pushTransaction env trx skip) (fun _ => True)
      (fun c => c.db = if c₀.hasPendingBlock then c₀.db else c₀.db.startUndoSession) := by
  unfold pushTransaction withSkipFlags
  refine Triple.get_bind_self (Triple.bind (Triple.update
    (Q := (· = { c₀ with skipFlags := skip })) fun _ h => h ▸ rfl) fun _ => ?_)
  refine Triple.bind (Triple.tryCatch (pushTransactionImpl_rollsBack env trx _) fun _ =>
    Triple.bind (Triple.update fun _ h => h) fun _ => Triple.throw _ fun _ h => h) fun _ => ?_
  exact Triple.bind (Triple.update (Q := fun _ => True) fun _ _ => trivial) fun _ =>
    Triple.pure _ fun _ _ => trivial

end Push

/-! ### The pending block across a failed transaction -/

/-- The deployment `lagConfig` with a contract that rejects every action named 8. -/
def rejectEnv : Env :=
  { sampleEnv lagConfig with
    exec := fun trx a e => if a.name = 8 then .error (.exception .contractException "rejected")
      else (sampleEnv lagConfig).exec trx a e }

/-- A transaction with one action named `n` that writes `scope` only. -/
def shardTrx (n : Nat) (scope : ScopeName) : SignedTransaction :=
  { sampleTrx n with writeScope := [scope] }

/-- A transaction writing scope 1, in shard 0 of the pending block. -/
def scheduledRun : Controller :=
  Controller.run rejectEnv lagGenesis ⟨[]⟩ [.pushTransaction (shardTrx 5 1) 0]

/-- Then a transaction writing scope 2, which the contract rejects. -/
def rejectedRun : Controller :=
  Controller.run rejectEnv lagGenesis ⟨[]⟩
    [.pushTransaction (shardTrx 5 1) 0, .pushTransaction (shardTrx 8 2) 0]

set_option smartUnfolding false in
/-- The rejected transaction changes the pending cycle's schedule: it keeps shard 1. The
next transaction, writing scope 3, is scheduled into shard 2 while the pending block has
one shard; `_start_pending_shard` adds one, the receipt then goes to a shard that does
not exist and the call throws, with the pending block grown. -/
theorem pushTransaction_failure_keeps_schedule :
    Reachable rejectEnv scheduledRun ∧ scheduledRun.pendingBlock.isSome ∧
      scheduledRun.throwsOn rejectEnv (.pushTransaction (shardTrx 8 2) 0) ∧
      (scheduledRun.after rejectEnv (.pushTransaction (shardTrx 8 2) 0)).pendingCycle ≠
        scheduledRun.pendingCycle ∧
      Reachable rejectEnv rejectedRun ∧
      rejectedRun.throwsOn rejectEnv (.pushTransaction (shardTrx 6 3) 0) ∧
      (rejectedRun.after rejectEnv (.pushTransaction (shardTrx 6 3) 0)).pendingBlock ≠
        rejectedRun.pendingBlock :=
  ⟨reachable_run (by decide) (by decide), by decide, by decide, by decide,
    reachable_run (by decide) (by decide), by decide, by decide⟩

/-! ### A failed `generate_block` -/

set_option smartUnfolding false in
/-- On the pending block of `pushedOnceRun`, `generate_block` by `prodA` with a key that is
not its signing key throws after `_finalize_pending_cycle` has moved the cycle trace
into the block trace. A transaction that the pending block would have taken then stops
the node. -/
theorem generateBlock_failure_finalizes_cycle :
    Reachable (sampleEnv lagConfig) pushedOnceRun ∧ pushedOnceRun.pendingCycleTrace.isSome ∧
      pushedOnceRun.throwsOn (sampleEnv lagConfig)
        (.generateBlock (genesisSlot lagConfig + 1) prodA 0 0) ∧
      (pushedOnceRun.after (sampleEnv lagConfig)
        (.generateBlock (genesisSlot lagConfig + 1) prodA 0 0)).pendingCycleTrace = none ∧
      pushedOnceRun.returnsOn (sampleEnv lagConfig) (.pushTransaction (sampleTrx 6) trustedSkip) ∧
      (pushedOnceRun.after (sampleEnv lagConfig)
        (.generateBlock (genesisSlot lagConfig + 1) prodA 0 0)).runsOn (sampleEnv lagConfig)
          [.pushTransaction (sampleTrx 6) trustedSkip] = false :=
  ⟨reachable_run (by decide) (by decide), by decide, by decide, by decide, by decide, by decide⟩

end EosChain
