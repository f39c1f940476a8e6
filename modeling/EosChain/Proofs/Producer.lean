import EosChain.Proofs.Traversal
import EosChain.Proofs.Runs

/-!
# `EosChain.Proofs.Producer`: the producer's block and the validator's checks

A producer assembles its block on top of the head. `_push_transaction` runs each
transaction in a temporary session nested in the pending one, and `_generate_block`
finalizes what the transactions left. Nothing a pending transaction does reaches the
dynamic global properties: every path of `push_transaction`, returning or throwing, leaves
the head block's number, id and time, the absolute slot and the last irreversible block
number as they were (`pushTransaction_keeps_dgpo`). The proof follows a property `p` of
the dynamic global properties through each step (`DgpoSat p`); inside the temporary
session `p` also holds of the top undo record (`TopDgpoSat p`), which is what a rollback
puts back.

The producer table is contract state, and a pending transaction may change it.
`_generate_block` reads the producer object, and `_finalize_block` checks the block's
signature, after the pending transactions ran; `__apply_block` checks the signature in
`validate_block_header` before it runs them. When a pending transaction changes the
signing key of the block's producer, `_apply_block` rejects the block `generate_block`
returns, from the state the producer started from
(`generateBlock_rejected_by_applyBlock`).
-/

set_option autoImplicit false

namespace EosChain

section Steps

variable (p : DynamicGlobalPropertyObject → Prop)

/-- The dynamic global properties satisfy `p`. -/
def DgpoSat (c : Controller) : Prop := p c.dgpo

/-- The dynamic global properties, and those the top undo record would put back, satisfy
`p`. -/
def TopDgpoSat (c : Controller) : Prop := p c.dgpo ∧ ∀ u ∈ c.db.stack.head?, p u.objects.dgpo

theorem dgpoSat_of_quiet {α : Type} {x : ControllerM α} (h : Moves Quiet x) :
    Triple (DgpoSat p) x (DgpoSat p) (DgpoSat p) :=
  Triple.of_frame h fun _ _ h hc => by
    unfold DgpoSat
    rw [h.dgpo]
    exact hc

theorem dgpoSat_update {f : Controller → Controller} (hf : ∀ c, (f c).db.objects = c.db.objects) :
    Triple (DgpoSat p) (modify f) (DgpoSat p) (DgpoSat p) :=
  Triple.update fun c hc => by
    unfold DgpoSat Controller.dgpo
    rw [hf]
    exact hc

theorem withSkipFlags_dgpoSat {α : Type} (skip : Nat) {x : ControllerM α}
    (hx : Triple (DgpoSat p) x (DgpoSat p) (DgpoSat p)) :
    Triple (DgpoSat p) (withSkipFlags skip x) (DgpoSat p) (DgpoSat p) :=
  Triple.bind_keep Triple.get fun _ => Triple.bind_keep (dgpoSat_update p fun _ => rfl) fun _ =>
    Triple.bind_keep (Triple.tryCatch hx fun _ =>
      Triple.bind_keep (dgpoSat_update p fun _ => rfl) fun _ => Triple.throw _ fun _ h => h) fun _ =>
    Triple.bind_keep (dgpoSat_update p fun _ => rfl) fun _ => Triple.pure _ fun _ h => h

theorem startPendingBlock_dgpoSat :
    Triple (DgpoSat p) _startPendingBlock (DgpoSat p) (DgpoSat p) :=
  Triple.bind_keep Triple.get fun _ => Triple.bind_keep (Triple.fcAssert _ _ _ fun _ h => h)
    fun _ => Triple.bind_keep (dgpoSat_update p fun c => c.db.startUndoSession_objects) fun _ =>
    dgpoSat_of_quiet p startPendingCycle_quiet

/-- Rolling the top undo record back puts back dynamic global properties that satisfy `p`. -/
theorem topDgpoSat_undo :
    Triple (TopDgpoSat p) (modifyDb Database.undo) (DgpoSat p) (DgpoSat p) :=
  Triple.modifyDb fun c hc => by
    unfold DgpoSat Controller.dgpo Database.undo
    split
    · exact hc.1
    · rename_i u _ hs
      exact hc.2 u (by rw [hs]; rfl)

variable (env : Env)

/-- `_push_transaction` rolls back only the temporary session it opened, which saved the
dynamic global properties it started from. -/
theorem pushTransactionImpl_dgpoSat (trx : SignedTransaction) :
    Triple (DgpoSat p) (_pushTransaction env trx) (DgpoSat p) (DgpoSat p) := by
  have hopen : Triple (DgpoSat p) (modifyDb Database.startUndoSession) (TopDgpoSat p)
      (DgpoSat p) :=
    Triple.modifyDb fun _ hc => ⟨hc, fun _ hu => Option.mem_some_iff.1 hu ▸ hc⟩
  have hbody : Triple (TopDgpoSat p) (pushTransactionBody env trx) (TopDgpoSat p)
      (TopDgpoSat p) :=
    Triple.of_frame (pushTransactionBody_quiet env trx) fun _ _ h hc => by
      unfold TopDgpoSat at *
      rw [h.dgpo, h.stack]
      exact hc
  have hsquash : Triple (TopDgpoSat p) (modifyDb Database.squash) (DgpoSat p) (DgpoSat p) :=
    Triple.modifyDb fun c hc => by
      show p c.db.squash.objects.dgpo
      rw [c.db.squash_objects]
      exact hc.1
  have htemp : Triple (TopDgpoSat p)
      (tryCatch (pushTransactionBody env trx) fun e => do modifyDb Database.undo; throw e)
      (TopDgpoSat p) (DgpoSat p) :=
    Triple.tryCatch hbody fun _ => Triple.bind (topDgpoSat_undo p) fun _ => Triple.throw _ fun _ h => h
  unfold _pushTransaction
  dsimp only
  repeat' with_reducible
    first
    | exact Triple.pure _ fun _ h => h | exact Triple.get | exact startPendingBlock_dgpoSat p
    | apply Triple.bind hopen | apply Triple.bind htemp | apply Triple.bind hsquash
    | apply Triple.ite_join | apply Triple.bind_keep | apply Triple.ite
    | intro _

end Steps

/-- `push_transaction`, returning or throwing, leaves the dynamic global properties as they
were. -/
theorem pushTransaction_keeps_dgpo (env : Env) (trx : SignedTransaction) (skip : Nat)
    (c : Controller) : (resultState (pushTransaction env trx skip c)).dgpo = c.dgpo :=
  (withSkipFlags_dgpoSat (· = c.dgpo) skip (pushTransactionImpl_dgpoSat _ env trx)).result rfl

/-! ### A pending transaction that changes the producer's key -/

/-- The deployment `rotationConfig` with block signatures that check: a producer's
signature is its key, and it validates against that key only. An action named 7
registers the key `prodB + 91` for `prodB`, as a producer's key update does. -/
def rekeyEnv : Env :=
  { sampleEnv rotationConfig with
    sign := fun _ k => k
    validateSignee := fun h k => h.producerSignature = k
    exec := fun _ a e => .ok (if a.name = 7 then { e with producers := e.producers.map fun q =>
        if q.1 = prodB then (prodB, prodB + 91) else q } else e, ⟨[], []⟩) }

/-- The controller built from `rotationGenesis` under `rekeyEnv`. -/
def rekeyStart : Controller := Controller.begin rekeyEnv rotationGenesis ⟨[]⟩

/-- The transaction that registers `prodB`'s new key, pushed with no check skipped. -/
def rekeyCall : Call := .pushTransaction (sampleTrx 7) 0

set_option smartUnfolding false in
theorem generateBlock_rejected_by_applyBlock :
    Reachable rekeyEnv rekeyStart ∧ rekeyStart.pendingBlock = none ∧
      rekeyStart.returnsOn rekeyEnv rekeyCall ∧
      ((rekeyStart.after rekeyEnv rekeyCall).generated rekeyEnv (genesisSlot rotationConfig + 1)
        prodB (prodB + 91) 0).any (rekeyStart.rejects rekeyEnv · 0) = true :=
  ⟨@reachable_run rekeyEnv rotationGenesis ⟨[]⟩ [] (by decide) rfl, by decide, by decide,
    by decide⟩

end EosChain
