import EosChain.Proofs.Atomicity
import EosChain.Proofs.Head
import EosChain.Proofs.Traversal

/-!
# `EosChain.Proofs.Speculative`: `clear_pending` discards every pushed transaction

A producer collects transactions into the pending block before it generates a block.
`_start_pending_block` opens the pending undo session on the store; each
`_push_transaction` nests a temporary session in it, squashed into it when the
transaction is applied and rolled back when it fails; and `clear_pending` rolls the
pending session back. So whatever `push_transaction` calls a node makes from a state with
no pending block, returning or throwing, `clear_pending` afterwards puts the store back as
it was (`clearPending_discards_pushes`).

The argument is an invariant of the run (`Speculative`): once a pending block is open, the
pending session is held, the block stays open, and the store's undo history and revision
are those of the store before it with one session opened on it. The temporary session of
each call leaves them as it found them, since the body of `_push_transaction` keeps the
undo history (`pushTransactionBody_quiet`) and never closes the pending block.

That last fact is a frame of the pending layer: its methods write the pending block, which
they keep open, its traces and the cycle schedule (`PendingWrite`), besides the store's
objects, so they keep every relation between states that these writes keep
(`pushTransactionBody_moves`, in `EosChain.Proofs.Traversal`). Keeping the pending block
open is one such relation.
-/

set_option autoImplicit false

namespace EosChain

/-! ### The pending session across pushed transactions -/

/-- An open pending block stays open. -/
def PendingOpen (c c' : Controller) : Prop := c.hasPendingBlock = true → c'.hasPendingBlock = true

instance : IsRefl Controller PendingOpen := ⟨fun _ h => h⟩

instance : IsTrans Controller PendingOpen := ⟨fun _ _ _ h₁ h₂ h => h₂ (h₁ h)⟩

theorem pendingOpen_modifyObjects (f : Objects → Objects) : Moves PendingOpen (modifyObjects f) :=
  Moves.modifyObjects fun _ h => h

theorem pendingOpen_write {f : Controller → Controller} (h : ∀ c, PendingWrite c (f c)) :
    Moves PendingOpen (modify f : ControllerM PUnit) :=
  Moves.update fun c => (h c).keepsOpen

theorem startPendingCycle_keeps :
    Moves (fun c c' => Quiet c c' ∧ PendingOpen c c') _startPendingCycle :=
  startPendingCycle_quiet.and (startPendingCycle_moves fun _ => pendingOpen_write)

theorem pushTransactionBody_keeps (env : Env) (trx : SignedTransaction) :
    Moves (fun c c' => Quiet c c' ∧ PendingOpen c c') (pushTransactionBody env trx) :=
  (pushTransactionBody_quiet env trx).and
    (pushTransactionBody_moves env (fun f _ => pendingOpen_modifyObjects f) (fun _ => pendingOpen_write) trx)

/-- No pending block, no pending session, and the store `d`. -/
structure Idle (d : Database) (c : Controller) : Prop where
  db : c.db = d
  noPending : c.hasPendingBlock = false
  noSession : c.pendingBlockSession = false

/-- The pending session opened on the store `d`, with the transactions pushed since: the
pending block is open and its session held, and the store's undo history and revision are
those of `d` with one session opened on it. -/
structure Speculative (d : Database) (c : Controller) : Prop where
  session : c.pendingBlockSession = true
  pending : c.hasPendingBlock = true
  stack : c.db.stack = d.startUndoSession.stack
  revision : c.db.revision = d.startUndoSession.revision

/-- A temporary session nested in the pending session opened on `d`. -/
structure Nested (d : Database) (c : Controller) : Prop where
  session : c.pendingBlockSession = true
  pending : c.hasPendingBlock = true
  stack : ∃ u, c.db.stack = u :: d.startUndoSession.stack
  revision : c.db.revision = d.startUndoSession.revision + 1

section Sessions

variable {d : Database} {c c' : Controller}

theorem Speculative.keeps (h : Speculative d c) (hq : Quiet c c') (hp : PendingOpen c c') :
    Speculative d c' :=
  ⟨hq.session.trans h.session, hp h.pending, hq.stack.trans h.stack,
    hq.revision.trans h.revision⟩

theorem Nested.keeps (h : Nested d c) (hq : Quiet c c') (hp : PendingOpen c c') : Nested d c' :=
  ⟨hq.session.trans h.session, hp h.pending, hq.stack ▸ h.stack, hq.revision.trans h.revision⟩

theorem Speculative.nest (h : Speculative d c) :
    Nested d { c with db := c.db.startUndoSession } :=
  ⟨h.session, h.pending, ⟨_, by rw [Database.startUndoSession_stack, h.stack]⟩,
    by rw [Database.startUndoSession_revision, h.revision]⟩

theorem Nested.squash (h : Nested d c) : Speculative d { c with db := c.db.squash } := by
  obtain ⟨u, hu⟩ := h.stack
  refine ⟨h.session, h.pending, ?_, ?_⟩ <;> simp only [Database.squash, hu]
  rw [h.revision, Int.add_sub_cancel]

theorem Nested.undo (h : Nested d c) : Speculative d { c with db := c.db.undo } := by
  obtain ⟨u, hu⟩ := h.stack
  refine ⟨h.session, h.pending, ?_, ?_⟩ <;> simp only [Database.undo, hu]
  rw [h.revision, Int.add_sub_cancel]

end Sessions

/-- The temporary session of `_push_transaction` around a step that keeps the undo history
and the pending block open, within the pending session opened on `d`: however the step
ends, the squash or the roll-back leaves the pending session as it was. -/
theorem tempSession_speculative {α : Type} {x : ControllerM α}
    (hx : Moves (fun c c' => Quiet c c' ∧ PendingOpen c c') x) (d : Database) :
    Triple (Speculative d)
      (do
        modifyDb Database.startUndoSession
        let result ← tryCatch x fun e => do
          modifyDb Database.undo
          throw e
        modifyDb Database.squash
        pure result)
      (Speculative d) (Speculative d) :=
  Triple.bind (Triple.modifyDb fun _ h => h.nest) fun _ =>
    Triple.bind (Triple.tryCatch (Triple.frame hx (fun _ _ h hc => hc.keeps h.1 h.2) fun _ h => h)
      fun _ => Triple.bind (Triple.modifyDb fun _ h => h.undo) fun _ => Triple.throw _ fun _ h => h)
      fun _ => Triple.bind (Triple.modifyDb fun _ h => h.squash) fun _ => Triple.pure _ fun _ h => h

/-- `_start_pending_block` with no pending block opens the pending session on the store,
whether `_start_pending_cycle` then returns or fails. -/
theorem startPendingBlock_speculative {d : Database} (c₀ : Controller)
    (h : c₀.hasPendingBlock = false) (hd : c₀.db = d) :
    Triple (· = c₀) _startPendingBlock (Speculative d) (Speculative d) := by
  unfold _startPendingBlock
  refine Triple.get_bind_self ?_
  rw [h]
  refine Triple.fcAssert_true_bind _ _ (Triple.bind (Triple.update
    (Q := Speculative d) fun c hc => ?_) fun _ => ?_)
  · subst hc hd
    exact ⟨rfl, rfl, rfl, rfl⟩
  · exact Triple.frame startPendingCycle_keeps (fun _ _ h hc => hc.keeps h.1 h.2) fun _ h => h

section Push

variable (env : Env)

theorem pushTransactionImpl_speculative (trx : SignedTransaction) (d : Database) :
    Triple (fun c => Idle d c ∨ Speculative d c) (_pushTransaction env trx) (Speculative d)
      (Speculative d) := by
  unfold _pushTransaction
  refine Triple.get_bind_at fun c₀ hc₀ => ?_
  dsimp only
  split
  · rename_i hp
    rw [Bool.not_eq_true'] at hp
    have hidle : Idle d c₀ := hc₀.resolve_right fun h => by rw [h.pending] at hp; cases hp
    exact Triple.bind (startPendingBlock_speculative c₀ hp hidle.db) fun _ =>
      tempSession_speculative (pushTransactionBody_keeps env trx) d
  · rename_i hp
    simp only [Bool.not_eq_true', Bool.not_eq_false] at hp
    have hspec : Speculative d c₀ := hc₀.resolve_left fun h => by rw [h.noPending] at hp; cases hp
    exact Triple.bind (Triple.pure _ fun _ h => h ▸ hspec) fun _ =>
      tempSession_speculative (pushTransactionBody_keeps env trx) d

/-- `push_transaction` from no pending block, or within the pending session opened on
`d`, ends within that session, whether it returns or fails. -/
theorem pushTransaction_speculative (trx : SignedTransaction) (skip : Nat) (d : Database) :
    Triple (fun c => Idle d c ∨ Speculative d c) (pushTransaction env trx skip) (Speculative d)
      (Speculative d) :=
  Triple.withSkipFlags skip (pushTransactionImpl_speculative env trx d)
    (fun _ _ h => h.imp (fun h => ⟨h.1, h.2, h.3⟩) fun h => ⟨h.1, h.2, h.3, h.4⟩)
    (fun _ _ h => ⟨h.1, h.2, h.3, h.4⟩) fun _ _ h => ⟨h.1, h.2, h.3, h.4⟩

/-- One `push_transaction` call, after which the node runs on. -/
def PushStep (c c' : Controller) : Prop :=
  ∃ trx skip, continuation ((Call.pushTransaction trx skip).run env c) = some c'

variable {env}

theorem PushStep.speculative {d : Database} {c c' : Controller} (h : PushStep env c c')
    (hc : Idle d c ∨ Speculative d c) : Speculative d c' := by
  obtain ⟨trx, skip, hcall⟩ := h
  rw [← resultState_of_continuation hcall]
  exact (pushTransaction_speculative env trx skip d).discard.result hc

/-- Whatever `push_transaction` calls a node makes from a state with no pending block and
no pending session, each returning or throwing, `clear_pending` then puts the store back
as it was: its objects, its undo history and its revision. -/
theorem clearPending_discards_pushes {c₀ c : Controller} (hp : c₀.hasPendingBlock = false)
    (hs : c₀.pendingBlockSession = false) (h : Relation.ReflTransGen (PushStep env) c₀ c) :
    ∃ c', clearPending c = .ok () c' ∧ c'.db = c₀.db := by
  have hinv : Idle c₀.db c ∨ Speculative c₀.db c := by
    induction h with
    | refl => exact .inl ⟨rfl, hp, hs⟩
    | tail _ hstep ih => exact .inr (hstep.speculative ih)
  refine ⟨_, rfl, ?_⟩
  show (if c.pendingBlockSession then c.db.undo else c.db) = c₀.db
  rcases hinv with hidle | hspec
  · rw [hidle.noSession, if_neg Bool.false_ne_true, hidle.db]
  · rw [hspec.session, if_pos rfl]
    exact Database.undo_of_session hspec.stack hspec.revision

end Push

/-- The calls of a run after each of which the node runs on are steps, of any relation
that holds across each of its calls. -/
theorem steps_foldl_after {env : Env} {S : Controller → Controller → Prop} {c : Controller}
    {calls : List Call} (hS : ∀ call ∈ calls, ∀ c c', continuation (call.run env c) = some c' → S c c')
    (hr : c.runsOn env calls = true) :
    Relation.ReflTransGen S c (calls.foldl (Controller.after env) c) := by
  induction calls generalizing c with
  | nil => exact .refl
  | cons call rest ih =>
    simp only [Controller.runsOn, Bool.and_eq_true] at hr
    obtain ⟨c', hc'⟩ := Option.isSome_iff_exists.1 hr.1
    have hafter : c.after env call = c' := by rw [Controller.after, hc']; rfl
    rw [← hafter] at hc'
    exact .head (hS call (List.mem_cons_self _ _) _ _ hc')
      (ih (fun call' h => hS call' (List.mem_cons_of_mem _ h)) hr.2)

set_option smartUnfolding false in
/-- From the controller built for `rejectEnv`, a transaction that is applied and one that
the contract rejects leave a pending block; `clear_pending` then puts the store back as the
constructor left it. -/
theorem clearPending_discards_pushes_rejectedRun :
    (Controller.begin rejectEnv lagGenesis ⟨[]⟩).hasPendingBlock = false ∧
      (Controller.begin rejectEnv lagGenesis ⟨[]⟩).pendingBlockSession = false ∧
      Relation.ReflTransGen (PushStep rejectEnv) (Controller.begin rejectEnv lagGenesis ⟨[]⟩)
        rejectedRun ∧
      ∃ c', clearPending rejectedRun = .ok () c' ∧
        c'.db = (Controller.begin rejectEnv lagGenesis ⟨[]⟩).db :=
  have hp : (Controller.begin rejectEnv lagGenesis ⟨[]⟩).hasPendingBlock = false := by decide
  have hs : (Controller.begin rejectEnv lagGenesis ⟨[]⟩).pendingBlockSession = false := by
    decide
  have hrun : Relation.ReflTransGen (PushStep rejectEnv)
      (Controller.begin rejectEnv lagGenesis ⟨[]⟩) rejectedRun :=
    @steps_foldl_after rejectEnv (PushStep rejectEnv) _
      [.pushTransaction (shardTrx 5 1) 0, .pushTransaction (shardTrx 8 2) 0] (fun call hcall _ _ h => by
      simp only [List.mem_cons, List.mem_singleton, List.not_mem_nil, or_false] at hcall
      rcases hcall with rfl | rfl <;> exact ⟨_, _, h⟩) (by decide)
  ⟨hp, hs, hrun, clearPending_discards_pushes hp hs hrun⟩

end EosChain
