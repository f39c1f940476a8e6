import EosChain.Proofs.Monad

/-!
# `EosChain.Proofs.Frame`: what the transaction-level methods leave alone

Two frames cover every method below the session and head management:

* the checks and lookups change nothing (`Moves Unchanged`): `get_producer`,
  `validate_block_header`, the authorization checks, `_calculate_producer_schedule`;
* the methods that execute transactions, fill the pending block, or update the
  properties of a block other than its head are `Quiet`: they keep the undo history and
  revision, the pending session, the dynamic global properties, the ghost chain and the
  dedup index.

Everything that moves the head, the undo history or the session
(`update_global_dynamic_data`, `update_last_irreversible_block`, the sessions of
`_push_transaction`, `_push_block`, `pop_block`, `clear_pending`) is treated where the
invariants are proved.

This module states the frames and, for each, the rule of the writes that keep it
(`calm_modifyObjects` for the writes of the transaction-level methods, `CalmWrite`). The
methods that make several writes are walked once, for any frame, in
`EosChain.Proofs.Traversal`, which instantiates the walks for the frames here.
-/

set_option autoImplicit false

namespace EosChain

/-- The state did not change. -/
def Unchanged (c c' : Controller) : Prop := c' = c

instance : IsRefl Controller Unchanged := ⟨fun _ => rfl⟩

instance : IsTrans Controller Unchanged := ⟨fun _ _ _ h₁ h₂ => h₂.trans h₁⟩

/-- The parts of the state that only the session, head and irreversibility code writes:
the undo history and revision, the pending session, the dynamic global properties, the
ghost chain, the dedup index, and the fork database's head. -/
structure Quiet (c c' : Controller) : Prop where
  stack : c'.db.stack = c.db.stack
  revision : c'.db.revision = c.db.revision
  session : c'.pendingBlockSession = c.pendingBlockSession
  dgpo : c'.dgpo = c.dgpo
  chain : c'.objects.chain = c.objects.chain
  transactions : c'.objects.transactions = c.objects.transactions
  forkHead : c'.forkDb.head = c.forkDb.head

instance : IsRefl Controller Quiet := ⟨fun _ => ⟨rfl, rfl, rfl, rfl, rfl, rfl, rfl⟩⟩

instance : IsTrans Controller Quiet :=
  ⟨fun _ _ _ h₁ h₂ => ⟨h₂.1.trans h₁.1, h₂.2.trans h₁.2, h₂.3.trans h₁.3,
    h₂.4.trans h₁.4, h₂.5.trans h₁.5, h₂.6.trans h₁.6, h₂.7.trans h₁.7⟩⟩

theorem Moves.quiet_of_unchanged {α : Type} {x : ControllerM α} (h : Moves Unchanged x) :
    Moves Quiet x :=
  h.mono fun c _ h => h ▸ refl_of Quiet c

/-- A method that changes nothing and whose value satisfies `V` on every return: the rest
of the block starts from a state where `V` holds of the value. -/
theorem Triple.bind_unchanged {α β : Type} {P Q E : Controller → Prop} {x : ControllerM α}
    {f : α → ControllerM β} {V : Controller → α → Prop} (hu : Moves Unchanged x)
    (hv : ∀ c a c', x c = .ok a c' → V c a) (hE : ∀ c, P c → E c)
    (hf : ∀ a, Triple (fun c => P c ∧ V c a) (f a) Q E) : Triple P (x >>= f) Q E := by
  refine ⟨fun c hc => ?_⟩
  have hl := hu.leaves c
  rw [bind_apply]
  cases h : x c with
  | ok a c' =>
    rw [h, resultState_ok] at hl
    subst hl
    exact (hf a).run _ ⟨hc, hv _ a _ h⟩
  | error e c' =>
    rw [h, resultState_error] at hl
    subst hl
    exact hE _ hc

/-- An update of the store's objects that keeps the head, the ghost chain and the dedup
index is quiet. -/
theorem quiet_modifyObjects {f : Objects → Objects} (hd : ∀ o, (f o).dgpo = o.dgpo)
    (hc : ∀ o, (f o).chain = o.chain) (ht : ∀ o, (f o).transactions = o.transactions) :
    Moves Quiet (modifyObjects f) :=
  Moves.modifyObjects fun _ => ⟨rfl, rfl, rfl, hd _, hc _, ht _, rfl⟩

/-- A change of a member of the controller outside the store, the pending session and
the fork database is quiet. -/
theorem quiet_update {f : Controller → Controller} (hd : ∀ c, (f c).db = c.db)
    (hs : ∀ c, (f c).pendingBlockSession = c.pendingBlockSession)
    (hf : ∀ c, (f c).forkDb = c.forkDb) :
    Moves Quiet (modify f : ControllerM PUnit) :=
  Moves.update fun c => by
    have h := hd c
    exact ⟨by rw [h], by rw [h], hs c, by simp [Controller.dgpo, h],
      by simp [Controller.objects, h], by simp [Controller.objects, h], by rw [hf c]⟩

/-- A change of the fork database that keeps its head is quiet. -/
theorem quiet_modifyForkDb {f : ForkDatabase → ForkDatabase} (h : ∀ d, (f d).head = d.head) :
    Moves Quiet (modifyForkDb f) :=
  Moves.modifyForkDb fun _ => ⟨rfl, rfl, rfl, rfl, rfl, rfl, h _⟩

/-- `set_max_size` keeps the fork database's head. -/
theorem quiet_setMaxSize (n : Nat) : Moves Quiet (modifyForkDb fun f => f.setMaxSize n) :=
  quiet_modifyForkDb fun d => d.setMaxSize_head n

/-- A quiet change that also keeps every producer's last confirmed block number: the
frame of every quiet method except `update_signing_producer`. -/
structure Calm (c c' : Controller) extends Quiet c c' : Prop where
  confirmed : ∀ owner, (c'.objects.producerStats owner).lastConfirmedBlockNum =
    (c.objects.producerStats owner).lastConfirmedBlockNum

instance : IsRefl Controller Calm := ⟨fun c => ⟨refl_of Quiet c, fun _ => rfl⟩⟩

instance : IsTrans Controller Calm :=
  ⟨fun _ _ _ h₁ h₂ => ⟨trans_of Quiet h₁.toQuiet h₂.toQuiet,
    fun o => (h₂.confirmed o).trans (h₁.confirmed o)⟩⟩

theorem Moves.quiet_of_calm {α : Type} {x : ControllerM α} (h : Moves Calm x) : Moves Quiet x :=
  h.mono fun _ _ h => h.toQuiet

theorem Moves.calm_of_unchanged {α : Type} {x : ControllerM α} (h : Moves Unchanged x) :
    Moves Calm x :=
  h.mono fun c _ h => h ▸ refl_of Calm c

/-- An update of the objects that keeps the dynamic global properties, the ghost chain,
the dedup index and every producer's last confirmed block number: what every write of the
transaction-level methods keeps. -/
structure CalmWrite (f : Objects → Objects) : Prop where
  dgpo : ∀ o, (f o).dgpo = o.dgpo
  chain : ∀ o, (f o).chain = o.chain
  transactions : ∀ o, (f o).transactions = o.transactions
  confirmed : ∀ o owner, ((f o).producerStats owner).lastConfirmedBlockNum =
    (o.producerStats owner).lastConfirmedBlockNum

theorem calm_modifyObjects {f : Objects → Objects} (h : CalmWrite f) :
    Moves Calm (modifyObjects f) :=
  Moves.modifyObjects fun c =>
    ⟨⟨rfl, rfl, rfl, h.dgpo _, h.chain _, h.transactions _, rfl⟩, h.confirmed c.objects⟩

theorem calm_update {f : Controller → Controller} (hd : ∀ c, (f c).db = c.db)
    (hs : ∀ c, (f c).pendingBlockSession = c.pendingBlockSession)
    (hf : ∀ c, (f c).forkDb = c.forkDb) :
    Moves Calm (modify f : ControllerM PUnit) :=
  Moves.update fun c =>
    ⟨(quiet_update hd hs hf).leaves c, fun _ => by simp [Controller.objects, hd c]⟩

theorem calm_setMaxSize (n : Nat) : Moves Calm (modifyForkDb fun f => f.setMaxSize n) :=
  Moves.modifyForkDb fun _ => ⟨(quiet_setMaxSize n).leaves _, fun _ => rfl⟩

theorem Calm.headBlockNum_eq {c c' : Controller} (h : Calm c c') :
    c'.headBlockNum = c.headBlockNum :=
  congrArg DynamicGlobalPropertyObject.headBlockNumber h.dgpo

/-- Writing one producer's statistics with its last confirmed block number as it was
keeps every last confirmed block number. -/
theorem update_lastConfirmed (ps : AccountName → ProducerStats) (p : AccountName)
    (st : ProducerStats) (h : st.lastConfirmedBlockNum = (ps p).lastConfirmedBlockNum)
    (owner : AccountName) :
    (Function.update ps p st owner).lastConfirmedBlockNum = (ps owner).lastConfirmedBlockNum := by
  by_cases ho : owner = p
  · subst ho
    rw [Function.update_same, h]
  · rw [Function.update_noteq ho]

/-! ### Read-only methods -/

section ReadOnly

variable (env : Env)

theorem getProducer_unchanged (owner : AccountName) : Moves Unchanged (getProducer owner) := by
  refine ⟨fun c => ?_⟩
  simp only [getProducer, bind_apply, get_apply]
  cases c.findProducer owner <;> rfl

theorem getPermission_unchanged (level : PermissionLevel) :
    Moves Unchanged (getPermission level) := by
  refine ⟨fun c => ?_⟩
  simp only [getPermission, bind_apply, get_apply]
  cases c.findPermission level <;> rfl

theorem getScheduledProducer_unchanged (slotNum : Nat) :
    Moves Unchanged (getScheduledProducer env slotNum) := by
  refine ⟨fun c => ?_⟩
  simp only [getScheduledProducer, bind_apply, get_apply]
  cases c.scheduledProducer env slotNum <;> rfl

theorem pendingBlockRef_unchanged : Moves Unchanged pendingBlockRef := by
  refine ⟨fun c => ?_⟩
  simp only [pendingBlockRef, bind_apply, get_apply]
  cases c.pendingBlock <;> rfl

theorem pendingCycleTraceRef_unchanged : Moves Unchanged pendingCycleTraceRef := by
  refine ⟨fun c => ?_⟩
  simp only [pendingCycleTraceRef, bind_apply, get_apply]
  cases c.pendingCycleTrace <;> rfl

theorem pendingBlockTraceRef_unchanged : Moves Unchanged pendingBlockTraceRef := by
  refine ⟨fun c => ?_⟩
  simp only [pendingBlockTraceRef, bind_apply, get_apply]
  cases c.pendingBlockTrace <;> rfl

theorem validateBlockHeader_unchanged (skip : Nat) (b : SignedBlock) :
    Moves Unchanged (validateBlockHeader env skip b) := by
  unfold validateBlockHeader
  dsimp only
  repeat' with_reducible
    first
    | apply Moves.ite_join | apply Moves.bind | apply Moves.ite
    | exact Moves.get | exact Moves.pure _
    | exact Moves.fcAssert _ _ _ | exact getProducer_unchanged _
    | exact getScheduledProducer_unchanged env _ | intro _

theorem lookupMinimumPermission_unchanged (authorizerAccount scope actName : Nat) :
    Moves Unchanged (lookupMinimumPermission env authorizerAccount scope actName) :=
  Moves.bind Moves.get fun _ => getPermission_unchanged _

theorem checkDeclaredAuth_unchanged (keys : List PublicKey) (accounts : List PermissionLevel)
    (act : Action) (used : List PublicKey) (declaredAuth : PermissionLevel) :
    Moves Unchanged (checkDeclaredAuth env keys accounts act used declaredAuth) := by
  unfold checkDeclaredAuth
  dsimp only
  repeat' with_reducible
    first
    | apply Moves.ite_join | apply Moves.bind | apply Moves.ite
    | exact Moves.get | exact Moves.pure _
    | exact Moves.fcAssert _ _ _ | exact Moves.liftExcept _ | exact Moves.throwException _ _
    | exact getPermission_unchanged _ | exact lookupMinimumPermission_unchanged env _ _ _
    | split | intro _

theorem checkTransactionAuthorization_unchanged (trx : SignedTransaction)
    (allowUnusedSignatures : Bool) :
    Moves Unchanged (checkTransactionAuthorization env trx allowUnusedSignatures) := by
  unfold checkTransactionAuthorization checkAuthorization
  repeat' with_reducible
    first
    | apply Moves.ite_join | apply Moves.bind | apply Moves.ite
    | exact Moves.get | exact Moves.pure _
    | exact Moves.fcAssert _ _ _
    | exact Moves.foldlM (fun _ _ => Moves.foldlM (checkDeclaredAuth_unchanged env _ _ _) _ _) _ _
    | intro _

theorem requireAccount_unchanged (name : AccountName) : Moves Unchanged (requireAccount name) :=
  Moves.bind Moves.get fun _ => Moves.fcAssert _ _ _

theorem validateReferencedAccounts_unchanged (trx : Transaction) :
    Moves Unchanged (validateReferencedAccounts env trx) := by
  have hscope : ∀ s, Moves Unchanged (requireScope env s) := fun _ =>
    Moves.ite (Moves.pure _) (requireAccount_unchanged _)
  exact Moves.bind (Moves.forM hscope _) fun _ => Moves.bind (Moves.forM hscope _) fun _ =>
    Moves.forM (fun _ => Moves.bind (requireAccount_unchanged _) fun _ =>
      Moves.forM (fun _ => requireAccount_unchanged _) _) _

theorem fillSchedule_unchanged :
    ∀ (owners : List AccountName) (producers : List ProducerKey) (count : Nat),
      Moves Unchanged (fillSchedule producers count owners)
  | [], _, _ => Moves.pure _
  | _ :: rest, _, _ => Moves.ite
      (Moves.bind (getProducer_unchanged _) fun _ => fillSchedule_unchanged rest _ _)
      (Moves.pure _)

theorem calculateProducerSchedule_unchanged :
    Moves Unchanged (calculateProducerSchedule env) :=
  Moves.bind Moves.get fun _ => Moves.bind (fillSchedule_unchanged _ _ _) fun _ => Moves.pure _

theorem getProducers_unchanged :
    ∀ producers : List ProducerKey, Moves Unchanged (getProducers producers)
  | [] => Moves.pure _
  | _ :: rest => Moves.bind (getProducer_unchanged _) fun _ =>
      Moves.bind (getProducers_unchanged rest) fun _ => Moves.pure _

end ReadOnly

/-! ### Methods that make one write

Every method here but `update_signing_producer` is calm; each is quiet because it is
calm. -/

section Quiet

variable (env : Env)

/-- `with_skip_flags` keeps every frame its body keeps and that writing the flags
keeps. -/
theorem withSkipFlags_moves {α : Type} {R : Controller → Controller → Prop} [IsRefl Controller R]
    [IsTrans Controller R] (skip : Nat)
    (hset : ∀ n : Nat, Moves R (modify fun c => { c with skipFlags := n } : ControllerM PUnit))
    {x : ControllerM α} (hx : Moves R x) : Moves R (withSkipFlags skip x) :=
  Moves.bind Moves.get fun _ => Moves.bind (hset _) fun _ =>
    Moves.bind (Moves.tryCatch hx fun _ => Moves.bind (hset _) fun _ => Moves.throw _) fun _ =>
      Moves.bind (hset _) fun _ => Moves.pure _

theorem applyCycleTrace_calm (res : CycleTrace) : Moves Calm (applyCycleTrace env res) :=
  calm_modifyObjects ⟨fun _ => rfl, fun _ => rfl, fun _ => rfl, fun _ _ => rfl⟩

theorem updateSigningProducer_quiet (p : ProducerObject) (b : SignedBlock) :
    Moves Quiet (updateSigningProducer env p b) :=
  Moves.bind Moves.get fun _ => quiet_modifyObjects (fun _ => rfl) (fun _ => rfl) (fun _ => rfl)

theorem createBlockSummary_calm (b : SignedBlock) : Moves Calm (createBlockSummary env b) :=
  calm_modifyObjects ⟨fun _ => rfl, fun _ => rfl, fun _ => rfl, fun _ _ => rfl⟩

theorem createBlockSummary_quiet (b : SignedBlock) : Moves Quiet (createBlockSummary env b) :=
  (createBlockSummary_calm env b).quiet_of_calm

theorem addCheckpoints_calm (checkpts : List (Nat × BlockId)) :
    Moves Calm (addCheckpoints checkpts) :=
  calm_update (fun _ => rfl) (fun _ => rfl) (fun _ => rfl)

theorem addCheckpoints_quiet (checkpts : List (Nat × BlockId)) :
    Moves Quiet (addCheckpoints checkpts) :=
  (addCheckpoints_calm checkpts).quiet_of_calm

end Quiet


/-! ### Moving the head

`update_global_dynamic_data` moves the head in the dynamic global properties and marks the
missed producers. It leaves the undo history, the pending session and the last irreversible
block number alone (`LibSame`, walked in `EosChain.Proofs.Traversal`), which is what the
session and irreversibility invariants need of it. -/

/-- The undo history and revision, the pending session and the last irreversible block
number are kept. -/
structure LibSame (c c' : Controller) : Prop where
  stack : c'.db.stack = c.db.stack
  revision : c'.db.revision = c.db.revision
  session : c'.pendingBlockSession = c.pendingBlockSession
  lib : c'.lastIrreversibleBlockNum = c.lastIrreversibleBlockNum

instance : IsRefl Controller LibSame := ⟨fun _ => ⟨rfl, rfl, rfl, rfl⟩⟩

instance : IsTrans Controller LibSame :=
  ⟨fun _ _ _ h₁ h₂ => ⟨h₂.1.trans h₁.1, h₂.2.trans h₁.2, h₂.3.trans h₁.3, h₂.4.trans h₁.4⟩⟩

theorem Moves.libSame_of_quiet {α : Type} {x : ControllerM α} (h : Moves Quiet x) :
    Moves LibSame x :=
  h.mono fun _ _ h => ⟨h.stack, h.revision, h.session,
    congrArg DynamicGlobalPropertyObject.lastIrreversibleBlockNum h.dgpo⟩

theorem libSame_modifyObjects {f : Objects → Objects}
    (hf : ∀ o, (f o).dgpo.lastIrreversibleBlockNum = o.dgpo.lastIrreversibleBlockNum) :
    Moves LibSame (modifyObjects f) :=
  Moves.modifyObjects fun c => ⟨rfl, rfl, rfl, hf c.db.objects⟩

/-! ### Raising the last irreversible block

`update_last_irreversible_block` raises the last irreversible block number, writes the
block log, activates a pending schedule and commits undo history. It leaves the head, the
ghost chain, the dedup index and the fork database's head alone, and a commit only drops
undo records (`HeadKept`). The invariants of the head are proved from this one frame. -/

/-- The dynamic global properties but the last irreversible block number, the ghost chain,
the dedup index and the fork database's head are kept; every undo record left was there
before. -/
structure HeadKept (c c' : Controller) : Prop where
  dgpo : c'.dgpo = { c.dgpo with lastIrreversibleBlockNum := c'.dgpo.lastIrreversibleBlockNum }
  chain : c'.objects.chain = c.objects.chain
  transactions : c'.objects.transactions = c.objects.transactions
  forkHead : c'.forkDb.head = c.forkDb.head
  stack : ∀ u ∈ c'.db.stack, u ∈ c.db.stack

instance : IsRefl Controller HeadKept := ⟨fun _ => ⟨rfl, rfl, rfl, rfl, fun _ h => h⟩⟩

instance : IsTrans Controller HeadKept :=
  ⟨fun _ _ _ h₁ h₂ => ⟨by rw [h₂.dgpo, h₁.dgpo], h₂.chain.trans h₁.chain,
    h₂.transactions.trans h₁.transactions, h₂.forkHead.trans h₁.forkHead,
    fun u hu => h₁.stack u (h₂.stack u hu)⟩⟩

theorem Moves.headKept_of_quiet {α : Type} {x : ControllerM α} (h : Moves Quiet x) :
    Moves HeadKept x :=
  h.mono fun _ _ h => ⟨by rw [h.dgpo], h.chain, h.transactions, h.forkHead,
    fun _ hu => h.stack ▸ hu⟩

/-- An update of the objects that keeps the dynamic global properties but the last
irreversible block number, the ghost chain and the dedup index: what the writes of
`update_last_irreversible_block` keep. -/
structure HeadWrite (f : Objects → Objects) : Prop where
  dgpo : ∀ o, (f o).dgpo =
    { o.dgpo with lastIrreversibleBlockNum := (f o).dgpo.lastIrreversibleBlockNum }
  chain : ∀ o, (f o).chain = o.chain
  transactions : ∀ o, (f o).transactions = o.transactions

theorem headKept_modifyObjects {f : Objects → Objects} (h : HeadWrite f) :
    Moves HeadKept (modifyObjects f) :=
  Moves.modifyObjects fun _ => ⟨h.dgpo _, h.chain _, h.transactions _, rfl, fun _ h => h⟩

theorem headKept_commit (r : Int) : Moves HeadKept (modifyDb fun d => d.commit r) :=
  Moves.modifyDb fun _ => ⟨rfl, rfl, rfl, rfl, fun _ hu =>
    List.mem_reverse.1 (List.dropWhile_subset _ (List.mem_reverse.1 hu))⟩

end EosChain
