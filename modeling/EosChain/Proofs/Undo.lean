import EosChain.Proofs.Skip

/-!
# `EosChain.Proofs.Undo`: `pop_block` undoes `push_block` and `generate_block`

A block enters the store inside an undo session that is kept: `_push_block(b)` applies
`b` on the head in a session it pushes, and `_generate_block` pushes the pending block's
session. `pop_block()` rolls the newest undo record back with `_db.undo()`. In between,
`update_last_irreversible_block` commits the undo history up to the new last irreversible
block, which drops the records of blocks that became irreversible. The round trips hold
while the block's own record survives that commit:

* `popBlock_undoes_pushBlock`: when `push_block(b, skip)` applies `b` on the head and
  returns, the last irreversible block it leaves is at most the revision it started from,
  and `pop_block()` then returns, the store's objects and revision are again those
  `push_block` started from once it had cleared the pending block.
* `popBlock_undoes_generateBlock`: the same for `generate_block` from a controller with no
  pending block, back to the store it started from.

The session's record stays on top of the undo history through `_apply_block` and
`_finalize_block` (`SessionOpen`). Every method they call keeps the history and the
pending session and never lowers the last irreversible block (`HistoryKept`), except the
commit at the end of `update_last_irreversible_block`, which commits at most up to the last
irreversible block it leaves (`sessionOpen_commit`).
-/

set_option autoImplicit false

namespace EosChain

/-! ### The undo history -/

/-- `commit(r)` below the newest record's revision keeps that record on top. -/
theorem Database.commit_keeps_top {d : Database} {u : UndoState} {rest : List UndoState}
    {r : Int} (h : d.stack = u :: rest) (hr : r < u.revision) :
    ∃ rest', (d.commit r).stack = u :: rest' := by
  have hdrop : ((rest.reverse ++ [u]).dropWhile fun u => decide (u.revision ≤ r)) =
      (rest.reverse.dropWhile fun u => decide (u.revision ≤ r)) ++ [u] := by
    rw [List.dropWhile_append]
    split
    · rename_i he
      rw [List.isEmpty_iff.1 he]
      simp [List.dropWhile, Int.not_le.2 hr]
    · rfl
  exact ⟨_, by rw [Database.commit, h, List.reverse_cons, hdrop, List.reverse_append]; rfl⟩

/-- The undo history and the pending session are as they were, and the last irreversible
block did not go down. -/
structure HistoryKept (c c' : Controller) : Prop where
  stack : c'.db.stack = c.db.stack
  revision : c'.db.revision = c.db.revision
  session : c'.pendingBlockSession = c.pendingBlockSession
  lib : c.lastIrreversibleBlockNum ≤ c'.lastIrreversibleBlockNum

instance : IsRefl Controller HistoryKept := ⟨fun _ => ⟨rfl, rfl, rfl, le_rfl⟩⟩

instance : IsTrans Controller HistoryKept :=
  ⟨fun _ _ _ h₁ h₂ => ⟨h₂.stack.trans h₁.stack, h₂.revision.trans h₁.revision,
    h₂.session.trans h₁.session, h₁.lib.trans h₂.lib⟩⟩

theorem Moves.historyKept_of_quiet {α : Type} {x : ControllerM α} (h : Moves Quiet x) :
    Moves HistoryKept x :=
  h.mono fun _ _ h => ⟨h.stack, h.revision, h.session,
    (congrArg DynamicGlobalPropertyObject.lastIrreversibleBlockNum h.dgpo).ge⟩

theorem historyKept_modifyObjects {f : Objects → Objects}
    (hf : ∀ o, (f o).dgpo.lastIrreversibleBlockNum = o.dgpo.lastIrreversibleBlockNum) :
    Moves HistoryKept (modifyObjects f) :=
  Moves.modifyObjects fun c => ⟨rfl, rfl, rfl, (hf c.db.objects).ge⟩

theorem historyKept_update {f : Controller → Controller}
    (h : ∀ c, (f c).db = c.db ∧ (f c).pendingBlockSession = c.pendingBlockSession) :
    Moves HistoryKept (modify f : ControllerM PUnit) :=
  Moves.update fun c => by
    obtain ⟨hdb, hs⟩ := h c
    refine ⟨by rw [hdb], by rw [hdb], hs, le_of_eq ?_⟩
    unfold Controller.lastIrreversibleBlockNum Controller.dgpo
    rw [hdb]

theorem updateGlobalDynamicData_historyKept (env : Env) (b : SignedBlock) :
    Moves HistoryKept (updateGlobalDynamicData env b) :=
  (updateGlobalDynamicData_libSame env b).mono fun _ _ h =>
    ⟨h.stack, h.revision, h.session, h.lib.ge⟩

/-! ### The session of a pushed block -/

/-- The session opened at revision `n` on objects `o` holds the newest undo record, as
long as the last irreversible block has not reached its revision; the pending session flag
is `s`. -/
structure SessionOpen (o : Objects) (n : Int) (s : Bool) (c : Controller) : Prop where
  revision : c.db.revision = n + 1
  session : c.pendingBlockSession = s
  top : (c.lastIrreversibleBlockNum : Int) ≤ n → ∃ rest, c.db.stack = ⟨n + 1, o⟩ :: rest

section Session

variable {o : Objects} {n : Int} {s : Bool}

theorem SessionOpen.of_historyKept {c c' : Controller} (hc : SessionOpen o n s c)
    (h : HistoryKept c c') : SessionOpen o n s c' :=
  ⟨h.revision.trans hc.revision, h.session.trans hc.session, fun hl =>
    h.stack ▸ hc.top ((Int.ofNat_le.2 h.lib).trans hl)⟩

theorem sessionOpen_frame {α : Type} {x : ControllerM α} (h : Moves HistoryKept x) :
    Triple (SessionOpen o n s) x (SessionOpen o n s) (SessionOpen o n s) :=
  Triple.of_frame h fun _ _ h hc => hc.of_historyKept h

theorem sessionOpen_frame_above {α : Type} {v : Nat} {x : ControllerM α}
    (h : Moves HistoryKept x) :
    Triple (fun c => SessionOpen o n s c ∧ v ≤ c.lastIrreversibleBlockNum) x
      (fun c => SessionOpen o n s c ∧ v ≤ c.lastIrreversibleBlockNum) (SessionOpen o n s) :=
  Triple.of_moves h (fun _ _ h hc => ⟨hc.1.of_historyKept h, hc.2.trans h.lib⟩)
    fun _ _ h hc => hc.1.of_historyKept h

/-- The raise of `update_last_irreversible_block`: raised or not, the last irreversible
block is afterwards at least the new one. -/
theorem sessionOpen_raise_bind {β : Type} {w v : Nat} {K : ControllerM β}
    {Q E : Controller → Prop}
    (hK : Triple (fun c => SessionOpen o n s c ∧ v ≤ c.lastIrreversibleBlockNum) K Q E) :
    Triple (fun c => SessionOpen o n s c ∧ w ≤ c.lastIrreversibleBlockNum)
      (MonadState.get >>= fun c =>
        if c.lastIrreversibleBlockNum < v then
          modifyObjects (fun o => { o with dgpo := { o.dgpo with lastIrreversibleBlockNum := v } })
            >>= fun _ => K
        else pure () >>= fun _ => K) Q E := by
  refine Triple.get_bind fun c₀ => ?_
  by_cases hlt : c₀.lastIrreversibleBlockNum < v
  · rw [if_pos hlt]
    refine Triple.bind (Triple.modifyObjects
      (Q := fun c => SessionOpen o n s c ∧ v ≤ c.lastIrreversibleBlockNum) fun c hc => ?_)
      fun _ => hK
    obtain ⟨⟨hc, -⟩, rfl⟩ := hc
    exact ⟨hc.of_historyKept ⟨rfl, rfl, rfl, hlt.le⟩, le_rfl⟩
  · rw [if_neg hlt]
    refine Triple.bind (Triple.pure _ fun c hc => ⟨hc.1.1, ?_⟩) fun _ => hK
    rw [hc.2]
    exact Nat.not_lt.1 hlt

/-- The commit of `update_last_irreversible_block`, at a block no higher than the last
irreversible one, keeps the session's record while that block is below its revision. -/
theorem sessionOpen_commit {v : Nat} {E : Controller → Prop} :
    Triple (fun c => SessionOpen o n s c ∧ v ≤ c.lastIrreversibleBlockNum)
      (modifyDb fun d => d.commit v) (SessionOpen o n s) E :=
  Triple.modifyDb fun c ⟨hc, hv⟩ => ⟨hc.revision, hc.session, fun hl => by
    have hl' : (c.lastIrreversibleBlockNum : Int) ≤ n := hl
    obtain ⟨_, h⟩ := hc.top hl'
    exact Database.commit_keeps_top h (show (v : Int) < n + 1 by omega)⟩

variable (env : Env)

theorem updateLastIrreversibleBlock_sessionOpen :
    Triple (SessionOpen o n s) (updateLastIrreversibleBlock env) (SessionOpen o n s)
      (SessionOpen o n s) := by
  have h : Triple (fun c => SessionOpen o n s c ∧ 0 ≤ c.lastIrreversibleBlockNum)
      (updateLastIrreversibleBlock env) (SessionOpen o n s) (SessionOpen o n s) := by
    unfold updateLastIrreversibleBlock
    dsimp only
    repeat' with_reducible
      first
      | exact Triple.abortWith_bind _ fun _ h => h.1 | exact Triple.throw_bind _ fun _ h => h.1
      | apply sessionOpen_raise_bind
      | apply Triple.ite_join | apply Triple.bind_keep | apply Triple.ite | intro _
      | exact Triple.abortWith _ fun _ h => h.1 | exact Triple.pure _ fun _ h => h
      | exact Triple.get
      | exact sessionOpen_frame_above
          (getProducers_unchanged _).quiet_of_unchanged.historyKept_of_quiet
      | exact sessionOpen_frame_above (appendIrreversible_quiet env _ _ _).historyKept_of_quiet
      | exact sessionOpen_frame_above (quiet_setMaxSize _).historyKept_of_quiet
      | exact sessionOpen_frame_above (historyKept_modifyObjects fun _ => rfl)
      | exact sessionOpen_commit
      | split
  exact h.mono (fun _ hc => ⟨hc, Nat.zero_le _⟩) (fun _ h => h) fun _ h => h

theorem finalizeBlock_sessionOpen (trace : BlockTrace) :
    Triple (SessionOpen o n s) (finalizeBlock env trace) (SessionOpen o n s) (SessionOpen o n s) :=
  Triple.bind_keep Triple.get fun _ =>
    Triple.bind_keep (sessionOpen_frame
      (validateBlockHeader_unchanged env _ _).quiet_of_unchanged.historyKept_of_quiet) fun _ =>
    Triple.bind_keep (sessionOpen_frame (updateGlobalProperties_quiet env _).historyKept_of_quiet)
      fun _ =>
    Triple.bind_keep (sessionOpen_frame (updateGlobalDynamicData_historyKept env _)) fun _ =>
    Triple.bind_keep (sessionOpen_frame (updateSigningProducer_quiet env _ _).historyKept_of_quiet)
      fun _ =>
    Triple.bind_keep (updateLastIrreversibleBlock_sessionOpen env) fun _ =>
    sessionOpen_frame (createBlockSummary_quiet env _).historyKept_of_quiet

theorem applyBlock_sessionOpen (b : SignedBlock) (skip : Nat) :
    Triple (SessionOpen o n s) (_applyBlock env b skip) (SessionOpen o n s)
      (SessionOpen o n s) := by
  have body : Triple (SessionOpen o n s) (__applyBlock env b) (SessionOpen o n s)
      (SessionOpen o n s) :=
    Triple.bind_keep Triple.get fun _ =>
      Triple.bind_keep (sessionOpen_frame
        (validateBlockHeader_unchanged env _ _).quiet_of_unchanged.historyKept_of_quiet) fun _ =>
      Triple.bind_keep (Triple.fcAssert _ _ _ fun _ h => h) fun _ =>
      Triple.bind_keep (sessionOpen_frame (applyRegions_quiet env _ _ _).historyKept_of_quiet)
        fun _ =>
      Triple.bind_keep (Triple.fcAssert _ _ _ fun _ h => h) fun _ => finalizeBlock_sessionOpen env _
  have flags : ∀ (c : Controller) (m : Nat), SessionOpen o n s c →
      SessionOpen o n s { c with skipFlags := m } := fun _ _ h => ⟨h.1, h.2, h.3⟩
  unfold _applyBlock
  repeat' with_reducible
    first
    | apply Triple.ite_join | apply Triple.bind_keep | apply Triple.ite
    | exact Triple.get | exact Triple.pure _ fun _ h => h
    | exact Triple.fcAssert _ _ _ fun _ h => h
    | exact Triple.withSkipFlags _ body flags flags flags
    | intro _
    | split

end Session

/-! ### Push and pop -/

variable (env : Env)

/-- `_push_block(b)` from `c` goes on to apply `b` on the head: it skips the fork
database, or the fork database takes `b` and its head builds on the current head. -/
def appliesOnHead (c : Controller) (b : SignedBlock) : Bool :=
  hasFlag c.skipFlags skipForkDb ||
    match c.forkDb.pushBlock env b with
    | .ok f => f.head.any (·.previous == c.headBlockId)
    | .error _ => false

/-- The controller `push_block(b, skip)` hands to `_push_block`: its skip flags set to
`skip`, its pending block cleared. -/
def Controller.pushBlockStart (c : Controller) (skip : Nat) : Controller :=
  resultState (clearPending (c.withSkip skip))

/-- On the path that applies `b` on the head, `_push_block` opens a session on the store it
starts from and keeps it. -/
theorem pushBlockBody_sessionOpen (b : SignedBlock) (c₀ : Controller)
    (hs : c₀.pendingBlockSession = false) (hd : appliesOnHead env c₀ b = true) :
    Triple (· = c₀) (_pushBlock env b) (SessionOpen c₀.objects c₀.db.revision false)
      (fun _ => True) := by
  have apply : ∀ skip : Nat, Triple (fun c => c.db = c₀.db ∧ c.pendingBlockSession = false)
      (do
        modifyDb Database.startUndoSession
        catchException (_applyBlock env b skip) fun e => do
          modifyDb Database.undo
          modifyForkDb (·.remove env (b.id env))
          throw e
        return false)
      (SessionOpen c₀.objects c₀.db.revision false) (fun _ => True) := fun skip =>
    Triple.bind (Triple.modifyDb fun c hc =>
        ⟨by rw [hc.1]; rfl, hc.2, fun _ => ⟨c₀.db.stack, by rw [hc.1]; rfl⟩⟩) fun _ =>
      Triple.bind (Triple.catchException ((applyBlock_sessionOpen env b skip).mono
          (fun _ h => h) (fun _ h => h) fun _ _ => trivial) fun _ _ =>
        Triple.bind (Triple.top _) fun _ => Triple.bind (Triple.top _) fun _ =>
          Triple.throw _ fun _ h => h) fun _ =>
      Triple.pure _ fun _ h => h
  unfold _pushBlock
  refine Triple.get_bind_self ?_
  dsimp only
  split
  · rename_i hfork
    refine Triple.get_bind_self (Triple.liftExcept_bind (fun f hf => ?_) fun _ _ => trivial)
    have hhead : f.head.any (·.previous == c₀.headBlockId) = true := by
      rw [Bool.not_eq_true'] at hfork
      simpa [appliesOnHead, hf, hfork] using hd
    refine Triple.bind (Triple.update
        (Q := fun c => c.db = c₀.db ∧ c.pendingBlockSession = false) fun _ h => by
          subst h; exact ⟨rfl, hs⟩) fun _ => ?_
    split
    · rename_i newHead hh
      have hprev : newHead.previous = c₀.headBlockId := by simpa [hh] using hhead
      refine Triple.get_bind_at fun c₁ hc₁ => ?_
      have hid : c₁.headBlockId = c₀.headBlockId := by
        unfold Controller.headBlockId Controller.dgpo
        rw [hc₁.1]
      rw [if_neg (by rw [hid, hprev]; exact fun h => h rfl)]
      exact Triple.bind (Triple.pure _ fun _ h => h ▸ hc₁) fun _ =>
        (apply _).mono (fun _ h => h) (fun _ h => h) fun _ h => h
    · exact Triple.abortWith_bind _ fun _ _ => trivial
  · exact Triple.bind (Triple.pure _ fun _ h => ⟨h ▸ rfl, h ▸ hs⟩) fun _ => apply _

/-- `_start_pending_block()` on a controller with no pending block opens the pending session
on its store. -/
theorem startPendingBlock_sessionOpen (c₀ : Controller) (hp : c₀.hasPendingBlock = false) :
    Triple (· = c₀) _startPendingBlock (SessionOpen c₀.objects c₀.db.revision true)
      (fun _ => True) := by
  unfold _startPendingBlock
  refine Triple.get_bind_self ?_
  rw [hp]
  refine Triple.fcAssert_true_bind _ _ (Triple.bind (Triple.update fun c hc => ?_) fun _ =>
    Triple.frame startPendingCycle_quiet.historyKept_of_quiet
      (fun _ _ h hc => hc.of_historyKept h) fun _ _ => trivial)
  subst hc
  exact ⟨rfl, rfl, fun _ => ⟨_, rfl⟩⟩

/-- The end of `_generate_block`: the pending session is pushed into the undo history and
the pending block dropped. -/
theorem sessionOpen_reset_bind {o : Objects} {n : Int} {β : Type} {K : ControllerM β}
    {Q E : Controller → Prop} (hK : Triple (SessionOpen o n false) K Q E) :
    Triple (SessionOpen o n true)
      (modify (fun c => { c with
        pendingBlockTrace := none
        pendingBlock := none
        pendingBlockSession := false }) >>= fun _ => K) Q E :=
  Triple.bind (Triple.update fun _ h => ⟨h.1, rfl, h.3⟩) fun _ => hK

/-- From a controller with no pending block, `_generate_block` opens the pending session on
its store and, when it returns, has pushed that session into the undo history. -/
theorem generateBlockImpl_sessionOpen (when : Nat) (producer : AccountName) (key : PrivateKey)
    (c₀ : Controller) (hp : c₀.hasPendingBlock = false) :
    Triple (· = c₀) (_generateBlock env when producer key)
      (SessionOpen c₀.objects c₀.db.revision false) (fun _ => True) := by
  have same : ∀ {α : Type} {x : ControllerM α}, Moves Unchanged x →
      Triple (· = c₀) x (· = c₀) (fun _ => True) :=
    fun h => Triple.frame h (fun _ _ h hc => h.trans hc) fun _ _ => trivial
  have keep : ∀ {s : Bool} {α : Type} {x : ControllerM α}, Moves HistoryKept x →
      Triple (SessionOpen c₀.objects c₀.db.revision s) x
        (SessionOpen c₀.objects c₀.db.revision s) (fun _ => True) :=
    fun h => Triple.frame h (fun _ _ h hc => hc.of_historyKept h) fun _ _ => trivial
  unfold _generateBlock
  refine Triple.get_bind_self (Triple.get_bind_self ?_)
  dsimp only
  refine Triple.bind_keep (Triple.fcAssert _ _ _ fun _ _ => trivial) fun _ =>
    Triple.bind_keep (same (getScheduledProducer_unchanged env _)) fun _ =>
    Triple.bind_keep (Triple.fcAssert _ _ _ fun _ _ => trivial) fun _ =>
    Triple.bind_keep (same (getProducer_unchanged _)) fun _ => Triple.get_bind_self ?_
  rw [if_pos (by simp [hp])]
  refine Triple.bind (startPendingBlock_sessionOpen c₀ hp) fun _ => ?_
  repeat' with_reducible
    first
    | apply sessionOpen_reset_bind
    | apply Triple.bind_keep | apply Triple.ite | intro _
    | exact Triple.abortWith _ fun _ _ => trivial
    | exact Triple.fcAssert _ _ _ fun _ _ => trivial
    | exact Triple.liftExcept _ fun _ _ => trivial
    | exact Triple.pure _ fun _ h => h | exact Triple.get
    | exact keep (finalizePendingCycle_quiet env).historyKept_of_quiet
    | exact keep (setPendingHeader_quiet env _ _).historyKept_of_quiet
    | exact keep pendingBlockRef_unchanged.quiet_of_unchanged.historyKept_of_quiet
    | exact keep pendingBlockTraceRef_unchanged.quiet_of_unchanged.historyKept_of_quiet
    | exact keep (calculateProducerSchedule_unchanged env).quiet_of_unchanged.historyKept_of_quiet
    | exact keep (historyKept_update fun _ => ⟨rfl, rfl⟩)
    | exact (finalizeBlock_sessionOpen env _).mono (fun _ h => h) (fun _ h => h) fun _ _ => trivial

variable {env}

/-- When `push_block(b, skip)` applies `b` on the head and returns, the session it opened
on the store it started from is the newest undo record, for as long as the last
irreversible block has not reached it. -/
theorem pushBlock_sessionOpen {b : SignedBlock} {skip : Nat} {c c₁ : Controller}
    (hd : appliesOnHead env (c.pushBlockStart skip) b = true)
    (h : pushBlock env b skip c = .ok () c₁) :
    SessionOpen (c.pushBlockStart skip).objects (c.pushBlockStart skip).db.revision false c₁ := by
  obtain ⟨d, hbody, rfl⟩ := withSkipFlags_ok h
  obtain ⟨_, c₀, hc, hp⟩ := bind_eq_ok.1 hbody
  obtain rfl : c₀ = c.pushBlockStart skip := by
    unfold Controller.pushBlockStart
    rw [hc]
    rfl
  have := (pushBlockBody_sessionOpen env b _ rfl hd).discard.run _ rfl
  rw [hp] at this
  exact ⟨this.1, this.2, this.3⟩

/-- `pop_block()` with the session's record on top and no pending session rolls that record
back. -/
theorem popBlock_undoes_session {o : Objects} {n : Int} {c c' : Controller}
    (hc : SessionOpen o n false c) (hl : (c.lastIrreversibleBlockNum : Int) ≤ n)
    (h : popBlock env c = .ok () c') : c'.objects = o ∧ c'.db.revision = n := by
  obtain ⟨rest, hrest⟩ := hc.top hl
  have key : Triple (fun c' => c'.db = c.db ∧ c'.pendingBlockSession = false) (popBlock env)
      (fun c' => c'.objects = o ∧ c'.db.revision = n) (fun _ => True) :=
    Triple.bind (Triple.update (Q := fun c' => c'.db = c.db) fun _ h => by simp [h.1, h.2])
      fun _ => Triple.get_bind fun _ => Triple.bind_keep (Triple.fcAssert _ _ _ fun _ _ => trivial)
      fun _ => Triple.liftExcept_bind (fun _ _ =>
        Triple.bind (Triple.update (Q := fun c' => c'.db = c.db) fun _ h => h.1) fun _ =>
          Triple.modifyDb fun _ h => by
            simp [Controller.objects, h, Database.undo, hrest, hc.revision]) fun _ _ => trivial
  have := key.run c ⟨rfl, hc.session⟩
  rw [h] at this
  exact this

/-- `pop_block()` undoes `push_block(b, skip)`: when `push_block` applies `b` on the head
and returns, the last irreversible block it leaves is at most the revision it started
from, and `pop_block` then returns, the store's objects and revision are again those
`push_block` started from once it had cleared the pending block. -/
theorem popBlock_undoes_pushBlock {b : SignedBlock} {skip : Nat} {c c₁ c₂ : Controller}
    (hd : appliesOnHead env (c.pushBlockStart skip) b = true)
    (h₁ : pushBlock env b skip c = .ok () c₁)
    (hl : (c₁.lastIrreversibleBlockNum : Int) ≤ (c.pushBlockStart skip).db.revision)
    (h₂ : popBlock env c₁ = .ok () c₂) :
    c₂.objects = (c.pushBlockStart skip).objects ∧
      c₂.db.revision = (c.pushBlockStart skip).db.revision :=
  popBlock_undoes_session (pushBlock_sessionOpen hd h₁) hl h₂

/-- Block 1 of the deployment `lagConfig`, pushed on the constructed controller. -/
def lagOneBlockRun : Controller :=
  Controller.run (sampleEnv lagConfig) lagGenesis ⟨[]⟩ [.pushBlock lagB1 trustedSkip]

/-- `lagOneBlockRun` once block 2 is pushed on it. -/
def lagPushedRun : Controller :=
  resultState (pushBlock (sampleEnv lagConfig) (lagBlock [lagB1] 2) trustedSkip lagOneBlockRun)

/-- `lagPushedRun` once block 2 is popped again. -/
def lagPoppedRun : Controller := resultState (popBlock (sampleEnv lagConfig) lagPushedRun)

set_option smartUnfolding false in
/-- Block 2 of the deployment `lagConfig`, pushed on block 1 through the fork database and
popped again, while the last irreversible block stays at 0. -/
theorem popBlock_undoes_pushBlock_lagB2 :
    appliesOnHead (sampleEnv lagConfig) (lagOneBlockRun.pushBlockStart trustedSkip)
        (lagBlock [lagB1] 2) = true ∧
      pushBlock (sampleEnv lagConfig) (lagBlock [lagB1] 2) trustedSkip lagOneBlockRun =
        .ok () lagPushedRun ∧
      (lagPushedRun.lastIrreversibleBlockNum : Int) ≤
        (lagOneBlockRun.pushBlockStart trustedSkip).db.revision ∧
      popBlock (sampleEnv lagConfig) lagPushedRun = .ok () lagPoppedRun ∧
      lagPoppedRun.objects = (lagOneBlockRun.pushBlockStart trustedSkip).objects ∧
      lagPoppedRun.db.revision = (lagOneBlockRun.pushBlockStart trustedSkip).db.revision :=
  have hd : appliesOnHead (sampleEnv lagConfig) (lagOneBlockRun.pushBlockStart trustedSkip)
      (lagBlock [lagB1] 2) = true := by decide
  have h₁ : pushBlock (sampleEnv lagConfig) (lagBlock [lagB1] 2) trustedSkip lagOneBlockRun =
      .ok () lagPushedRun := by rfl
  have hl : (lagPushedRun.lastIrreversibleBlockNum : Int) ≤
      (lagOneBlockRun.pushBlockStart trustedSkip).db.revision := by decide
  have h₂ : popBlock (sampleEnv lagConfig) lagPushedRun = .ok () lagPoppedRun := by rfl
  ⟨hd, h₁, hl, h₂, popBlock_undoes_pushBlock hd h₁ hl h₂⟩

/-- `pop_block()` undoes `generate_block(when, producer, key, skip)` from a controller with
no pending block: when `generate_block` returns, the last irreversible block it leaves is at
most the revision it started from, and `pop_block` then returns, the store's objects and
revision are again those `generate_block` started from. -/
theorem popBlock_undoes_generateBlock {when : Nat} {producer : AccountName} {key : PrivateKey}
    {skip : Nat} {c c₁ c₂ : Controller} {b : SignedBlock} (hp : c.hasPendingBlock = false)
    (h₁ : generateBlock env when producer key skip c = .ok b c₁)
    (hl : (c₁.lastIrreversibleBlockNum : Int) ≤ c.db.revision)
    (h₂ : popBlock env c₁ = .ok () c₂) :
    c₂.objects = c.objects ∧ c₂.db.revision = c.db.revision := by
  obtain ⟨d, hd, rfl⟩ := withSkipFlags_ok h₁
  have := (generateBlockImpl_sessionOpen env when producer key (c.withSkip skip) hp).run _ rfl
  rw [hd] at this
  exact popBlock_undoes_session (c := d.withSkip c.skipFlags) ⟨this.1, this.2, this.3⟩ hl h₂

/-- `lagOneBlockRun` once `prodA` has generated block 2 on it. -/
def lagGeneratedRun : Controller :=
  resultState (generateBlock (sampleEnv lagConfig) (genesisSlot lagConfig + 2) prodA (prodA + 90) 0
    lagOneBlockRun)

set_option smartUnfolding false in
/-- `prodA` generates block 2 of the deployment `lagConfig` on block 1, and the block is
popped again. -/
theorem popBlock_undoes_generateBlock_lagOneBlockRun :
    lagOneBlockRun.hasPendingBlock = false ∧
      (∃ b, generateBlock (sampleEnv lagConfig) (genesisSlot lagConfig + 2) prodA (prodA + 90) 0
        lagOneBlockRun = .ok b lagGeneratedRun) ∧
      (lagGeneratedRun.lastIrreversibleBlockNum : Int) ≤ lagOneBlockRun.db.revision ∧
      popBlock (sampleEnv lagConfig) lagGeneratedRun =
        .ok () (resultState (popBlock (sampleEnv lagConfig) lagGeneratedRun)) ∧
      (resultState (popBlock (sampleEnv lagConfig) lagGeneratedRun)).objects =
        lagOneBlockRun.objects ∧
      (resultState (popBlock (sampleEnv lagConfig) lagGeneratedRun)).db.revision =
        lagOneBlockRun.db.revision :=
  have hp : lagOneBlockRun.hasPendingBlock = false := by decide
  have h₁ : ∃ b, generateBlock (sampleEnv lagConfig) (genesisSlot lagConfig + 2) prodA
      (prodA + 90) 0 lagOneBlockRun = .ok b lagGeneratedRun := ⟨_, rfl⟩
  have hl : (lagGeneratedRun.lastIrreversibleBlockNum : Int) ≤ lagOneBlockRun.db.revision := by
    decide
  have h₂ : popBlock (sampleEnv lagConfig) lagGeneratedRun =
      .ok () (resultState (popBlock (sampleEnv lagConfig) lagGeneratedRun)) := by rfl
  ⟨hp, h₁, hl, h₂, h₁.elim fun _ h₁ => popBlock_undoes_generateBlock hp h₁ hl h₂⟩

end EosChain
