import EosChain.Proofs.Producer

/-!
# `EosChain.Proofs.Irreversible`: the last irreversible block number

`update_last_irreversible_block` writes the last irreversible block number only to raise
it, but the number lives in the undoable store. `pop_block` undoes the block that raised
it, so a run can lower it (`popBlock_lowers_lastIrreversibleBlockNum`); a fork switch pops
as well.

The proof follows a lower bound `L` through each method (`LibAtLeast L`), a property of
the dynamic global properties, which `push_transaction` keeps by
`pushTransactionImpl_dgpoSat`. `EosChain.Proofs.Rollback` shows that the other rollbacks
put back no lower number, so that over every run without pops the number never
decreases.
-/

set_option autoImplicit false

namespace EosChain

/-- The last irreversible block number is at least `L`. -/
def LibAtLeast (L : Nat) (c : Controller) : Prop := L ≤ c.lastIrreversibleBlockNum

section Steps

variable {L : Nat}

theorem lib_of_quiet {α : Type} {x : ControllerM α} (h : Moves Quiet x) :
    Triple (LibAtLeast L) x (LibAtLeast L) (LibAtLeast L) :=
  dgpoSat_of_quiet (L ≤ ·.lastIrreversibleBlockNum) h

theorem lib_update {f : Controller → Controller} (hf : ∀ c, (f c).db.objects = c.db.objects) :
    Triple (LibAtLeast L) (modify f) (LibAtLeast L) (LibAtLeast L) :=
  dgpoSat_update (L ≤ ·.lastIrreversibleBlockNum) hf

theorem lib_modifyObjects {f : Objects → Objects}
    (hf : ∀ o, (f o).dgpo.lastIrreversibleBlockNum = o.dgpo.lastIrreversibleBlockNum) :
    Triple (LibAtLeast L) (modifyObjects f) (LibAtLeast L) (LibAtLeast L) :=
  Triple.modifyObjects fun c hc => by
    unfold LibAtLeast Controller.lastIrreversibleBlockNum Controller.dgpo
    rw [Database.modify_objects, hf]
    exact hc

theorem lib_modifyDb {f : Database → Database} (hf : ∀ d, (f d).objects = d.objects) :
    Triple (LibAtLeast L) (modifyDb f) (LibAtLeast L) (LibAtLeast L) :=
  Triple.modifyDb fun c hc => by
    unfold LibAtLeast Controller.lastIrreversibleBlockNum Controller.dgpo
    rw [hf]
    exact hc

/-- The raise of `update_last_irreversible_block`: the number is written only when the
new one is higher. -/
theorem lib_raise_bind {β : Type} {n : Nat} {K : ControllerM β} {Q E : Controller → Prop}
    (hK : Triple (LibAtLeast L) K Q E) :
    Triple (LibAtLeast L) (MonadState.get >>= fun c =>
      if c.lastIrreversibleBlockNum < n then
        modifyObjects (fun o => { o with dgpo := { o.dgpo with lastIrreversibleBlockNum := n } }) >>=
          fun _ => K
      else pure () >>= fun _ => K) Q E := by
  refine Triple.get_bind fun c₀ => ?_
  by_cases hlt : c₀.lastIrreversibleBlockNum < n
  · rw [if_pos hlt]
    refine Triple.bind (Triple.modifyObjects (Q := LibAtLeast L) fun c hc => ?_) fun _ => hK
    obtain ⟨hc, rfl⟩ := hc
    exact le_of_lt (lt_of_le_of_lt hc hlt)
  · rw [if_neg hlt]
    exact Triple.bind (Triple.pure _ fun _ h => h.1) fun _ => hK

end Steps

section Methods

variable (env : Env) {L : Nat}

theorem withSkipFlags_lib {α : Type} (skip : Nat) {x : ControllerM α}
    (hx : Triple (LibAtLeast L) x (LibAtLeast L) (LibAtLeast L)) :
    Triple (LibAtLeast L) (withSkipFlags skip x) (LibAtLeast L) (LibAtLeast L) :=
  withSkipFlags_dgpoSat (L ≤ ·.lastIrreversibleBlockNum) skip hx

theorem updateGlobalDynamicData_lib (b : SignedBlock) :
    Triple (LibAtLeast L) (updateGlobalDynamicData env b) (LibAtLeast L) (LibAtLeast L) :=
  Triple.of_frame (updateGlobalDynamicData_libSame env b) fun _ _ h hc => hc.trans_eq h.lib.symm

theorem updateLastIrreversibleBlock_lib :
    Triple (LibAtLeast L) (updateLastIrreversibleBlock env) (LibAtLeast L) (LibAtLeast L) := by
  unfold updateLastIrreversibleBlock
  dsimp only
  repeat' with_reducible
    first
    | exact Triple.abortWith_bind _ fun _ h => h | exact Triple.throw_bind _ fun _ h => h
    | apply lib_raise_bind
    | apply Triple.ite_join | apply Triple.bind_keep | apply Triple.ite | intro _
    | exact Triple.abortWith _ fun _ h => h | exact Triple.pure _ fun _ h => h
    | exact Triple.get
    | exact lib_of_quiet (getProducers_unchanged _).quiet_of_unchanged
    | exact lib_of_quiet (appendIrreversible_quiet env _ _ _)
    | exact lib_of_quiet (quiet_setMaxSize _)
    | exact lib_modifyObjects fun _ => rfl
    | exact lib_modifyDb fun d => d.commit_objects _
    | split

theorem finalizeBlock_lib (trace : BlockTrace) :
    Triple (LibAtLeast L) (finalizeBlock env trace) (LibAtLeast L) (LibAtLeast L) :=
  Triple.bind_keep Triple.get fun _ =>
    Triple.bind_keep (lib_of_quiet (validateBlockHeader_unchanged env _ _).quiet_of_unchanged)
    fun _ => Triple.bind_keep (lib_of_quiet (updateGlobalProperties_quiet env _)) fun _ =>
    Triple.bind_keep (updateGlobalDynamicData_lib env _) fun _ =>
    Triple.bind_keep (lib_of_quiet (updateSigningProducer_quiet env _ _)) fun _ =>
    Triple.bind_keep (updateLastIrreversibleBlock_lib env) fun _ =>
    lib_of_quiet (createBlockSummary_quiet env _)

theorem startPendingBlock_lib :
    Triple (LibAtLeast L) _startPendingBlock (LibAtLeast L) (LibAtLeast L) :=
  startPendingBlock_dgpoSat (L ≤ ·.lastIrreversibleBlockNum)

theorem generateBlockImpl_lib (when : Nat) (producer : AccountName) (key : PrivateKey) :
    Triple (LibAtLeast L) (_generateBlock env when producer key) (LibAtLeast L)
      (LibAtLeast L) := by
  unfold _generateBlock
  dsimp only
  repeat' with_reducible
    first
    | exact Triple.abortWith_bind _ fun _ h => h
    | apply Triple.ite_join | apply Triple.bind_keep | apply Triple.ite | intro _
    | exact Triple.liftExcept _ fun _ h => h
    | exact Triple.fcAssert _ _ _ fun _ h => h | exact Triple.pure _ fun _ h => h
    | exact Triple.get | exact Triple.abortWith _ fun _ h => h
    | exact lib_update fun _ => rfl | exact startPendingBlock_lib
    | exact lib_of_quiet (getScheduledProducer_unchanged env _).quiet_of_unchanged
    | exact lib_of_quiet (getProducer_unchanged _).quiet_of_unchanged
    | exact lib_of_quiet pendingBlockRef_unchanged.quiet_of_unchanged
    | exact lib_of_quiet pendingBlockTraceRef_unchanged.quiet_of_unchanged
    | exact lib_of_quiet (calculateProducerSchedule_unchanged env).quiet_of_unchanged
    | exact lib_of_quiet (finalizePendingCycle_quiet env)
    | exact lib_of_quiet (setPendingHeader_quiet env _ _)
    | exact finalizeBlock_lib env _

theorem pushTransactionImpl_lib (trx : SignedTransaction) :
    Triple (LibAtLeast L) (_pushTransaction env trx) (LibAtLeast L) (LibAtLeast L) :=
  pushTransactionImpl_dgpoSat (L ≤ ·.lastIrreversibleBlockNum) env trx

end Methods

/-! ### A pop lowers it -/

/-- The first three blocks of the deployment `rotationConfig`: the third makes block 1
irreversible. -/
def threeBlockRun : Controller :=
  Controller.run (sampleEnv rotationConfig) rotationGenesis ⟨[]⟩
    [.pushBlock rotB1 trustedSkip, .pushBlock rotB2 trustedSkip, .pushBlock rotB3 trustedSkip]

set_option smartUnfolding false in
theorem popBlock_lowers_lastIrreversibleBlockNum :
    Reachable (sampleEnv rotationConfig) threeBlockRun ∧
      threeBlockRun.returnsOn (sampleEnv rotationConfig) .popBlock ∧
      (threeBlockRun.after (sampleEnv rotationConfig) .popBlock).lastIrreversibleBlockNum <
        threeBlockRun.lastIrreversibleBlockNum :=
  ⟨reachable_run (by decide) (by decide), by decide, by decide⟩

end EosChain
