import EosChain.Proofs.Runs
import EosChain.Proofs.Traversal

/-!
# `EosChain.Proofs.Forks`: the fork database's head across a fork switch

`_push_block` pushes a block to the fork database, whose head then moves to the highest
block. On a fork switch it pops the store back to the common parent, and each
`pop_block` also pops the fork database's head, which was the new tip, one block down
(`popBlock_lowers_forkDb_head`, in `EosChain.Proofs.Branches`); it then applies the new
branch, and applying blocks never moves the fork database's head
(`applyBranch_keeps_forkDb_head`). After a switch over a
branch of more than one block the fork database's head is therefore below the store's
head (`forkSwitch_leaves_forkDb_head_behind`). The failure path moves it to the old tip
and pops again while it restores the old branch, so a failed switch leaves the fork
database's head below the block it was on (`failedSwitch_moves_forkDb_head`).

`fetch_block_by_number` walks down from the fork database's head, and
`update_last_irreversible_block` writes what it finds to the block log. When the fork
database's head is on a side branch, a block of that branch goes to the block log
(`irreversible_walk_logs_side_branch`).
-/

set_option autoImplicit false

namespace EosChain

/-- The fork database's head did not move. -/
def ForkHeadKept (c c' : Controller) : Prop := c'.forkDb.head = c.forkDb.head

instance : IsRefl Controller ForkHeadKept := ⟨fun _ => rfl⟩

instance : IsTrans Controller ForkHeadKept := ⟨fun _ _ _ h₁ h₂ => h₂.trans h₁⟩

theorem Moves.forkHeadKept_of_quiet {α : Type} {x : ControllerM α} (h : Moves Quiet x) :
    Moves ForkHeadKept x :=
  h.mono fun _ _ h => h.forkHead

theorem forkHeadKept_modifyObjects {f : Objects → Objects} :
    Moves ForkHeadKept (modifyObjects f) :=
  Moves.modifyObjects fun _ => rfl

theorem forkHeadKept_modifyDb {f : Database → Database} : Moves ForkHeadKept (modifyDb f) :=
  Moves.modifyDb fun _ => rfl

theorem forkHeadKept_setSkipFlags (n : Nat) :
    Moves ForkHeadKept (modify fun c => { c with skipFlags := n } : ControllerM PUnit) :=
  Moves.update fun _ => rfl

section Apply

variable (env : Env)

/-- Applying a block keeps the fork database's head: its only edit of the fork database
is the window that `set_max_size` sets. -/
theorem applyBlock_forkHeadKept (b : SignedBlock) (skip : Nat) :
    Moves ForkHeadKept (_applyBlock env b skip) :=
  applyBlock_moves env b skip fun t => withSkipFlags_moves t forkHeadKept_setSkipFlags
    (applyBlockBody_moves env (fun _ => forkHeadKept_modifyObjects)
      (fun n => (quiet_setMaxSize n).forkHeadKept_of_quiet) (fun _ => forkHeadKept_modifyDb)
      (fun _ _ _ _ => rfl) b)

/-- Applying blocks, each in its own session, never moves the fork database's head,
whether the blocks apply or one of them throws. -/
theorem applyBranch_keeps_forkDb_head (skip : Nat) :
    ∀ bs : List SignedBlock, Moves ForkHeadKept (applyBranch env skip bs) :=
  applyBranch_moves env (fun _ => forkHeadKept_modifyDb) (applyBlock_forkHeadKept env) skip

end Apply

variable {env : Env}

/-- A second block at height 2 of the deployment `lagConfig`, a slot after `lagB1`'s
child, and a block on top of it. -/
def forkY2 : SignedBlock := lagBlock [lagB1] 3
def forkY3 : SignedBlock := lagBlock [lagB1, forkY2] 4

/-- `lagB1` and its child applied, then `forkY2`, which is not higher than the head and
only joins the fork database. -/
def beforeSwitchRun : Controller :=
  Controller.run (sampleEnv lagConfig) lagGenesis ⟨[]⟩
    [.pushBlock lagB1 trustedSkip, .pushBlock (lagBlock [lagB1] 2) trustedSkip,
      .pushBlock forkY2 trustedSkip]

/-- Then `forkY3`, which switches the head to the branch `forkY2`, `forkY3`. -/
def switchedRun : Controller := beforeSwitchRun.after (sampleEnv lagConfig) (.pushBlock forkY3 trustedSkip)

set_option smartUnfolding false in
theorem forkSwitch_leaves_forkDb_head_behind :
    Reachable (sampleEnv lagConfig) switchedRun ∧
      switchedRun.headBlockId = forkY3.id (sampleEnv lagConfig) ∧
      switchedRun.forkDb.head = some forkY2 :=
  ⟨(reachable_run (by decide) (by decide)).after (by decide), by decide, by decide⟩

/-- `forkY3` with a wrong action Merkle root: the switch applies `forkY2` and throws on
it. -/
def badY3 : SignedBlock := { forkY3 with actionMroot := 1 }

set_option smartUnfolding false in
theorem failedSwitch_moves_forkDb_head :
    Reachable (sampleEnv lagConfig) beforeSwitchRun ∧
      beforeSwitchRun.throwsOn (sampleEnv lagConfig) (.pushBlock badY3 trustedSkip) ∧
      (beforeSwitchRun.after (sampleEnv lagConfig) (.pushBlock badY3 trustedSkip)).headBlockId =
        beforeSwitchRun.headBlockId ∧
      (beforeSwitchRun.after (sampleEnv lagConfig) (.pushBlock badY3 trustedSkip)).forkDb.head ≠
        beforeSwitchRun.forkDb.head :=
  ⟨reachable_run (by decide) (by decide), by decide, by decide, by decide⟩

/-- On the deployment `rotationConfig`: two blocks by `prodC`; then `rotB1`, `rotB2` and
`rotB3`, on which the head switches and block 1 becomes irreversible, leaving the fork
database's head at `rotB1`; then two blocks on `rotB1` that only join the fork database
and move its head to a side branch; then `prodB` generates block 4 on `rotB3`, which makes
block 2 irreversible. -/
def sideLogRun : Controller :=
  let o1 := emptyBlock rotationConfig [] 2 prodC
  let s2 := emptyBlock rotationConfig [rotB1] 5 prodA
  Controller.run (sampleEnv rotationConfig) rotationGenesis ⟨[]⟩
    [.pushBlock o1 trustedSkip, .pushBlock (emptyBlock rotationConfig [o1] 3 prodC) trustedSkip,
      .pushBlock rotB1 trustedSkip, .pushBlock rotB2 trustedSkip, .pushBlock rotB3 trustedSkip,
      .pushBlock s2 trustedSkip, .pushBlock (emptyBlock rotationConfig [rotB1, s2] 6 prodA) trustedSkip,
      .generateBlock (genesisSlot rotationConfig + 4) prodB (prodB + 90) 0]

set_option smartUnfolding false in
theorem irreversible_walk_logs_side_branch :
    Reachable (sampleEnv rotationConfig) sideLogRun ∧
      sideLogRun.objects.chain.find? (·.blockNum = 2) = some rotB2 ∧
      sideLogRun.blockLog.readBlockByNum 2 ≠ some rotB2 :=
  ⟨reachable_run (by decide) (by decide), by decide, by decide⟩

end EosChain
