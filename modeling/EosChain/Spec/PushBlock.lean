import EosChain.Spec.Pending

/-!
# `EosChain.Spec.PushBlock`: pushing and popping blocks

`pop_block` drops the pending session, pops the fork database's head and undoes the top
revision of the store. `_push_block` feeds a block to the fork database and then either
applies it on top of the head, switches to the fork it completes, or does nothing:

* when the fork database's new head builds on `head_block_id`, the block is applied in a
  session that is kept on success; on failure the session rolls back and the block
  leaves the fork database;
* when the new head is on another branch and higher than the head, the controller pops
  back to the common parent, applies the new branch root first, each block in its own
  kept session, and on the first failure removes the rest of the new branch, puts the
  fork database's head back on the old tip, pops back to the common parent again and
  re-applies the old branch before rethrowing.
-/

set_option autoImplicit false

namespace EosChain

variable (env : Env)

/-- `pop_block()`. -/
def popBlock : ControllerM Unit := do
  modify fun c => { c with
    pendingBlockSession := false
    db := if c.pendingBlockSession then c.db.undo else c.db }
  let c ← get
  fcAssert (c.fetchBlockById env c.headBlockId).isSome .popEmptyChain "there are no blocks to pop"
  let f ← liftExcept (c.forkDb.popBlock env)
  modify fun c => { c with forkDb := f }
  modifyDb Database.undo

/-- `while (head_block_id() != target) pop_block();`. Every `pop_block` that returns
moves the fork database's head one block down, and one at height 1 cannot move, so the
loop throws before the fuel, one more than that height, runs out. -/
def popUntil (target : BlockId) : Nat → ControllerM Unit
  | 0 => throw .hang
  | fuel + 1 => do
    if (← get).headBlockId ≠ target then
      popBlock env
      popUntil target fuel

/-- The fuel for `popUntil`: one more than the height of the fork database's head. -/
def Controller.popFuel (c : Controller) : Nat := (c.forkDb.head.map SignedBlock.blockNum).getD 0 + 1

/-- `{ auto session = _db.start_undo_session(true); _apply_block(b, skip); session.push(); }`:
the session is kept when the block applies and rolled back when it throws. -/
def applyBlockInSession (b : SignedBlock) (skip : Nat) : ControllerM Unit := do
  modifyDb Database.startUndoSession
  tryCatch (_applyBlock env b skip) fun e => do
    modifyDb Database.undo
    throw e

/-- The restore loop: the old branch, root first, each block in its own kept session. -/
def applyBranch (skip : Nat) : List SignedBlock → ControllerM Unit
  | [] => pure ()
  | b :: rest => do
    applyBlockInSession env b skip
    applyBranch skip rest

/-- The fork switch's loop over the new branch, root first. On the first block that
throws, the rest of the new branch leaves the fork database, its head goes back to the
old tip, the store pops back to `oldPrevious` and the old branch is re-applied. -/
def applyNewBranch (skip : Nat) (branchOld : List SignedBlock) (oldPrevious : BlockId) :
    List SignedBlock → ControllerM Unit
  | [] => pure ()
  | b :: rest => do
    let except ← catchException (do applyBlockInSession env b skip; pure none)
      fun e => pure (some e)
    match except with
    | none => applyNewBranch skip branchOld oldPrevious rest
    | some e => do
      (b :: rest).forM fun x => modifyForkDb (·.remove env (x.id env))
      let some oldTip := branchOld.head? | abortWith "branches.second.front()"
      modifyForkDb (·.setHead oldTip)
      popUntil env oldPrevious (← get).popFuel
      applyBranch env skip branchOld.reverse
      throw e

/-- The fork switch of `_push_block`, towards `newHead`. -/
def switchForks (newHead : SignedBlock) (skip : Nat) : ControllerM Unit := do
  let c ← get
  let (branchNew, branchOld) ← liftExcept
    (c.forkDb.fetchBranchFrom env (newHead.id env) c.headBlockId)
  let some oldBack := branchOld.getLast? | abortWith "branches.second.back()"
  popUntil env oldBack.previous (← get).popFuel
  applyNewBranch env skip branchOld oldBack.previous branchNew.reverse

/-- `_push_block(new_block)`: whether the head switched forks. -/
def _pushBlock (newBlock : SignedBlock) : ControllerM Bool := do
  let skip := (← get).skipFlags
  if !hasFlag skip skipForkDb then
    let f ← liftExcept ((← get).forkDb.pushBlock env newBlock)
    modify fun c => { c with forkDb := f }
    let some newHead := f.head | abortWith "new_head"
    if newHead.previous ≠ (← get).headBlockId then
      if (← get).headBlockNum < newHead.blockNum then
        switchForks env newHead skip
        return true
      else return false
  modifyDb Database.startUndoSession
  catchException (_applyBlock env newBlock skip) fun e => do
    modifyDb Database.undo
    modifyForkDb (·.remove env (newBlock.id env))
    throw e
  return false

end EosChain
