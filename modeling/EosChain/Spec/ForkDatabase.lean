import EosChain.Spec.Storage

/-!
# `EosChain.Spec.ForkDatabase`: the fork database

Modelled from the spec (§4.B): `fork_database.cpp` is not under `src/`. The items are
blocks, keyed by id and linked by `previous`: the parent of an item is the indexed item
whose id is its `previous`, looked up when it is needed. `head` is a stored pointer that
`push_block`, `pop_block` and `set_head` move. The cases below follow the controller's
own expectations of this code. On a tie they go against the spec: §4.B makes the head the
branch tip with the greatest block number, ties broken by the lowest id, while the model
keeps the old head, as `_push_block` expects ("If the newly pushed block is the same height
as head, we get head back in new_head").

* `push_block` moves the head only to a higher block; a block at the head's height
  leaves the head in place, whatever its id;
* `push_block` refuses a block too old for the window and, once there is a head, a block
  whose parent is not indexed (only the first block, or a block after the zero id, goes
  in unlinked);
* `pop_block` moves the head back to its parent and keeps the popped item indexed;
* `remove` erases one item and leaves the head pointer as it is;
* `set_max_size n` drops the items more than `n` below the head.
-/

set_option autoImplicit false

namespace EosChain

/-- Modelled from the spec: `fork_database`. `index` holds the items in insertion order. -/
structure ForkDatabase where
  index : List SignedBlock
  head : Option SignedBlock
  maxSize : Nat

namespace ForkDatabase

variable (env : Env)

/-- `fetch_block(id)`. -/
def fetchBlock (f : ForkDatabase) (id : BlockId) : Option SignedBlock :=
  f.index.find? fun b => b.id env = id

/-- `is_known_block(id)`. -/
def isKnownBlock (f : ForkDatabase) (id : BlockId) : Bool := (f.fetchBlock env id).isSome

/-- `fork_item::prev`: the indexed parent. -/
def prev (f : ForkDatabase) (b : SignedBlock) : Option SignedBlock := f.fetchBlock env b.previous

/-- The items at or above `lo`, as the window keeps them. -/
def keepFrom (lo : Int) (index : List SignedBlock) : List SignedBlock :=
  index.filter fun b => lo ≤ b.blockNum

/-- `push_block(b)`: insert, link, and move the head up when `b` is higher. -/
def pushBlock (f : ForkDatabase) (b : SignedBlock) : Except Failure ForkDatabase :=
  match f.head with
  | none => .ok { f with index := f.index ++ [b], head := some b }
  | some h =>
    if ¬ (b.blockNum : Int) > max 0 ((h.blockNum : Int) - f.maxSize) then
      .error (.exception .assertException "attempting to push a block that is too old")
    else if b.previous ≠ default ∧ (f.prev env b).isNone then
      .error (.exception .unlinkableBlockException "block does not link to known chain")
    else
      let index := if f.isKnownBlock env (b.id env) then f.index else f.index ++ [b]
      if h.blockNum < b.blockNum then
        .ok { f with index := keepFrom (b.blockNum - min f.maxSize b.blockNum) index,
                     head := some b }
      else .ok { f with index := index }

/-- Walk `first` down to the height `n`, collecting the items passed. The fuel is a
bound on the number of steps: every step lowers the height by one. -/
def walkTo (f : ForkDatabase) (n : Nat) :
    Nat → SignedBlock → List SignedBlock → Except Failure (SignedBlock × List SignedBlock)
  | 0, b, acc => .ok (b, acc)
  | fuel + 1, b, acc =>
    if n < b.blockNum then
      match f.prev env b with
      | some p => walkTo f n fuel p (acc ++ [b])
      | none => .error (.exception .assertException "first_branch")
    else .ok (b, acc)

/-- Walk two items of equal height down together until their parents agree. -/
def walkTogether (f : ForkDatabase) :
    Nat → SignedBlock → SignedBlock → List SignedBlock → List SignedBlock →
      Except Failure (List SignedBlock × List SignedBlock)
  | 0, a, b, accA, accB => .ok (accA ++ [a], accB ++ [b])
  | fuel + 1, a, b, accA, accB =>
    if a.previous ≠ b.previous then
      match f.prev env a, f.prev env b with
      | some pa, some pb => walkTogether f fuel pa pb (accA ++ [a]) (accB ++ [b])
      | _, _ => .error (.exception .assertException "first_branch")
    else .ok (accA ++ [a], accB ++ [b])

/-- `fetch_branch_from(first, second)`: both branches tip first, down to the children of
the common parent. -/
def fetchBranchFrom (f : ForkDatabase) (first second : BlockId) :
    Except Failure (List SignedBlock × List SignedBlock) :=
  match f.fetchBlock env first, f.fetchBlock env second with
  | some a, some b => do
    let (a, accA) ← f.walkTo env b.blockNum a.blockNum a []
    let (b, accB) ← f.walkTo env a.blockNum b.blockNum b []
    f.walkTogether env (a.blockNum + 1) a b accA accB
  | _, _ => .error (.exception .assertException "first_branch_itr != end")

/-- `pop_block()`: the head moves back to its parent. -/
def popBlock (f : ForkDatabase) : Except Failure ForkDatabase :=
  match f.head with
  | none => .error (.exception .assertException "no blocks to pop")
  | some h =>
    match f.prev env h with
    | some p => .ok { f with head := some p }
    | none => .error (.exception .assertException "poping block would leave head block null")

theorem popBlock_head {f f' : ForkDatabase} (h : f.popBlock env = .ok f') :
    f'.head = f.head.bind (f.prev env) := by
  unfold popBlock at h
  split at h
  · cases h
  · rename_i b hb
    split at h
    · rename_i p hp
      cases h
      simp [hb, hp]
    · cases h

/-- `remove(id)`. -/
def remove (f : ForkDatabase) (id : BlockId) : ForkDatabase :=
  { f with index := f.index.filter fun b => b.id env ≠ id }

/-- `set_head(b)`. -/
def setHead (f : ForkDatabase) (b : SignedBlock) : ForkDatabase := { f with head := some b }

/-- `set_max_size(n)`. -/
def setMaxSize (f : ForkDatabase) (n : Nat) : ForkDatabase :=
  match f.head with
  | none => { f with maxSize := n }
  | some h => { f with maxSize := n, index := keepFrom (max 0 ((h.blockNum : Int) - n)) f.index }

@[simp] theorem setMaxSize_head (f : ForkDatabase) (n : Nat) : (f.setMaxSize n).head = f.head := by
  unfold setMaxSize
  split <;> rfl

/-- `start_block(b)`: the fork database holds `b` alone, as its head. -/
def startBlock (f : ForkDatabase) (b : SignedBlock) : ForkDatabase :=
  { f with index := [b], head := some b }

end ForkDatabase

end EosChain
