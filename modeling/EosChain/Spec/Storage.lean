import EosChain.Spec.Types

/-!
# `EosChain.Spec.Storage`: the versioned store and the block log

Neither chainbase (the versioned store) nor `block_log.cpp` is under `src/`; both are
modelled from the contract the spec gives them (§4.A, §4.C), with the controller's own
calls deciding what has to be exact.

The store keeps the current objects, a stack of undo records and a revision counter.
An undo record is the revision its session opened at and the objects as they were then,
so rolling a session back puts those objects back. The operations act on the top of the
stack, whichever session is asking, as chainbase's do:

* `startUndoSession` opens a record at `revision + 1`;
* `undo` rolls the top record back (nothing when the stack is empty);
* `squash` folds the top record into the one below it, or makes it permanent when it is
  alone; either way the older snapshot is the one that stays;
* `commit r` discards every record from the oldest up while its revision is at most `r`.

A session object that is pushed leaves its record on the stack; one that is dropped
without a push calls `undo`.
-/

set_option autoImplicit false

namespace EosChain

/-- An entry of the undo stack: the revision its session opened at and the objects as
they were when it opened. -/
structure UndoState where
  revision : Int
  objects : Objects

/-- Modelled from the spec: chainbase's `database`, which is not under `src/`. `stack`
lists the undo records newest first. -/
structure Database where
  objects : Objects
  stack : List UndoState
  revision : Int

namespace Database

/-- `start_undo_session(true)`. -/
def startUndoSession (d : Database) : Database :=
  { d with stack := ⟨d.revision + 1, d.objects⟩ :: d.stack, revision := d.revision + 1 }

/-- `undo()`: roll the top record back. -/
def undo (d : Database) : Database :=
  match d.stack with
  | [] => d
  | u :: rest => { objects := u.objects, stack := rest, revision := d.revision - 1 }

/-- `squash()`: merge the top record into the one below, without a new revision. -/
def squash (d : Database) : Database :=
  match d.stack with
  | [] => d
  | _ :: rest => { d with stack := rest, revision := d.revision - 1 }

/-- `commit(r)`: drop the oldest records while their revision is at most `r`. -/
def commit (d : Database) (r : Int) : Database :=
  { d with stack := (d.stack.reverse.dropWhile fun u => u.revision ≤ r).reverse }

/-- Roll back every record of `rest`, newest first, from objects `o` at revision `r`. -/
def undoAllFrom (o : Objects) (r : Int) : List UndoState → Database
  | [] => ⟨o, [], r⟩
  | u :: rest => undoAllFrom u.objects (r - 1) rest

/-- `undo_all()`: `undo` until the stack is empty. -/
def undoAll (d : Database) : Database := undoAllFrom d.objects d.revision d.stack

/-- `set_revision(r)`: only while there is no undo record. -/
def setRevision (d : Database) (r : Int) : Except Failure Database :=
  if d.stack.isEmpty then .ok { d with revision := r }
  else .error (.exception .logicError "cannot set revision while there is an existing undo stack")

/-- `modify`, `create` and `remove` on any table: a change of the current objects. -/
def modify (d : Database) (f : Objects → Objects) : Database := { d with objects := f d.objects }

@[simp] theorem startUndoSession_objects (d : Database) :
    d.startUndoSession.objects = d.objects := rfl
@[simp] theorem startUndoSession_revision (d : Database) :
    d.startUndoSession.revision = d.revision + 1 := rfl
@[simp] theorem startUndoSession_stack (d : Database) :
    d.startUndoSession.stack = ⟨d.revision + 1, d.objects⟩ :: d.stack := rfl
@[simp] theorem modify_objects (d : Database) (f : Objects → Objects) :
    (d.modify f).objects = f d.objects := rfl
@[simp] theorem modify_stack (d : Database) (f : Objects → Objects) :
    (d.modify f).stack = d.stack := rfl
@[simp] theorem modify_revision (d : Database) (f : Objects → Objects) :
    (d.modify f).revision = d.revision := rfl
@[simp] theorem squash_objects (d : Database) : d.squash.objects = d.objects := by
  unfold squash
  split <;> rfl
@[simp] theorem commit_objects (d : Database) (r : Int) : (d.commit r).objects = d.objects := rfl
@[simp] theorem commit_revision (d : Database) (r : Int) :
    (d.commit r).revision = d.revision := rfl

/-- A session opened and rolled back at once leaves the store as it was. -/
@[simp] theorem undo_startUndoSession (d : Database) : d.startUndoSession.undo = d := by
  simp [startUndoSession, undo]

/-- Rolling back a session opened on `d`, after changes that kept the undo history, puts
`d` back. -/
theorem undo_of_session {d d' : Database} (hs : d'.stack = d.startUndoSession.stack)
    (hr : d'.revision = d.startUndoSession.revision) : d'.undo = d := by
  obtain ⟨o', s', r'⟩ := d'
  simp only [startUndoSession_stack, startUndoSession_revision] at hs hr
  subst hs hr
  simp [undo]

/-- A session opened and squashed at once leaves the store as it was. -/
@[simp] theorem squash_startUndoSession (d : Database) : d.startUndoSession.squash = d := by
  simp [startUndoSession, squash]

end Database

/-- Modelled from the spec: the block log of `block_log.cpp`, which is not under `src/`.
The blocks it holds, oldest first. -/
structure BlockLog where
  blocks : List SignedBlock

namespace BlockLog

variable (env : Env)

/-- `read_head()` and `head()`. -/
def readHead (l : BlockLog) : Option SignedBlock := l.blocks.getLast?

/-- `read_block_by_num`. -/
def readBlockByNum (l : BlockLog) (n : Nat) : Option SignedBlock :=
  l.blocks.find? fun b => b.blockNum = n

/-- `read_block_by_id`. -/
def readBlockById (l : BlockLog) (id : BlockId) : Option SignedBlock :=
  l.blocks.find? fun b => b.id env = id

/-- `append(b)`: the block number must be one above the head's, and the first block is
block 1. -/
def append (l : BlockLog) (b : SignedBlock) : Except Failure BlockLog :=
  if b.blockNum = ((l.readHead.map SignedBlock.blockNum).getD 0) + 1 then
    .ok ⟨l.blocks ++ [b]⟩
  else .error (.exception .assertException "Append to index file occuring at wrong position.")

end BlockLog

end EosChain
