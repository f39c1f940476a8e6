import EosChain.Proofs.Traversal
import Mathlib.Data.List.Chain

/-!
# `EosChain.Proofs.Chain`: the chain behind the head

The store's ghost `chain` lists the blocks whose application made the current objects.
This module proves that in every state a node reaches it is a linked, time-ordered chain
from genesis whose last block is the head of the dynamic global properties, and that
the dedup index is empty, in the current objects and in every snapshot of the undo
history (`StoreSound`).

The chain grows only in `update_global_dynamic_data`, which `_finalize_block` calls
after `validate_block_header` has checked that the block names the head as its previous
block and comes after it in time; nothing between the two moves the head. Every other
change of the objects keeps the head, the chain and the dedup index (`Quiet`), and the
session operations only move whole snapshots between the objects and the undo history.
-/

set_option autoImplicit false

namespace EosChain

variable (env : Env)

/-- `b'` extends `b`: it names `b` as its previous block and comes later. These are the
two checks of `validate_block_header` that no skip flag turns off. -/
def Extends (b b' : SignedBlock) : Prop :=
  b'.previous = b.id env ∧
    Controller.slotToTimePoint env b.timestamp < Controller.slotToTimePoint env b'.timestamp

/-- The head of the dynamic global properties is `tip`: the zero id at height 0 before
the first block. -/
def HeadAt (o : Objects) : Option SignedBlock → Prop
  | none => o.dgpo.headBlockId = default ∧ o.dgpo.headBlockNumber = 0
  | some b => o.dgpo.headBlockId = b.id env ∧ o.dgpo.headBlockNumber = b.blockNum ∧
      o.dgpo.time = Controller.slotToTimePoint env b.timestamp

/-- What the objects of every reachable store satisfy: the ghost chain is linked and
time-ordered from genesis, its last block is the head, and the dedup index is empty. -/
structure Sound (o : Objects) : Prop where
  linked : o.chain.Chain' (Extends env)
  rooted : ∀ b ∈ o.chain.head?, b.previous = default
  head : HeadAt env o o.chain.getLast?
  noDedup : o.transactions = []

/-- The current objects and every snapshot of the undo history are sound. -/
def StoreSound (c : Controller) : Prop :=
  Sound env c.objects ∧ ∀ u ∈ c.db.stack, Sound env u.objects

/-- The current objects and every snapshot of the undo history satisfy `I`: what an
invariant of the objects must say of the store, since `pop_block` and the undo of a
failed session bring a snapshot back. `StoreSound` is the case of `Sound`. -/
def StoreInv (I : Objects → Prop) (c : Controller) : Prop :=
  I c.objects ∧ ∀ u ∈ c.db.stack, I u.objects

/-- The two checks of `validate_block_header` that place `b` on top of the head. -/
def Validated (b : SignedBlock) (c : Controller) : Prop :=
  c.headBlockId = b.previous ∧ c.headBlockTime < Controller.slotToTimePoint env b.timestamp

variable {env}

/-! ### Soundness of the objects -/

/-- The head fields of the dynamic global properties agree. -/
structure SameHead (o o' : Objects) : Prop where
  id : o'.dgpo.headBlockId = o.dgpo.headBlockId
  num : o'.dgpo.headBlockNumber = o.dgpo.headBlockNumber
  time : o'.dgpo.time = o.dgpo.time

theorem SameHead.of_dgpo {o o' : Objects} (h : o'.dgpo = o.dgpo) : SameHead o o' :=
  ⟨by rw [h], by rw [h], by rw [h]⟩

theorem HeadAt.congr {o o' : Objects} {tip : Option SignedBlock} (h : HeadAt env o tip)
    (hd : SameHead o o') : HeadAt env o' tip := by
  cases tip <;> simpa [HeadAt, hd.id, hd.num, hd.time] using h

theorem Sound.congr {o o' : Objects} (h : Sound env o) (hc : o'.chain = o.chain)
    (hd : SameHead o o') (ht : o'.transactions = o.transactions) : Sound env o' :=
  ⟨hc ▸ h.linked, hc ▸ h.rooted, hc ▸ h.head.congr hd, ht ▸ h.noDedup⟩

/-- Putting a block that passed the two checks on top of the head keeps the objects
sound. -/
theorem Sound.extend {o : Objects} {b : SignedBlock} (h : Sound env o)
    (hprev : o.dgpo.headBlockId = b.previous)
    (htime : o.dgpo.time < Controller.slotToTimePoint env b.timestamp)
    (d : DynamicGlobalPropertyObject) (hid : d.headBlockId = b.id env)
    (hnum : d.headBlockNumber = b.blockNum)
    (htm : d.time = Controller.slotToTimePoint env b.timestamp) :
    Sound env { o with dgpo := d, chain := o.chain ++ [b] } := by
  obtain ⟨hl, hr, hh, ht⟩ := h
  refine ⟨hl.append (List.chain'_singleton b) ?_, ?_, ?_, ht⟩
  · intro x hx y hy
    simp only [List.head?_cons, Option.mem_def, Option.some.injEq] at hy
    subst hy
    rw [Option.mem_def] at hx
    simp only [HeadAt, hx] at hh
    refine ⟨hprev.symm.trans hh.1, ?_⟩
    rw [← hh.2.2]
    exact htime
  · intro x hx
    cases hc : o.chain with
    | nil =>
      simp only [HeadAt, hc, List.getLast?_nil] at hh
      simp only [hc, List.nil_append, List.head?_cons, Option.mem_def, Option.some.injEq] at hx
      exact hx ▸ hprev.symm.trans hh.1
    | cons a l => exact hr x (by simpa [hc] using hx)
  · simp only [HeadAt, List.getLast?_concat]
    exact ⟨hid, hnum, htm⟩

/-! ### The store -/

theorem StoreSound.of_quiet {c c' : Controller} (h : Quiet c c') (hc : StoreSound env c) :
    StoreSound env c' := by
  refine ⟨hc.1.congr h.chain (.of_dgpo h.dgpo) h.transactions, ?_⟩
  rw [h.stack]
  exact hc.2

theorem StoreSound.of_unchanged {c c' : Controller} (h : Unchanged c c') (hc : StoreSound env c) :
    StoreSound env c' := h ▸ hc

theorem StoreSound.of_headKept {c c' : Controller} (h : HeadKept c c') (hc : StoreSound env c) :
    StoreSound env c' :=
  ⟨hc.1.congr h.chain ⟨congrArg (·.headBlockId) h.dgpo, congrArg (·.headBlockNumber) h.dgpo,
    congrArg (·.time) h.dgpo⟩ h.transactions, fun u hu => hc.2 u (h.stack u hu)⟩

/-- A change of the store that only moves snapshots satisfying `I` keeps it. -/
theorem storeInv_db {I : Objects → Prop} {c : Controller} {d : Database} (ho : I d.objects)
    (hs : ∀ u ∈ d.stack, I u.objects) : StoreInv I { c with db := d } :=
  ⟨ho, hs⟩

/-! The session operations only move whole snapshots between the objects and the undo
history, so they keep every invariant of the objects. -/

namespace StoreInv

variable {I : Objects → Prop} {c : Controller}

theorem startUndoSession (hc : StoreInv I c) :
    StoreInv I { c with db := c.db.startUndoSession } :=
  storeInv_db hc.1 fun u hu => by
    rcases List.mem_cons.1 hu with rfl | hu
    · exact hc.1
    · exact hc.2 u hu

theorem undo (hc : StoreInv I c) : StoreInv I { c with db := c.db.undo } := by
  unfold Database.undo
  split
  · exact hc
  · rename_i u rest h
    have hs : ∀ v ∈ c.db.stack, I v.objects := hc.2
    rw [h] at hs
    exact ⟨hs u (List.mem_cons_self _ _), fun v hv => hs v (List.mem_cons_of_mem _ hv)⟩

theorem squash (hc : StoreInv I c) : StoreInv I { c with db := c.db.squash } := by
  unfold Database.squash
  split
  · exact hc
  · rename_i u rest h
    have hs : ∀ v ∈ c.db.stack, I v.objects := hc.2
    rw [h] at hs
    exact ⟨hc.1, fun v hv => hs v (List.mem_cons_of_mem _ hv)⟩

theorem commit (hc : StoreInv I c) (r : Int) : StoreInv I { c with db := c.db.commit r } :=
  ⟨hc.1, fun u hu => hc.2 u <| List.mem_reverse.1 <|
    List.dropWhile_subset _ (List.mem_reverse.1 hu)⟩

theorem undoAll (hc : StoreInv I c) : StoreInv I { c with db := c.db.undoAll } := by
  have key : ∀ (o : Objects) (r : Int) (s : List UndoState), I o →
      (∀ u ∈ s, I u.objects) → I (Database.undoAllFrom o r s).objects ∧
        ∀ u ∈ (Database.undoAllFrom o r s).stack, I u.objects := by
    intro o r s
    induction s generalizing o r with
    | nil => exact fun ho _ => ⟨ho, fun _ h => absurd h (List.not_mem_nil _)⟩
    | cons u rest ih =>
      exact fun _ hs => ih _ _ (hs u (List.mem_cons_self _ _))
        fun v hv => hs v (List.mem_cons_of_mem _ hv)
  exact key _ _ _ hc.1 hc.2

end StoreInv

/-! ### Validation and the head -/

/-- `validate_block_header` changes nothing, and when it returns the block passed the
previous-id and timestamp checks. -/
theorem validateBlockHeader_validated {skip : Nat} {b : SignedBlock} {c c' : Controller}
    {p : ProducerObject} (h : validateBlockHeader env skip b c = .ok p c') :
    c' = c ∧ Validated env b c := by
  have hc' : c' = c := by simpa [h] using (validateBlockHeader_unchanged env skip b).leaves c
  subst hc'
  have hprev : c'.headBlockId = b.previous := by
    by_contra hne
    simp [validateBlockHeader, fcAssert, throwException, hne, bind_apply] at h
  refine ⟨rfl, hprev, ?_⟩
  by_contra hlt
  simp [validateBlockHeader, fcAssert, throwException, hprev, hlt, bind_apply] at h

theorem Validated.of_quiet {b : SignedBlock} {c c' : Controller} (h : Quiet c c')
    (hc : Validated env b c) : Validated env b c' := by
  simpa [Validated, Controller.headBlockId, Controller.headBlockTime, h.dgpo] using hc

/-- `update_global_dynamic_data` puts a validated block on top of a sound store and
keeps it sound. -/
theorem updateGlobalDynamicData_sound (b : SignedBlock) :
    Triple (fun c => StoreSound env c ∧ Validated env b c) (updateGlobalDynamicData env b)
      (StoreSound env) (StoreSound env) := by
  unfold updateGlobalDynamicData
  dsimp only
  repeat'
    first
    | exact Triple.abortWith_bind _ fun _ h => h.1
    | with_reducible apply Triple.bind | with_reducible apply Triple.ite | exact Triple.get
    | exact Triple.pure _ fun _ h => h | exact Triple.fcAssert _ _ _ fun _ h => h.1
    | exact Triple.frame (markMissed_quiet env _ _)
        (fun _ _ h hc => ⟨hc.1.of_quiet h, hc.2.of_quiet h⟩) fun _ h => h.1
    | exact Triple.modifyObjects (Q := StoreSound env) fun _ hc =>
        ⟨hc.1.1.extend hc.2.1 hc.2.2 _ rfl rfl rfl, hc.1.2⟩
    | exact Triple.frame (quiet_setMaxSize _) (fun _ _ h hc => hc.of_quiet h) fun _ h => h
    | intro _

/-- `update_last_irreversible_block` keeps the store sound: it raises the last
irreversible block number, writes the block log, activates schedules and commits undo
history, none of which touches the head or the chain. -/
theorem updateLastIrreversibleBlock_sound :
    Triple (StoreSound env) (updateLastIrreversibleBlock env) (StoreSound env) (StoreSound env) :=
  Triple.of_frame (updateLastIrreversibleBlock_headKept env) fun _ _ h hc => hc.of_headKept h

/-- `validate_block_header` as a triple: it changes nothing and, when it returns, the
block is validated against the head. -/
theorem validateBlockHeader_triple {P : Controller → Prop} (skip : Nat) (b : SignedBlock) :
    Triple P (validateBlockHeader env skip b) (fun c => P c ∧ Validated env b c) P := by
  refine ⟨fun c hc => ?_⟩
  cases h : validateBlockHeader env skip b c with
  | ok p c' =>
    obtain ⟨rfl, hv⟩ := validateBlockHeader_validated h
    exact ⟨hc, hv⟩
  | error e c' =>
    have : c' = c := by simpa [h] using (validateBlockHeader_unchanged env skip b).leaves c
    exact this ▸ hc

/-- `_finalize_block` keeps the store sound. -/
theorem finalizeBlock_sound (trace : BlockTrace) :
    Triple (StoreSound env) (finalizeBlock env trace) (StoreSound env) (StoreSound env) := by
  unfold finalizeBlock
  exact Triple.bind Triple.get fun _ => Triple.bind (validateBlockHeader_triple _ _) fun _ =>
    Triple.bind (Triple.frame (updateGlobalProperties_quiet env _)
      (fun _ _ h hc => ⟨hc.1.of_quiet h, hc.2.of_quiet h⟩) fun _ h => h.1) fun _ =>
    Triple.bind (updateGlobalDynamicData_sound _) fun _ =>
    Triple.bind (Triple.frame (updateSigningProducer_quiet env _ _)
      (fun _ _ h hc => hc.of_quiet h) fun _ h => h) fun _ =>
    Triple.bind updateLastIrreversibleBlock_sound fun _ =>
    Triple.frame (createBlockSummary_quiet env _) (fun _ _ h hc => hc.of_quiet h) fun _ h => h

end EosChain
