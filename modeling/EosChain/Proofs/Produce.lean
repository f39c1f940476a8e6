import EosChain.Proofs.Log
import EosChain.Proofs.Skip

/-!
# `EosChain.Proofs.Produce`: the block `generate_block` returns

`_generate_block(when, producer, key)` checks that `producer` is scheduled for the slot
of `when`, finishes the pending cycle, writes the header of the pending block
(`previous` is the head, `timestamp` is `when`, `producer` is the producer's owner),
may record a new schedule and sign, finalizes the block, and returns it with the pending
block cleared.

* `generateBlock_extends_head`: from every state, a block `generate_block` returns builds
  on the head it started from, at the requested time, by the requested producer, and is
  the new head.

The returned value is the pending block read after `_finalize_block`; the proof follows
it with a ghost write of the value into the emptied pending block (`stash`). The header
is the one `set_pending_header` wrote, since the later writes of the pending block only
touch `new_producers` and the signature, and `_finalize_block` leaves the pending block
alone: it writes the objects, the store, the fork database and the block log only
(`finalizeBlock_moves`).
-/

set_option autoImplicit false

namespace EosChain

/-- The pending block did not change. -/
def PendingBlockKept (c c' : Controller) : Prop := c'.pendingBlock = c.pendingBlock

instance : IsRefl Controller PendingBlockKept := ⟨fun _ => rfl⟩

instance : IsTrans Controller PendingBlockKept := ⟨fun _ _ _ h₁ h₂ => h₂.trans h₁⟩

/-- A block that builds on `head`, stamped `when`, by `producer`. -/
structure Builds (head : BlockId) (when : Nat) (producer : AccountName) (b : SignedBlock) :
    Prop where
  previous : b.previous = head
  timestamp : b.timestamp = when
  producer : b.producer = producer

theorem getProducer_owner {owner : AccountName} {c c' : Controller} {p : ProducerObject}
    (h : getProducer owner c = .ok p c') : p.owner = owner := by
  simp only [getProducer, bind_apply, get_apply] at h
  unfold Controller.findProducer at h
  cases hq : c.objects.ext.producers.find? (·.1 = owner) with
  | none => simp [hq, throwException] at h
  | some q =>
    simp only [hq, Option.map_some', pure_apply, EStateM.Result.ok.injEq] at h
    rw [← h.1]

theorem pendingBlockRef_value {c c' : Controller} {b : SignedBlock}
    (h : pendingBlockRef c = .ok b c') : c.pendingBlock = some b := by
  simp only [pendingBlockRef, bind_apply, get_apply] at h
  cases hp : c.pendingBlock with
  | none => simp [hp, abortWith] at h
  | some b' =>
    simp only [hp, pure_apply, EStateM.Result.ok.injEq] at h
    rw [h.1]

variable (env : Env)

theorem finalizeBlock_keeps_pendingBlock (trace : BlockTrace) :
    Moves PendingBlockKept (finalizeBlock env trace) :=
  finalizeBlock_moves (R := PendingBlockKept) env (fun _ => Moves.modifyObjects fun _ => rfl)
    (fun _ => Moves.modifyForkDb fun _ => rfl) (fun _ => Moves.modifyDb fun _ => rfl)
    (fun _ _ _ _ => rfl) trace

section Generate

variable {P : Controller → Prop}

/-- A method that changes nothing keeps the precondition, and what its value satisfies
is known to the rest of the block. -/
theorem Triple.read_bind {α β : Type} {Q : Controller → Prop} {x : ControllerM α}
    {f : α → ControllerM β} (hu : Moves Unchanged x) {V : α → Prop}
    (hv : ∀ c a c', P c → x c = .ok a c' → V a)
    (hf : ∀ a, V a → Triple P (f a) Q fun _ => True) : Triple P (x >>= f) Q fun _ => True := by
  refine ⟨fun c hc => ?_⟩
  have hl := hu.leaves c
  rw [bind_apply]
  cases h : x c with
  | ok a c' =>
    rw [h, resultState_ok] at hl
    subst hl
    exact (hf a (hv _ a _ hc h)).run _ hc
  | error e c' => trivial

/-- A fact that every state of the precondition gives can be assumed. -/
theorem Triple.assume {α : Type} {Q : Controller → Prop} {x : ControllerM α} {V : Prop}
    (hV : ∀ c, P c → V) (h : V → Triple P x Q fun _ => True) : Triple P x Q fun _ => True :=
  ⟨fun c hc => (h (hV c hc)).run c hc⟩

/-- An assertion that fails ends the block. -/
theorem Triple.fcAssert_false_bind {β : Type} {Q : Controller → Prop} {f : Unit → ControllerM β}
    (k : ExceptionKind) (w : String) :
    Triple P (EosChain.fcAssert false k w >>= f) Q fun _ => True :=
  ⟨fun _ _ => trivial⟩

theorem headId_of_calm {c c' : Controller} (h : Calm c c') : c'.headBlockId = c.headBlockId :=
  congrArg DynamicGlobalPropertyObject.headBlockId h.dgpo

theorem startPendingBlock_headId (h₀ : BlockId) :
    Triple (fun c => c.headBlockId = h₀) _startPendingBlock (fun c => c.headBlockId = h₀)
      fun _ => True :=
  Triple.bind Triple.get fun _ => Triple.bind (Triple.fcAssert _ _ _ fun _ _ => trivial) fun _ =>
    Triple.bind (Triple.update (Q := fun c => c.headBlockId = h₀) fun _ h => h) fun _ =>
    Triple.of_moves startPendingCycle_calm (fun _ _ h hc => (headId_of_calm h).trans hc)
      fun _ _ _ _ => trivial

/-- `set_pending_header` builds the pending block on the head, at `when`, by `producer`. -/
theorem setPendingHeader_builds (when : Nat) (producer : AccountName) (h₀ : BlockId) :
    Triple (fun c => c.headBlockId = h₀) (setPendingHeader env when producer)
      (fun c => ∃ b, c.pendingBlock = some b ∧ Builds h₀ when producer b) fun _ => True := by
  unfold setPendingHeader
  refine Triple.get_bind_at fun c₀ hc₀ => ?_
  refine Triple.bind (Triple.frame pendingBlockRef_unchanged (fun _ _ h hc => h.trans hc)
    fun _ _ => trivial) fun _ => Triple.bind (Triple.frame pendingBlockTraceRef_unchanged
      (fun _ _ h hc => h.trans hc) fun _ _ => trivial) fun _ => Triple.update fun _ _ => ?_
  exact ⟨_, rfl, hc₀, rfl, rfl⟩

/-- The writes of `new_producers` and of the signature keep the header. -/
theorem pendingBlock_update_builds {h₀ : BlockId} {when : Nat} {producer : AccountName}
    {b : SignedBlock} (hb : Builds h₀ when producer b) {b' : SignedBlock}
    (hh : b'.toBlockHeader.previous = b.previous ∧ b'.timestamp = b.timestamp ∧
      b'.producer = b.producer) : Builds h₀ when producer b' :=
  ⟨hh.1.trans hb.1, hh.2.1.trans hb.2, hh.2.2.trans hb.3⟩

/-- The body of `_generate_block`, followed by a write of the block it returns into the
pending block, which the body leaves empty. -/
theorem generateBlockImpl_builds (when : Nat) (producer : AccountName) (key : PrivateKey)
    (h₀ : BlockId) :
    Triple (fun c => c.headBlockId = h₀)
      (_generateBlock env when producer key >>= fun b =>
        modify fun c => { c with pendingBlock := some b })
      (fun c => ∃ b, c.pendingBlock = some b ∧ Builds h₀ when producer b ∧
        HeadAt env c.objects (some b)) fun _ => True := by
  unfold _generateBlock
  simp only [bind_assoc, pure_bind]
  refine Triple.bind_keep Triple.get fun flags => Triple.bind_keep Triple.get fun c₁ =>
    Triple.bind_keep (Triple.fcAssert _ _ _ fun _ _ => trivial) fun _ =>
    Triple.read_bind (getScheduledProducer_unchanged env _) (V := fun _ => True)
      (fun _ _ _ _ _ => trivial) fun sp _ => ?_
  by_cases hsp : sp = producer
  swap
  · rw [show decide (sp = producer) = false from decide_eq_false hsp]
    exact Triple.fcAssert_false_bind _ _
  subst hsp
  rw [show decide (sp = sp) = true from decide_eq_true rfl]
  refine Triple.fcAssert_true_bind _ _ <| Triple.read_bind (getProducer_unchanged _)
    (V := fun p => p.owner = sp) (fun _ _ _ _ h => getProducer_owner h) fun po howner => ?_
  rw [show po.owner = sp from howner]
  -- the head stays where it was up to the header
  refine Triple.bind_keep Triple.get fun _ =>
    Triple.bind_keep (Triple.ite (startPendingBlock_headId h₀) (Triple.pure _ fun _ h => h))
      fun _ =>
    Triple.bind_keep (Triple.of_moves (finalizePendingCycle_calm env)
      (fun _ _ h hc => (headId_of_calm h).trans hc) fun _ _ _ _ => trivial) fun _ =>
    Triple.bind_keep (Triple.ite (Triple.fcAssert _ _ _ fun _ _ => trivial)
      (Triple.pure _ fun _ h => h)) fun _ =>
    Triple.bind (setPendingHeader_builds env when sp h₀) fun _ => ?_
  -- the header is kept by the writes of the schedule and the signature
  have read (c : Controller) (b : SignedBlock) (c' : Controller) (hc : ∃ b, c.pendingBlock = some b ∧
      Builds h₀ when sp b) (h : pendingBlockRef c = .ok b c') : Builds h₀ when sp b := by
    obtain ⟨b', hb', hbuild⟩ := hc
    rw [pendingBlockRef_value h] at hb'
    exact Option.some.inj hb' ▸ hbuild
  refine Triple.read_bind pendingBlockRef_unchanged (V := Builds h₀ when sp) read fun b hb => ?_
  refine Triple.bind_keep (Triple.ite (Triple.read_bind (calculateProducerSchedule_unchanged env)
    (V := fun _ => True) (fun _ _ _ _ _ => trivial) fun _ _ => Triple.bind_keep Triple.get fun _ =>
      Triple.ite (Triple.update fun _ _ => ⟨_, rfl, pendingBlock_update_builds hb ⟨rfl, rfl, rfl⟩⟩)
        (Triple.pure _ fun _ h => h)) (Triple.pure _ fun _ h => h)) fun _ => ?_
  refine Triple.bind_keep (Triple.ite (Triple.read_bind pendingBlockRef_unchanged
    (V := Builds h₀ when sp) read fun b' hb' =>
      Triple.update fun _ _ => ⟨_, rfl, pendingBlock_update_builds hb' ⟨rfl, rfl, rfl⟩⟩)
    (Triple.pure _ fun _ h => h)) fun _ => ?_
  -- `_finalize_block` moves the head to the pending block and keeps it pending
  refine Triple.bind_unchanged pendingBlockRef_unchanged (V := fun c a => c.pendingBlock = some a)
    (fun _ _ _ h => pendingBlockRef_value h) (fun _ _ => trivial) fun blk => ?_
  refine Triple.assume (V := Builds h₀ when sp blk) (fun c hc => ?_) fun hblk => ?_
  · obtain ⟨⟨b', hb', hbuild⟩, hp⟩ := hc
    rw [hp] at hb'
    exact Option.some.inj hb' ▸ hbuild
  refine Triple.bind (Triple.frame pendingBlockTraceRef_unchanged (fun _ _ h hc => h ▸ hc)
    fun _ _ => trivial) fun bt => ?_
  refine Triple.bind (R := fun c => c.pendingBlock = some blk ∧ HeadAt env c.objects (some blk))
    ((Triple.and (Triple.of_moves (finalizeBlock_keeps_pendingBlock env ⟨blk, bt⟩)
      (Q := fun c => c.pendingBlock = some blk) (fun _ _ h hc => h.trans hc.2)
      fun _ _ _ _ => trivial) ((finalizeBlock_head env ⟨blk, bt⟩).mono (fun _ _ => trivial)
        (fun _ h => h) fun _ h => h)).mono (fun _ hc => hc) (fun _ hc => hc)
      fun _ _ => trivial) fun _ => ?_
  -- the block returned is the one finalized, and clearing the pending block keeps the head
  refine Triple.bind_keep Triple.get fun _ =>
    Triple.bind_keep (Triple.ite (Triple.abortWith _ fun _ _ => trivial)
      (Triple.pure _ fun _ h => h)) fun _ => ?_
  refine Triple.bind_unchanged pendingBlockRef_unchanged (V := fun c a => c.pendingBlock = some a)
    (fun _ _ _ h => pendingBlockRef_value h) (fun _ _ => trivial) fun r => ?_
  refine Triple.assume (V := r = blk) (fun c hc => Option.some.inj (hc.2.symm.trans hc.1.1))
    fun hr => ?_
  subst hr
  refine Triple.bind (Triple.update (Q := fun c => HeadAt env c.objects (some r))
    fun _ hc => hc.1.2) fun _ => Triple.bind_keep (Triple.ite (Triple.bind_keep Triple.get fun _ =>
      Triple.bind_keep (Triple.liftExcept _ fun _ _ => trivial) fun _ =>
        Triple.update fun _ h => h) (Triple.pure _ fun _ h => h)) fun _ =>
    Triple.update fun _ hc => ⟨r, rfl, hblk, hc⟩

end Generate

/-- From every state, a block `generate_block` returns builds on the head it started from,
at the requested time, by the requested producer, and is the new head. -/
theorem generateBlock_extends_head {when : Nat} {producer : AccountName} {key : PrivateKey}
    {skip : Nat} {c c' : Controller} {b : SignedBlock}
    (h : generateBlock env when producer key skip c = .ok b c') :
    b.previous = c.headBlockId ∧ b.timestamp = when ∧ b.producer = producer ∧
      HeadAt env c'.objects (some b) := by
  obtain ⟨d, hd, rfl⟩ := withSkipFlags_ok h
  have := (generateBlockImpl_builds env when producer key c.headBlockId).run (c.withSkip skip) rfl
  rw [bind_apply, hd] at this
  obtain ⟨_, hb, hbuild, hhead⟩ := this
  cases hb
  exact ⟨hbuild.previous, hbuild.timestamp, hbuild.producer, hhead⟩

set_option smartUnfolding false in
/-- From `lagStart`, `prodA` generates block 1 in the slot after genesis. -/
theorem generateBlock_extends_head_lagStart :
    ∃ b c', generateBlock (sampleEnv lagConfig) (genesisSlot lagConfig + 1) prodA (prodA + 90) 0
        lagStart = .ok b c' ∧
      b.previous = lagStart.headBlockId ∧ b.timestamp = genesisSlot lagConfig + 1 ∧
      b.producer = prodA ∧ HeadAt (sampleEnv lagConfig) c'.objects (some b) := by
  have hok : (lagStart.generated (sampleEnv lagConfig) (genesisSlot lagConfig + 1) prodA
      (prodA + 90) 0).isSome := by decide
  unfold Controller.generated at hok
  split at hok
  · rename_i b c' h
    exact ⟨b, c', h, generateBlock_extends_head _ h⟩
  · cases hok

end EosChain
