import EosChain.Proofs.Calls
import EosChain.Proofs.Schedule

/-!
# `EosChain.Proofs.Bounds`: the head bounds the irreversible and confirmed blocks

In every reachable state the last irreversible block number and every producer's last
confirmed block number are at or below the head block number
(`reachable_lib_le_head`), so the two differences the controller passes to
`_fork_db.set_max_size`, `head_block_number - last_irreversible_block_num + 1` in
`update_global_dynamic_data` and `head_block_num() - new_last_irreversible_block_num + 1`
in `update_last_irreversible_block`, are taken without wrapping.

The bounds are an invariant of the objects in the sense of `ObjectsInvariant`, together
with soundness, which ties the head number to the chain (`SoundBounded`):

* calm methods keep the head, the last irreversible block and every last confirmed
  block (`Bounded.of_calm`);
* `update_global_dynamic_data` moves the head to a block that names it as its previous
  block, so one above it (`Sound.headBlockNumber_lt`);
* `update_signing_producer` confirms that block, which is now the head;
* `update_last_irreversible_block` takes the new number from the active producers' last
  confirmed blocks (`getProducers_confirmed`) and writes it only to raise the old one.

`pop_block` and a failed session bring back a snapshot of the undo history, which the
invariant covers as well; a schedule activation swaps in producers whose confirmations
are bounded like every other producer's.
-/

set_option autoImplicit false

namespace EosChain

/-- The last irreversible block and every producer's last confirmed block are at or below
the head. -/
structure Bounded (o : Objects) : Prop where
  lib : o.dgpo.lastIrreversibleBlockNum ≤ o.dgpo.headBlockNumber
  confirmed : ∀ owner, (o.producerStats owner).lastConfirmedBlockNum ≤ o.dgpo.headBlockNumber

variable (env : Env)

/-- Sound and bounded objects. -/
def SoundBounded (o : Objects) : Prop := Sound env o ∧ Bounded o

variable {env}

theorem Bounded.of_calm {c c' : Controller} (h : Calm c c') (hb : Bounded c.objects) :
    Bounded c'.objects := by
  have hd : c'.objects.dgpo = c.objects.dgpo := h.dgpo
  exact ⟨hd ▸ hb.lib, fun owner => hd ▸ (h.confirmed owner).symm ▸ hb.confirmed owner⟩

theorem SoundBounded.of_calm {c c' : Controller} (h : Calm c c')
    (hc : StoreInv (SoundBounded env) c) : StoreInv (SoundBounded env) c' :=
  ⟨⟨hc.1.1.congr h.chain (.of_dgpo h.dgpo) h.transactions, hc.1.2.of_calm h⟩, h.stack ▸ hc.2⟩

/-- A block placed on the head of sound objects is numbered above it. -/
theorem Sound.headBlockNumber_lt {o : Objects} {b : SignedBlock} (hs : Sound env o)
    (hprev : o.dgpo.headBlockId = b.previous) : o.dgpo.headBlockNumber < b.blockNum := by
  have hh := hs.head
  show _ < b.previous.num + 1
  cases hl : o.chain.getLast? with
  | none =>
    rw [hl] at hh
    rw [hh.2]
    exact Nat.succ_pos _
  | some x =>
    rw [hl] at hh
    rw [← hprev, hh.1, hh.2.1, SignedBlock.id_num]
    exact Nat.lt_succ_self _

/-- Moving the head up, to a block above it, keeps the bounds. -/
theorem Bounded.extend {o : Objects} {b : SignedBlock} (h : Bounded o)
    (hlt : o.dgpo.headBlockNumber < b.blockNum) (d : DynamicGlobalPropertyObject)
    (hnum : d.headBlockNumber = b.blockNum)
    (hlib : d.lastIrreversibleBlockNum = o.dgpo.lastIrreversibleBlockNum) (chain : List SignedBlock) :
    Bounded { o with dgpo := d, chain := chain } :=
  ⟨show d.lastIrreversibleBlockNum ≤ d.headBlockNumber by have := h.lib; omega,
    fun owner => show (o.producerStats owner).lastConfirmedBlockNum ≤ d.headBlockNumber by
      have := h.confirmed owner; omega⟩

/-- Moving the head to a validated block keeps the store sound and bounded, with the
block's number as the head. -/
theorem moveHead_bounded {E : Controller → Prop} (b : SignedBlock)
    (g : Objects → DynamicGlobalPropertyObject) (hid : ∀ o, (g o).headBlockId = b.id env)
    (hnum : ∀ o, (g o).headBlockNumber = b.blockNum)
    (htm : ∀ o, (g o).time = Controller.slotToTimePoint env b.timestamp)
    (hlib : ∀ o, (g o).lastIrreversibleBlockNum = o.dgpo.lastIrreversibleBlockNum) :
    Triple (fun c => StoreInv (SoundBounded env) c ∧ Validated env b c)
      (modifyObjects fun o => { o with dgpo := g o, chain := o.chain ++ [b] })
      (fun c => StoreInv (SoundBounded env) c ∧ c.headBlockNum = b.blockNum) E :=
  Triple.modifyObjects fun _ ⟨⟨⟨hs, hb⟩, hu⟩, hv⟩ =>
    ⟨⟨⟨hs.extend hv.1 hv.2 _ (hid _) (hnum _) (htm _),
      hb.extend (hs.headBlockNumber_lt hv.1) _ (hnum _) (hlib _) _⟩, hu⟩, hnum _⟩

/-- `update_global_dynamic_data` puts a validated block on top of the head: the bounds
hold over the new head, which is the block's number. -/
theorem updateGlobalDynamicData_bounded (b : SignedBlock) :
    Triple (fun c => StoreInv (SoundBounded env) c ∧ Validated env b c)
      (updateGlobalDynamicData env b)
      (fun c => StoreInv (SoundBounded env) c ∧ c.headBlockNum = b.blockNum)
      (StoreInv (SoundBounded env)) := by
  unfold updateGlobalDynamicData
  dsimp only
  repeat'
    first
    | exact Triple.abortWith_bind _ fun _ h => h.1
    | with_reducible apply Triple.bind | with_reducible apply Triple.ite | exact Triple.get
    | exact Triple.pure _ fun _ h => h | exact Triple.fcAssert _ _ _ fun _ h => h.1
    | exact Triple.frame (markMissed_calm env _ _)
        (fun _ _ h hc => ⟨SoundBounded.of_calm h hc.1, hc.2.of_quiet h.toQuiet⟩) fun _ h => h.1
    | exact moveHead_bounded b _ (fun _ => rfl) (fun _ => rfl) (fun _ => rfl) fun _ => rfl
    | exact Triple.frame (calm_setMaxSize _)
        (fun _ _ h hc => ⟨SoundBounded.of_calm h hc.1, h.headBlockNum_eq.trans hc.2⟩) fun _ h => h.1
    | intro _

/-- Confirming a producer at or below the head keeps the bounds. -/
theorem Bounded.confirm {o : Objects} (h : Bounded o) (p : AccountName) (st : ProducerStats)
    (hst : st.lastConfirmedBlockNum ≤ o.dgpo.headBlockNumber) :
    Bounded { o with producerStats := Function.update o.producerStats p st } := by
  refine ⟨h.lib, fun owner => ?_⟩
  by_cases ho : owner = p
  · subst ho
    simpa using hst
  · simpa [Function.update_noteq ho] using h.confirmed owner

/-- `update_signing_producer` confirms the new block, which is the head. -/
theorem updateSigningProducer_bounded (p : ProducerObject) (b : SignedBlock) :
    Triple (fun c => StoreInv (SoundBounded env) c ∧ c.headBlockNum = b.blockNum)
      (updateSigningProducer env p b) (StoreInv (SoundBounded env)) (StoreInv (SoundBounded env)) :=
  Triple.bind Triple.get fun _ => Triple.modifyObjects fun _ ⟨⟨⟨hs, hb⟩, hu⟩, hh⟩ =>
    ⟨⟨hs.congr rfl ⟨rfl, rfl, rfl⟩ rfl, hb.confirm _ _ hh.ge⟩, hu⟩

/-- `get_producer` reads the producer's statistics from the store. -/
theorem getProducer_confirmed {owner : AccountName} {c c' : Controller} {p : ProducerObject}
    (h : getProducer owner c = .ok p c') :
    p.lastConfirmedBlockNum = (c.objects.producerStats p.owner).lastConfirmedBlockNum := by
  simp only [getProducer, bind_apply, get_apply] at h
  unfold Controller.findProducer at h
  cases hq : c.objects.ext.producers.find? (·.1 = owner) with
  | none => simp [hq, throwException] at h
  | some q =>
    simp only [hq, Option.map_some', pure_apply, EStateM.Result.ok.injEq] at h
    rw [← h.1]

theorem getProducers_confirmed :
    ∀ (ps : List ProducerKey) (c c' : Controller) (objs : List ProducerObject),
      getProducers ps c = .ok objs c' →
      ∀ p ∈ objs, p.lastConfirmedBlockNum = (c.objects.producerStats p.owner).lastConfirmedBlockNum
  | [], c, c', objs, h => by
    simp only [getProducers, pure_apply, EStateM.Result.ok.injEq] at h
    simp [← h.1]
  | pk :: rest, c, c', objs, h => by
    obtain ⟨p, c₁, hp, hk⟩ := bind_eq_ok.1 h
    obtain ⟨objs', c₂, hr, hk⟩ := bind_eq_ok.1 hk
    simp only [pure_apply, EStateM.Result.ok.injEq] at hk
    have hc₁ : c₁ = c := by
      simpa [hp] using (getProducer_unchanged pk.producerName).leaves c
    subst hc₁
    rw [← hk.1]
    intro q hq
    rcases List.mem_cons.1 hq with rfl | hq
    · exact getProducer_confirmed hp
    · exact getProducers_confirmed rest _ _ _ hr q hq

/-- The raise of `update_last_irreversible_block`, to a number at or below the head. -/
theorem bounded_raise_bind {β : Type} {n : Nat} {K : ControllerM β} {Q E : Controller → Prop}
    (hK : Triple (StoreInv (SoundBounded env)) K Q E) :
    Triple (fun c => StoreInv (SoundBounded env) c ∧ n ≤ c.headBlockNum) (MonadState.get >>= fun c =>
      if c.lastIrreversibleBlockNum < n then
        modifyObjects (fun o => { o with dgpo := { o.dgpo with lastIrreversibleBlockNum := n } }) >>=
          fun _ => K
      else pure () >>= fun _ => K) Q E := by
  refine Triple.get_bind fun c₀ => ?_
  split
  · refine Triple.bind (Triple.modifyObjects (Q := StoreInv (SoundBounded env)) fun c hc => ?_)
      fun _ => hK
    obtain ⟨⟨⟨⟨hs, hb⟩, hu⟩, hn⟩, rfl⟩ := hc
    exact ⟨⟨hs.congr rfl ⟨rfl, rfl, rfl⟩ rfl, ⟨hn, hb.confirmed⟩⟩, hu⟩
  · exact Triple.bind (Triple.pure _ fun _ h => h.1.1) fun _ => hK

/-- `update_last_irreversible_block` takes the new number from the active producers' last
confirmed blocks, all at or below the head, and writes it only to raise the old one. -/
theorem updateLastIrreversibleBlock_bounded :
    Triple (StoreInv (SoundBounded env)) (updateLastIrreversibleBlock env)
      (StoreInv (SoundBounded env)) (StoreInv (SoundBounded env)) := by
  unfold updateLastIrreversibleBlock
  refine Triple.bind_keep Triple.get fun _ => ?_
  refine Triple.bind_unchanged (getProducers_unchanged _)
    (V := fun c objs => ∀ p ∈ objs,
      p.lastConfirmedBlockNum = (c.objects.producerStats p.owner).lastConfirmedBlockNum)
    (fun c _ c' h => getProducers_confirmed _ c c' _ h) (fun _ h => h) fun objs => ?_
  dsimp only
  split
  · rename_i n hn
    refine Triple.mono (P := fun c => StoreInv (SoundBounded env) c ∧ n ≤ c.headBlockNum) ?_
      (fun c hc => ⟨hc.1, ?_⟩) (fun _ h => h) fun _ h => h
    · apply bounded_raise_bind
      repeat' with_reducible
        first
        | exact Triple.abortWith_bind _ fun _ h => h | exact Triple.throw_bind _ fun _ h => h
        | apply Triple.ite_join | apply Triple.bind_keep | apply Triple.ite | intro _
        | exact Triple.abortWith _ fun _ h => h | exact Triple.pure _ fun _ h => h
        | exact Triple.get
        | exact Triple.frame (appendIrreversible_calm env _ _ _)
            (fun _ _ h hc => SoundBounded.of_calm h hc) fun _ h => h
        | exact Triple.frame (calm_setMaxSize _) (fun _ _ h hc => SoundBounded.of_calm h hc)
            fun _ h => h
        | exact Triple.frame (calm_modifyObjects ⟨fun _ => rfl, fun _ => rfl, fun _ => rfl,
            fun _ _ => rfl⟩) (fun _ _ h hc => SoundBounded.of_calm h hc) fun _ h => h
        | exact Triple.modifyDb (Q := StoreInv (SoundBounded env)) fun _ hc => StoreInv.commit hc _
        | split
    · obtain ⟨p, hp, rfl⟩ := List.mem_map.1
        ((List.perm_insertionSort _ _).mem_iff.1 (List.getElem?_mem hn))
      rw [hc.2 p hp]
      exact hc.1.1.2.confirmed p.owner
  · exact Triple.abortWith _ fun _ h => h.1

/-- `_finalize_block` keeps the store sound and bounded. -/
theorem finalizeBlock_bounded (trace : BlockTrace) :
    Triple (StoreInv (SoundBounded env)) (finalizeBlock env trace) (StoreInv (SoundBounded env))
      (StoreInv (SoundBounded env)) := by
  unfold finalizeBlock
  exact Triple.bind Triple.get fun _ => Triple.bind (validateBlockHeader_triple _ _) fun _ =>
    Triple.bind (Triple.frame (updateGlobalProperties_calm env _)
      (fun _ _ h hc => ⟨SoundBounded.of_calm h hc.1, hc.2.of_quiet h.toQuiet⟩) fun _ h => h.1)
    fun _ => Triple.bind (updateGlobalDynamicData_bounded _) fun _ =>
    Triple.bind (updateSigningProducer_bounded _ _) fun _ =>
    Triple.bind updateLastIrreversibleBlock_bounded fun _ =>
    Triple.frame (createBlockSummary_calm env _) (fun _ _ h hc => SoundBounded.of_calm h hc)
      fun _ h => h

/-- Soundness with the bounds is an invariant of the objects. -/
theorem boundedInvariant : ObjectsInvariant env (SoundBounded env) where
  genesis g := ⟨soundInvariant.genesis g, le_refl _, fun _ => le_refl _⟩
  calm c c' h ho := ⟨soundInvariant.calm c c' h ho.1, ho.2.of_calm h⟩
  finalize := finalizeBlock_bounded

/-- In every reachable state the last irreversible block and every producer's last
confirmed block are at or below the head. -/
theorem reachable_lib_le_head {c : Controller} (h : Reachable env c) :
    c.lastIrreversibleBlockNum ≤ c.headBlockNum ∧
      ∀ owner, (c.objects.producerStats owner).lastConfirmedBlockNum ≤ c.headBlockNum :=
  have hb := (reachable_storeInv boundedInvariant h).1.2
  ⟨hb.lib, hb.confirmed⟩

set_option smartUnfolding false in
/-- After three blocks of two producers taking turns, block 2 is irreversible below the
head at 3. -/
theorem reachable_lib_le_head_pairRun :
    Reachable (sampleEnv pairConfig) pairRun ∧ pairRun.lastIrreversibleBlockNum = 2 ∧
      pairRun.headBlockNum = 3 ∧
      (pairRun.lastIrreversibleBlockNum ≤ pairRun.headBlockNum ∧
        ∀ owner, (pairRun.objects.producerStats owner).lastConfirmedBlockNum ≤
          pairRun.headBlockNum) :=
  have h : Reachable (sampleEnv pairConfig) pairRun := reachable_run (by decide) (by decide)
  ⟨h, by decide, by decide, reachable_lib_le_head h⟩

end EosChain
