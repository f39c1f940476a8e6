import EosChain.Proofs.PopBlock

/-!
# `EosChain.Proofs.Schedule`: computing, recording and activating producer schedules

`_calculate_producer_schedule` fills the slots of a new schedule from the vote index;
`update_global_properties` records it at every start-of-round block as pending from
that block; `update_last_irreversible_block` activates the latest pending schedule below
the new last irreversible block and erases the entries up to it.

* The schedule the code computes is the one the spec describes whenever every voted
  producer has a signing key (`calculateProducerSchedule_eq_spec`). A producer with a
  null key is written into the slot and only overwritten by the next producer that has
  one, so a null-key producer last in the vote order stays in the schedule
  (`calculateProducerSchedule_keeps_null_key`).
* The erase loop ends, with nothing left, exactly when every pending entry is below the
  new last irreversible block (`eraseActivated_eq`). An entry is recorded at every
  start-of-round block, and the last irreversible block trails the head, so a node whose
  last irreversible block lags by more than a round meets an entry it never erases: with
  two producers taking turns, the fourth block never finishes applying
  (`pushBlock_hangs_activating_schedule`).
* `_generate_block` finalizes its block inside the still-open pending session and has no
  handler, so a check that fails after `update_global_properties` has recorded the
  block's schedule leaves a pending entry above the head
  (`generateBlock_leaves_pending_entry_above_head`).
-/

set_option autoImplicit false

namespace EosChain

/-! ### The computed schedule -/

section Calculate

variable (env : Env)

/-- The producer with its signing key, when it is registered with a key that is not
null. -/
def Controller.keyedProducer (c : Controller) (owner : AccountName) : Option ProducerKey :=
  (c.findProducer owner).bind fun p => if p.signingKey ≠ 0 then some ⟨owner, p.signingKey⟩ else none

/-- The schedule the spec describes for `_calculate_producer_schedule`: the first
`producer_count` producers in vote order whose signing key is not null, then empty
entries; the head schedule itself when these producers are its producers, else the
next version. -/
def Controller.specProducerSchedule (c : Controller) : ProducerScheduleType :=
  let producers := (c.objects.ext.producerVotes.filterMap c.keyedProducer ++
    List.replicate env.cfg.producerCount (⟨0, 0⟩ : ProducerKey)).take env.cfg.producerCount
  let hps := c.gpo.headProducerSchedule
  if producers = hps.producers then hps else ⟨hps.version + 1, producers⟩

/-- Every producer in `owners` is registered with a signing key that is not null. -/
def AllKeyed (c : Controller) (owners : List AccountName) : Prop :=
  ∀ owner ∈ owners, (c.keyedProducer owner).isSome

instance (c : Controller) (owners : List AccountName) : Decidable (AllKeyed c owners) :=
  inferInstanceAs (Decidable (∀ owner ∈ owners, (c.keyedProducer owner).isSome))

/-- Past `m` entries, padding a list with one more empty entry changes nothing. -/
theorem take_append_replicate_succ (l : List ProducerKey) (m : Nat) (d : ProducerKey) :
    (l ++ d :: List.replicate m d).take m = (l ++ List.replicate m d).take m := by
  rw [← List.replicate_succ, List.replicate_succ', ← List.append_assoc,
    List.take_append_of_le_length]
  simp

/-- The loop of `_calculate_producer_schedule` over producers that all have keys: with
`pre` filled and `m` empty slots left, it fills the slots with the next producers in
order. -/
theorem fillSchedule_of_keyed (c : Controller) :
    ∀ (owners : List AccountName) (pre : List ProducerKey) (m : Nat), AllKeyed c owners →
      fillSchedule (pre ++ List.replicate m (⟨0, 0⟩ : ProducerKey)) pre.length owners c =
        .ok (pre ++ (owners.filterMap c.keyedProducer ++ List.replicate m (⟨0, 0⟩ : ProducerKey)).take m) c
  | [], pre, m, _ => by simp [fillSchedule]
  | _ :: _, pre, 0, _ => by simp [fillSchedule]
  | owner :: rest, pre, m + 1, h => by
    -- The owner's producer object, whose key is not null.
    obtain ⟨p, hp, hk⟩ : ∃ p, c.findProducer owner = some p ∧ p.signingKey ≠ 0 := by
      have ho := h owner (List.mem_cons_self _ _)
      unfold Controller.keyedProducer at ho
      cases hf : c.findProducer owner with
      | none => simp [hf] at ho
      | some p => exact ⟨p, rfl, by by_contra hz; simp [hf, hz] at ho⟩
    have ih := fillSchedule_of_keyed c rest (pre ++ [⟨owner, p.signingKey⟩]) m
      fun o ho => h o (List.mem_cons_of_mem _ ho)
    have hkey : c.keyedProducer owner = some ⟨owner, p.signingKey⟩ := by
      simp [Controller.keyedProducer, hp, hk]
    simp only [List.length_append, List.length_singleton, List.append_assoc,
      List.singleton_append] at ih
    simp [fillSchedule, getProducer, bind_apply, hp, hk, ih, hkey, List.replicate_succ,
      take_append_replicate_succ]

/-- Where every voted producer has a signing key, `_calculate_producer_schedule` computes
the schedule the spec describes. -/
theorem calculateProducerSchedule_eq_spec (c : Controller)
    (h : AllKeyed c c.objects.ext.producerVotes) :
    calculateProducerSchedule env c = .ok (c.specProducerSchedule env) c := by
  have hf := fillSchedule_of_keyed c _ [] env.cfg.producerCount h
  simp only [List.nil_append, List.length_nil] at hf
  simp only [calculateProducerSchedule, Controller.specProducerSchedule, bind_apply, get_apply,
    hf, pure_apply]
  obtain ⟨v, ps⟩ := c.gpo.headProducerSchedule
  by_cases hp : ps = (c.objects.ext.producerVotes.filterMap c.keyedProducer ++
    List.replicate env.cfg.producerCount (⟨0, 0⟩ : ProducerKey)).take env.cfg.producerCount
  · simp [hp]
  · simp [hp, Ne.symm hp]

end Calculate

set_option smartUnfolding false in
theorem calculateProducerSchedule_eq_spec_lagStart :
    AllKeyed lagStart lagStart.objects.ext.producerVotes ∧
      calculateProducerSchedule (sampleEnv lagConfig) lagStart =
        .ok (lagStart.specProducerSchedule (sampleEnv lagConfig)) lagStart :=
  ⟨by decide, calculateProducerSchedule_eq_spec _ _ (by decide)⟩

/-- A genesis whose second producer, `prodB`, is voted in but has a null signing key. -/
def nullKeyGenesis : Genesis :=
  let g := sampleGenesis [prodA, prodB] [prodA, prodB]
  { g with ext := { g.ext with producers := [(prodA, prodA + 90), (prodB, 0)] } }

/-- The controller built from `nullKeyGenesis` in the deployment `instantConfig`, whose
schedule has two slots. -/
def nullKeyStart : Controller := Controller.begin (sampleEnv instantConfig) nullKeyGenesis ⟨[]⟩

set_option smartUnfolding false in
/-- `prodB` is the last voted producer and has no key: the code leaves it in the second
slot, where the spec has an empty entry. -/
theorem calculateProducerSchedule_keeps_null_key :
    Reachable (sampleEnv instantConfig) nullKeyStart ∧
      (calculateProducerSchedule (sampleEnv instantConfig)).run' nullKeyStart =
        some ⟨1, [⟨prodA, prodA + 90⟩, ⟨prodB, 0⟩]⟩ ∧
      nullKeyStart.specProducerSchedule (sampleEnv instantConfig) =
        ⟨1, [⟨prodA, prodA + 90⟩, ⟨0, 0⟩]⟩ :=
  ⟨@reachable_run (sampleEnv instantConfig) nullKeyGenesis ⟨[]⟩ [] (by decide) rfl,
    by decide, by decide⟩

/-! ### Activating a schedule -/

/-- The erase loop of `update_last_irreversible_block` ends exactly when every pending
entry is below `lib`, and then leaves no entry. -/
theorem eraseActivated_eq (lib : Nat) (l : List (Nat × ProducerScheduleType)) :
    eraseActivated lib l = if ∀ p ∈ l, p.1 < lib then some [] else none := by
  induction l with
  | nil => rfl
  | cons p rest ih =>
    by_cases hp : p.1 < lib
    · rw [eraseActivated, if_pos hp, ih]
      exact if_congr (by simp [hp]) rfl rfl
    · rw [eraseActivated, if_neg hp, if_neg fun h => hp (h p (List.mem_cons_self _ _))]

/-- Two producers take turns, one block each, and a block is irreversible once both have
built on it: with a 60 % threshold over two producers the offset into the sorted
confirmations is 0. -/
def pairConfig : Config := sampleConfig 2 1 2 60

/-- The first four blocks of the deployment `pairConfig`, by `prodB` and `prodA` in
turn. -/
def pairB1 : SignedBlock := emptyBlock pairConfig [] 1 prodB
def pairB2 : SignedBlock := emptyBlock pairConfig [pairB1] 2 prodA
def pairB3 : SignedBlock := emptyBlock pairConfig [pairB1, pairB2] 3 prodB
def pairB4 : SignedBlock := emptyBlock pairConfig [pairB1, pairB2, pairB3] 4 prodA

/-- Three blocks of the deployment `pairConfig`, from the genesis `lagGenesis`. -/
def pairRun : Controller :=
  Controller.run (sampleEnv pairConfig) lagGenesis ⟨[]⟩
    [.pushBlock pairB1 0, .pushBlock pairB2 0, .pushBlock pairB3 0]

set_option smartUnfolding false in
/-- After three blocks the schedule recorded at block 2 is pending and block 2 is
irreversible and in the block log. Block 4 starts a round, so applying it records a
schedule at 4; both producers have now built on block 3, which becomes irreversible;
the entry at 2 is below it and is activated, and the erase loop then meets the entry
at 4 and never ends. -/
theorem pushBlock_hangs_activating_schedule :
    Reachable (sampleEnv pairConfig) pairRun ∧
      pairRun.gpo.pendingActiveProducers.map Prod.fst = [2] ∧
      pairRun.lastIrreversibleBlockNum = 2 ∧
      pairRun.hangsOn (sampleEnv pairConfig) (.pushBlock pairB4 0) = true :=
  ⟨reachable_run (by decide) (by decide), by decide, by decide, by decide⟩

/-! ### A failed `_generate_block` -/

/-- The three blocks of `revisionRun`. -/
def instantB1 : SignedBlock := emptyBlock instantConfig [] 1 prodB
def instantB2 : SignedBlock :=
  { emptyBlock instantConfig [instantB1] 2 prodA with newProducers := some instantSchedule }
def instantB3 : SignedBlock := emptyBlock instantConfig [instantB1, instantB2] 3 prodB

/-- The three blocks of `revisionRun`, then `generate_block` by `prodA` three slots
after the head. Block 4 starts a round, so `update_global_properties` records its
schedule; `update_global_dynamic_data` then counts the missed slots and throws when it
looks up the producer of the empty entry of `instantSchedule`, before it moves the
head. -/
def missedSlotRun : Controller :=
  Controller.run (sampleEnv instantConfig) instantGenesis ⟨[]⟩
    [.pushBlock instantB1 trustedSkip, .pushBlock instantB2 trustedSkip,
      .pushBlock instantB3 trustedSkip,
      .generateBlock (genesisSlot instantConfig + 6) prodA (prodA + 90) 0]

set_option smartUnfolding false in
theorem generateBlock_leaves_pending_entry_above_head :
    Reachable (sampleEnv instantConfig) missedSlotRun ∧ missedSlotRun.headBlockNum = 3 ∧
      missedSlotRun.gpo.pendingActiveProducers.map Prod.fst = [4] :=
  ⟨reachable_run (by decide) (by decide), by decide, by decide⟩

end EosChain
