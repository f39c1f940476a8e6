import EosChain.Proofs.Bounds
import EosChain.Proofs.Produce
import EosChain.Proofs.Schedule

/-!
# `EosChain.Proofs.Quorum`: a block becomes irreversible once enough producers confirm it

`update_last_irreversible_block` collects the active producers, and with `nth_element`
picks the last confirmed block number at position `offset` of their ascending order,
where `offset` is `EOS_PERCENT(n, percent_100 - irreversible_threshold_percent)` of the
`n` producers. The new last irreversible block is that number when it is higher than the
current one.

* `updateLastIrreversibleBlock_quorum`: whenever the call raises the last irreversible
  block, to `L`, at least `n - offset` of the `n` active producers have confirmed `L`,
  however the rest of the call ends.

The number at position `offset` of the ascending order is at most each of the numbers
from `offset` on (`length_sub_le_filter_of_insertionSort`). After the raise, the rest of
the call (writing the block log, activating a schedule, trimming the fork database and
committing the undo history) leaves the last irreversible block alone (`LibMovesTo`).
-/

set_option autoImplicit false

namespace EosChain

/-- The element at position `k` of a list sorted ascending is at most every element
from `k` on: at least `length - k` of the list's elements are at least it. -/
theorem length_sub_le_filter_of_insertionSort {l : List Nat} {k v : Nat}
    (h : (l.insertionSort (· ≤ ·))[k]? = some v) :
    l.length - k ≤ (l.filter fun x => v ≤ x).length := by
  have hperm := List.perm_insertionSort (· ≤ ·) l
  have hsorted := List.sorted_insertionSort (· ≤ ·) l
  obtain ⟨hk, hv⟩ := List.getElem?_eq_some_iff.1 h
  have hdrop := List.drop_eq_getElem_cons hk
  rw [hv] at hdrop
  have htail : ∀ x ∈ (l.insertionSort (· ≤ ·)).drop k, v ≤ x := by
    have hp := hsorted.sublist (List.drop_sublist k _)
    rw [hdrop] at hp ⊢
    rintro x (_ | ⟨_, hx⟩)
    · exact le_rfl
    · exact List.rel_of_pairwise_cons hp hx
  calc l.length - k
      = ((l.insertionSort (· ≤ ·)).drop k).length := by rw [List.length_drop, hperm.length_eq]
    _ = (((l.insertionSort (· ≤ ·)).drop k).filter fun x => v ≤ x).length := by
        rw [List.filter_eq_self.2 fun x hx => decide_eq_true (htail x hx)]
    _ ≤ ((l.insertionSort (· ≤ ·)).filter fun x => v ≤ x).length :=
        ((List.drop_sublist k _).filter _).length_le
    _ = (l.filter fun x => v ≤ x).length := (hperm.filter _).length_eq

/-- `get_producer` of each active producer reads its last confirmed block number from the
store. -/
theorem getProducers_lastConfirmed :
    ∀ (ps : List ProducerKey) {c c' : Controller} {objs : List ProducerObject},
      getProducers ps c = .ok objs c' →
      objs.map (·.lastConfirmedBlockNum) =
        ps.map fun pk => (c.objects.producerStats pk.producerName).lastConfirmedBlockNum
  | [], c, c', objs, h => by
    simp only [getProducers, pure_apply, EStateM.Result.ok.injEq] at h
    rw [← h.1]
    rfl
  | pk :: rest, c, c', objs, h => by
    obtain ⟨p, c₁, hp, hk⟩ := bind_eq_ok.1 h
    obtain ⟨objs', c₂, hr, hk⟩ := bind_eq_ok.1 hk
    simp only [pure_apply, EStateM.Result.ok.injEq] at hk
    obtain rfl : c₁ = c := by simpa [hp] using (getProducer_unchanged pk.producerName).leaves c
    rw [← hk.1, List.map_cons, List.map_cons, getProducer_confirmed hp, getProducer_owner hp,
      getProducers_lastConfirmed rest hr]

/-- The last irreversible block stays, or moves to `v`. -/
def LibMovesTo (v : Nat) (c c' : Controller) : Prop :=
  c'.lastIrreversibleBlockNum = c.lastIrreversibleBlockNum ∨ c'.lastIrreversibleBlockNum = v

instance (v : Nat) : IsRefl Controller (LibMovesTo v) := ⟨fun _ => .inl rfl⟩

instance (v : Nat) : IsTrans Controller (LibMovesTo v) :=
  ⟨fun _ _ _ h₁ h₂ => by
    unfold LibMovesTo at *
    rcases h₂ with h | h
    · exact h₁.imp h.trans h.trans
    · exact .inr h⟩

section Moves

variable {v : Nat}

theorem libMovesTo_raise :
    Moves (LibMovesTo v) (modifyObjects fun o =>
      { o with dgpo := { o.dgpo with lastIrreversibleBlockNum := v } }) :=
  Moves.modifyObjects fun _ => .inr rfl

theorem libMovesTo_of_quiet {α : Type} {x : ControllerM α} (h : Moves Quiet x) :
    Moves (LibMovesTo v) x :=
  h.mono fun _ _ h => .inl (congrArg DynamicGlobalPropertyObject.lastIrreversibleBlockNum h.dgpo)

theorem libMovesTo_modifyObjects {f : Objects → Objects} (hf : ∀ o, (f o).dgpo = o.dgpo) :
    Moves (LibMovesTo v) (modifyObjects f) :=
  Moves.modifyObjects fun c => .inl (congrArg DynamicGlobalPropertyObject.lastIrreversibleBlockNum
    (hf c.db.objects))

theorem libMovesTo_modifyDb {f : Database → Database} (hf : ∀ d, (f d).objects = d.objects) :
    Moves (LibMovesTo v) (modifyDb f) :=
  Moves.modifyDb fun c => .inl (congrArg (·.dgpo.lastIrreversibleBlockNum) (hf c.db))

end Moves

variable (env : Env)

/-- At least `n - offset` of the `n` active producers of `c` have confirmed block `v`,
with the `offset` of `update_last_irreversible_block`. -/
def Confirmed (c : Controller) (v : Nat) : Prop :=
  c.gpo.activeProducers.producers.length -
      eosPercent env c.gpo.activeProducers.producers.length
        (env.cfg.percent100 - env.cfg.irreversibleThresholdPercent) ≤
    (c.gpo.activeProducers.producers.filter fun pk =>
      v ≤ (c.objects.producerStats pk.producerName).lastConfirmedBlockNum).length

/-- `update_last_irreversible_block` from `c` leaves the last irreversible block where it
was, or moves it to a block that enough active producers of `c` confirmed; however it
ends. -/
theorem updateLastIrreversibleBlock_confirmed (c : Controller) :
    Triple (· = c) (updateLastIrreversibleBlock env)
      (fun c' => c'.lastIrreversibleBlockNum = c.lastIrreversibleBlockNum ∨
        Confirmed env c c'.lastIrreversibleBlockNum)
      (fun c' => c'.lastIrreversibleBlockNum = c.lastIrreversibleBlockNum ∨
        Confirmed env c c'.lastIrreversibleBlockNum) := by
  unfold updateLastIrreversibleBlock
  refine Triple.get_bind_self ?_
  dsimp only
  refine Triple.bind_unchanged (getProducers_unchanged _)
    (V := fun c₀ objs => objs.map (·.lastConfirmedBlockNum) =
      c.gpo.activeProducers.producers.map fun pk =>
        (c₀.objects.producerStats pk.producerName).lastConfirmedBlockNum)
    (fun _ _ _ h => getProducers_lastConfirmed _ h) (fun _ h => .inl (h ▸ rfl)) fun objs => ?_
  dsimp only
  split
  swap
  · exact Triple.abortWith _ fun _ h => .inl (h.1 ▸ rfl)
  rename_i v hv
  have post : ∀ c₁ c₂, LibMovesTo v c₁ c₂ → c₁ = c ∧ objs.map (·.lastConfirmedBlockNum) =
      c.gpo.activeProducers.producers.map (fun pk =>
        (c₁.objects.producerStats pk.producerName).lastConfirmedBlockNum) →
      c₂.lastIrreversibleBlockNum = c.lastIrreversibleBlockNum ∨
        Confirmed env c c₂.lastIrreversibleBlockNum := by
    rintro c₁ c₂ (h | h) ⟨rfl, hobjs⟩
    · exact .inl h
    · have hlen : objs.length = c₁.gpo.activeProducers.producers.length := by
        simpa using congrArg List.length hobjs
      have hq := length_sub_le_filter_of_insertionSort hv
      rw [hobjs, List.length_map, List.filter_map, List.length_map] at hq
      rw [hlen] at hq
      exact .inr (h ▸ hq)
  refine Triple.of_moves ?_ post post
  repeat' with_reducible
    first
    | apply Moves.ite_join | apply Moves.bind | apply Moves.ite
    | exact Moves.get | exact Moves.pure _ | exact Moves.throw _
    | exact libMovesTo_raise
    | exact libMovesTo_of_quiet (appendIrreversible_quiet env _ _ _)
    | exact libMovesTo_of_quiet (quiet_setMaxSize _)
    | exact libMovesTo_modifyObjects fun _ => rfl
    | exact libMovesTo_modifyDb fun d => d.commit_objects _
    | intro _
    | split

/-- Whenever `update_last_irreversible_block` raises the last irreversible block, however
it then ends, at least `n - offset` of the `n` active producers have confirmed the new
one, where `offset` is `EOS_PERCENT(n, percent_100 - irreversible_threshold_percent)`. -/
theorem updateLastIrreversibleBlock_quorum (c : Controller)
    (h : c.lastIrreversibleBlockNum <
      (resultState (updateLastIrreversibleBlock env c)).lastIrreversibleBlockNum) :
    c.gpo.activeProducers.producers.length -
        eosPercent env c.gpo.activeProducers.producers.length
          (env.cfg.percent100 - env.cfg.irreversibleThresholdPercent) ≤
      (c.gpo.activeProducers.producers.filter fun pk =>
        (resultState (updateLastIrreversibleBlock env c)).lastIrreversibleBlockNum ≤
          (c.objects.producerStats pk.producerName).lastConfirmedBlockNum).length :=
  ((updateLastIrreversibleBlock_confirmed env c).result rfl).resolve_left (Nat.ne_of_gt h)

/-- `pairRun` with its last irreversible block put back to 1, as `update_signing_producer`
leaves it before `update_last_irreversible_block` runs: both producers have confirmed
block 2. -/
def pairRunBehind : Controller :=
  { pairRun with db := { pairRun.db with objects := { pairRun.objects with
      dgpo := { pairRun.objects.dgpo with lastIrreversibleBlockNum := 1 } } } }

set_option smartUnfolding false in
/-- From `pairRunBehind`, the two producers' confirmations raise the last irreversible
block to 2, and with a threshold of 60 % both of them confirmed it. -/
theorem updateLastIrreversibleBlock_quorum_pairRunBehind :
    pairRunBehind.lastIrreversibleBlockNum <
        (resultState (updateLastIrreversibleBlock (sampleEnv pairConfig) pairRunBehind)).lastIrreversibleBlockNum ∧
      pairRunBehind.gpo.activeProducers.producers.length -
          eosPercent (sampleEnv pairConfig) pairRunBehind.gpo.activeProducers.producers.length
            ((sampleEnv pairConfig).cfg.percent100 -
              (sampleEnv pairConfig).cfg.irreversibleThresholdPercent) ≤
        (pairRunBehind.gpo.activeProducers.producers.filter fun pk =>
          (resultState (updateLastIrreversibleBlock (sampleEnv pairConfig)
            pairRunBehind)).lastIrreversibleBlockNum ≤
            (pairRunBehind.objects.producerStats pk.producerName).lastConfirmedBlockNum).length :=
  have h : pairRunBehind.lastIrreversibleBlockNum <
      (resultState (updateLastIrreversibleBlock (sampleEnv pairConfig)
        pairRunBehind)).lastIrreversibleBlockNum := by decide
  ⟨h, updateLastIrreversibleBlock_quorum (sampleEnv pairConfig) pairRunBehind h⟩

end EosChain
