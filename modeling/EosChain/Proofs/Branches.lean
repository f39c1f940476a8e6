import EosChain.Proofs.Forks
import Mathlib.Data.List.Chain

/-!
# `EosChain.Proofs.Branches`: walking down the fork database

The fork database links a block to its parent through the `previous` id, and a block id
carries the block's number, one above its parent's. Every walk down the fork database
therefore lowers the height by exactly one a step, and none gets below block 1: a parent
at height 0 is never found.

* `fetchBranchFrom_meets`: when `fetch_branch_from(first, second)` returns, each branch
  starts at the block asked for and goes down parent by parent, and the last blocks of
  the two branches name the same previous block: the common walk meets before its fuel
  runs out.
* `getBlockIdsOnFork_never_asserts`: so `get_block_ids_on_fork` never reaches its
  `assert`. It throws the fork database's exception, or returns the ids of the fork's
  branch down to the common parent; either way it changes nothing.
* `popUntil_never_hangs`: the loop `while (head_block_id() != target) pop_block();` of
  `_push_block` ends in every state. Each `pop_block` that returns moves the fork
  database's head one block down, and at height 1 it throws, so the model's fuel, one more
  than the head's height, is never used up.
-/

set_option autoImplicit false

namespace EosChain

theorem SignedBlock.blockNum_pos (b : SignedBlock) : 0 < b.blockNum := Nat.succ_pos _

namespace ForkDatabase

variable {env : Env} {f : ForkDatabase}

theorem fetchBlock_id {id : BlockId} {b : SignedBlock} (h : f.fetchBlock env id = some b) :
    b.id env = id := by
  unfold fetchBlock at h
  have h := List.find?_some h
  exact of_decide_eq_true h

/-- The parent `prev` finds is one block lower. -/
theorem prev_blockNum {b p : SignedBlock} (h : f.prev env b = some p) :
    p.blockNum + 1 = b.blockNum := by
  have h := congrArg BlockId.num (fetchBlock_id h)
  rw [SignedBlock.id_num] at h
  rw [h]
  rfl

variable (env f)

/-- `bs` goes down the fork database from the block with id `tip`: it starts there and
each block is followed by its parent. -/
structure IsBranch (tip : BlockId) (bs : List SignedBlock) : Prop where
  head : bs.head?.map (SignedBlock.id env) = some tip
  linked : bs.Chain' fun u v => f.prev env u = some v

variable {env f}

theorem IsBranch.single {b : SignedBlock} {tip : BlockId} (h : b.id env = tip) :
    IsBranch env f tip [b] :=
  ⟨by rw [List.head?_cons, Option.map_some', h], List.chain'_singleton b⟩

/-- A walk step: the parent of a branch's last block extends it. -/
theorem IsBranch.snoc {tip : BlockId} {acc : List SignedBlock} {b p : SignedBlock}
    (h : IsBranch env f tip (acc ++ [b])) (hp : f.prev env b = some p) :
    IsBranch env f tip (acc ++ [b] ++ [p]) := by
  refine ⟨?_, h.linked.append (List.chain'_singleton p) ?_⟩
  · have : (acc ++ [b] ++ [p]).head? = (acc ++ [b]).head? := by cases acc <;> rfl
    rw [this]
    exact h.head
  · intro x hx y hy
    rw [List.getLast?_concat, Option.mem_some_iff] at hx
    rw [List.head?_cons, Option.mem_some_iff] at hy
    rw [← hx, ← hy]
    exact hp

/-- `walkTo` extends the branch it collects. -/
theorem walkTo_branch {tip : BlockId} {n : Nat} :
    ∀ {fuel : Nat} {b b' : SignedBlock} {acc acc' : List SignedBlock},
      f.walkTo env n fuel b acc = .ok (b', acc') → IsBranch env f tip (acc ++ [b]) →
      IsBranch env f tip (acc' ++ [b'])
  | 0, _, _, _, _, h, hb => by
    cases h
    exact hb
  | fuel + 1, b, _, acc, _, h, hb => by
    unfold walkTo at h
    split at h
    · split at h
      · rename_i p hp
        exact walkTo_branch h (hb.snoc hp)
      · cases h
    · cases h
      exact hb

/-- `walkTogether` extends both branches it collects. -/
theorem walkTogether_branch {tipA tipB : BlockId} :
    ∀ {fuel : Nat} {a b : SignedBlock} {accA accB ra rb : List SignedBlock},
      f.walkTogether env fuel a b accA accB = .ok (ra, rb) →
      IsBranch env f tipA (accA ++ [a]) → IsBranch env f tipB (accB ++ [b]) →
      IsBranch env f tipA ra ∧ IsBranch env f tipB rb
  | 0, _, _, _, _, _, _, h, ha, hb => by
    cases h
    exact ⟨ha, hb⟩
  | fuel + 1, a, b, accA, accB, _, _, h, ha, hb => by
    unfold walkTogether at h
    split at h
    · split at h
      · rename_i pa pb hpa hpb
        exact walkTogether_branch h (ha.snoc hpa) (hb.snoc hpb)
      · cases h
    · cases h
      exact ⟨ha, hb⟩

/-- With fuel at least the height, `walkTogether` stops on two blocks with the same
previous block: each step goes one block down, and below block 1 there is no parent. -/
theorem walkTogether_meets :
    ∀ {fuel : Nat} {a b : SignedBlock} {accA accB ra rb : List SignedBlock},
      a.blockNum ≤ fuel → f.walkTogether env fuel a b accA accB = .ok (ra, rb) →
      ∃ x y, ra.getLast? = some x ∧ rb.getLast? = some y ∧ x.previous = y.previous
  | 0, a, _, _, _, _, _, hn, _ => absurd hn (Nat.not_le.2 a.blockNum_pos)
  | fuel + 1, a, b, accA, accB, _, _, hn, h => by
    unfold walkTogether at h
    split at h
    · split at h
      · rename_i pa pb hpa hpb
        exact walkTogether_meets (by have := prev_blockNum hpa; omega) h
      · cases h
    · rename_i hab
      cases h
      exact ⟨a, b, List.getLast?_concat .., List.getLast?_concat .., not_not.1 hab⟩

theorem walkTo_error {n : Nat} :
    ∀ {fuel : Nat} {b : SignedBlock} {acc : List SignedBlock} {e : Failure},
      f.walkTo env n fuel b acc = .error e → ∃ k w, e = .exception k w
  | 0, _, _, _, h => by cases h
  | fuel + 1, b, acc, _, h => by
    unfold walkTo at h
    split at h
    · split at h
      · exact walkTo_error h
      · cases h
        exact ⟨_, _, rfl⟩
    · cases h

theorem walkTogether_error :
    ∀ {fuel : Nat} {a b : SignedBlock} {accA accB : List SignedBlock} {e : Failure},
      f.walkTogether env fuel a b accA accB = .error e → ∃ k w, e = .exception k w
  | 0, _, _, _, _, _, h => by cases h
  | fuel + 1, a, b, accA, accB, _, h => by
    unfold walkTogether at h
    split at h
    · split at h
      · exact walkTogether_error h
      · cases h
        exact ⟨_, _, rfl⟩
    · cases h

/-- `fetch_branch_from` fails only with an `fc::exception`. -/
theorem fetchBranchFrom_error {first second : BlockId} {e : Failure}
    (h : f.fetchBranchFrom env first second = .error e) : ∃ k w, e = .exception k w := by
  unfold fetchBranchFrom at h
  split at h
  · rename_i a b _ _
    cases hwa : f.walkTo env b.blockNum a.blockNum a [] with
    | error e' =>
      simp only [hwa, bind, Except.bind, Except.error.injEq] at h
      exact h ▸ walkTo_error hwa
    | ok ra =>
      simp only [hwa, bind, Except.bind] at h
      cases hwb : f.walkTo env ra.1.blockNum b.blockNum b [] with
      | error e' =>
        simp only [hwb, Except.error.injEq] at h
        exact h ▸ walkTo_error hwb
      | ok rb =>
        simp only [hwb] at h
        exact walkTogether_error h
  · cases h
    exact ⟨_, _, rfl⟩

/-- The fork database's `pop_block` moves its head one block down. -/
theorem popBlock_lowers {f' : ForkDatabase} (h : f.popBlock env = .ok f') :
    ∃ b p, f.head = some b ∧ f'.head = some p ∧ p.blockNum + 1 = b.blockNum := by
  unfold popBlock at h
  split at h
  · cases h
  · rename_i b hb
    split at h
    · rename_i p hp
      cases h
      exact ⟨b, p, hb, rfl, prev_blockNum hp⟩
    · cases h

theorem popBlock_error {e : Failure} (h : f.popBlock env = .error e) :
    ∃ k w, e = .exception k w := by
  unfold popBlock at h
  split at h
  · cases h
    exact ⟨_, _, rfl⟩
  · split at h
    · cases h
    · cases h
      exact ⟨_, _, rfl⟩

variable (env f)

/-- When `fetch_branch_from(first, second)` returns, each branch goes down the fork
database from the block asked for, and the two branches' last blocks name the same
previous block. -/
theorem fetchBranchFrom_meets {first second : BlockId} {bf bs : List SignedBlock}
    (h : f.fetchBranchFrom env first second = .ok (bf, bs)) :
    IsBranch env f first bf ∧ IsBranch env f second bs ∧
      ∃ x y, bf.getLast? = some x ∧ bs.getLast? = some y ∧ x.previous = y.previous := by
  unfold fetchBranchFrom at h
  split at h
  · rename_i a b ha hb
    cases hwa : f.walkTo env b.blockNum a.blockNum a [] with
    | error e => simp only [hwa, bind, Except.bind] at h; cases h
    | ok ra =>
      obtain ⟨a₁, accA⟩ := ra
      simp only [hwa, bind, Except.bind] at h
      cases hwb : f.walkTo env a₁.blockNum b.blockNum b [] with
      | error e => simp only [hwb] at h; cases h
      | ok rb =>
        obtain ⟨b₁, accB⟩ := rb
        simp only [hwb] at h
        have hA := walkTo_branch hwa (IsBranch.single (fetchBlock_id ha))
        have hB := walkTo_branch hwb (IsBranch.single (fetchBlock_id hb))
        exact ⟨(walkTogether_branch h hA hB).1, (walkTogether_branch h hA hB).2,
          walkTogether_meets (Nat.le_succ _) h⟩
  · cases h

end ForkDatabase

open ForkDatabase

variable {env : Env}

/-! ### The controller's walks -/

/-- `get_block_ids_on_fork` reads the state only: from `c` it throws the fork database's
exception, or returns the ids of the branch from `head_of_fork`, then the previous block
of its last block, which the last block of the head's branch names too. -/
theorem getBlockIdsOnFork_never_asserts (env : Env) (headOfFork : BlockId) (c : Controller) :
    (continuation (getBlockIdsOnFork env headOfFork c)).isSome ∧
      resultState (getBlockIdsOnFork env headOfFork c) = c ∧
      ∀ ids c', getBlockIdsOnFork env headOfFork c = .ok ids c' →
        ∃ bh bf x y, IsBranch env c.forkDb c.headBlockId bh ∧
          IsBranch env c.forkDb headOfFork bf ∧ bh.getLast? = some x ∧ bf.getLast? = some y ∧
          x.previous = y.previous ∧ ids = bf.map (SignedBlock.id env) ++ [x.previous] := by
  cases hf : c.forkDb.fetchBranchFrom env c.headBlockId headOfFork with
  | error e =>
    have h : getBlockIdsOnFork env headOfFork c = .error e c := by
      simp only [getBlockIdsOnFork, bind_apply, get_apply, hf, liftExcept, throw_apply]
    obtain ⟨k, w, rfl⟩ := fetchBranchFrom_error hf
    rw [h]
    exact ⟨rfl, rfl, fun _ _ h' => by cases h'⟩
  | ok r =>
    obtain ⟨bh, bf⟩ := r
    obtain ⟨hA, hB, x, y, hx, hy, hxy⟩ := fetchBranchFrom_meets env c.forkDb hf
    have h : getBlockIdsOnFork env headOfFork c =
        .ok (bf.map (SignedBlock.id env) ++ [x.previous]) c := by
      simp only [getBlockIdsOnFork, bind_apply, get_apply, hf, liftExcept, pure_apply, hx, hy,
        hxy, ne_eq, not_true, if_false]
    rw [h]
    refine ⟨rfl, rfl, fun ids c' h' => ?_⟩
    cases h'
    exact ⟨bh, bf, x, y, hA, hB, hx, hy, hxy, rfl⟩

set_option smartUnfolding false in
/-- After the switch to the branch of `forkY2` and `forkY3`, the fork of `lagB1`'s first
child is that child alone, down to `lagB1`. -/
theorem getBlockIdsOnFork_never_asserts_switchedRun :
    getBlockIdsOnFork (sampleEnv lagConfig) ((lagBlock [lagB1] 2).id (sampleEnv lagConfig))
        switchedRun =
      .ok [(lagBlock [lagB1] 2).id (sampleEnv lagConfig), lagB1.id (sampleEnv lagConfig)]
        switchedRun ∧
    ∃ bh bf x y, IsBranch (sampleEnv lagConfig) switchedRun.forkDb switchedRun.headBlockId bh ∧
      IsBranch (sampleEnv lagConfig) switchedRun.forkDb
        ((lagBlock [lagB1] 2).id (sampleEnv lagConfig)) bf ∧
      bh.getLast? = some x ∧ bf.getLast? = some y ∧ x.previous = y.previous ∧
      [(lagBlock [lagB1] 2).id (sampleEnv lagConfig), lagB1.id (sampleEnv lagConfig)] =
        bf.map (SignedBlock.id (sampleEnv lagConfig)) ++ [x.previous] :=
  have h : getBlockIdsOnFork (sampleEnv lagConfig) ((lagBlock [lagB1] 2).id (sampleEnv lagConfig))
      switchedRun =
      .ok [(lagBlock [lagB1] 2).id (sampleEnv lagConfig), lagB1.id (sampleEnv lagConfig)]
        switchedRun := by rfl
  ⟨h, (getBlockIdsOnFork_never_asserts _ _ _).2.2 _ _ h⟩

/-- A `pop_block` that returns moves the fork database's head one block down, and one that
fails throws an `fc::exception`. -/
theorem popBlock_lowers_forkDb_head (c : Controller) :
    (∀ c', popBlock env c = .ok () c' → ∃ b p, c.forkDb.head = some b ∧
      c'.forkDb.head = some p ∧ p.blockNum + 1 = b.blockNum) ∧
    ∀ e c', popBlock env c = .error e c' → ∃ k w, e = .exception k w := by
  unfold popBlock
  cases hs : c.pendingBlockSession <;>
  · simp only [hs, bind_apply, modify_apply, get_apply, fcAssert, Bool.false_eq_true, if_true,
      if_false]
    split
    · cases hf : c.forkDb.popBlock env with
      | ok f' =>
        refine ⟨fun c' h => ?_, fun _ _ h => by cases h⟩
        cases h
        exact ForkDatabase.popBlock_lowers hf
      | error e =>
        refine ⟨fun _ h => (by cases h), fun _ _ h => ?_⟩
        cases h
        exact ForkDatabase.popBlock_error hf
    · rename_i heq
      refine ⟨fun _ h => (by cases h), fun _ _ h => ?_⟩
      cases h
      split at heq <;> cases heq
      exact ⟨_, _, rfl⟩

/-- With fuel above the fork database's head, the loop of `pop_block` calls returns or
throws an `fc::exception`. -/
theorem popUntil_continues (target : BlockId) :
    ∀ (fuel : Nat) (c : Controller), (c.forkDb.head.map SignedBlock.blockNum).getD 0 < fuel →
      (continuation (popUntil env target fuel c)).isSome
  | 0, _, h => absurd h (Nat.not_lt_zero _)
  | fuel + 1, c, h => by
    unfold popUntil
    simp only [bind_apply, get_apply]
    split
    · rw [bind_apply]
      cases hp : popBlock env c with
      | ok _ c₁ =>
        obtain ⟨b, p, hb, hp', hn⟩ := (popBlock_lowers_forkDb_head c).1 c₁ hp
        refine popUntil_continues target fuel c₁ ?_
        rw [hb] at h
        rw [hp']
        simp only [Option.map_some', Option.getD_some] at h ⊢
        omega
      | error e c₁ =>
        obtain ⟨k, w, rfl⟩ := (popBlock_lowers_forkDb_head c).2 e c₁ hp
        rfl
    · rfl

/-- The loop `while (head_block_id() != target) pop_block();` ends in every state: it
returns or throws an `fc::exception`, and never uses up the model's fuel. -/
theorem popUntil_never_hangs (env : Env) (target : BlockId) (c : Controller) :
    (continuation (popUntil env target c.popFuel c)).isSome :=
  popUntil_continues target _ c (Nat.lt_succ_self _)

end EosChain
