import EosChain.Proofs.Slots

/-!
# `EosChain.Proofs.Participation`: the recent-slots bitmap

`recent_slots_filled` is a 64-bit bitmap of the recent slots, and
`producer_participation_rate()` is `percent_100` times its set bits over 64. At genesis
every bit is set. For each block, `update_global_dynamic_data` shifts the bitmap up by one,
sets bit 0, and then shifts it up by `missed_blocks` (after the countdown); when 64 or more
slots were missed it sets the bitmap to 0.

The spec reads the bitmap as the 64 slots ending at the head block's slot, the newest at
bit 0, every slot before the first block filled (`specParticipationRate`). The code's
update differs from that reading in two ways. `testBit_shiftRecentSlots` states the update
bit by bit, `finalizeBlock_recentSlotsFilled` states where the new block's bit lands for
every block the finalization accepts, and `finalizeBlock_shifts_then_marks` states the
whole update and the participation rate it leaves.

* The new block's bit lands at position `missed_blocks`, above the bits of the slots it
  missed, not at bit 0. It therefore leaves the 64-bit window that many blocks early.
* With 64 or more missed slots the bitmap is cleared, the new block's own bit with it, and
  the rate is 0.

`producerParticipationRate_drops_filled_slots` shows both on runs of the deployment
`lagConfig`.
-/

set_option autoImplicit false

namespace EosChain

/-- The participation rate the spec describes for a chain of accepted blocks:
`percent_100` times the filled slots among the 64 slots ending at the head block's slot,
over 64. A slot is filled when a block of the chain has it, and every slot before the
first block counts as filled. -/
def specParticipationRate (env : Env) (chain : List SignedBlock) : Nat :=
  match chain.head?, chain.getLast? with
  | some first, some head =>
    env.cfg.percent100 * (List.range 64).countP (fun i =>
      decide (head.timestamp < first.timestamp + i) ||
        chain.any fun b => b.timestamp + i == head.timestamp) / 64
  | _, _ => env.cfg.percent100

/-! ### The update, bit by bit -/

/-- For fewer than 64 missed slots the update is a product: the old bits below bit 63 go
up by one above the new block's bit, and all of it goes up past the missed slots, in 64
bits. -/
theorem shiftRecentSlots_eq {x m : Nat} (hm : m < 64) :
    shiftRecentSlots x m = Nat.pow 2 m * (2 * (x % Nat.pow 2 63) + 1) % uint64Modulus := by
  show _ = 2 ^ m * (2 * (x % 2 ^ 63) + 1) % 2 ^ 64
  have hlow : x <<< 1 % uint64Modulus = 2 * (x % 2 ^ 63) := by
    rw [Nat.shiftLeft_eq, Nat.pow_one, Nat.mul_comm, show uint64Modulus = 2 * 2 ^ 63 from rfl,
      Nat.mul_mod_mul_left]
  have hlt : 2 * (x % 2 ^ 63) + 1 < uint64Modulus := by
    have := Nat.mod_lt x (show 0 < 2 ^ 63 by decide)
    rw [show uint64Modulus = 2 * 2 ^ 63 from rfl]
    omega
  unfold shiftRecentSlots
  rw [if_pos hm, hlow, Nat.mod_eq_of_lt hlt, Nat.shiftLeft_eq, Nat.mul_comm]
  rfl

/-- Bit `i` after the update for `m < 64` missed slots: clear below `m` (the missed
slots), set at `m` (the new block), the old bit `i - m - 1` above it, clear from bit 64. -/
theorem testBit_shiftRecentSlots {x m : Nat} (hm : m < 64) (i : Nat) :
    (shiftRecentSlots x m).testBit i =
      (decide (m ≤ i ∧ i < 64) && (decide (i = m) || x.testBit (i - m - 1))) := by
  rw [shiftRecentSlots_eq hm]
  show (2 ^ m * (2 * (x % 2 ^ 63) + 1) % 2 ^ 64).testBit i = _
  rw [Nat.testBit_mod_two_pow, Nat.testBit_mul_pow_two]
  rcases Nat.lt_or_ge i m with h | h
  · simp [h, Nat.not_le.2 h]
  obtain ⟨k, rfl⟩ : ∃ k, i = m + k := ⟨i - m, by omega⟩
  rw [Nat.add_sub_cancel_left]
  cases k with
  | zero =>
    simp [Nat.testBit_zero, hm]
    omega
  | succ k =>
    rw [Nat.testBit_add_one, show (2 * (x % 2 ^ 63) + 1) / 2 = x % 2 ^ 63 by omega,
      Nat.testBit_mod_two_pow, Nat.add_sub_cancel]
    by_cases hk : m + (k + 1) < 64
    · simp [hk, show k < 63 by omega]
    · simp [hk]

/-- With 64 or more missed slots the bitmap is cleared. -/
theorem shiftRecentSlots_of_le {x m : Nat} (hm : 64 ≤ m) : shiftRecentSlots x m = 0 :=
  if_neg (Nat.not_lt.2 hm)

/-- Bit 0 after the update, the newest slot in the spec's reading, is set only when no
slot was missed. -/
theorem testBit_zero_shiftRecentSlots (x m : Nat) :
    (shiftRecentSlots x m).testBit 0 = decide (m = 0) := by
  rcases Nat.lt_or_ge m 64 with hm | hm
  · rw [testBit_shiftRecentSlots hm]
    by_cases h0 : m = 0 <;> simp [h0]
  · rw [shiftRecentSlots_of_le hm, Nat.zero_testBit]
    simp only [Bool.false_eq, decide_eq_false_iff_not]
    omega

@[simp] theorem popcountll_zero : popcountll 0 = 0 := by
  simp [popcountll, Nat.zero_testBit]

/-- For fewer than 64 missed slots the update keeps one set bit for the new block and the
old bits below bit `63 - m`. -/
theorem popcountll_shiftRecentSlots {x m : Nat} (hm : m < 64) :
    popcountll (shiftRecentSlots x m) = (List.range (63 - m)).countP x.testBit + 1 := by
  have hsplit : List.range 64 = List.range' 0 m ++ m :: List.range' (m + 1) (63 - m) := by
    have h := List.range'_append_1 0 m (64 - m)
    rw [Nat.zero_add, Nat.sub_add_cancel hm.le, show 64 - m = 63 - m + 1 by omega] at h
    rw [List.range_eq_range', ← h]
    rfl
  unfold popcountll
  rw [hsplit, List.countP_append, List.countP_cons, List.range'_eq_map_range (m + 1),
    List.countP_map]
  have hlow : (List.range' 0 m).countP (shiftRecentSlots x m).testBit = 0 :=
    List.countP_eq_zero.2 fun i hi => by
      rw [List.mem_range'_1] at hi
      simp [testBit_shiftRecentSlots hm, show ¬ m ≤ i by omega]
  have hhigh : (List.range (63 - m)).countP ((shiftRecentSlots x m).testBit ∘ (m + 1 + ·)) =
      (List.range (63 - m)).countP x.testBit :=
    List.countP_congr fun j hj => by
      rw [List.mem_range] at hj
      simp [testBit_shiftRecentSlots hm, show m ≤ m + 1 + j by omega,
        show m + 1 + j < 64 by omega, show m + 1 + j ≠ m by omega,
        show m + 1 + j - m - 1 = j by omega]
  rw [hlow, hhigh]
  simp [testBit_shiftRecentSlots hm]
  omega

/-! ### What a block leaves in the bitmap -/

/-- After every block that `_finalize_block` accepts, `n` slots past the head (the first
block counted as one): bit 0, the head block's slot in the spec's reading, is set only
when no slot was missed; the new block's bit is bit `n - 1`; and past 64 missed slots the
bitmap is cleared and the participation rate is 0. -/
theorem finalizeBlock_recentSlotsFilled (env : Env) (trace : BlockTrace) {c c' : Controller}
    {n : Nat} (hn : (if c.headBlockNum = 0 then 1 else c.getSlotAtTime env trace.block.timestamp) = n)
    (hf : finalizeBlock env trace c = .ok () c') :
    (c'.dgpo.recentSlotsFilled.testBit 0 = true ↔ n = 1) ∧
    (n ≤ 64 → c'.dgpo.recentSlotsFilled.testBit (n - 1) = true) ∧
    (64 < n → c'.producerParticipationRate env = 0) := by
  have h := (finalizeBlock_slots env trace c).run c rfl
  rw [hf, hn] at h
  obtain ⟨hpos, -, -, hr⟩ := h
  refine ⟨?_, fun hle => ?_, fun hlt => ?_⟩
  · rw [hr, testBit_zero_shiftRecentSlots, decide_eq_true_iff]
    omega
  · rw [hr, testBit_shiftRecentSlots (show n - 1 < 64 by omega)]
    simpa using show n - 1 < 64 by omega
  · unfold Controller.producerParticipationRate
    rw [hr, shiftRecentSlots_of_le (by omega), popcountll_zero]
    simp

/-- The block at slot 5 on top of `twoBlockRun`, finalized. -/
def slotFiveRun : Controller :=
  resultState (finalizeBlock (sampleEnv lagConfig) ⟨slotFiveBlock, []⟩ twoBlockRun)

set_option smartUnfolding false in
theorem finalizeBlock_recentSlotsFilled_slotFiveRun :
    finalizeBlock (sampleEnv lagConfig) ⟨slotFiveBlock, []⟩ twoBlockRun = .ok () slotFiveRun ∧
      (slotFiveRun.dgpo.recentSlotsFilled.testBit 0 = true ↔ 3 = 1) ∧
      (3 ≤ 64 → slotFiveRun.dgpo.recentSlotsFilled.testBit (3 - 1) = true) ∧
      (64 < 3 → slotFiveRun.producerParticipationRate (sampleEnv lagConfig) = 0) :=
  have hf : finalizeBlock (sampleEnv lagConfig) ⟨slotFiveBlock, []⟩ twoBlockRun =
      .ok () slotFiveRun := by rfl
  ⟨hf, finalizeBlock_recentSlotsFilled (sampleEnv lagConfig) ⟨slotFiveBlock, []⟩
    (by decide) hf⟩

/-- For every block that `_finalize_block` accepts after `m` missed slots, the code's
shift-then-mark update: bit `i` of the new bitmap is set exactly when `m ≤ i < 64` and
either `i = m`, the new block's bit, or bit `i - m - 1` of the old bitmap was set; so the
participation rate counts the new block once and the old bits below bit `63 - m`, and
nothing once 64 or more slots were missed. -/
theorem finalizeBlock_shifts_then_marks (env : Env) (trace : BlockTrace) {c c' : Controller}
    {m : Nat}
    (hm : (if c.headBlockNum = 0 then 1 else c.getSlotAtTime env trace.block.timestamp) = m + 1)
    (hf : finalizeBlock env trace c = .ok () c') :
    (∀ i, c'.dgpo.recentSlotsFilled.testBit i = (decide (m ≤ i ∧ i < 64) &&
      (decide (i = m) || c.dgpo.recentSlotsFilled.testBit (i - m - 1)))) ∧
    c'.producerParticipationRate env = env.cfg.percent100 *
      (if m < 64 then (List.range (63 - m)).countP c.dgpo.recentSlotsFilled.testBit + 1 else 0) %
        uint64Modulus / 64 % uint32Modulus := by
  have h := (finalizeBlock_slots env trace c).run c rfl
  rw [hf, hm, Nat.add_sub_cancel] at h
  unfold Controller.producerParticipationRate
  rw [h.2.2.2]
  rcases Nat.lt_or_ge m 64 with hlt | hge
  · rw [if_pos hlt, popcountll_shiftRecentSlots hlt]
    exact ⟨testBit_shiftRecentSlots hlt, rfl⟩
  · rw [if_neg (Nat.not_lt.2 hge), shiftRecentSlots_of_le hge, popcountll_zero]
    exact ⟨fun i => by simp only [Nat.zero_testBit]; simp; omega, rfl⟩

set_option smartUnfolding false in
theorem finalizeBlock_shifts_then_marks_slotFiveRun :
    (if twoBlockRun.headBlockNum = 0 then 1
      else twoBlockRun.getSlotAtTime (sampleEnv lagConfig) slotFiveBlock.timestamp) = 2 + 1 ∧
    finalizeBlock (sampleEnv lagConfig) ⟨slotFiveBlock, []⟩ twoBlockRun = .ok () slotFiveRun ∧
    (∀ i, slotFiveRun.dgpo.recentSlotsFilled.testBit i = (decide (2 ≤ i ∧ i < 64) &&
      (decide (i = 2) || twoBlockRun.dgpo.recentSlotsFilled.testBit (i - 2 - 1)))) ∧
    slotFiveRun.producerParticipationRate (sampleEnv lagConfig) = (sampleEnv lagConfig).cfg.percent100 *
      (if 2 < 64 then (List.range (63 - 2)).countP twoBlockRun.dgpo.recentSlotsFilled.testBit + 1
        else 0) % uint64Modulus / 64 % uint32Modulus :=
  have hm : (if twoBlockRun.headBlockNum = 0 then 1
      else twoBlockRun.getSlotAtTime (sampleEnv lagConfig) slotFiveBlock.timestamp) = 2 + 1 := by
    decide
  have hf : finalizeBlock (sampleEnv lagConfig) ⟨slotFiveBlock, []⟩ twoBlockRun =
      .ok () slotFiveRun := by rfl
  ⟨hm, hf, finalizeBlock_shifts_then_marks (sampleEnv lagConfig) ⟨slotFiveBlock, []⟩ hm hf⟩

/-! ### Two runs against the spec's window -/

/-- Block 1 at slot 1, then block 2 at slot 66: 64 slots missed. -/
def gapRun : Controller :=
  Controller.run (sampleEnv lagConfig) lagGenesis ⟨[]⟩
    [.pushBlock lagB1 trustedSkip, .pushBlock (lagBlock [lagB1] 66) trustedSkip]

/-- Block 2 at slot 3, one slot after block 1. -/
def shiftB2 : SignedBlock := lagBlock [lagB1] 3

/-- Blocks at slots 1, 3 and 66: the third block's window, slots 3 to 66, holds the
second block. -/
def shiftRun : Controller :=
  Controller.run (sampleEnv lagConfig) lagGenesis ⟨[]⟩
    [.pushBlock lagB1 trustedSkip, .pushBlock shiftB2 trustedSkip,
      .pushBlock (lagBlock [lagB1, shiftB2] 66) trustedSkip]

set_option smartUnfolding false in
set_option maxRecDepth 1024 in
/-- On `gapRun` the code's rate is 0 while the spec's window holds the head block's slot; on
`shiftRun` the second block's bit has left the bitmap while its slot is still in the
window. -/
theorem producerParticipationRate_drops_filled_slots :
    Reachable (sampleEnv lagConfig) gapRun ∧
      gapRun.producerParticipationRate (sampleEnv lagConfig) = 0 ∧
      specParticipationRate (sampleEnv lagConfig) gapRun.objects.chain = 1 ∧
    Reachable (sampleEnv lagConfig) shiftRun ∧
      shiftRun.producerParticipationRate (sampleEnv lagConfig) = 1 ∧
      specParticipationRate (sampleEnv lagConfig) shiftRun.objects.chain = 3 :=
  ⟨reachable_run (by decide) (by decide), by decide, by decide,
    reachable_run (by decide) (by decide), by decide, by decide⟩

end EosChain
