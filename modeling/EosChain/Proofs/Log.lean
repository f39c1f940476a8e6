import EosChain.Proofs.Speculative
import Mathlib.Logic.Relation

/-!
# `EosChain.Proofs.Log`: the block log only grows

The block log is the node's record of the irreversible blocks on disk. It lives outside
the store, so no undo session reaches it: `pop_block`, a fork switch, a failed block or
a failed transaction roll the store back but leave the log alone. The only write to it is
`_block_log.append(block)` in `update_last_irreversible_block`, whose own check puts each
block one above the log's head.

* `blockLog_append_only`: along every run from a constructed controller, the block log is
  the log found on disk followed by blocks numbered on from its head, one by one.

The proof is a frame, `LogGrows`: the log did not change, or grew by successful appends.
Every write but `append` keeps the log and `append` grows it, so by the walks of
`EosChain.Proofs.Traversal` every method keeps the frame, whether it returns, throws or
stops, and so do every call and the constructor; the numbering follows from the check of
`append` by induction over the appends.
-/

set_option autoImplicit false

namespace EosChain

namespace BlockLog

/-- The block number of the log's head, 0 for an empty log: `last_block_on_disk` of
`update_last_irreversible_block`. -/
def headNum (l : BlockLog) : Nat := (l.readHead.map SignedBlock.blockNum).getD 0

/-- `l'` is `l` after one successful `append`. -/
def AppendsTo (l l' : BlockLog) : Prop := ∃ b, l.append b = .ok l'

theorem append_blocks {l l' : BlockLog} {b : SignedBlock} (h : l.append b = .ok l') :
    l'.blocks = l.blocks ++ [b] ∧ b.blockNum = l.headNum + 1 := by
  unfold append at h
  split at h
  · cases h
    exact ⟨rfl, by assumption⟩
  · cases h

/-- Blocks numbered on from the head move the head by their count. -/
theorem headNum_append {l : BlockLog} {ext : List SignedBlock}
    (h : ext.map SignedBlock.blockNum = List.range' (l.headNum + 1) ext.length) :
    (⟨l.blocks ++ ext⟩ : BlockLog).headNum = l.headNum + ext.length := by
  rcases List.eq_nil_or_concat ext with rfl | ⟨init, b, rfl⟩
  · simp only [List.append_nil, List.length_nil, Nat.add_zero]
  · have hlast := congrArg List.getLast? h
    rw [List.getLast?_map, List.getLast?_range', List.concat_eq_append, List.getLast?_concat] at hlast
    simp only [List.length_append, List.length_singleton, Nat.add_one_ne_zero, if_false,
      Option.map_some'] at hlast
    change ((l.blocks ++ (init.concat b)).getLast?.map SignedBlock.blockNum).getD 0 = _
    rw [List.concat_eq_append, ← List.append_assoc, List.getLast?_concat, Option.map_some',
      Option.some.inj hlast]
    simp only [List.length_append, List.length_singleton, Option.getD_some]
    omega

/-- A log reached by successful appends is the first one followed by blocks numbered on
from its head. -/
theorem extends_of_appends {l l' : BlockLog} (h : Relation.ReflTransGen AppendsTo l l') :
    ∃ ext, l'.blocks = l.blocks ++ ext ∧
      ext.map SignedBlock.blockNum = List.range' (l.headNum + 1) ext.length := by
  induction h with
  | refl => exact ⟨[], (List.append_nil _).symm, rfl⟩
  | @tail l₁ _ _ hstep ih =>
    obtain ⟨ext, hext, hnum⟩ := ih
    obtain ⟨b, hb⟩ := hstep
    obtain ⟨hblocks, hbnum⟩ := append_blocks hb
    have hhead : l₁.headNum = l.headNum + ext.length := by
      have h := headNum_append hnum
      rw [← hext] at h
      exact h
    refine ⟨ext ++ [b], by rw [hblocks, hext, List.append_assoc], ?_⟩
    rw [List.map_append, hnum, List.length_append, List.length_singleton, List.range'_concat,
      List.map_singleton, hbnum, hhead, Nat.one_mul, Nat.add_right_comm]

end BlockLog

/-! ### The frame -/

/-- The block log did not change, or grew by successful appends. -/
def LogGrows (c c' : Controller) : Prop :=
  Relation.ReflTransGen BlockLog.AppendsTo c.blockLog c'.blockLog

instance : IsRefl Controller LogGrows := ⟨fun _ => .refl⟩

instance : IsTrans Controller LogGrows := ⟨fun _ _ _ h₁ h₂ => h₁.trans h₂⟩

theorem logGrows_update {f : Controller → Controller} (h : ∀ c, (f c).blockLog = c.blockLog) :
    Moves LogGrows (modify f : ControllerM PUnit) :=
  Moves.update fun c => by
    unfold LogGrows
    rw [h c]

theorem logGrows_modifyObjects {f : Objects → Objects} : Moves LogGrows (modifyObjects f) :=
  Moves.modifyObjects fun _ => .refl

theorem logGrows_modifyDb {f : Database → Database} : Moves LogGrows (modifyDb f) :=
  Moves.modifyDb fun _ => .refl

theorem logGrows_modifyForkDb {f : ForkDatabase → ForkDatabase} :
    Moves LogGrows (modifyForkDb f) :=
  Moves.modifyForkDb fun _ => .refl

variable (env : Env)

/-! ### The methods

Each method keeps `LogGrows` by the walk of `EosChain.Proofs.Traversal`: every write
other than `append` leaves the log alone, and `append` grows it. -/

theorem logGrows_append (c : Controller) (b : SignedBlock) (l : BlockLog)
    (h : c.blockLog.append b = .ok l) : LogGrows c { c with blockLog := l } :=
  .single ⟨_, h⟩

theorem logGrows_pendingWrite {f : Controller → Controller} (h : ∀ c, PendingWrite c (f c)) :
    Moves LogGrows (modify f : ControllerM PUnit) :=
  logGrows_update fun c => (congrArg Controller.blockLog (h c).rest :)

theorem finalizeBlock_logGrows (trace : BlockTrace) : Moves LogGrows (finalizeBlock env trace) :=
  finalizeBlock_moves env (fun _ => logGrows_modifyObjects) (fun _ => logGrows_modifyForkDb)
    (fun _ => logGrows_modifyDb) logGrows_append _

theorem applyBlock_logGrows (b : SignedBlock) (skip : Nat) :
    Moves LogGrows (_applyBlock env b skip) :=
  applyBlock_moves env b skip fun t => withSkipFlags_moves t (fun _ => logGrows_update fun _ => rfl)
    (applyBlockBody_moves env (fun _ => logGrows_modifyObjects) (fun _ => logGrows_modifyForkDb)
      (fun _ => logGrows_modifyDb) logGrows_append b)

theorem popBlock_logGrows : Moves LogGrows (popBlock env) :=
  popBlock_moves env (fun _ => logGrows_modifyDb) (fun _ => logGrows_modifyForkDb)
    (logGrows_update fun _ => rfl)

theorem startPendingBlock_logGrows : Moves LogGrows _startPendingBlock :=
  Moves.bind Moves.get fun _ => Moves.bind (Moves.fcAssert _ _ _) fun _ =>
    Moves.bind (logGrows_update fun _ => rfl) fun _ =>
      startPendingCycle_moves fun _ => logGrows_pendingWrite

theorem pushTransaction_logGrows (trx : SignedTransaction) :
    Moves LogGrows (_pushTransaction env trx) := by
  unfold _pushTransaction
  dsimp only
  repeat' with_reducible
    first
    | apply Moves.ite_join | apply Moves.bind | apply Moves.tryCatch
    | exact Moves.get | exact Moves.pure _ | exact Moves.throw _
    | exact startPendingBlock_logGrows
    | exact pushTransactionBody_moves env (fun _ _ => logGrows_modifyObjects)
        (fun _ => logGrows_pendingWrite) trx
    | exact logGrows_modifyDb | intro _

/-! ### The public calls and the constructor -/

theorem Call.run_logGrows (call : Call) : Moves LogGrows (call.run env) := by
  have skipFlags (n : Nat) :
      Moves LogGrows (modify fun c => { c with skipFlags := n } : ControllerM PUnit) :=
    logGrows_update fun _ => rfl
  cases call with
  | pushBlock b skip =>
    exact withSkipFlags_moves _ skipFlags <| Moves.bind (logGrows_update fun _ => rfl) fun _ =>
      (pushBlockBody_moves env (fun _ => logGrows_modifyDb) (fun _ => logGrows_modifyForkDb)
        (applyBlock_logGrows env) (popBlock_logGrows env) b).discard
  | pushTransaction trx skip =>
    exact (withSkipFlags_moves _ skipFlags (pushTransaction_logGrows env trx)).discard
  | generateBlock when producer key skip =>
    exact (withSkipFlags_moves _ skipFlags (generateBlock_moves env (fun _ => logGrows_pendingWrite)
      startPendingBlock_logGrows
      (finalizePendingCycle_moves env (fun _ => logGrows_pendingWrite) fun _ => logGrows_modifyObjects)
      (finalizeBlock_logGrows env) (logGrows_update fun _ => rfl) (fun _ => logGrows_modifyForkDb)
      when producer key)).discard
  | popBlock => exact popBlock_logGrows env
  | clearPending => exact logGrows_update fun _ => rfl
  | addCheckpoints checkpts => exact logGrows_update fun _ => rfl

theorem construct_logGrows (g : Genesis) : Moves LogGrows (construct env g) :=
  construct_moves env (fun _ => logGrows_modifyDb) (fun _ => logGrows_modifyForkDb)
    (applyBlock_logGrows env) (fun _ => logGrows_modifyObjects)
    (fun t _ hx => withSkipFlags_moves t (fun _ => logGrows_update fun _ => rfl) hx)
    (fun _ => logGrows_update fun _ => rfl) g

variable {env}

theorem Step.logGrows {c c' : Controller} (h : Step env c c') : LogGrows c c' := by
  obtain ⟨call, hcall⟩ := h
  have := (Call.run_logGrows env call).leaves c
  rwa [resultState_of_continuation hcall] at this

/-- Along every run from a constructed controller, the block log is the log found on disk
followed by blocks numbered on from its head: no call and no failure ever removes or
rewrites a block on disk. -/
theorem blockLog_append_only {g : Genesis} {log : BlockLog} {c₀ c : Controller}
    (h₀ : Controller.start env g log = some c₀) (h : Relation.ReflTransGen (Step env) c₀ c) :
    ∃ ext, c.blockLog.blocks = log.blocks ++ ext ∧
      ext.map SignedBlock.blockNum = List.range' (log.headNum + 1) ext.length := by
  refine BlockLog.extends_of_appends ?_
  have hstart : LogGrows (Controller.fresh g log) c₀ := by
    have := (construct_logGrows env g).leaves (Controller.fresh g log)
    unfold Controller.start at h₀
    split at h₀
    · rename_i hr
      rw [hr] at this
      rw [← Option.some.inj h₀]
      exact this
    · cases h₀
  induction h with
  | refl => exact hstart
  | tail _ hs ih => exact ih.trans hs.logGrows

/-- A run from a constructed controller is a sequence of steps from it. -/
theorem steps_run {g : Genesis} {log : BlockLog} {calls : List Call}
    (hs : (Controller.start env g log).isSome)
    (hr : (Controller.begin env g log).runsOn env calls = true) :
    ∃ c₀, Controller.start env g log = some c₀ ∧
      Relation.ReflTransGen (Step env) c₀ (Controller.run env g log calls) := by
  obtain ⟨c₀, hc₀⟩ := Option.isSome_iff_exists.1 hs
  have hb : Controller.begin env g log = c₀ := by rw [Controller.begin, hc₀]; rfl
  rw [hb] at hr
  unfold Controller.run
  rw [hb]
  exact ⟨c₀, hc₀, steps_foldl_after (fun call _ _ _ h => ⟨call, h⟩) hr⟩

set_option smartUnfolding false in
/-- From an empty log, the blocks `sideLogRun` writes are numbered from 1. -/
theorem blockLog_append_only_sideLogRun :
    ∃ ext, sideLogRun.blockLog.blocks = [] ++ ext ∧
      ext.map SignedBlock.blockNum = List.range' 1 ext.length := by
  obtain ⟨c₀, h₀, hrun⟩ : ∃ c₀, Controller.start (sampleEnv rotationConfig) rotationGenesis ⟨[]⟩ = some c₀ ∧
      Relation.ReflTransGen (Step (sampleEnv rotationConfig)) c₀ sideLogRun :=
    steps_run (by decide) (by decide)
  exact blockLog_append_only h₀ hrun

end EosChain
