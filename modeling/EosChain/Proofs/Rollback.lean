import EosChain.Proofs.Irreversible
import EosChain.Proofs.PopBlock
import EosChain.Proofs.Undo

/-!
# `EosChain.Proofs.Rollback`: the last irreversible block over runs without pops

The last irreversible block number lives in the undoable store, so a call that rolls an
undo record back puts back the number that record saved. `pop_block` and the pops of a
fork switch roll blocks back and can lower it (`popBlock_lowers_lastIrreversibleBlockNum`).
Every other rollback puts back a number no lower, and from every reachable state, over
every run in which no call pops a block, the number never decreases
(`lastIrreversibleBlockNum_monotone`). Calls that throw are part of the run.

* `clear_pending`, and `push_block` before it pushes, roll the pending session back. Its
  record saved a number no lower than the current one (`PendingSaved`), in every
  reachable state (`reachable_pendingSaved`). The one call that raises the number while
  the session is held is `generate_block`, in `_finalize_block`, and from the raise on it
  throws no `fc::exception`: `append` takes each block the loop fetches, and the rest
  asserts, loops or returns (`updateLastIrreversibleBlock_saved`). The node runs on only
  from the states a call returns or throws in, and `ContTriple` says what holds of those.
* `push_transaction` rolls back only its own temporary session, which saved the number it
  started from (`tempSession_saved`).
* `push_block`, where it does not switch forks, rolls back at most the session it opened
  for the block. `_apply_block` only raises the number and commits only the oldest
  records, so that session's record is still on top, or the history is empty, when the
  block throws (`pushBlockBody_lib`).
-/

set_option autoImplicit false

namespace EosChain

/-! ### Returns and exceptions -/

/-- `Q` holds of the state a return leaves and `E` of the state an `fc::exception` leaves;
an assertion failure or a loop that does not end leaves no state a later call sees. -/
def Continues {α : Type} (Q E : Controller → Prop) : EStateM.Result Failure Controller α → Prop
  | .ok _ c => Q c
  | .error (.exception _ _) c => E c
  | .error _ _ => True

/-- From a state satisfying `P`, `x` returns in a state satisfying `Q`, or throws an
`fc::exception` in a state satisfying `E`. -/
structure ContTriple (P : Controller → Prop) {α : Type} (x : ControllerM α)
    (Q E : Controller → Prop) : Prop where
  run : ∀ c, P c → Continues Q E (x c)

namespace Continues

variable {α : Type} {Q E Q' E' : Controller → Prop} {r : EStateM.Result Failure Controller α}

theorem of_holds (h : Holds Q E r) : Continues Q E r := by
  rcases r with ⟨_, c⟩ | ⟨_ | _ | _, c⟩
  exacts [h, h, trivial, trivial]

theorem mono (h : Continues Q E r) (hQ : ∀ c, Q c → Q' c) (hE : ∀ c, E c → E' c) :
    Continues Q' E' r := by
  rcases r with ⟨_, c⟩ | ⟨_ | _ | _, c⟩
  exacts [hQ c h, hE c h, trivial, trivial]

theorem skipResult (h : Continues Q E r) (hQ : ∀ c n, Q c → Q { c with skipFlags := n })
    (hE : ∀ c n, E c → E { c with skipFlags := n }) (n : Nat) :
    Continues Q E (EosChain.skipResult n r) := by
  rcases r with ⟨_, c⟩ | ⟨_ | _ | _, c⟩
  exacts [hQ c n h, hE c n h, trivial, trivial]

/-- Where a call returns or throws in states of `Q`, the node runs on from a state of `Q`,
once the state the call started from is one. -/
theorem getD {c : Controller} (h : Continues Q Q r) (hc : Q c) :
    Q ((continuation r).getD c) := by
  rcases r with ⟨_, d⟩ | ⟨_ | _ | _, d⟩
  exacts [h, h, hc, hc]

end Continues

theorem withSkipFlags_apply {α : Type} (skip : Nat) (x : ControllerM α) (c : Controller) :
    withSkipFlags skip x c = skipResult c.skipFlags (x (c.withSkip skip)) := by
  simp only [withSkipFlags, bind_apply, get_apply, modify_apply, tryCatch_apply,
    Controller.withSkip]
  cases x _ <;> rfl

namespace ContTriple

variable {P Q E R : Controller → Prop} {α β : Type}

theorem of_triple {x : ControllerM α} (h : Triple P x Q E) : ContTriple P x Q E :=
  ⟨fun c hc => .of_holds (h.run c hc)⟩

theorem mono {P' Q' E' : Controller → Prop} {x : ControllerM α} (h : ContTriple P x Q E)
    (hP : ∀ c, P' c → P c) (hQ : ∀ c, Q c → Q' c) (hE : ∀ c, E c → E' c) :
    ContTriple P' x Q' E' :=
  ⟨fun c hc => (h.run c (hP c hc)).mono hQ hE⟩

theorem bind {x : ControllerM α} {f : α → ControllerM β} (hx : ContTriple P x R E)
    (hf : ∀ a, ContTriple R (f a) Q E) : ContTriple P (x >>= f) Q E := by
  refine ⟨fun c hc => ?_⟩
  have := hx.run c hc
  rw [bind_apply]
  rcases hx : x c with ⟨a, c'⟩ | ⟨_ | _ | _, c'⟩ <;> rw [hx] at this
  · exact (hf a).run c' this
  all_goals exact this

theorem bind_keep {x : ControllerM α} {f : α → ControllerM β} (hx : ContTriple P x P E)
    (hf : ∀ a, ContTriple P (f a) Q E) : ContTriple P (x >>= f) Q E :=
  bind hx hf

theorem get : ContTriple P (MonadState.get : ControllerM Controller) P E := ⟨fun _ hc => hc⟩

/-- The rest of the block after `get`, proved from each state the precondition admits. -/
theorem get_bind_at {f : Controller → ControllerM β}
    (h : ∀ c₀, P c₀ → ContTriple (· = c₀) (f c₀) Q E) :
    ContTriple P (MonadState.get >>= f) Q E :=
  ⟨fun c hc => by rw [bind_apply]; exact (h c hc).run c rfl⟩

theorem ite {p : Prop} [Decidable p] {x y : ControllerM α} (hx : ContTriple P x Q E)
    (hy : ContTriple P y Q E) : ContTriple P (if p then x else y) Q E := by
  split <;> assumption

theorem pure (a : α) : ContTriple P (Pure.pure a : ControllerM α) (fun _ => True) E :=
  ⟨fun _ _ => trivial⟩

theorem modifyObjects {f : Objects → Objects} :
    ContTriple P (EosChain.modifyObjects f) (fun _ => True) E := ⟨fun _ _ => trivial⟩

theorem modifyDb {f : Database → Database} :
    ContTriple P (EosChain.modifyDb f) (fun _ => True) E := ⟨fun _ _ => trivial⟩

theorem modifyForkDb {f : ForkDatabase → ForkDatabase} :
    ContTriple P (EosChain.modifyForkDb f) (fun _ => True) E := ⟨fun _ _ => trivial⟩

/-- An assertion failure leaves nothing a later call sees. -/
theorem abortWith (w : String) : ContTriple P (EosChain.abortWith w : ControllerM α) Q E :=
  ⟨fun _ _ => trivial⟩

/-- Nor does a loop that does not end. -/
theorem hang : ContTriple P (MonadExcept.throw Failure.hang : ControllerM α) Q E :=
  ⟨fun _ _ => trivial⟩

theorem liftExcept_ok_bind {a : α} {f : α → ControllerM β} (h : ContTriple P (f a) Q E) :
    ContTriple P (EosChain.liftExcept (.ok a) >>= f) Q E := h

theorem discard {x : ControllerM α} (h : ContTriple P x Q E) :
    ContTriple P (Functor.discard x) Q E := by
  refine ⟨fun c hc => ?_⟩
  have := h.run c hc
  show Continues Q E (EStateM.map _ x c)
  unfold EStateM.map
  revert this
  rcases x c with ⟨_, _⟩ | ⟨_ | _ | _, _⟩ <;> exact id

theorem withSkipFlags (skip : Nat) {x : ControllerM α} (hx : ContTriple P x Q E)
    (hP : ∀ c n, P c → P { c with skipFlags := n }) (hQ : ∀ c n, Q c → Q { c with skipFlags := n })
    (hE : ∀ c n, E c → E { c with skipFlags := n }) :
    ContTriple P (EosChain.withSkipFlags skip x) Q E :=
  ⟨fun c hc => by
    rw [withSkipFlags_apply]
    exact (hx.run _ (hP c skip hc)).skipResult hQ hE _⟩

end ContTriple

/-! ### The pending session's record -/

/-- The pending session's record saved a last irreversible block number no lower than the
current one, so rolling the session back does not lower it. -/
def PendingSaved (c : Controller) : Prop :=
  c.pendingBlockSession = true →
    ∀ u ∈ c.db.stack.head?, c.lastIrreversibleBlockNum ≤ u.objects.dgpo.lastIrreversibleBlockNum

/-- `PendingSaved` carries over. -/
def KeepsSaved (c c' : Controller) : Prop := PendingSaved c → PendingSaved c'

instance : IsRefl Controller KeepsSaved := ⟨fun _ h => h⟩

instance : IsTrans Controller KeepsSaved := ⟨fun _ _ _ h₁ h₂ h => h₂ (h₁ h)⟩

/-- No pending session is held. -/
def SessionClosed (c : Controller) : Prop := c.pendingBlockSession = false

theorem SessionClosed.saved {c : Controller} (h : SessionClosed c) : PendingSaved c :=
  fun hs => absurd (h.symm.trans hs) Bool.false_ne_true

theorem Moves.keepsSaved_of_libSame {α : Type} {x : ControllerM α} (h : Moves LibSame x) :
    Moves KeepsSaved x :=
  h.mono fun _ _ h hc hs u hu => by
    rw [h.session] at hs
    rw [h.stack] at hu
    rw [h.lib]
    exact hc hs u hu

theorem ContTriple.saved {α : Type} {x : ControllerM α} (h : Moves KeepsSaved x) :
    ContTriple PendingSaved x PendingSaved PendingSaved :=
  ContTriple.of_triple (Triple.frame h (fun _ _ h => h) fun _ h => h)

theorem ContTriple.saved_of_quiet {α : Type} {x : ControllerM α} (h : Moves Quiet x) :
    ContTriple PendingSaved x PendingSaved PendingSaved :=
  ContTriple.saved h.libSame_of_quiet.keepsSaved_of_libSame

theorem keepsSaved_update {f : Controller → Controller} (hdb : ∀ c, (f c).db = c.db)
    (hs : ∀ c, (f c).pendingBlockSession = c.pendingBlockSession) :
    Moves KeepsSaved (modify f : ControllerM PUnit) :=
  Moves.update fun c hc h u hu => by
    unfold Controller.lastIrreversibleBlockNum Controller.dgpo
    rw [hdb] at hu ⊢
    exact hc ((hs c).symm.trans h) u hu

/-- `_start_pending_block` opens the pending session on the store as it is. -/
theorem startPendingBlock_keepsSaved : Moves KeepsSaved _startPendingBlock :=
  Moves.bind Moves.get fun _ => Moves.bind (Moves.fcAssert _ _ _) fun _ =>
    Moves.bind (Moves.update fun _ _ _ _ hu => Option.mem_some_iff.1 hu ▸ le_rfl) fun _ =>
      startPendingCycle_quiet.libSame_of_quiet.keepsSaved_of_libSame

/-! ### Finalizing the pending block -/

theorem Controller.findOnBranch_blockNum (env : Env) {f : ForkDatabase} {num : Nat} :
    ∀ {fuel : Nat} {b : Option SignedBlock} {b' : SignedBlock},
      Controller.findOnBranch env f num fuel b = some b' → b'.blockNum = num
  | _, none, _, h => by simp [Controller.findOnBranch] at h
  | 0, some b, _, h => by
    unfold Controller.findOnBranch at h
    split at h
    · cases h; assumption
    · cases h
  | fuel + 1, some b, _, h => by
    unfold Controller.findOnBranch at h
    split at h
    · exact Controller.findOnBranch_blockNum env h
    · split at h
      · cases h; assumption
      · cases h

/-- `fetch_block_by_number(num)` returns a block numbered `num`, from the log or the fork
database. -/
theorem Controller.fetchBlockByNumber_blockNum (env : Env) {c : Controller} {num : Nat}
    {b : SignedBlock} (h : c.fetchBlockByNumber env num = some b) : b.blockNum = num := by
  unfold Controller.fetchBlockByNumber at h
  split at h
  · rename_i hb
    cases h
    simpa using List.find?_some hb
  · split at h
    · exact Controller.findOnBranch_blockNum env h
    · cases h

variable (env : Env)

/-- The loop of `update_last_irreversible_block` starts one above the log's newest block,
and `append` takes each block it fetches: it throws no `fc::exception`. -/
theorem appendIrreversible_noThrow (upTo : Nat) : ∀ fuel n : Nat,
    ContTriple (fun c => (c.blockLog.readHead.map SignedBlock.blockNum).getD 0 + 1 = n)
      (appendIrreversible env upTo fuel n) (fun _ => True) (fun _ => False)
  | 0, _ => ContTriple.pure _
  | fuel + 1, n => by
    unfold appendIrreversible
    refine ContTriple.ite (ContTriple.get_bind_at fun c₀ h₀ => ?_) (ContTriple.pure _)
    split
    · exact ContTriple.abortWith _
    · rename_i block hb
      have hn := Controller.fetchBlockByNumber_blockNum env hb
      refine ContTriple.get_bind_at fun c₁ h₁ => ?_
      obtain rfl := h₁
      have happ : c₁.blockLog.append block = .ok ⟨c₁.blockLog.blocks ++ [block]⟩ := by
        rw [BlockLog.append]
        exact if_pos (hn.trans h₀.symm)
      rw [happ]
      refine ContTriple.liftExcept_ok_bind (ContTriple.bind
        (R := fun c => (c.blockLog.readHead.map SignedBlock.blockNum).getD 0 + 1 = n + 1)
        ⟨fun c hc => ?_⟩ fun _ => appendIrreversible_noThrow upTo fuel (n + 1))
      subst hc
      simp [Continues, BlockLog.readHead, hn]

/-- `update_last_irreversible_block` raises the number only after its last check that
throws: from the raise on it asserts, loops or returns. -/
theorem updateLastIrreversibleBlock_saved :
    ContTriple PendingSaved (updateLastIrreversibleBlock env) (fun _ => True) PendingSaved := by
  unfold updateLastIrreversibleBlock
  dsimp only
  refine ContTriple.bind_keep ContTriple.get fun _ => ContTriple.bind_keep
    (ContTriple.saved_of_quiet (getProducers_unchanged _).quiet_of_unchanged) fun _ => ?_
  split
  · refine (?_ : ContTriple (fun _ => True) _ (fun _ => True) (fun _ => False)).mono
      (fun _ _ => trivial) (fun _ h => h) fun _ h => h.elim
    repeat' with_reducible
      first
      | apply ContTriple.get_bind_at
      | apply ContTriple.bind (R := fun _ => True)
      | apply ContTriple.ite
      | exact ContTriple.pure _ | exact ContTriple.hang | exact ContTriple.modifyObjects
      | exact ContTriple.modifyForkDb | exact ContTriple.modifyDb
      | exact (appendIrreversible_noThrow env _ _ _).mono (fun _ h => h ▸ rfl) (fun _ h => h)
          fun _ h => h
      | intro _ _
      | intro _
      | split
  · exact ContTriple.abortWith _

namespace ContTriple

variable {P Q E : Controller → Prop} {β : Type}

theorem pendingBlockRef : ContTriple P EosChain.pendingBlockRef P E := by
  unfold EosChain.pendingBlockRef
  refine get_bind_at fun c₀ h₀ => ?_
  split
  · exact ⟨fun _ h => h ▸ h₀⟩
  · exact abortWith _

/-- `_finalize_block` with the rest of `_generate_block` after it: whatever the pending
session's record, the states the rest starts from are those `_finalize_block` returns in. -/
theorem finalizeBlock_bind {trace : BlockTrace} {K : Unit → ControllerM β}
    (hK : ∀ a, ContTriple (fun _ => True) (K a) Q PendingSaved) :
    ContTriple PendingSaved (finalizeBlock env trace >>= K) Q PendingSaved :=
  bind (bind_keep get fun _ =>
    bind_keep (saved_of_quiet (validateBlockHeader_unchanged env _ _).quiet_of_unchanged) fun _ =>
    bind_keep (saved_of_quiet (updateGlobalProperties_quiet env _)) fun _ =>
    bind_keep (saved (updateGlobalDynamicData_libSame env _).keepsSaved_of_libSame) fun _ =>
    bind_keep (saved_of_quiet (updateSigningProducer_quiet env _ _)) fun _ =>
    bind (updateLastIrreversibleBlock_saved env) fun _ => modifyObjects) hK

/-- The end of `_generate_block` closes the pending session. -/
theorem reset_bind {K : Unit → ControllerM β} (hK : ∀ a, ContTriple SessionClosed (K a) Q E) :
    ContTriple P (modify (fun c => { c with
        pendingBlockTrace := none
        pendingBlock := none
        pendingBlockSession := false }) >>= K) Q E :=
  bind (R := SessionClosed) ⟨fun _ _ => rfl⟩ hK

theorem closed_update {f : Controller → Controller}
    (hs : ∀ c, (f c).pendingBlockSession = c.pendingBlockSession) :
    ContTriple SessionClosed (modify f : ControllerM PUnit) SessionClosed E :=
  of_triple (Triple.update fun c h => (hs c).trans h)

end ContTriple

/-- `_generate_block` raises the last irreversible block number with the pending session
held, and then throws no `fc::exception` before it closes the session. -/
theorem generateBlockImpl_saved (when : Nat) (producer : AccountName) (key : PrivateKey) :
    ContTriple PendingSaved (_generateBlock env when producer key) PendingSaved PendingSaved := by
  have same : ∀ {α : Type} {x : ControllerM α}, Moves Unchanged x →
      ContTriple PendingSaved x PendingSaved PendingSaved :=
    fun h => ContTriple.saved_of_quiet h.quiet_of_unchanged
  unfold _generateBlock
  dsimp only
  repeat' with_reducible
    first
    | apply ContTriple.finalizeBlock_bind | apply ContTriple.reset_bind
    | apply ContTriple.bind_keep | apply ContTriple.ite | intro _
    | exact ContTriple.get | exact ContTriple.abortWith _ | exact ContTriple.pendingBlockRef
    | exact ContTriple.of_triple (Triple.pure _ fun _ h => h)
    | exact ContTriple.of_triple (Triple.pure _ fun _ h => SessionClosed.saved h)
    | exact ContTriple.of_triple (Triple.fcAssert _ _ _ fun _ h => h)
    | exact ContTriple.of_triple (Triple.liftExcept _ fun _ h => SessionClosed.saved h)
    | exact ContTriple.closed_update fun _ => rfl
    | exact ContTriple.saved startPendingBlock_keepsSaved
    | exact ContTriple.saved (keepsSaved_update (fun _ => rfl) fun _ => rfl)
    | exact same (getScheduledProducer_unchanged env _) | exact same (getProducer_unchanged _)
    | exact same pendingBlockTraceRef_unchanged | exact same (calculateProducerSchedule_unchanged env)
    | exact ContTriple.saved_of_quiet (finalizePendingCycle_quiet env)
    | exact ContTriple.saved_of_quiet (setPendingHeader_quiet env _ _)

/-! ### The temporary session -/

/-- Inside the temporary session opened on `c₀`: `c₀`'s objects are saved on top of its
undo history, and the pending session and dynamic global properties are `c₀`'s. -/
structure TempOn (c₀ c : Controller) : Prop where
  stack : ∃ r, c.db.stack = ⟨r, c₀.objects⟩ :: c₀.db.stack
  session : c.pendingBlockSession = c₀.pendingBlockSession
  dgpo : c.dgpo = c₀.dgpo

section Temp

variable {c₀ c : Controller}

theorem TempOn.keeps {c' : Controller} (h : TempOn c₀ c) (hq : Quiet c c') : TempOn c₀ c' :=
  ⟨hq.stack ▸ h.stack, hq.session.trans h.session, hq.dgpo.trans h.dgpo⟩

/-- Leaving the temporary session, by a squash or a roll-back, comes back to `c₀`'s undo
history and pending session, at `c₀`'s last irreversible block number. -/
theorem TempOn.saved_of_leave {f : Database → Database} (h : TempOn c₀ c) (h₀ : PendingSaved c₀)
    (hs : ∀ u rest, c.db.stack = u :: rest → (f c.db).stack = rest)
    (ho : ∀ u rest, c.db.stack = u :: rest →
      (f c.db).objects.dgpo.lastIrreversibleBlockNum = c₀.lastIrreversibleBlockNum) :
    PendingSaved { c with db := f c.db } := by
  obtain ⟨r, hr⟩ := h.stack
  intro hses u hu
  exact (ho _ _ hr).trans_le (h₀ (h.session ▸ hses) u (hs _ _ hr ▸ hu))

theorem TempOn.squash (h : TempOn c₀ c) (h₀ : PendingSaved c₀) :
    PendingSaved { c with db := c.db.squash } :=
  h.saved_of_leave h₀ (fun _ _ hr => by simp only [Database.squash, hr]) fun _ _ hr => by
    simp only [Database.squash, hr]
    exact congrArg DynamicGlobalPropertyObject.lastIrreversibleBlockNum h.dgpo

theorem TempOn.undo (h : TempOn c₀ c) (h₀ : PendingSaved c₀) :
    PendingSaved { c with db := c.db.undo } := by
  obtain ⟨r, hr⟩ := h.stack
  refine h.saved_of_leave h₀ (fun _ _ h => by simp only [Database.undo, h]) fun _ _ h' => ?_
  rw [hr] at h'
  obtain ⟨rfl, -⟩ := List.cons.inj h'
  simp only [Database.undo, hr]
  rfl

end Temp

/-- The temporary session of `_push_transaction` around a quiet step: the squash or the
roll-back ends it where it started. -/
theorem tempSession_saved {α : Type} {x : ControllerM α} (hx : Moves Quiet x) :
    Triple PendingSaved
      (do
        modifyDb Database.startUndoSession
        let result ← tryCatch x fun e => do
          modifyDb Database.undo
          throw e
        modifyDb Database.squash
        pure result)
      PendingSaved PendingSaved :=
  ⟨fun c₀ h₀ => (Triple.bind (Triple.modifyDb (Q := TempOn c₀) fun _ hc =>
      hc ▸ ⟨⟨_, rfl⟩, rfl, rfl⟩) fun _ =>
    Triple.bind (Triple.tryCatch (Triple.frame hx (fun _ _ h hc => hc.keeps h) fun _ h => h)
      fun _ => Triple.bind (Triple.modifyDb fun _ h => h.undo h₀) fun _ =>
        Triple.throw _ fun _ h => h)
    fun _ => Triple.bind (Triple.modifyDb fun _ h => h.squash h₀) fun _ =>
      Triple.pure _ fun _ h => h).run c₀ rfl⟩

theorem pushTransactionImpl_saved (trx : SignedTransaction) :
    Triple PendingSaved (_pushTransaction env trx) PendingSaved PendingSaved := by
  unfold _pushTransaction
  exact Triple.bind_keep Triple.get fun _ =>
    Triple.ite_join (Triple.frame startPendingBlock_keepsSaved (fun _ _ h => h) fun _ h => h)
      fun _ => tempSession_saved (pushTransactionBody_quiet env trx)

/-! ### Pushing blocks and the constructor -/

/-- A closed pending session stays closed. -/
def ClosedKept (c c' : Controller) : Prop := SessionClosed c → SessionClosed c'

instance : IsRefl Controller ClosedKept := ⟨fun _ h => h⟩

instance : IsTrans Controller ClosedKept := ⟨fun _ _ _ h₁ h₂ h => h₂ (h₁ h)⟩

theorem closedKept_update {f : Controller → Controller}
    (hs : ∀ c, (f c).pendingBlockSession = c.pendingBlockSession) :
    Moves ClosedKept (modify f : ControllerM PUnit) :=
  Moves.update fun c h => (hs c).trans h

theorem applyBlock_closedKept (b : SignedBlock) (skip : Nat) :
    Moves ClosedKept (_applyBlock env b skip) :=
  applyBlock_moves env b skip fun t => withSkipFlags_moves t (fun _ => closedKept_update fun _ => rfl)
    (applyBlockBody_moves env (fun _ => Moves.modifyObjects fun _ h => h)
      (fun _ => Moves.modifyForkDb fun _ h => h) (fun _ => Moves.modifyDb fun _ h => h)
      (fun _ _ _ _ h => h) b)

/-- `_push_block` opens and rolls back undo sessions, but never the pending one. -/
theorem pushBlockBody_closedKept (b : SignedBlock) : Moves ClosedKept (_pushBlock env b) :=
  pushBlockBody_moves env (fun _ => Moves.modifyDb fun _ h => h)
    (fun _ => Moves.modifyForkDb fun _ h => h) (applyBlock_closedKept env)
    (popBlock_moves env (fun _ => Moves.modifyDb fun _ h => h)
      (fun _ => Moves.modifyForkDb fun _ h => h) (Moves.update fun _ _ => rfl)) b

/-- `push_block` clears the pending block first and opens no pending session. -/
theorem pushBlock_closed (b : SignedBlock) (skip : Nat) :
    Triple (fun _ => True) (pushBlock env b skip) SessionClosed SessionClosed :=
  Triple.withSkipFlags skip (Triple.bind (Triple.update (Q := SessionClosed) fun _ _ => rfl)
      fun _ => (Triple.frame (pushBlockBody_closedKept env b) (fun _ _ h => h) fun _ h => h).discard)
    (fun _ _ h => h) (fun _ _ h => h) fun _ _ h => h

theorem construct_closedKept (g : Genesis) : Moves ClosedKept (construct env g) :=
  construct_moves env (fun _ => Moves.modifyDb fun _ h => h)
    (fun _ => Moves.modifyForkDb fun _ h => h) (applyBlock_closedKept env)
    (fun _ => Moves.modifyObjects fun _ h => h)
    (fun t _ hx => withSkipFlags_moves t (fun _ => closedKept_update fun _ => rfl) hx)
    (fun _ => closedKept_update fun _ => rfl) g

/-! ### Every reachable state -/

/-- Every call keeps `PendingSaved` in the states the node runs on from. -/
theorem Call.run_saved (call : Call) :
    ContTriple PendingSaved (call.run env) PendingSaved PendingSaved := by
  cases call with
  | pushBlock b skip =>
    exact .of_triple ((pushBlock_closed env b skip).mono (fun _ _ => trivial)
      (fun _ h => SessionClosed.saved h) fun _ h => SessionClosed.saved h)
  | pushTransaction trx skip =>
    exact .of_triple (Triple.withSkipFlags skip (pushTransactionImpl_saved env trx)
      (fun _ _ h => h) (fun _ _ h => h) (fun _ _ h => h)).discard
  | generateBlock when producer key skip =>
    exact (ContTriple.withSkipFlags skip (generateBlockImpl_saved env when producer key)
      (fun _ _ h => h) (fun _ _ h => h) (fun _ _ h => h)).discard
  | popBlock =>
    have h : Moves (fun _ c' => SessionClosed c') (EosChain.popBlock env) :=
      ⟨fun c => (popBlock_keeps_pending c).noSession⟩
    exact .of_triple (Triple.of_moves h (fun _ _ h _ => SessionClosed.saved h)
      fun _ _ h _ => SessionClosed.saved h)
  | clearPending => exact .of_triple (Triple.update fun _ _ _ => by cases ‹false = true›)
  | addCheckpoints checkpts =>
    exact ContTriple.saved_of_quiet (addCheckpoints_quiet checkpts)

variable {env}

theorem Controller.after_saved {c : Controller} (hc : PendingSaved c) (call : Call) :
    PendingSaved (c.after env call) :=
  ((Call.run_saved env call).run c hc).getD hc

theorem start_saved {g : Genesis} {log : BlockLog} {c : Controller}
    (h : Controller.start env g log = some c) : PendingSaved c := by
  unfold Controller.start at h
  split at h
  · rename_i hr
    have := (construct_closedKept env g).leaves (Controller.fresh g log)
    rw [hr] at this
    rw [← Option.some.inj h]
    exact SessionClosed.saved (this rfl)
  · cases h

/-- In every reachable state, rolling the pending session back does not lower the last
irreversible block number. -/
theorem reachable_pendingSaved {c : Controller} (hc : Reachable env c) : PendingSaved c := by
  induction hc with
  | start h => exact start_saved h
  | step _ hs ih =>
    obtain ⟨call, hcall⟩ := hs
    have := @Controller.after_saved env _ ih call
    unfold Controller.after at this
    rwa [hcall] at this

/-! ### Rollbacks that put back no lower number -/

/-- `clear_pending` rolls the pending session back, to a number no lower. -/
theorem PendingSaved.lib_le_clear {c : Controller} (h : PendingSaved c) :
    c.lastIrreversibleBlockNum ≤ (resultState (clearPending c)).lastIrreversibleBlockNum := by
  show c.lastIrreversibleBlockNum ≤
    (if c.pendingBlockSession then c.db.undo else c.db).objects.dgpo.lastIrreversibleBlockNum
  split
  · rename_i hs
    unfold Database.undo
    split
    · exact le_rfl
    · rename_i u _ hu
      exact h hs u (by rw [hu]; rfl)
  · exact le_rfl

theorem Database.commit_stack_prefix (d : Database) (r : Int) : (d.commit r).stack <+: d.stack := by
  have := List.reverse_prefix.2
    (List.dropWhile_suffix (l := d.stack.reverse) fun u => decide (u.revision ≤ r))
  rwa [List.reverse_reverse] at this

/-- `catchException` whose handler starts from what the failures of the body leave. -/
theorem Triple.catchException_from {P Q E E' : Controller → Prop} {α : Type} {x : ControllerM α}
    {h : Failure → ControllerM α} (hx : Triple P x Q E')
    (hh : ∀ k w, Triple E' (h (.exception k w)) Q E) (hE : ∀ c, E' c → E c) :
    Triple P (EosChain.catchException x h) Q E :=
  Triple.tryCatch hx fun e => by cases e <;> first | exact hh _ _ | exact Triple.throw _ hE

/-- Records are only dropped from the undo history. -/
def StackShrinks (c c' : Controller) : Prop := c'.db.stack <+: c.db.stack

instance : IsRefl Controller StackShrinks := ⟨fun _ => List.prefix_refl _⟩

instance : IsTrans Controller StackShrinks := ⟨fun _ _ _ h₁ h₂ => List.IsPrefix.trans h₂ h₁⟩

/-- The last irreversible block number only rises. -/
def LibRises (c c' : Controller) : Prop :=
  c.lastIrreversibleBlockNum ≤ c'.lastIrreversibleBlockNum

instance : IsRefl Controller LibRises := ⟨fun _ => le_rfl⟩

instance : IsTrans Controller LibRises := ⟨fun _ _ _ h₁ h₂ => le_trans h₁ h₂⟩

/-- A record on top of the history, no lower than `L`, stays on top, or the history
empties, while records are dropped from the bottom and the number rises. -/
theorem TopDgpoSat.settle {L : Nat} {c c' : Controller}
    (h : TopDgpoSat (L ≤ ·.lastIrreversibleBlockNum) c) (hs : StackShrinks c c' ∧ LibRises c c') :
    TopDgpoSat (L ≤ ·.lastIrreversibleBlockNum) c' := by
  refine ⟨h.1.trans hs.2, fun u hu => h.2 u ?_⟩
  obtain ⟨t, ht⟩ := hs.1
  rw [← ht]
  rcases hc : c'.db.stack with _ | ⟨v, r⟩ <;> rw [hc] at hu
  · cases hu
  · exact hu

variable (env)

theorem applyBlockBody_lib {L : Nat} (b : SignedBlock) :
    Triple (LibAtLeast L) (__applyBlock env b) (LibAtLeast L) (LibAtLeast L) :=
  Triple.bind_keep Triple.get fun _ =>
    Triple.bind_keep (lib_of_quiet (validateBlockHeader_unchanged env _ _).quiet_of_unchanged)
      fun _ =>
    Triple.bind_keep (Triple.fcAssert _ _ _ fun _ h => h) fun _ =>
    Triple.bind_keep (lib_of_quiet (applyRegions_quiet env _ _ _)) fun _ =>
    Triple.bind_keep (Triple.fcAssert _ _ _ fun _ h => h) fun _ => finalizeBlock_lib env _

/-- `_apply_block` commits only the oldest records and only raises the last irreversible
block number. -/
theorem applyBlock_settles (b : SignedBlock) (skip : Nat) :
    Moves (fun c c' => StackShrinks c c' ∧ LibRises c c') (_applyBlock env b skip) :=
  (applyBlock_moves env b skip fun t =>
    withSkipFlags_moves t (fun _ => Moves.update fun _ => List.prefix_refl _)
      (applyBlockBody_moves env (fun _ => Moves.modifyObjects fun _ => List.prefix_refl _)
        (fun _ => Moves.modifyForkDb fun _ => List.prefix_refl _)
        (fun _ => Moves.modifyDb fun c => c.db.commit_stack_prefix _)
        (fun _ _ _ _ => List.prefix_refl _) b)).and
  (applyBlock_moves env b skip fun t =>
    ⟨fun c => (withSkipFlags_lib t (applyBlockBody_lib env b)).result
      (le_refl c.lastIrreversibleBlockNum)⟩)

/-- `_push_block(b)` from `c` takes the fork switch: with `skip_fork_db` unset, the fork
database takes `b`, and its new head does not build on the head and is higher. -/
def switchesForks (c : Controller) (b : SignedBlock) : Bool :=
  !hasFlag c.skipFlags skipForkDb &&
    match c.forkDb.pushBlock env b with
    | .ok f => f.head.any fun h => decide (h.previous ≠ c.headBlockId ∧ c.headBlockNum < h.blockNum)
    | .error _ => false

/-- The block's own session of `_push_block`: `_apply_block` commits only the oldest records
and only raises the number, so when it throws the session's record is still on top, or the
history is empty, and rolling it back puts back no lower number. -/
theorem applyInSession_lib (b : SignedBlock) (skip L : Nat) :
    Triple (LibAtLeast L)
      (do
        modifyDb Database.startUndoSession
        catchException (_applyBlock env b skip) fun e => do
          modifyDb Database.undo
          modifyForkDb (·.remove env (b.id env))
          throw e
        pure false)
      (LibAtLeast L) (LibAtLeast L) :=
  Triple.bind (Triple.modifyDb (Q := TopDgpoSat _) fun _ hc =>
      ⟨hc, fun _ hu => Option.mem_some_iff.1 hu ▸ hc⟩) fun _ =>
    Triple.bind (Triple.catchException_from (Triple.of_moves (applyBlock_settles env b skip)
        (fun _ _ h hc => (hc.settle h).1) fun _ _ h hc => hc.settle h)
      (fun _ _ => Triple.bind (topDgpoSat_undo _) fun _ =>
        Triple.bind (⟨fun _ h => h⟩ : Triple (LibAtLeast _) (modifyForkDb _) (LibAtLeast _) _)
          fun _ => Triple.throw _ fun _ h => h) fun _ h => h.1) fun _ =>
    Triple.pure _ fun _ h => h

/-- Where `_push_block` does not switch forks, it rolls back at most the session it opened
for the block, which saved the number it started from. -/
theorem pushBlockBody_lib (b : SignedBlock) (c₀ : Controller) (hs : switchesForks env c₀ b = false) :
    Triple (· = c₀) (_pushBlock env b) (LibAtLeast c₀.lastIrreversibleBlockNum)
      (LibAtLeast c₀.lastIrreversibleBlockNum) := by
  have same : ∀ c : Controller, c.db = c₀.db → LibAtLeast c₀.lastIrreversibleBlockNum c :=
    fun _ h => (congrArg (·.objects.dgpo.lastIrreversibleBlockNum) h).ge
  unfold _pushBlock
  refine Triple.get_bind_self ?_
  dsimp only
  split
  · rename_i hfork
    refine Triple.get_bind_self (Triple.liftExcept_bind (fun f hf => ?_) fun _ h => same _ (h ▸ rfl))
    refine Triple.bind (Triple.update (Q := fun c => c.db = c₀.db) fun _ h => h ▸ rfl) fun _ => ?_
    split
    · rename_i newHead hh
      have hsw : ¬ (newHead.previous ≠ c₀.headBlockId ∧ c₀.headBlockNum < newHead.blockNum) := by
        simpa [switchesForks, hfork, hf, hh] using hs
      refine Triple.get_bind_at fun c₁ hc₁ => ?_
      have hid : c₁.headBlockId = c₀.headBlockId := (congrArg (·.objects.dgpo.headBlockId) hc₁ :)
      have hnum : c₁.headBlockNum = c₀.headBlockNum :=
        (congrArg (·.objects.dgpo.headBlockNumber) hc₁ :)
      split
      · rename_i hne
        refine Triple.get_bind_at fun c₂ hc₂ => ?_
        subst hc₂
        rw [if_neg fun hlt => hsw ⟨hid ▸ hne, hnum ▸ hlt⟩]
        exact Triple.pure _ fun _ h => h ▸ same _ hc₁
      · exact Triple.bind (Triple.pure _ fun _ h => h ▸ same _ hc₁) fun _ =>
          applyInSession_lib env b _ _
    · exact Triple.abortWith_bind _ fun _ h => same _ h
  · exact Triple.bind (Triple.pure _ fun _ h => same _ (h ▸ rfl)) fun _ =>
      applyInSession_lib env b _ _

/-! ### Runs without pops -/

/-- `call` pops no block from `c`: it is not `pop_block`, and where it is `push_block` it
does not switch forks from the controller it hands to `_push_block`. -/
def Controller.popsNoBlock (c : Controller) : Call → Bool
  | .pushBlock b skip => !switchesForks env (c.pushBlockStart skip) b
  | .popBlock => false
  | _ => true

/-- Every call of `calls`, from `c` on, pops no block. -/
def Controller.popsNoBlocks : Controller → List Call → Bool
  | _, [] => true
  | c, call :: rest => c.popsNoBlock env call && (c.after env call).popsNoBlocks rest

variable {env}

theorem Reachable.after_any {c : Controller} (h : Reachable env c) (call : Call) :
    Reachable env (c.after env call) := by
  unfold Controller.after
  cases hx : continuation (call.run env c) with
  | none => exact h
  | some c' => exact h.step ⟨call, hx⟩

/-- What every state a call leaves satisfies, and `c` too, holds where the node runs on. -/
theorem Controller.after_of_holds {c : Controller} {call : Call} {Q : Controller → Prop}
    (h : Holds Q Q (call.run env c)) (hc : Q c) : Q (c.after env call) :=
  (Continues.of_holds h).getD hc

theorem pushBlock_lib {c : Controller} (hc : PendingSaved c) {b : SignedBlock} {skip : Nat}
    (hs : switchesForks env (c.pushBlockStart skip) b = false) :
    Holds (LibAtLeast c.lastIrreversibleBlockNum) (LibAtLeast c.lastIrreversibleBlockNum)
      (pushBlock env b skip c) := by
  have h₁ := (pushBlockBody_lib env b _ hs).discard.run _ rfl
  have hle : c.lastIrreversibleBlockNum ≤ (c.pushBlockStart skip).lastIrreversibleBlockNum :=
    PendingSaved.lib_le_clear (c := c.withSkip skip) hc
  rw [pushBlock, withSkipFlags_apply]
  show Holds _ _ (skipResult c.skipFlags (Functor.discard (_pushBlock env b) (c.pushBlockStart skip)))
  revert h₁
  rcases Functor.discard (_pushBlock env b) (c.pushBlockStart skip) with ⟨_, d⟩ | ⟨_, d⟩ <;>
    exact hle.trans

/-- A call that pops no block does not lower the last irreversible block number. -/
theorem PendingSaved.lib_le_after {c : Controller} (hc : PendingSaved c) {call : Call}
    (h : c.popsNoBlock env call = true) :
    c.lastIrreversibleBlockNum ≤ (c.after env call).lastIrreversibleBlockNum := by
  refine Controller.after_of_holds (Q := LibAtLeast c.lastIrreversibleBlockNum) ?_ le_rfl
  cases call with
  | pushBlock b skip => exact pushBlock_lib hc (by simpa [Controller.popsNoBlock] using h)
  | pushTransaction trx skip =>
    exact (withSkipFlags_lib skip (pushTransactionImpl_lib env trx)).discard.run c le_rfl
  | generateBlock when producer key skip =>
    exact (withSkipFlags_lib skip (generateBlockImpl_lib env when producer key)).discard.run c
      le_rfl
  | popBlock => cases h
  | clearPending => exact hc.lib_le_clear
  | addCheckpoints checkpts => exact (lib_of_quiet (addCheckpoints_quiet checkpts)).run c le_rfl

/-- From every reachable state, over every run in which no call pops a block, the last
irreversible block number never decreases from one state of the run to a later one. -/
theorem lastIrreversibleBlockNum_monotone {c : Controller} (hc : Reachable env c)
    {calls : List Call} (h : c.popsNoBlocks env calls = true) {m n : Nat} (hmn : m ≤ n) :
    ((calls.take m).foldl (Controller.after env) c).lastIrreversibleBlockNum ≤
      ((calls.take n).foldl (Controller.after env) c).lastIrreversibleBlockNum := by
  induction calls generalizing c m n with
  | nil => simp
  | cons call rest ih =>
    simp only [Controller.popsNoBlocks, Bool.and_eq_true] at h
    have hstep := (reachable_pendingSaved hc).lib_le_after h.1
    have ih' := @ih _ (hc.after_any call) h.2
    rcases m with _ | m <;> rcases n with _ | n
    · exact le_rfl
    · exact hstep.trans (ih' (Nat.zero_le n))
    · omega
    · exact ih' (Nat.le_of_succ_le_succ hmn)

/-- The first two blocks of the deployment `rotationConfig`. -/
def twoRotationRun : Controller :=
  Controller.run (sampleEnv rotationConfig) rotationGenesis ⟨[]⟩
    [.pushBlock rotB1 trustedSkip, .pushBlock rotB2 trustedSkip]

/-- A transaction that is then cleared, the same transaction again, block 3 generated by
`prodA` on it, which makes block 1 irreversible, the deployment's own block 3 pushed at
the same height, which leaves the head in place, and a checkpoint. -/
def assemblyCalls : List Call :=
  [.pushTransaction (sampleTrx 5) trustedSkip, .clearPending,
    .pushTransaction (sampleTrx 5) trustedSkip,
    .generateBlock (genesisSlot rotationConfig + 3) prodA (prodA + 90) 0,
    .pushBlock rotB3 trustedSkip, .addCheckpoints []]

set_option smartUnfolding false in
theorem assemblyRun_lastIrreversibleBlockNum_monotone :
    Reachable (sampleEnv rotationConfig) twoRotationRun ∧
      twoRotationRun.popsNoBlocks (sampleEnv rotationConfig) assemblyCalls = true ∧ 0 ≤ 6 ∧
      ((assemblyCalls.take 0).foldl (Controller.after (sampleEnv rotationConfig))
          twoRotationRun).lastIrreversibleBlockNum ≤
        ((assemblyCalls.take 6).foldl (Controller.after (sampleEnv rotationConfig))
          twoRotationRun).lastIrreversibleBlockNum :=
  have hc : Reachable (sampleEnv rotationConfig) twoRotationRun :=
    reachable_run (by decide) (by decide)
  have hp : twoRotationRun.popsNoBlocks (sampleEnv rotationConfig) assemblyCalls = true := by
    decide
  ⟨hc, hp, by decide, lastIrreversibleBlockNum_monotone hc hp (by decide)⟩

end EosChain
