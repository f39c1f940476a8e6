import EosChain.Proofs.Calls
import EosChain.Proofs.Traversal

/-!
# `EosChain.Proofs.Skip`: the skip flags decide checks, not state

`_apply_block(next_block, skip)` applies a block under `with_skip_flags`, which sets
`_skip_flags` for the call and puts the caller's flags back on the way out; past the last
checkpoint it replaces `skip` by `~0`. On the path of `__apply_block` the flags are read in
one place, `validate_block_header`, and there only to decide whether two assertions run:
the producer's signing key and the producer's slot. Everything else the block application
calls neither reads nor writes them (`Blind`).

Two runs from one state under different flags are compared with the relation `Agree`:
where both return, they return the same value and leave states that differ in the flags
only. Each monadic construct has its rule (`Agree.bind`, `Agree.get_bind`, the two `ite`
rules), a `Blind` computation agrees with itself, and `validate_block_header` agrees with
itself under any two skip arguments. The conclusion holds only of two runs that both
return: a skipped check can let one of them through where the other throws.

* `applyBlock_skip_independent`: two calls of `_apply_block` with the same block from the
  same state that both return leave the same state, whatever the two skip sets.
* `applyBlocks_skip_independent`: the same for blocks applied one after another, as
  `replay` applies the block log under its skip set `replaySkip`.
* `reachable_skipFlags_eq_zero`: `with_skip_flags` puts the caller's flags back however
  its body ends, and nothing else writes them, so in every reachable state they are 0.
-/

set_option autoImplicit false

namespace EosChain

/-- The controller with the skip flags `s`. -/
def Controller.withSkip (c : Controller) (s : Nat) : Controller := { c with skipFlags := s }

@[simp] theorem Controller.withSkip_skipFlags (c : Controller) (s : Nat) :
    (c.withSkip s).skipFlags = s := rfl

@[simp] theorem Controller.withSkip_withSkip (c : Controller) (s t : Nat) :
    (c.withSkip s).withSkip t = c.withSkip t := rfl

theorem Controller.withSkip_of_skipFlags {c : Controller} {s : Nat} (h : c.skipFlags = s) :
    c.withSkip s = c := h ▸ rfl

/-- A result with the skip flags of the state it leaves set to `s`. -/
def skipResult {α : Type} (s : Nat) :
    EStateM.Result Failure Controller α → EStateM.Result Failure Controller α
  | .ok a c => .ok a (c.withSkip s)
  | .error e c => .error e (c.withSkip s)

/-- `x` neither reads nor writes the skip flags: from a state with the flags set to `s`
it does what it does from the state itself, and leaves the flags at `s`. -/
def Blind {α : Type} (x : ControllerM α) : Prop :=
  ∀ c s, x (c.withSkip s) = skipResult s (x c)

namespace Blind

variable {α β : Type}

theorem pure (a : α) : Blind (Pure.pure a : ControllerM α) := fun _ _ => rfl

theorem throw (e : Failure) : Blind (MonadExcept.throw e : ControllerM α) := fun _ _ => rfl

theorem throwException (k : ExceptionKind) (w : String) :
    Blind (EosChain.throwException k w : ControllerM α) := throw _

theorem abortWith (w : String) : Blind (EosChain.abortWith w : ControllerM α) := throw _

theorem bind {x : ControllerM α} {f : α → ControllerM β} (hx : Blind x)
    (hf : ∀ a, Blind (f a)) : Blind (x >>= f) := by
  intro c s
  rw [bind_apply, bind_apply, hx]
  cases x c with
  | ok a c' => exact hf a c' s
  | error e c' => rfl

/-- A block that reads the state only in what does not hold the skip flags. -/
theorem get_bind {f : Controller → ControllerM β} (hread : ∀ c s, f (c.withSkip s) = f c)
    (hf : ∀ c, Blind (f c)) : Blind (MonadState.get >>= f) := by
  intro c s
  rw [bind_apply, bind_apply, get_apply, get_apply]
  dsimp only
  rw [hread, hf]

theorem ite {p : Prop} [Decidable p] {x y : ControllerM α} (hx : Blind x) (hy : Blind y) :
    Blind (if p then x else y) := by
  split <;> assumption

/-- An `if` with no `else` in front of the rest of a block, which the `do` notation copies
into both branches: the rest is proved once. -/
theorem ite_join {p : Prop} [Decidable p] {x : ControllerM Unit} {f : Unit → ControllerM β}
    (hx : Blind x) (hf : ∀ a, Blind (f a)) :
    Blind (if p then x >>= f else Pure.pure () >>= f) :=
  ite (bind hx hf) (bind (pure _) hf)

theorem update {f : Controller → Controller} (h : ∀ c s, f (c.withSkip s) = (f c).withSkip s) :
    Blind (modify f : ControllerM PUnit) := fun c s => by
  rw [modify_apply, modify_apply, h]
  rfl

theorem modifyObjects (f : Objects → Objects) : Blind (EosChain.modifyObjects f) :=
  update fun _ _ => rfl

theorem modifyDb (f : Database → Database) : Blind (EosChain.modifyDb f) :=
  update fun _ _ => rfl

theorem modifyForkDb (f : ForkDatabase → ForkDatabase) : Blind (EosChain.modifyForkDb f) :=
  update fun _ _ => rfl

theorem fcAssert (b : Bool) (k : ExceptionKind) (w : String) :
    Blind (EosChain.fcAssert b k w) :=
  ite (pure _) (throwException _ _)

theorem liftExcept (r : Except Failure α) : Blind (EosChain.liftExcept r) := by
  cases r
  · exact throw _
  · exact pure _

end Blind

section Methods
variable (env : Env)

theorem getProducer_blind (owner : AccountName) : Blind (getProducer owner) := by
  unfold getProducer
  refine Blind.get_bind (fun _ _ => rfl) fun c => ?_
  split
  · exact Blind.pure _
  · exact Blind.throwException _ _

theorem getScheduledProducer_blind (slot : Nat) : Blind (getScheduledProducer env slot) := by
  unfold getScheduledProducer
  refine Blind.get_bind (fun _ _ => rfl) fun c => ?_
  split
  · exact Blind.pure _
  · exact Blind.abortWith _

theorem getPermission_blind (level : PermissionLevel) : Blind (getPermission level) := by
  unfold getPermission
  refine Blind.get_bind (fun _ _ => rfl) fun c => ?_
  split
  · exact Blind.pure _
  · exact Blind.throwException _ _

theorem applyActions_blind (trx : Transaction) :
    ∀ (acts : List Action) (result : TransactionTrace),
      Blind (applyActions env trx acts result)
  | [], _ => Blind.pure _
  | _ :: rest, _ => Blind.get_bind (fun _ _ => rfl) fun _ =>
      Blind.bind (Blind.liftExcept _) fun _ =>
        Blind.bind (Blind.modifyObjects _) fun _ => applyActions_blind trx rest _

theorem chargeBandwidth_blind (trxSize : Nat) :
    ∀ accounts : List AccountName, Blind (chargeBandwidth trxSize accounts)
  | [] => Blind.pure _
  | _ :: rest => Blind.get_bind (fun _ _ => rfl) fun _ =>
      Blind.bind (Blind.fcAssert _ _ _) fun _ => Blind.bind (Blind.modifyObjects _) fun _ =>
        Blind.bind (Blind.fcAssert _ _ _) fun _ => chargeBandwidth_blind trxSize rest

theorem applyTransaction_blind (meta : TransactionMetadata) :
    Blind (applyTransaction env meta) :=
  Blind.bind (applyActions_blind env _ _ _) fun _ =>
    Blind.bind (chargeBandwidth_blind _ _) fun _ => Blind.pure _

theorem applyReceipts_blind (inputs : List SignedTransaction) (region cycleIndex shardIndex : Nat) :
    ∀ (receipts : ShardSummary) (st : ShardTrace),
      Blind (applyReceipts env inputs region cycleIndex shardIndex receipts st)
  | [], _ => Blind.pure _
  | r :: rest, _ => by
    unfold applyReceipts
    split
    · split
      · exact Blind.bind (applyTransaction_blind env _) fun _ =>
          applyReceipts_blind inputs region cycleIndex shardIndex rest _
      · exact Blind.throwException _ _
    · exact applyReceipts_blind inputs region cycleIndex shardIndex rest _

theorem applyShards_blind (inputs : List SignedTransaction) (region cycleIndex : Nat) :
    ∀ (shardIndex : Nat) (shards : List ShardSummary) (acc : List ShardTrace),
      Blind (applyShards env inputs region cycleIndex shardIndex shards acc)
  | _, [], _ => Blind.pure _
  | _, _ :: rest, _ => Blind.bind (applyReceipts_blind env _ _ _ _ _ _) fun _ =>
      applyShards_blind inputs region cycleIndex _ rest _

theorem applyCycles_blind (inputs : List SignedTransaction) (region : Nat) :
    ∀ (cycleIndex : Nat) (cycles : List CycleSummary) (acc : List CycleTrace),
      Blind (applyCycles env inputs region cycleIndex cycles acc)
  | _, [], _ => Blind.pure _
  | _, _ :: rest, _ => Blind.bind (applyShards_blind env _ _ _ _ _ _) fun _ =>
      Blind.bind (Blind.modifyObjects _) fun _ => applyCycles_blind inputs region _ rest _

theorem applyRegions_blind (inputs : List SignedTransaction) :
    ∀ (regions : List RegionSummary) (acc : List RegionTrace),
      Blind (applyRegions env inputs regions acc)
  | [], _ => Blind.pure _
  | _ :: rest, _ => Blind.bind (applyCycles_blind env _ _ _ _ _) fun _ =>
      applyRegions_blind inputs rest _

theorem fillSchedule_blind :
    ∀ (owners : List AccountName) (producers : List ProducerKey) (count : Nat),
      Blind (fillSchedule producers count owners)
  | [], _, _ => Blind.pure _
  | _ :: rest, _, _ => Blind.ite
      (Blind.bind (getProducer_blind _) fun _ => fillSchedule_blind rest _ _) (Blind.pure _)

theorem calculateProducerSchedule_blind : Blind (calculateProducerSchedule env) :=
  Blind.get_bind (fun _ _ => rfl) fun _ =>
    Blind.bind (fillSchedule_blind _ _ _) fun _ => Blind.pure _

theorem updateGlobalProperties_blind (b : SignedBlock) :
    Blind (updateGlobalProperties env b) := by
  unfold updateGlobalProperties
  dsimp only
  repeat'
    first
    | rfl
    | with_reducible
        first
        | refine Blind.get_bind (fun _ _ => ?_) fun _ => ?_
        | apply Blind.ite_join | apply Blind.bind | apply Blind.ite
        | exact Blind.pure _ | exact Blind.fcAssert _ _ _
        | exact calculateProducerSchedule_blind env | exact getPermission_blind _
        | exact Blind.modifyObjects _
    | split | intro _

theorem markMissed_blind (b : SignedBlock) :
    ∀ missed : List Nat, Blind (markMissed env b missed)
  | [] => Blind.pure _
  | _ :: rest => by
    unfold markMissed
    dsimp only
    repeat' with_reducible
      first
      | apply Blind.ite_join | apply Blind.bind | apply Blind.ite | exact Blind.pure _
      | exact getScheduledProducer_blind env _ | exact getProducer_blind _
      | exact Blind.modifyObjects _ | exact markMissed_blind b rest | intro _

theorem updateGlobalDynamicData_blind (b : SignedBlock) :
    Blind (updateGlobalDynamicData env b) := by
  unfold updateGlobalDynamicData
  dsimp only
  repeat'
    first
    | rfl
    | with_reducible
        first
        | refine Blind.get_bind (fun _ _ => ?_) fun _ => ?_
        | apply Blind.ite_join | apply Blind.bind | apply Blind.ite
        | exact Blind.pure _ | exact Blind.fcAssert _ _ _
        | exact Blind.abortWith _ | exact markMissed_blind env _ _
        | exact Blind.modifyObjects _ | exact Blind.modifyForkDb _
    | intro _

theorem updateSigningProducer_blind (p : ProducerObject) (b : SignedBlock) :
    Blind (updateSigningProducer env p b) :=
  Blind.get_bind (fun _ _ => rfl) fun _ => Blind.modifyObjects _

theorem getProducers_blind : ∀ producers : List ProducerKey, Blind (getProducers producers)
  | [] => Blind.pure _
  | _ :: rest => Blind.bind (getProducer_blind _) fun _ =>
      Blind.bind (getProducers_blind rest) fun _ => Blind.pure _

theorem appendIrreversible_blind (upTo : Nat) :
    ∀ fuel n : Nat, Blind (appendIrreversible env upTo fuel n)
  | 0, _ => Blind.pure _
  | _ + 1, _ => by
    unfold appendIrreversible
    refine Blind.ite (Blind.get_bind (fun _ _ => rfl) fun c => ?_) (Blind.pure _)
    split
    · exact Blind.abortWith _
    · exact Blind.get_bind (fun _ _ => rfl) fun _ => Blind.bind (Blind.liftExcept _) fun _ =>
        Blind.bind (Blind.update fun _ _ => rfl) fun _ => appendIrreversible_blind upTo _ _

theorem updateLastIrreversibleBlock_blind : Blind (updateLastIrreversibleBlock env) := by
  unfold updateLastIrreversibleBlock
  dsimp only
  repeat'
    first
    | rfl
    | with_reducible
        first
        | refine Blind.get_bind (fun _ _ => ?_) fun _ => ?_
        | apply Blind.ite_join | apply Blind.bind | apply Blind.ite
        | exact Blind.pure _ | exact Blind.abortWith _
        | exact Blind.throw _ | exact getProducers_blind _ | exact appendIrreversible_blind env _ _ _
        | exact Blind.modifyObjects _ | exact Blind.modifyForkDb _ | exact Blind.modifyDb _
    | split | intro _

theorem createBlockSummary_blind (b : SignedBlock) : Blind (createBlockSummary env b) :=
  Blind.modifyObjects _

end Methods

/-! ### Two runs from states that differ in the skip flags -/

/-- From `c` with the skip flags `s₁`, `x` returns `a₁` and leaves `d₁`; from `c` with
the flags `s₂`, `y` returns `a₂` and leaves `d₂`. Then the values are equal and the two
states differ in the flags only, still `s₁` and `s₂`. -/
def AgreeAt {α : Type} (x y : ControllerM α) (c : Controller) (s₁ s₂ : Nat) : Prop :=
  ∀ a₁ d₁ a₂ d₂, x (c.withSkip s₁) = .ok a₁ d₁ → y (c.withSkip s₂) = .ok a₂ d₂ →
    a₂ = a₁ ∧ d₁.skipFlags = s₁ ∧ d₂ = d₁.withSkip s₂

/-- `x` and `y` agree from every state under every two sets of skip flags. -/
def Agree {α : Type} (x y : ControllerM α) : Prop := ∀ c s₁ s₂, AgreeAt x y c s₁ s₂

namespace Agree

variable {α β : Type}

theorem of_blind {x : ControllerM α} (h : Blind x) : Agree x x := by
  intro c s₁ s₂ a₁ d₁ a₂ d₂ h₁ h₂
  rw [h] at h₁ h₂
  cases hx : x c with
  | ok a d =>
    simp only [hx, skipResult, EStateM.Result.ok.injEq] at h₁ h₂
    obtain ⟨rfl, rfl⟩ := h₁
    obtain ⟨rfl, rfl⟩ := h₂
    exact ⟨rfl, rfl, rfl⟩
  | error e d => simp [hx, skipResult] at h₁

/-- Two steps that change nothing agree. -/
theorem of_unchanged {x y : ControllerM Unit} (hx : Moves Unchanged x) (hy : Moves Unchanged y) :
    Agree x y := by
  intro c s₁ s₂ a₁ d₁ a₂ d₂ h₁ h₂
  have e₁ := hx.leaves (c.withSkip s₁)
  have e₂ := hy.leaves (c.withSkip s₂)
  rw [h₁] at e₁
  rw [h₂] at e₂
  cases e₁
  cases e₂
  exact ⟨rfl, rfl, rfl⟩

theorem bind {x y : ControllerM α} {f g : α → ControllerM β} (hx : Agree x y)
    (hf : ∀ a, Agree (f a) (g a)) : Agree (x >>= f) (y >>= g) := by
  intro c s₁ s₂ b₁ d₁ b₂ d₂ h₁ h₂
  obtain ⟨a₁, e₁, hx₁, h₁⟩ := bind_eq_ok.1 h₁
  obtain ⟨a₂, e₂, hy₂, h₂⟩ := bind_eq_ok.1 h₂
  obtain ⟨rfl, he₁, rfl⟩ := hx c s₁ s₂ a₁ e₁ a₂ e₂ hx₁ hy₂
  rw [← Controller.withSkip_of_skipFlags he₁] at h₁
  exact hf _ e₁ s₁ s₂ b₁ d₁ b₂ d₂ h₁ h₂

/-- Blocks that read the state, each run from its own. -/
theorem get_bind {f g : Controller → ControllerM α}
    (h : ∀ c s₁ s₂, AgreeAt (f (c.withSkip s₁)) (g (c.withSkip s₂)) c s₁ s₂) :
    Agree (MonadState.get >>= f) (MonadState.get >>= g) := by
  intro c s₁ s₂ a₁ d₁ a₂ d₂ h₁ h₂
  rw [bind_apply, get_apply] at h₁ h₂
  exact h c s₁ s₂ a₁ d₁ a₂ d₂ h₁ h₂

/-- Blocks that read only what the skip flags leave alone. -/
theorem get_bind_of_read {f g : Controller → ControllerM α} (hf : ∀ c s, f (c.withSkip s) = f c)
    (hg : ∀ c s, g (c.withSkip s) = g c) (h : ∀ c, Agree (f c) (g c)) :
    Agree (MonadState.get >>= f) (MonadState.get >>= g) :=
  get_bind fun c s₁ s₂ => by rw [hf, hg]; exact h c c s₁ s₂

/-- A check that either run may skip, in front of the rest of the block: where both runs
go on, they go on from the states they started in. -/
theorem guard {p₁ p₂ : Prop} [Decidable p₁] [Decidable p₂] {u₁ u₂ : ControllerM Unit}
    {K K' : Unit → ControllerM α} (hu₁ : Moves Unchanged u₁) (hu₂ : Moves Unchanged u₂)
    (hK : Agree (K ()) (K' ())) :
    Agree (if p₁ then u₁ >>= K else Pure.pure () >>= K)
      (if p₂ then u₂ >>= K' else Pure.pure () >>= K') := by
  have h {u u' : ControllerM Unit} (hu : Moves Unchanged u) (hu' : Moves Unchanged u') :
      Agree (u >>= K) (u' >>= K') := bind (of_unchanged hu hu') fun _ => hK
  split <;> split
  all_goals first
    | exact h hu₁ hu₂ | exact h hu₁ (Moves.pure _) | exact h (Moves.pure _) hu₂
    | exact h (Moves.pure _) (Moves.pure _)

end Agree

section Runs

variable (env : Env)

/-- Under any two skip sets `validate_block_header` returns the same producer where it
returns in both: the skip flags only decide whether two checks run. -/
theorem validateBlockHeader_agree (t₁ t₂ : Nat) (b : SignedBlock) :
    Agree (validateBlockHeader env t₁ b) (validateBlockHeader env t₂ b) := by
  unfold validateBlockHeader
  refine Agree.get_bind_of_read (fun _ _ => rfl) (fun _ _ => rfl) fun c => ?_
  dsimp only
  repeat' with_reducible
    first
    | refine Agree.guard (Moves.fcAssert _ _ _) (Moves.fcAssert _ _ _) ?_
    | apply Agree.bind | exact Agree.of_blind (Blind.fcAssert _ _ _)
    | exact Agree.of_blind (getScheduledProducer_blind env _)
    | exact Agree.of_blind (getProducer_blind _) | exact Agree.of_blind (Blind.pure _) | intro _

theorem finalizeBlock_agree (trace : BlockTrace) :
    Agree (finalizeBlock env trace) (finalizeBlock env trace) := by
  unfold finalizeBlock
  refine Agree.get_bind fun c s₁ s₂ => ?_
  exact Agree.bind (validateBlockHeader_agree env s₁ s₂ _) (fun p => Agree.of_blind <|
    Blind.bind (updateGlobalProperties_blind env _) fun _ =>
    Blind.bind (updateGlobalDynamicData_blind env _) fun _ =>
    Blind.bind (updateSigningProducer_blind env p _) fun _ =>
    Blind.bind (updateLastIrreversibleBlock_blind env) fun _ => createBlockSummary_blind env _)
    c s₁ s₂

/-- Two runs of __apply_block under different skip flags that both return leave the same
state, flags apart. -/
theorem applyBlockBody_agree (b : SignedBlock) : Agree (__applyBlock env b) (__applyBlock env b) := by
  unfold __applyBlock
  refine Agree.get_bind fun c s₁ s₂ => ?_
  exact Agree.bind (validateBlockHeader_agree env s₁ s₂ _) (fun _ =>
    Agree.bind (.of_blind (Blind.fcAssert _ _ _)) fun _ =>
    Agree.bind (.of_blind (applyRegions_blind env _ _ _)) fun _ =>
    Agree.bind (.of_blind (Blind.fcAssert _ _ _)) fun _ => finalizeBlock_agree env _) c s₁ s₂

/-- A run under withSkipFlags that returns is the inner run from the state with the new
flags, with the old flags put back. -/
theorem withSkipFlags_ok {α : Type} {t : Nat} {x : ControllerM α} {c c' : Controller} {a : α}
    (h : withSkipFlags t x c = .ok a c') :
    ∃ d, x (c.withSkip t) = .ok a d ∧ c' = d.withSkip c.skipFlags := by
  unfold withSkipFlags at h
  simp only [bind_apply, get_apply, modify_apply, tryCatch_apply] at h
  cases hx : x (c.withSkip t) with
  | ok a' d =>
    rw [show ({ c with skipFlags := t } : Controller) = c.withSkip t from rfl, hx] at h
    simp only [pure_apply, EStateM.Result.ok.injEq] at h
    exact ⟨d, h.1 ▸ rfl, h.2.symm⟩
  | error e d =>
    rw [show ({ c with skipFlags := t } : Controller) = c.withSkip t from rfl, hx] at h
    simp at h

/-- From `c₀`, a block of unit type returns in exactly the states its run from `c₀`
returns in. -/
theorem Triple.returns (x : ControllerM Unit) (c₀ : Controller) :
    Triple (· = c₀) x (fun c' => x c₀ = .ok () c') (fun _ => True) :=
  ⟨fun c hc => by
    subst hc
    cases x c with
    | ok _ _ => rfl
    | error _ _ => trivial⟩

/-- The checkpoint gate of `_apply_block` only checks: it goes on to `__apply_block` under
the flags it picks, from the state it was called in. -/
theorem applyBlock_gate (b : SignedBlock) (s : Nat) (c : Controller) :
    Triple (· = c) (_applyBlock env b s)
      (fun c' => withSkipFlags (c.checkpointSkip b.blockNum s) (__applyBlock env b) c = .ok () c')
      (fun _ => True) := by
  unfold _applyBlock
  refine Triple.get_bind_self ?_
  repeat' split
  all_goals first
    | exact Triple.bind (Triple.fcAssert _ _ _ fun _ _ => trivial) fun _ => Triple.returns _ c
    | exact Triple.bind (Triple.pure _ fun _ h => h) fun _ => Triple.returns _ c

/-- A call of `_apply_block` that returns ran `__apply_block` from the state it was called
in, under the flags the checkpoint gate picks, and put the caller's flags back. -/
theorem applyBlock_ok {b : SignedBlock} {s : Nat} {c c' : Controller}
    (h : _applyBlock env b s c = .ok () c') :
    ∃ d, __applyBlock env b (c.withSkip (c.checkpointSkip b.blockNum s)) = .ok () d ∧
      c' = d.withSkip c.skipFlags := by
  have hg := (applyBlock_gate env b s c).run c rfl
  rw [h] at hg
  exact withSkipFlags_ok hg

/-- Whatever the two skip sets, two calls of `_apply_block` with the same block that both
return from the same state leave the same state. -/
theorem applyBlock_skip_independent (b : SignedBlock) (s₁ s₂ : Nat) (c c₁ c₂ : Controller)
    (h₁ : _applyBlock env b s₁ c = .ok () c₁) (h₂ : _applyBlock env b s₂ c = .ok () c₂) :
    c₁ = c₂ := by
  obtain ⟨d₁, hd₁, rfl⟩ := applyBlock_ok env h₁
  obtain ⟨d₂, hd₂, rfl⟩ := applyBlock_ok env h₂
  obtain ⟨-, -, rfl⟩ := applyBlockBody_agree env b c _ _ () d₁ () d₂ hd₁ hd₂
  rfl

/-- Blocks applied one after another, each by `_apply_block`, from the same state under
any two skip sets: where both runs return, they leave the same state. Replay is the run
under `replaySkip`, and a live node's the run under the flags it was given. -/
theorem applyBlocks_skip_independent (s₁ s₂ : Nat) :
    ∀ (blocks : List SignedBlock) (c c₁ c₂ : Controller),
      blocks.forM (fun b => _applyBlock env b s₁) c = .ok () c₁ →
      blocks.forM (fun b => _applyBlock env b s₂) c = .ok () c₂ → c₁ = c₂
  | [], c, c₁, c₂, h₁, h₂ => by
    simp only [List.forM, pure_apply, EStateM.Result.ok.injEq, true_and] at h₁ h₂
    exact h₁.symm.trans h₂
  | b :: rest, c, c₁, c₂, h₁, h₂ => by
    simp only [List.forM] at h₁ h₂
    obtain ⟨_, e₁, he₁, h₁⟩ := bind_eq_ok.1 h₁
    obtain ⟨_, e₂, he₂, h₂⟩ := bind_eq_ok.1 h₂
    obtain ⟨d₁, hd₁, rfl⟩ := applyBlock_ok env he₁
    obtain ⟨d₂, hd₂, rfl⟩ := applyBlock_ok env he₂
    obtain ⟨-, -, rfl⟩ := applyBlockBody_agree env b c _ _ () d₁ () d₂ hd₁ hd₂
    exact applyBlocks_skip_independent s₁ s₂ rest _ c₁ c₂ h₁ h₂

end Runs

set_option smartUnfolding false in
/-- The first block of the deployment `lagConfig`, applied from the constructed controller
as a live node does, with no skip, and as `replay` does. -/
theorem applyBlock_skip_independent_lagB1 :
    _applyBlock (sampleEnv lagConfig) lagB1 0 lagStart =
        .ok () (resultState (_applyBlock (sampleEnv lagConfig) lagB1 0 lagStart)) ∧
      _applyBlock (sampleEnv lagConfig) lagB1 replaySkip lagStart =
        .ok () (resultState (_applyBlock (sampleEnv lagConfig) lagB1 replaySkip lagStart)) ∧
      resultState (_applyBlock (sampleEnv lagConfig) lagB1 0 lagStart) =
        resultState (_applyBlock (sampleEnv lagConfig) lagB1 replaySkip lagStart) :=
  have h₁ : _applyBlock (sampleEnv lagConfig) lagB1 0 lagStart =
      .ok () (resultState (_applyBlock (sampleEnv lagConfig) lagB1 0 lagStart)) := by rfl
  have h₂ : _applyBlock (sampleEnv lagConfig) lagB1 replaySkip lagStart =
      .ok () (resultState (_applyBlock (sampleEnv lagConfig) lagB1 replaySkip lagStart)) := by rfl
  ⟨h₁, h₂, applyBlock_skip_independent (sampleEnv lagConfig) lagB1 0 replaySkip lagStart _ _ h₁ h₂⟩

/-- The first two blocks of the deployment `lagConfig`. -/
def lagChain : List SignedBlock := [lagB1, lagBlock [lagB1] 2]

set_option smartUnfolding false in
theorem applyBlocks_skip_independent_lagChain :
    lagChain.forM (fun b => _applyBlock (sampleEnv lagConfig) b 0) lagStart =
        .ok () (resultState (lagChain.forM (fun b => _applyBlock (sampleEnv lagConfig) b 0) lagStart)) ∧
      lagChain.forM (fun b => _applyBlock (sampleEnv lagConfig) b replaySkip) lagStart =
        .ok () (resultState
          (lagChain.forM (fun b => _applyBlock (sampleEnv lagConfig) b replaySkip) lagStart)) ∧
      resultState (lagChain.forM (fun b => _applyBlock (sampleEnv lagConfig) b 0) lagStart) =
        resultState (lagChain.forM (fun b => _applyBlock (sampleEnv lagConfig) b replaySkip) lagStart) :=
  have h₁ : lagChain.forM (fun b => _applyBlock (sampleEnv lagConfig) b 0) lagStart =
      .ok () (resultState (lagChain.forM (fun b => _applyBlock (sampleEnv lagConfig) b 0) lagStart)) := by
    rfl
  have h₂ : lagChain.forM (fun b => _applyBlock (sampleEnv lagConfig) b replaySkip) lagStart =
      .ok () (resultState
        (lagChain.forM (fun b => _applyBlock (sampleEnv lagConfig) b replaySkip) lagStart)) := by
    rfl
  ⟨h₁, h₂, applyBlocks_skip_independent (sampleEnv lagConfig) 0 replaySkip lagChain lagStart _ _ h₁ h₂⟩

/-! ### The flags between calls

`with_skip_flags` puts the caller's flags back whether its body returns or throws
(`withSkipFlags_restores`), and nothing outside it writes them. -/

section Between

variable (env : Env)

/-- The skip flags are as they were. -/
def SkipKept (c c' : Controller) : Prop := c'.skipFlags = c.skipFlags

instance : IsRefl Controller SkipKept := ⟨fun _ => rfl⟩

instance : IsTrans Controller SkipKept := ⟨fun _ _ _ h₁ h₂ => h₂.trans h₁⟩

theorem skipKept_update {f : Controller → Controller} (h : ∀ c, (f c).skipFlags = c.skipFlags) :
    Moves SkipKept (modify f : ControllerM PUnit) :=
  Moves.update h

theorem skipKept_modifyDb {f : Database → Database} : Moves SkipKept (modifyDb f) :=
  Moves.modifyDb fun _ => rfl

theorem skipKept_modifyForkDb {f : ForkDatabase → ForkDatabase} :
    Moves SkipKept (modifyForkDb f) :=
  Moves.modifyForkDb fun _ => rfl

/-- Whatever its body does to the flags, and however it ends, `with_skip_flags` leaves
the caller's flags. -/
theorem withSkipFlags_restores {α : Type} (skip : Nat) (x : ControllerM α) :
    Moves SkipKept (withSkipFlags skip x) := by
  refine ⟨fun c => ?_⟩
  simp only [withSkipFlags, bind_apply, get_apply, modify_apply, tryCatch_apply]
  cases x _ <;> rfl

theorem Call.run_skipKept (call : Call) : Moves SkipKept (call.run env) := by
  cases call with
  | pushBlock b skip => exact withSkipFlags_restores _ _
  | pushTransaction trx skip => exact (withSkipFlags_restores _ _).discard
  | generateBlock when producer key skip => exact (withSkipFlags_restores _ _).discard
  | popBlock =>
    exact popBlock_moves env (fun _ => skipKept_modifyDb) (fun _ => skipKept_modifyForkDb)
      (skipKept_update fun _ => rfl)
  | clearPending => exact skipKept_update fun _ => rfl
  | addCheckpoints checkpts => exact skipKept_update fun _ => rfl

/-- The constructor leaves the flags it started with: the genesis transaction and every
replayed block run under `with_skip_flags`. -/
theorem construct_skipKept (g : Genesis) : Moves SkipKept (construct env g) :=
  construct_moves env (fun _ => skipKept_modifyDb) (fun _ => skipKept_modifyForkDb)
    (fun b skip => applyBlock_moves env b skip fun t => withSkipFlags_restores t _)
    (fun _ => Moves.modifyObjects fun _ => rfl) (fun t x _ => withSkipFlags_restores t x)
    (fun _ => skipKept_update fun _ => rfl) g

variable {env}

theorem Step.skipFlags_eq {c c' : Controller} (h : Step env c c') : c'.skipFlags = c.skipFlags := by
  obtain ⟨call, hcall⟩ := h
  have := (Call.run_skipKept env call).leaves c
  rwa [resultState_of_continuation hcall] at this

theorem start_skipFlags {g : Genesis} {log : BlockLog} {c : Controller}
    (h : Controller.start env g log = some c) : c.skipFlags = 0 := by
  unfold Controller.start at h
  split at h
  · rename_i hr
    have := (construct_skipKept env g).leaves (Controller.fresh g log)
    rw [hr] at this
    rw [← Option.some.inj h]
    exact this
  · cases h

/-- No skip flag outlives the call that set it: in every reachable state the flags are 0,
as the constructor leaves them, so every call runs with the checks it does not skip
itself. -/
theorem reachable_skipFlags_eq_zero {c : Controller} (hc : Reachable env c) :
    c.skipFlags = 0 := by
  induction hc with
  | start h => exact start_skipFlags h
  | step _ hs ih => exact hs.skipFlags_eq.trans ih

set_option smartUnfolding false in
/-- The one call of `pushedOnceRun` set `trustedSkip`; after it the flags are 0. -/
theorem pushedOnceRun_skipFlags_eq_zero :
    Reachable (sampleEnv lagConfig) pushedOnceRun ∧ pushedOnceRun.skipFlags = 0 :=
  have h : Reachable (sampleEnv lagConfig) pushedOnceRun := reachable_run (by decide) (by decide)
  ⟨h, reachable_skipFlags_eq_zero h⟩

end Between

end EosChain
