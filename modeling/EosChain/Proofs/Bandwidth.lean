import Mathlib.Data.List.Dedup
import EosChain.Proofs.Speculative

/-!
# `EosChain.Proofs.Bandwidth`: a transaction charges each authorizing account once

`_apply_transaction` collects the actors of the authorities that the transaction's
actions declare into a `set<account_name>`. It then adds the transaction's size, its
bandwidth usage plus `fixed_bandwidth_overhead_per_transaction`, to the bandwidth usage
of each of them.

* `pushTransaction_charges_once`: when `push_transaction(trx, skip)` returns, the
  bandwidth usage table is the one it started from, except that every account that
  authorizes some action of `trx` is charged the transaction's size exactly once, however
  many of its actions it authorizes. No other account is charged. This holds as long as
  the contracts the actions run do not write the table themselves.

The set makes the charge once per account (`List.count_dedup`). The rest of
`_push_transaction` writes the pending layer, the undo history and the generated
transactions, never the table (`UsageKept`).
-/

set_option autoImplicit false

namespace EosChain

/-- The actors of every authority the actions of `trx` declare. -/
def Transaction.authorizers (trx : Transaction) : List AccountName :=
  trx.actions.flatMap fun act => act.authorization.map (·.actor)

/-- The bandwidth usage table `usage` with each account of `accounts` charged `size` once. -/
def chargeOnce (size : Nat) (accounts : List AccountName) (usage : List (AccountName × Nat)) :
    List (AccountName × Nat) :=
  usage.map fun u => if u.1 ∈ accounts then (u.1, u.2 + size) else u

/-! ### Frames of the bandwidth usage table -/

/-- The bandwidth usage table is as it was. -/
def UsageKept (c c' : Controller) : Prop :=
  c'.objects.ext.bandwidthUsage = c.objects.ext.bandwidthUsage

instance : IsRefl Controller UsageKept := ⟨fun _ => rfl⟩

instance : IsTrans Controller UsageKept := ⟨fun _ _ _ h₁ h₂ => h₂.trans h₁⟩

theorem usageKept_modifyObjects {f : Objects → Objects} (hf : ∀ o, (f o).ext = o.ext) :
    Moves UsageKept (modifyObjects f) :=
  Moves.modifyObjects fun c => congrArg ExtState.bandwidthUsage (hf c.db.objects)

theorem usageKept_modifyDb {f : Database → Database} (hf : ∀ d, (f d).objects = d.objects) :
    Moves UsageKept (modifyDb f) :=
  Moves.modifyDb fun c => (congrArg (·.ext.bandwidthUsage) (hf c.db) :)

theorem usageKept_update {f : Controller → Controller}
    (hf : ∀ c, (f c).db.objects = c.db.objects) : Moves UsageKept (modify f : ControllerM PUnit) :=
  Moves.update fun c => (congrArg (·.ext.bandwidthUsage) (hf c) :)

theorem usageKept_write {f : Controller → Controller} (h : ∀ c, PendingWrite c (f c)) :
    Moves UsageKept (modify f : ControllerM PUnit) :=
  usageKept_update fun c => (congrArg (·.db.objects) (h c).rest :)

/-- The bandwidth usage table is `U`. -/
def Usage (U : List (AccountName × Nat)) (c : Controller) : Prop :=
  c.objects.ext.bandwidthUsage = U

theorem usage_frame {U : List (AccountName × Nat)} {α : Type} {x : ControllerM α}
    (h : Moves UsageKept x) : Triple (Usage U) x (Usage U) (fun _ => True) :=
  Triple.frame h (fun _ _ h hc => h.trans hc) fun _ _ => trivial

/-! ### `_apply_transaction` -/

/-- The charge of one account keeps the account of every entry. -/
@[simp] theorem chargeStep_fst (size : Nat) (a : AccountName) (u : AccountName × Nat) :
    (if u.1 = a then (a, u.2 + size) else u).1 = u.1 := by
  split <;> simp_all

/-- The charge of `a` and then those of `rest` add `size` to an entry once for each time
its account occurs in `a :: rest`. -/
theorem map_chargeStep (size : Nat) (a : AccountName) (rest : List AccountName)
    (U : List (AccountName × Nat)) :
    (U.map fun u => if u.1 = a then (a, u.2 + size) else u).map
        (fun u => (u.1, u.2 + size * rest.count u.1)) =
      U.map fun u => (u.1, u.2 + size * (a :: rest).count u.1) := by
  rw [List.map_map]
  refine List.map_congr_left fun u _ => ?_
  by_cases hu : u.1 = a
  · simp [hu, List.count_cons, Nat.mul_succ, Nat.add_assoc, Nat.add_comm size]
  · simp [hu, List.count_cons, Ne.symm hu]

section Apply

variable (env : Env)
  (hexec : ∀ t a x x' res, env.exec t a x = .ok (x', res) → x'.bandwidthUsage = x.bandwidthUsage)
include hexec

theorem applyActions_usage (trx : Transaction) (U : List (AccountName × Nat)) :
    ∀ (acts : List Action) (result : TransactionTrace),
      Triple (Usage U) (applyActions env trx acts result) (Usage U) (fun _ => True)
  | [], _ => Triple.pure _ fun _ h => h
  | act :: rest, _ => by
    unfold applyActions
    refine Triple.get_bind fun c₀ =>
      Triple.liftExcept_bind (fun ⟨ext, res⟩ hx => ?_) fun _ _ => trivial
    refine Triple.bind (Triple.modifyObjects (Q := Usage U) fun c hc => ?_) fun _ =>
      applyActions_usage trx U rest _
    obtain ⟨hc, rfl⟩ := hc
    exact (hexec _ _ _ _ _ hx).trans hc

omit hexec in
/-- The loop over the authorizing accounts adds `size` to an account's usage once for each
time it occurs in the list. -/
theorem chargeBandwidth_usage (size : Nat) :
    ∀ (accounts : List AccountName) (U : List (AccountName × Nat)),
      Triple (Usage U) (chargeBandwidth size accounts)
        (Usage (U.map fun u => (u.1, u.2 + size * accounts.count u.1))) (fun _ => True)
  | [], U => Triple.pure _ fun c h => by simpa [Usage] using h
  | a :: rest, U => by
    unfold chargeBandwidth
    refine Triple.get_bind fun _ =>
      Triple.bind_keep (Triple.fcAssert _ _ _ fun _ _ => trivial) fun _ => Triple.bind
        (Triple.modifyObjects (Q := Usage (U.map fun u => if u.1 = a then (a, u.2 + size) else u))
          fun c hc => ?_) fun _ =>
      Triple.bind (Triple.fcAssert _ _ _ fun _ _ => trivial) fun _ =>
        (chargeBandwidth_usage size rest _).mono (fun _ h => h) (fun c h => ?_) fun _ h => h
    · show c.objects.ext.bandwidthUsage.map _ = _
      rw [hc.1]
    · rw [Usage, h, map_chargeStep]

/-- `_apply_transaction` charges each authorizing account the transaction's size once. -/
theorem applyTransaction_usage (meta : TransactionMetadata) (U : List (AccountName × Nat)) :
    Triple (Usage U) (applyTransaction env meta)
      (Usage (chargeOnce (meta.bandwidthUsage + env.cfg.fixedBandwidthOverheadPerTransaction)
        meta.trx.authorizers U)) (fun _ => True) := by
  unfold applyTransaction
  refine Triple.bind (applyActions_usage env hexec _ U _ _) fun _ =>
    Triple.bind ((chargeBandwidth_usage _ _ U).mono (fun _ h => h) (fun c h => ?_) fun _ h => h)
      fun _ => Triple.pure _ fun _ h => h
  rw [Usage, h]
  refine List.map_congr_left fun u _ => ?_
  simp only [List.count_dedup, (List.perm_insertionSort _ _).mem_iff, Transaction.authorizers]
  split_ifs <;> simp_all

/-- The transaction applied in the body of `_push_transaction` moves the table on to its
charged form for the rest of the block. -/
theorem applyTransaction_usage_bind {β : Type} (trx : SignedTransaction)
    (region cycle shard : Nat) {K : TransactionTrace → ControllerM β}
    {U : List (AccountName × Nat)} {Q : Controller → Prop}
    (hK : ∀ r, Triple (Usage (chargeOnce
      (env.bandwidthUsage trx + env.cfg.fixedBandwidthOverheadPerTransaction) trx.authorizers U))
      (K r) Q (fun _ => True)) :
    Triple (Usage U)
      (applyTransaction env (TransactionMetadata.make env trx region cycle shard) >>= K) Q
      (fun _ => True) :=
  Triple.bind (applyTransaction_usage env hexec _ U) hK

end Apply

/-! ### `push_transaction` -/

section Push

variable (env : Env)

theorem finalizePendingCycle_usageKept : Moves UsageKept (_finalizePendingCycle env) :=
  finalizePendingCycle_moves env (fun _ => usageKept_write) fun _ =>
    usageKept_modifyObjects fun _ => rfl

theorem startPendingBlock_usageKept : Moves UsageKept _startPendingBlock :=
  Moves.bind Moves.get fun _ => Moves.bind (Moves.fcAssert _ _ _) fun _ =>
    Moves.bind (usageKept_update fun _ => rfl) fun _ =>
      startPendingCycle_moves fun _ => usageKept_write

variable (hexec : ∀ t a x x' res, env.exec t a x = .ok (x', res) →
  x'.bandwidthUsage = x.bandwidthUsage)
include hexec

theorem pushTransactionBody_usage (trx : SignedTransaction) (U : List (AccountName × Nat)) :
    Triple (Usage U) (pushTransactionBody env trx)
      (Usage (chargeOnce (env.bandwidthUsage trx + env.cfg.fixedBandwidthOverheadPerTransaction)
        trx.authorizers U)) (fun _ => True) := by
  unfold pushTransactionBody
  dsimp only
  repeat' with_reducible
    first
    | apply applyTransaction_usage_bind env hexec
    | apply Triple.ite_join | apply Triple.bind_keep | apply Triple.ite | intro _
    | exact Triple.abortWith _ fun _ _ => trivial
    | exact Triple.pure _ fun _ h => h | exact Triple.get
    | exact usage_frame (Moves.of_unchanged (validateReferencedAccounts_unchanged env _))
    | exact usage_frame (Moves.of_unchanged (checkTransactionAuthorization_unchanged env _ _))
    | exact usage_frame (Moves.of_unchanged pendingBlockRef_unchanged)
    | exact usage_frame (schedulePending_moves (fun _ => usageKept_write) _)
    | exact usage_frame (finalizePendingCycle_usageKept env)
    | exact usage_frame (startPendingCycle_moves fun _ => usageKept_write)
    | exact usage_frame (startPendingShard_moves fun _ => usageKept_write)
    | exact usage_frame (appendReceipt_moves (fun _ => usageKept_write) _ _)
    | exact usage_frame (appendShardTrace_moves (fun _ => usageKept_write) _ _)
    | exact usage_frame (usageKept_write fun _ => ⟨rfl, fun _ => Option.isSome_some⟩)
    | split

theorem pushTransactionImpl_usage (trx : SignedTransaction) (U : List (AccountName × Nat)) :
    Triple (Usage U) (_pushTransaction env trx)
      (Usage (chargeOnce (env.bandwidthUsage trx + env.cfg.fixedBandwidthOverheadPerTransaction)
        trx.authorizers U)) (fun _ => True) := by
  unfold _pushTransaction
  dsimp only
  repeat' with_reducible
    first
    | exact Triple.bind (Triple.tryCatch (pushTransactionBody_usage env hexec trx U) fun _ =>
        Triple.bind (Triple.top _) fun _ => Triple.throw _ fun _ h => h) fun _ =>
      Triple.bind_keep (usage_frame (usageKept_modifyDb fun d => d.squash_objects)) fun _ =>
        Triple.pure _ fun _ h => h
    | apply Triple.ite_join | apply Triple.bind_keep
    | exact Triple.pure _ fun _ h => h | exact Triple.get
    | exact usage_frame (startPendingBlock_usageKept)
    | exact usage_frame (usageKept_modifyDb fun d => d.startUndoSession_objects)
    | intro _

end Push

/-- `push_transaction(trx, skip)` charges bandwidth once per authorizing account: when it
returns, every account that authorizes some action of `trx` is charged the transaction's
size once, however many actions it authorizes, and every other account is left alone, as
long as the contracts do not write the bandwidth usage table. -/
theorem pushTransaction_charges_once (env : Env)
    (hexec : ∀ t a x x' res, env.exec t a x = .ok (x', res) →
      x'.bandwidthUsage = x.bandwidthUsage)
    (trx : SignedTransaction) (skip : Nat) {c c' : Controller} {r : TransactionTrace}
    (h : pushTransaction env trx skip c = .ok r c') :
    c'.objects.ext.bandwidthUsage =
      chargeOnce (env.bandwidthUsage trx + env.cfg.fixedBandwidthOverheadPerTransaction)
        trx.authorizers c.objects.ext.bandwidthUsage := by
  have := (Triple.withSkipFlags skip (pushTransactionImpl_usage env hexec trx _)
    (fun _ _ h => h) (fun _ _ h => h) fun _ _ => id).run c rfl
  unfold pushTransaction at h
  rw [h] at this
  exact this

/-- Two actions on the producers account, each declaring `prodA`'s active authority. -/
def twiceAuthorizedTrx : SignedTransaction :=
  ⟨⟨0, 0, 0, [], [1], [⟨3, 5, [⟨prodA, 4⟩], []⟩, ⟨3, 6, [⟨prodA, 4⟩], []⟩]⟩, []⟩

/-- The collaborators of the deployment `lagConfig`, with every transaction 7 bytes long. -/
def meteredEnv : Env := { sampleEnv lagConfig with bandwidthUsage := fun _ => 7 }

/-- `lagStart` with an active permission for `prodA`. -/
def permittedStart : Controller :=
  { lagStart with db := { lagStart.db with objects := { lagStart.objects with ext :=
    { lagStart.objects.ext with
      permissions := ⟨prodA, 4, 4, ⟨1, [], []⟩⟩ :: lagStart.objects.ext.permissions } } } }

set_option smartUnfolding false in
/-- `prodA` authorizes both actions of `twiceAuthorizedTrx` and is charged 7 once. -/
theorem pushTransaction_charges_once_twiceAuthorized :
    (∀ t a x x' res, meteredEnv.exec t a x = .ok (x', res) →
        x'.bandwidthUsage = x.bandwidthUsage) ∧
      (∃ r, pushTransaction meteredEnv twiceAuthorizedTrx trustedSkip permittedStart = .ok r
        (resultState (pushTransaction meteredEnv twiceAuthorizedTrx trustedSkip permittedStart))) ∧
      (resultState (pushTransaction meteredEnv twiceAuthorizedTrx trustedSkip
          permittedStart)).objects.ext.bandwidthUsage =
        chargeOnce (meteredEnv.bandwidthUsage twiceAuthorizedTrx +
            meteredEnv.cfg.fixedBandwidthOverheadPerTransaction)
          twiceAuthorizedTrx.authorizers permittedStart.objects.ext.bandwidthUsage :=
  have hexec : ∀ t a x x' res, meteredEnv.exec t a x = .ok (x', res) →
      x'.bandwidthUsage = x.bandwidthUsage := fun _ _ _ _ _ h => by cases h; rfl
  have h : ∃ r, pushTransaction meteredEnv twiceAuthorizedTrx trustedSkip permittedStart = .ok r
      (resultState (pushTransaction meteredEnv twiceAuthorizedTrx trustedSkip permittedStart)) :=
    ⟨_, rfl⟩
  ⟨hexec, h, h.elim fun _ h => pushTransaction_charges_once meteredEnv hexec _ _ h⟩

end EosChain
