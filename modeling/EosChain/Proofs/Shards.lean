import EosChain.Proofs.Bandwidth

/-!
# `EosChain.Proofs.Shards`: the shards of a cycle never conflict

`_push_transaction` applies transactions one after another, but places each into a shard
of the current cycle through `_pending_cycle.schedule(trx)`, so that the shards of one
cycle can run in parallel ("for now apply the transaction serially but schedule it
according to those invariants"). Two transactions conflict when one writes a scope the
other reads or writes. The scheduler remembers the scopes read in the cycle and the
shard each written scope went to (`PendingCycleState`, modelled from the spec).

* `schedule_places_without_conflict`: over every sequence of `schedule` calls from a
  fresh cycle, no two transactions placed in different shards conflict; and a fresh cycle
  places every transaction, in shard 0, so the second `schedule` of `_push_transaction`,
  after a conflict has started a new cycle, never fails.
* `shards_interleave_as_serial`: the shards of a cycle may run, through the model's
  `_apply_transaction`, in any interleaving that keeps each shard's own order, and end in
  the state, or the failure, of the order in which `_push_transaction` applied them. The
  order in which `__apply_block` replays a cycle, shard after shard, is one such
  interleaving (`replayOrder_filter`).

The proof of the first keeps one invariant of the scheduler's state against the
placements made so far (`Tracks`): every scope a placed transaction reads is recorded as
read, and every scope it writes is recorded under its shard. A write to a recorded read is
refused, and a recorded write forces its shard, so a new placement never conflicts with an
older one in another shard.

For the second, `_apply_transaction` changes nothing but the contract-side state: it runs
the actions through the sandbox and then charges the authorizing accounts
(`applyTransaction_extEffect`). The sandbox is not under `src/`; the scopes promise two
laws of it. Actions of transactions that do not conflict commute (`Env.KeepsScopes`), and
an action neither reads nor writes the bandwidth usage or the staked balances
(`Env.LeavesCharges`). Under them two transactions that do not conflict commute
(`applyStep_comm`): the charges add up in either order and check only what no action
writes. Without the second law a contract that unstakes an account could make a later
charge's check fail in one order and pass in the other.
-/

set_option autoImplicit false

namespace EosChain

/-- Two transactions conflict when one writes a scope the other reads or writes. -/
def Transaction.Conflicts (t u : Transaction) : Prop :=
  (∃ s ∈ t.writeScope, s ∈ u.writeScope ∨ s ∈ u.readScope) ∨ ∃ s ∈ u.writeScope, s ∈ t.readScope

theorem Transaction.conflicts_comm {t u : Transaction} : t.Conflicts u ↔ u.Conflicts t := by
  unfold Transaction.Conflicts
  constructor <;>
  · rintro (⟨s, hs, hu | hu⟩ | ⟨s, hs, ht⟩)
    · exact .inl ⟨s, hu, .inl hs⟩
    · exact .inr ⟨s, hs, hu⟩
    · exact .inl ⟨s, hs, .inr ht⟩

namespace PendingCycleState

/-- The shard a written scope is recorded under. -/
def shardOf (p : PendingCycleState) (s : ScopeName) : Option Nat :=
  (p.writeScopeToShard.find? (·.1 = s)).map (·.2)

/-- The placements of a sequence of `schedule` calls: each placed transaction with its
shard; a refused transaction leaves the state as it was. -/
def placeAll : PendingCycleState → List Transaction → List (Transaction × Nat)
  | _, [] => []
  | p, trx :: rest =>
    match p.schedule trx with
    | (some k, p') => (trx, k) :: placeAll p' rest
    | (none, p') => placeAll p' rest

theorem forcedShard_cons (p : PendingCycleState) (writes : Bool) (s : ScopeName)
    (rest : List ScopeName) (cur : Option Nat) :
    p.forcedShard writes (s :: rest) (some cur) =
      if writes ∧ s ∈ p.readScopes then none
      else match p.shardOf s, cur with
        | none, _ => p.forcedShard writes rest (some cur)
        | some k, none => p.forcedShard writes rest (some (some k))
        | some k, some c => if k = c then p.forcedShard writes rest (some cur) else none :=
  rfl

/-- What `forcedShard` checks of each scope: a write to a recorded read is refused, and a
recorded write forces its shard, as does the shard forced before. -/
theorem forcedShard_spec (p : PendingCycleState) (writes : Bool) :
    ∀ (l : List ScopeName) (acc : Option (Option Nat)) (cur : Option Nat),
      p.forcedShard writes l acc = some cur →
      ∃ cur₀, acc = some cur₀ ∧ (∀ k, cur₀ = some k → cur = some k) ∧
        ∀ s ∈ l, (writes = true → s ∉ p.readScopes) ∧ ∀ k, p.shardOf s = some k → cur = some k
  | [], none, _, h => nomatch h
  | [], some c, _, h => by
    obtain rfl := Option.some.inj h
    exact ⟨c, rfl, fun _ h => h, fun _ h => absurd h (List.not_mem_nil _)⟩
  | _ :: _, none, _, h => nomatch h
  | s :: rest, some c₀, cur, h => by
    -- the scope moves the forced shard on from `c₀` to a `c` that keeps `c₀` and the
    -- shard `s` was recorded under
    obtain ⟨hread, c, hc, hs, hc₀⟩ : ¬(writes = true ∧ s ∈ p.readScopes) ∧
        ∃ c, p.forcedShard writes rest (some c) = some cur ∧
          (∀ k, p.shardOf s = some k → c = some k) ∧ ∀ k, c₀ = some k → c = some k := by
      rw [forcedShard_cons] at h
      split_ifs at h with hread
      refine ⟨hread, ?_⟩
      rcases hs : p.shardOf s with _ | k <;> rcases c₀ with _ | c₀ <;> simp only [hs] at h
      · exact ⟨_, h, fun _ h => (nomatch h), fun _ h => (nomatch h)⟩
      · exact ⟨_, h, fun _ h => (nomatch h), fun _ h => h⟩
      · exact ⟨_, h, fun _ h => h, fun _ h => (nomatch h)⟩
      · split_ifs at h with hkc
        exact ⟨_, h, fun _ h => hkc ▸ h, fun _ h => h⟩
    obtain ⟨_, he, hk, hl⟩ := forcedShard_spec p writes rest _ cur hc
    cases he
    refine ⟨c₀, rfl, fun k h => hk k (hc₀ k h), ?_⟩
    rintro x (_ | ⟨_, hx⟩)
    · exact ⟨fun hw hr => hread ⟨hw, hr⟩, fun k h => hk k (hs k h)⟩
    · exact hl x hx

/-- A refused transaction leaves the state as it was. -/
theorem schedule_none {p p' : PendingCycleState} {trx : Transaction}
    (h : p.schedule trx = (none, p')) : p' = p := by
  unfold schedule at h
  split at h
  · cases h; rfl
  · rename_i cur _
    cases cur <;> cases h

/-- What a placement in shard `k` checked and recorded: no scope it writes was read before,
every recorded scope it reads or writes is in shard `k`, and its scopes are recorded. -/
theorem schedule_some {p p' : PendingCycleState} {trx : Transaction} {k : Nat}
    (h : p.schedule trx = (some k, p')) :
    (∀ s ∈ trx.writeScope, s ∉ p.readScopes) ∧
      (∀ s, s ∈ trx.writeScope ∨ s ∈ trx.readScope → ∀ j, p.shardOf s = some j → j = k) ∧
      p'.readScopes = p.readScopes ++ trx.readScope ∧
      p'.writeScopeToShard = trx.writeScope.map (·, k) ++ p.writeScopeToShard := by
  unfold schedule at h
  split at h
  · cases h
  rename_i cur hr
  obtain ⟨cw, hw, hwk, hrl⟩ := forcedShard_spec p false _ _ _ hr
  obtain ⟨_, he, -, hwl⟩ := forcedShard_spec p true _ _ _ hw
  cases he
  have forced : ∀ s, s ∈ trx.writeScope ∨ s ∈ trx.readScope →
      ∀ j, p.shardOf s = some j → cur = some j := by
    rintro s (hs | hs) j hj
    · exact hwk j ((hwl s hs).2 j hj)
    · exact (hrl s hs).2 j hj
  have unread : ∀ s ∈ trx.writeScope, s ∉ p.readScopes := fun s hs => (hwl s hs).1 rfl
  cases cur with
  | none =>
    cases h
    exact ⟨unread, fun s hs j hj => (nomatch forced s hs j hj), rfl, rfl⟩
  | some c =>
    cases h
    exact ⟨unread, fun s hs j hj => (Option.some.inj (forced s hs j hj)).symm, rfl, rfl⟩

/-- The shard of a scope after a placement in shard `k`: `k` for the scopes it wrote, as
before for the others. -/
theorem shardOf_placed {p p' : PendingCycleState} {ws : List ScopeName} {k : Nat}
    (h : p'.writeScopeToShard = ws.map (·, k) ++ p.writeScopeToShard) (s : ScopeName) :
    p'.shardOf s = if s ∈ ws then some k else p.shardOf s := by
  unfold shardOf
  rw [h]
  clear h
  induction ws with
  | nil => simp
  | cons w ws ih =>
    by_cases hw : w = s
    · subst hw; simp
    · simp only [List.map_cons, List.cons_append, List.find?_cons, hw, decide_False, ih,
        List.mem_cons, Ne.symm hw, false_or]

/-- A fresh cycle forces no shard. -/
theorem forcedShard_empty (writes : Bool) :
    ∀ (l : List ScopeName) (cur : Option Nat), empty.forcedShard writes l (some cur) = some cur
  | [], _ => rfl
  | _ :: l, cur => by
    rw [forcedShard_cons, if_neg fun h => List.not_mem_nil _ h.2]
    exact forcedShard_empty writes l cur

/-- The state records the placements `placed`: every scope they read is recorded as read,
and every scope they write is recorded under their shard. -/
structure Tracks (p : PendingCycleState) (placed : List (Transaction × Nat)) : Prop where
  reads : ∀ x ∈ placed, ∀ s ∈ x.1.readScope, s ∈ p.readScopes
  writes : ∀ x ∈ placed, ∀ s ∈ x.1.writeScope, p.shardOf s = some x.2

theorem tracks_empty : Tracks empty [] :=
  ⟨fun _ h => absurd h (List.not_mem_nil _), fun _ h => absurd h (List.not_mem_nil _)⟩

/-- Two placements are apart when they share a shard or do not conflict. -/
def Apart (x y : Transaction × Nat) : Prop := x.2 ≠ y.2 → ¬ x.1.Conflicts y.1

theorem apart_comm {x y : Transaction × Nat} (h : Apart x y) : Apart y x :=
  fun hne hc => h (Ne.symm hne) (Transaction.conflicts_comm.mp hc)

variable {p p' : PendingCycleState} {placed : List (Transaction × Nat)} {trx : Transaction}
  {k : Nat}

/-- A new placement is apart from every placement the state records. -/
theorem Tracks.schedule_apart (hp : Tracks p placed) (h : p.schedule trx = (some k, p')) :
    ∀ y ∈ placed, Apart (trx, k) y := by
  obtain ⟨unread, forced, -, -⟩ := schedule_some h
  rintro ⟨t, j⟩ hm hne (⟨s, hs, ht | ht⟩ | ⟨s, ht, hs⟩)
  · exact hne (forced s (.inl hs) j (hp.writes _ hm s ht)).symm
  · exact unread s hs (hp.reads _ hm s ht)
  · exact hne (forced s (.inr hs) j (hp.writes _ hm s ht)).symm

/-- A placement keeps the invariant, with the new placement recorded. -/
theorem Tracks.schedule (hp : Tracks p placed) (h : p.schedule trx = (some k, p')) :
    Tracks p' ((trx, k) :: placed) := by
  obtain ⟨-, forced, hr, hw⟩ := schedule_some h
  constructor
  · rintro x (_ | ⟨_, hx⟩) s hs <;> rw [hr]
    · exact List.mem_append_right _ hs
    · exact List.mem_append_left _ (hp.reads x hx s hs)
  · rintro x (_ | ⟨_, hx⟩) s hs <;> rw [shardOf_placed hw]
    · exact if_pos hs
    · split_ifs with hs'
      · exact congrArg some (forced s (.inl hs') _ (hp.writes x hx s hs)).symm
      · exact hp.writes x hx s hs

/-- Over a run of placements from a state that records `placed`, every new placement is
apart from the recorded ones and from the other new ones. -/
theorem Tracks.placeAll (hp : Tracks p placed) (trxs : List Transaction) :
    (∀ x ∈ p.placeAll trxs, ∀ y ∈ placed, Apart x y) ∧ (p.placeAll trxs).Pairwise Apart := by
  induction trxs generalizing p placed with
  | nil => exact ⟨fun _ h => absurd h (List.not_mem_nil _), .nil⟩
  | cons trx trxs ih =>
    unfold PendingCycleState.placeAll
    split
    · rename_i k p' h
      obtain ⟨old, new⟩ := ih (hp.schedule h)
      refine ⟨?_, .cons (fun y hy => apart_comm (old y hy _ (List.mem_cons_self _ _))) new⟩
      rintro x (_ | ⟨_, hx⟩)
      · exact hp.schedule_apart h
      · exact fun y hy => old x hx y (List.mem_cons_of_mem _ hy)
    · rename_i p' h
      cases schedule_none h
      exact ih hp

end PendingCycleState

/-! ### What `_apply_transaction` does to the state -/

/-- The controller with the contract-side state `x`. -/
def Controller.withExt (c : Controller) (x : ExtState) : Controller :=
  { c with db := c.db.modify fun o => { o with ext := x } }

@[simp] theorem Controller.withExt_ext (c : Controller) (x : ExtState) :
    (c.withExt x).objects.ext = x := rfl

@[simp] theorem Controller.withExt_self (c : Controller) : c.withExt c.objects.ext = c := rfl

/-- The state a method leaves when it returns; `none` when it fails. -/
def okState {α : Type} : EStateM.Result Failure Controller α → Option Controller
  | .ok _ c => some c
  | .error _ _ => none

/-- `x` changes nothing but the contract-side state, which it takes through `f`; it fails
exactly when `f` does. -/
def ExtEffect {α : Type} (x : ControllerM α) (f : ExtState → Option ExtState) : Prop :=
  ∀ c, okState (x c) = (f c.objects.ext).map c.withExt

theorem ExtEffect.bind {α β : Type} {x : ControllerM α} {g : α → ControllerM β}
    {f h : ExtState → Option ExtState} (hx : ExtEffect x f) (hg : ∀ a, ExtEffect (g a) h) :
    ExtEffect (x >>= g) fun e => (f e).bind h := by
  intro c
  have hc := hx c
  rw [bind_apply]
  cases hr : x c with
  | ok a c' =>
    obtain ⟨y, hy, rfl⟩ : ∃ y, f c.objects.ext = some y ∧ c.withExt y = c' := by
      simpa [hr, okState] using hc.symm
    simp only [hy, Option.some_bind]
    exact hg a (c.withExt y)
  | error e c' =>
    rw [hr, okState, eq_comm, Option.map_eq_none'] at hc
    simp [hc, okState]

theorem ExtEffect.bind_pure {α β : Type} {x : ControllerM α} {k : α → β}
    {f : ExtState → Option ExtState} (hx : ExtEffect x f) :
    ExtEffect (x >>= fun a => pure (k a)) f := by
  intro c
  have hc := hx c
  rw [bind_apply]
  cases hr : x c <;> rw [hr] at hc <;> exact hc

/-- `apply_context(...).exec()` of one action, its traces dropped: the new contract-side
state, `none` when the action fails. -/
def Env.actionStep (env : Env) (trx : Transaction) (act : Action) (x : ExtState) :
    Option ExtState :=
  match env.exec trx act x with
  | .ok (x', _) => some x'
  | .error _ => none

/-- The contract-side state after the actions `acts` of `trx` ran one after another. -/
def Env.runActions (env : Env) (trx : Transaction) : List Action → ExtState → Option ExtState
  | [], x => some x
  | act :: rest, x => (env.actionStep trx act x).bind (env.runActions trx rest)

/-- The two lookups of the loop of `_apply_transaction` over the authorizing accounts
succeed for every account of `accounts`: its bandwidth usage and its staked balance
exist. -/
def ExtState.chargeable (x : ExtState) (accounts : List AccountName) : Bool :=
  accounts.all fun a => x.bandwidthUsage.any (·.1 = a) && decide (a ∈ x.stakedBalances)

/-- The bandwidth usage with `size` added to an account's usage once for each time it
occurs in `accounts`. -/
def ExtState.charge (x : ExtState) (size : Nat) (accounts : List AccountName) : ExtState :=
  { x with bandwidthUsage := x.bandwidthUsage.map fun u => (u.1, u.2 + size * accounts.count u.1) }

@[simp] theorem ExtState.chargeable_charge (x : ExtState) (size : Nat)
    (accounts accounts' : List AccountName) :
    (x.charge size accounts).chargeable accounts' = x.chargeable accounts' := by
  simp only [chargeable, charge, List.any_map, Function.comp_def]

theorem ExtState.charge_comm (x : ExtState) (size size' : Nat)
    (accounts accounts' : List AccountName) :
    (x.charge size accounts).charge size' accounts' = (x.charge size' accounts').charge size accounts := by
  simp only [charge, List.map_map, Function.comp_def, Nat.add_right_comm]

/-- What the loop of `_apply_transaction` over the authorizing accounts does to the
contract-side state. -/
def chargeExt (size : Nat) (accounts : List AccountName) (x : ExtState) : Option ExtState :=
  if x.chargeable accounts then some (x.charge size accounts) else none

theorem chargeExt_cons (size : Nat) (a : AccountName) (rest : List AccountName) (x : ExtState) :
    chargeExt size (a :: rest) x =
      if x.bandwidthUsage.any (·.1 = a) && decide (a ∈ x.stakedBalances) then
        chargeExt size rest { x with
          bandwidthUsage := x.bandwidthUsage.map fun u => if u.1 = a then (a, u.2 + size) else u }
      else none := by
  have hkeys : ∀ b, (x.bandwidthUsage.map fun u => if u.1 = a then (a, u.2 + size) else u).any
      (·.1 = b) = x.bandwidthUsage.any (·.1 = b) := fun b => by
    simp only [List.any_map, Function.comp_def, chargeStep_fst]
  unfold chargeExt ExtState.chargeable
  rw [List.all_cons]
  cases x.bandwidthUsage.any (·.1 = a) && decide (a ∈ x.stakedBalances)
  · rfl
  · simp only [Bool.true_and, hkeys, if_true]
    split_ifs
    · simp only [ExtState.charge, map_chargeStep]
    · rfl

theorem chargeBandwidth_extEffect (size : Nat) :
    ∀ accounts : List AccountName,
      ExtEffect (chargeBandwidth size accounts) (chargeExt size accounts)
  | [] => fun c => by simp [chargeBandwidth, chargeExt, ExtState.chargeable, ExtState.charge, okState]; rfl
  | a :: rest => fun c => by
    rw [chargeExt_cons]
    simp only [chargeBandwidth, bind_apply, get_apply, fcAssert]
    cases c.objects.ext.bandwidthUsage.any (·.1 = a)
    · rfl
    by_cases h : a ∈ c.objects.ext.stakedBalances
    · simp only [h, decide_True, if_true, Bool.and_self]
      exact chargeBandwidth_extEffect size rest _
    · simp [h, okState, modifyObjects, throwException]

theorem applyActions_extEffect (env : Env) (trx : Transaction) :
    ∀ (acts : List Action) (result : TransactionTrace),
      ExtEffect (applyActions env trx acts result) (env.runActions trx acts)
  | [], _ => fun c => by simp [applyActions, okState, Env.runActions]
  | act :: rest, result => fun c => by
    simp only [applyActions, bind_apply, get_apply, Env.runActions, Env.actionStep]
    rcases env.exec trx act c.objects.ext with e | ⟨x, res⟩
    · rfl
    · exact applyActions_extEffect env trx rest _ _

/-- What `_apply_transaction` does to the contract-side state: the actions, then the
charge to the authorizing accounts. The indices the metadata carries go only into the
traces. -/
def trxEffect (env : Env) (meta : TransactionMetadata) (x : ExtState) : Option ExtState :=
  (env.runActions meta.trx.toTransaction meta.trx.actions x).bind
    (chargeExt (meta.bandwidthUsage + env.cfg.fixedBandwidthOverheadPerTransaction)
      (meta.trx.authorizers.insertionSort (· ≤ ·)).dedup)

theorem applyTransaction_extEffect (env : Env) (meta : TransactionMetadata) :
    ExtEffect (applyTransaction env meta) (trxEffect env meta) :=
  (applyActions_extEffect env _ _ _).bind fun _ => (chargeBandwidth_extEffect _ _).bind_pure

/-! ### Transactions that do not conflict commute -/

/-- Two partial updates of the contract-side state commute: either order gives the same
result, a failure included. -/
def Commutes (f g : ExtState → Option ExtState) : Prop := ∀ x, (f x).bind g = (g x).bind f

theorem Commutes.symm {f g : ExtState → Option ExtState} (h : Commutes f g) : Commutes g f :=
  fun x => (h x).symm

theorem commutes_some (g : ExtState → Option ExtState) : Commutes some g :=
  fun x => (Option.bind_some (g x)).symm

/-- An update that commutes with each of two updates commutes with the one after the
other. -/
theorem Commutes.then {f g h : ExtState → Option ExtState} (hf : Commutes f h)
    (hg : Commutes g h) : Commutes (fun x => (f x).bind g) h := fun x =>
  calc ((f x).bind g).bind h = (f x).bind fun y => (g y).bind h := Option.bind_assoc ..
    _ = (f x).bind fun y => (h y).bind g := congrArg _ (funext hg)
    _ = ((f x).bind h).bind g := (Option.bind_assoc ..).symm
    _ = ((h x).bind f).bind g := by rw [hf]
    _ = (h x).bind fun y => (f y).bind g := Option.bind_assoc ..

/-- The actions of two transactions commute when each action of one commutes with each
action of the other. -/
theorem runActions_comm (env : Env) (t u : Transaction) :
    ∀ (acts acts' : List Action),
      (∀ a ∈ acts, ∀ b ∈ acts', Commutes (env.actionStep t a) (env.actionStep u b)) →
      Commutes (env.runActions t acts) (env.runActions u acts')
  | [], _, _ => commutes_some _
  | a :: rest, acts', h =>
    have ha : Commutes (env.runActions u acts') (env.actionStep t a) := by
      induction acts' with
      | nil => exact commutes_some _
      | cons b bs ih =>
        exact .then (h a (List.mem_cons_self _ _) b (List.mem_cons_self _ _)).symm
          (ih fun a' ha' b' hb' => h a' ha' b' (List.mem_cons_of_mem _ hb'))
    .then ha.symm (runActions_comm env t u rest acts' fun a' ha' => h a' (List.mem_cons_of_mem _ ha'))

/-- The contract-side state with the bandwidth usage table `w` and the staked balances
`s`. -/
def ExtState.withCharges (x : ExtState) (w : List (AccountName × Nat)) (s : List AccountName) :
    ExtState :=
  { x with bandwidthUsage := w, stakedBalances := s }

/-- The contracts leave the tables `_apply_transaction` charges alone: an action neither
reads nor writes the bandwidth usage or the staked balances. -/
def Env.LeavesCharges (env : Env) : Prop :=
  ∀ t a x w s, env.actionStep t a (x.withCharges w s) = (env.actionStep t a x).map (·.withCharges w s)

/-- The sandbox keeps to the scopes: an action of a transaction commutes with an action of
any transaction it does not conflict with. -/
def Env.KeepsScopes (env : Env) : Prop :=
  ∀ t u : Transaction, ¬ t.Conflicts u →
    ∀ a ∈ t.actions, ∀ b ∈ u.actions, Commutes (env.actionStep t a) (env.actionStep u b)

section Charges

variable {env : Env} (h : env.LeavesCharges)
include h

theorem runActions_withCharges (trx : Transaction) :
    ∀ (acts : List Action) (x : ExtState) w s,
      env.runActions trx acts (x.withCharges w s) =
        (env.runActions trx acts x).map (·.withCharges w s)
  | [], _, _, _ => rfl
  | act :: rest, x, w, s => by
    rw [Env.runActions, Env.runActions, h trx act x w s]
    cases env.actionStep trx act x with
    | none => rfl
    | some x' => exact runActions_withCharges trx rest x' w s

theorem runActions_charges {trx : Transaction} {acts : List Action} {x y : ExtState}
    (hr : env.runActions trx acts x = some y) :
    y.bandwidthUsage = x.bandwidthUsage ∧ y.stakedBalances = x.stakedBalances := by
  have := runActions_withCharges h trx acts x x.bandwidthUsage x.stakedBalances
  rw [show x.withCharges x.bandwidthUsage x.stakedBalances = x from rfl, hr] at this
  have e := Option.some.inj this
  exact ⟨(congrArg ExtState.bandwidthUsage e).trans rfl,
    (congrArg ExtState.stakedBalances e).trans rfl⟩

/-- The charge commutes with the actions of any transaction. -/
theorem chargeExt_runActions (size : Nat) (accounts : List AccountName) (trx : Transaction)
    (acts : List Action) : Commutes (chargeExt size accounts) (env.runActions trx acts) := by
  intro x
  unfold chargeExt
  cases hr : env.runActions trx acts x with
  | none =>
    split_ifs
    · exact (runActions_withCharges h trx acts x _ x.stakedBalances).trans (by rw [hr]; rfl)
    · rfl
  | some y =>
    obtain ⟨hu, hs⟩ := runActions_charges h hr
    have hc : y.chargeable accounts = x.chargeable accounts := by
      simp only [ExtState.chargeable, hu, hs]
    simp only [Option.some_bind, hc]
    split_ifs
    · refine (runActions_withCharges h trx acts x _ x.stakedBalances).trans ?_
      rw [hr, ExtState.charge, hu, ← hs]
      rfl
    · rfl

end Charges

/-- Two charges commute: neither changes what the other checks, and the usages add up. -/
theorem chargeExt_comm (size size' : Nat) (accounts accounts' : List AccountName) :
    Commutes (chargeExt size accounts) (chargeExt size' accounts') := by
  intro x
  unfold chargeExt
  by_cases h₁ : x.chargeable accounts <;> by_cases h₂ : x.chargeable accounts' <;>
    simp [h₁, h₂, ExtState.charge_comm]

/-- Two transactions that do not conflict have commuting effects: the actions and the
charge of one commute with the actions and the charge of the other. -/
theorem trxEffect_comm {env : Env} (hscopes : env.KeepsScopes) (hcharges : env.LeavesCharges)
    {m n : TransactionMetadata} (h : ¬ m.trx.Conflicts n.trx.toTransaction) :
    Commutes (trxEffect env m) (trxEffect env n) :=
  have hrr := runActions_comm env _ _ _ _ (hscopes _ _ h)
  have hcr := fun (m : TransactionMetadata) (t : Transaction) =>
    chargeExt_runActions hcharges (m.bandwidthUsage + env.cfg.fixedBandwidthOverheadPerTransaction)
      (m.trx.authorizers.insertionSort (· ≤ ·)).dedup t t.actions
  .then (.symm (.then hrr.symm (hcr n _))) (.symm (.then (hcr m _).symm (chargeExt_comm _ _ _ _)))

/-- One placement of a cycle applied as `_apply_transaction` applies it, with the metadata
`meta` gives it, from a state where nothing has failed yet. -/
def applyStep (env : Env) (meta : Transaction × Nat → TransactionMetadata)
    (s : Option Controller) (x : Transaction × Nat) : Option Controller :=
  s.bind fun c => okState (applyTransaction env (meta x) c)

section Step

variable (env : Env) (meta : Transaction × Nat → TransactionMetadata)

theorem applyStep_some (c : Controller) (x : Transaction × Nat) :
    applyStep env meta (some c) x = (trxEffect env (meta x) c.objects.ext).map c.withExt :=
  applyTransaction_extEffect env (meta x) c

theorem applyStep_applyStep (c : Controller) (x y : Transaction × Nat) :
    applyStep env meta (applyStep env meta (some c) x) y =
      ((trxEffect env (meta x) c.objects.ext).bind (trxEffect env (meta y))).map c.withExt := by
  rw [applyStep_some]
  cases trxEffect env (meta x) c.objects.ext with
  | none => rfl
  | some v => exact applyStep_some env meta (c.withExt v) y

/-- Two placements whose transactions do not conflict can be applied in either order. -/
theorem applyStep_comm {env : Env} (hscopes : env.KeepsScopes) (hcharges : env.LeavesCharges)
    {meta : Transaction × Nat → TransactionMetadata} (hmeta : ∀ x, (meta x).trx.toTransaction = x.1)
    (x y : Transaction × Nat) (s : Option Controller) (h : ¬ x.1.Conflicts y.1) :
    applyStep env meta (applyStep env meta s x) y = applyStep env meta (applyStep env meta s y) x := by
  cases s with
  | none => rfl
  | some c =>
    rw [applyStep_applyStep, applyStep_applyStep,
      trxEffect_comm hscopes hcharges (by rwa [hmeta, hmeta])]

end Step

/-- A sandbox whose actions add their names to a running total, the first entry of the
contract tables: any two actions commute, and none touches the charged tables. -/
def countingEnv : Env :=
  { sampleEnv lagConfig with
    bandwidthUsage := fun _ => 100
    exec := fun _ a x => .ok ({ x with tables := [x.tables.headD 0 + a.name] }, ⟨[], []⟩) }

theorem countingEnv_keepsScopes : countingEnv.KeepsScopes := fun _ _ _ a _ b _ x => by
  simp [Env.actionStep, countingEnv, Nat.add_right_comm]

theorem countingEnv_leavesCharges : countingEnv.LeavesCharges := fun _ _ _ _ _ => rfl

/-! ### Running the shards in any interleaving

Transactions placed in different shards do not conflict, so they commute. The shards of a
cycle may then run in any interleaving that keeps each shard's own order: the result is
the one of the order of the placements, in which `_push_transaction` applied them.
-/

section Interleave

variable {σ : Type} (step : σ → Transaction × Nat → σ)
  (hcomm : ∀ x y s, ¬ x.1.Conflicts y.1 → step (step s x) y = step (step s y) x)
include hcomm

/-- The first placement of a shard can run first: every placement before it is in
another shard, hence apart from it and commuting with it. -/
theorem foldl_first_of_shard : ∀ (l : List (Transaction × Nat)) (x : Transaction × Nat) (s : σ),
    l.Pairwise PendingCycleState.Apart → (l.filter (·.2 = x.2)).head? = some x →
    l.foldl step s = (x :: l.erase x).foldl step s
  | [], _, _, _, h => by cases h
  | y :: l, x, s, hp, h => by
    by_cases hy : y.2 = x.2
    · rw [List.filter_cons, if_pos (decide_eq_true hy)] at h
      cases h
      rw [List.erase_cons_head]
    · rw [List.filter_cons, if_neg (by simpa using hy)] at h
      have hx : x ∈ l := (List.mem_filter.1 (List.mem_of_mem_head? h)).1
      have hne : ¬(y == x) = true := fun e => hy (congrArg Prod.snd (beq_iff_eq.1 e))
      have hyx : step (step s y) x = step (step s x) y :=
        hcomm y x s ((List.pairwise_cons.1 hp).1 x hx hy)
      rw [List.erase_cons_tail hne, List.foldl_cons,
        foldl_first_of_shard l x (step s y) (List.pairwise_cons.1 hp).2 h]
      simp only [List.foldl_cons, hyx]

/-- An order that keeps each shard's own order gives the result of the order of the
placements. -/
theorem foldl_interleaving : ∀ (o l : List (Transaction × Nat)) (s : σ),
    l.Pairwise PendingCycleState.Apart → (∀ k, o.filter (·.2 = k) = l.filter (·.2 = k)) →
    o.foldl step s = l.foldl step s
  | [], l, s, _, hf => by
    cases l with
    | nil => rfl
    | cons y l =>
      have h := hf y.2
      rw [List.filter_nil, List.filter_cons, if_pos (decide_eq_true rfl)] at h
      cases h
  | x :: o, l, s, hp, hf => by
    have hx : (l.filter (·.2 = x.2)).head? = some x := by
      rw [← hf x.2, List.filter_cons, if_pos (decide_eq_true rfl)]
      rfl
    rw [foldl_first_of_shard step hcomm l x s hp hx, List.foldl_cons, List.foldl_cons]
    refine foldl_interleaving o (l.erase x) _ (hp.sublist (List.erase_sublist _ _)) fun k => ?_
    have h := hf k
    rw [← List.erase_filter, ← h, List.filter_cons]
    by_cases hk : x.2 = k
    · rw [if_pos (decide_eq_true hk), List.erase_cons_head]
    · rw [if_neg (by simpa using hk), List.erase_of_not_mem fun hm => hk ?_]
      simpa using (List.mem_filter.1 hm).2

end Interleave

/-- The order in which `__apply_block` replays a cycle of `n` shards: the placements of
shard 0 in their order, then those of shard 1, and so on. -/
def replayOrder (placed : List (Transaction × Nat)) (n : Nat) : List (Transaction × Nat) :=
  (List.range n).flatMap fun k => placed.filter (·.2 = k)

theorem replayOrder_filter_of (placed : List (Transaction × Nat)) (k : Nat) :
    ∀ n, (replayOrder placed n).filter (·.2 = k) = if k < n then placed.filter (·.2 = k) else []
  | 0 => rfl
  | n + 1 => by
    rw [replayOrder, List.range_succ, List.flatMap_append, ← replayOrder, List.filter_append,
      replayOrder_filter_of placed k n, List.flatMap_singleton, List.filter_filter]
    by_cases hk : k = n
    · subst hk
      simp
    · have : ∀ x : Transaction × Nat, ¬(decide (x.2 = k) && decide (x.2 = n)) = true := by
        intro x hx
        simp only [Bool.and_eq_true, decide_eq_true_eq] at hx
        exact hk (hx.1.symm.trans hx.2)
      rw [List.filter_eq_nil_iff.2 fun x _ => this x, List.append_nil]
      split_ifs <;> first | rfl | omega

/-- The replay of `__apply_block` keeps each shard's own order, once it covers every
shard. -/
theorem replayOrder_filter (placed : List (Transaction × Nat)) (n : Nat)
    (hn : ∀ x ∈ placed, x.2 < n) (k : Nat) :
    (replayOrder placed n).filter (·.2 = k) = placed.filter (·.2 = k) := by
  rw [replayOrder_filter_of]
  split_ifs with hk
  · rfl
  · exact (List.filter_eq_nil_iff.2 fun x hx hxk => hk (by
      simp only [decide_eq_true_eq] at hxk
      exact hxk ▸ hn x hx)).symm

/-- Over every sequence of `schedule` calls from a fresh cycle, transactions placed in
different shards never conflict; and a fresh cycle places every transaction, in shard 0. -/
theorem schedule_places_without_conflict (trxs : List Transaction) :
    (PendingCycleState.empty.placeAll trxs).Pairwise PendingCycleState.Apart ∧
      ∀ trx, (PendingCycleState.empty.schedule trx).1 = some 0 :=
  ⟨(PendingCycleState.tracks_empty.placeAll trxs).2, fun _ => by
    rw [PendingCycleState.schedule, PendingCycleState.forcedShard_empty,
      PendingCycleState.forcedShard_empty]
    rfl⟩

/-- The shards of a cycle may run, through the model's `_apply_transaction`, in any
interleaving that keeps each shard's own order: under a sandbox that keeps to the scopes
and leaves the charged tables alone, the result, a failure included, is the one of the
order in which the transactions were scheduled. -/
theorem shards_interleave_as_serial (env : Env) (hscopes : env.KeepsScopes)
    (hcharges : env.LeavesCharges) (meta : Transaction × Nat → TransactionMetadata)
    (hmeta : ∀ x, (meta x).trx.toTransaction = x.1)
    (trxs : List Transaction) (order : List (Transaction × Nat))
    (hshard : ∀ k, order.filter (·.2 = k) =
      (PendingCycleState.empty.placeAll trxs).filter (·.2 = k))
    (c : Controller) :
    order.foldl (applyStep env meta) (some c) =
      (PendingCycleState.empty.placeAll trxs).foldl (applyStep env meta) (some c) :=
  foldl_interleaving (applyStep env meta) (fun x y s => applyStep_comm hscopes hcharges hmeta x y s)
    order _ (some c) (PendingCycleState.tracks_empty.placeAll trxs).2 hshard

/-- A transaction that writes `scope` only, with one action named `n` authorized by
`actor`. -/
def scopedTrx (scope : ScopeName) (n : ActionName) (actor : AccountName) : Transaction :=
  ⟨0, 0, 0, [], [scope], [⟨3, n, [⟨actor, 4⟩], []⟩]⟩

/-- The metadata `__apply_block` gives a placement of `countingEnv`, in region 0 and
cycle 0. -/
def countingMeta (x : Transaction × Nat) : TransactionMetadata :=
  TransactionMetadata.make countingEnv ⟨x.1, []⟩ 0 0 x.2

/-- Writers of scopes 1, 2 and 1, authorized by `prodA`, `prodB` and `prodB`, go to shards
0, 1 and 0; the replay of `__apply_block`, shard 0 and then shard 1, ends where they were
pushed. -/
theorem shards_interleave_as_serial_replay :
    (replayOrder (PendingCycleState.empty.placeAll
        [scopedTrx 1 5 prodA, scopedTrx 2 7 prodB, scopedTrx 1 9 prodB]) 2).foldl
        (applyStep countingEnv countingMeta) (some lagStart) =
      (PendingCycleState.empty.placeAll
        [scopedTrx 1 5 prodA, scopedTrx 2 7 prodB, scopedTrx 1 9 prodB]).foldl
        (applyStep countingEnv countingMeta) (some lagStart) :=
  shards_interleave_as_serial countingEnv countingEnv_keepsScopes countingEnv_leavesCharges
    countingMeta (fun _ => rfl) _ _ (replayOrder_filter _ 2 (by decide)) lagStart

end EosChain
