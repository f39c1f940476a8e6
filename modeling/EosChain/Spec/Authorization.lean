import EosChain.Spec.Finalize

/-!
# `EosChain.Spec.Authorization`: checks on a transaction

The transaction checks of `chain_controller.cpp`: `check_authorization` and
`check_transaction_authorization` over `lookup_minimum_permission`, `get_required_keys`,
`validate_referenced_accounts` with `require_scope` and `require_account`, and the
checks the source defines but `_push_transaction` does not call: `validate_scope`,
`validate_uniqueness`, `record_transaction`, `validate_tapos`, `validate_expiration`.

`authority_checker` and `permission_object::satisfies` are in headers that are not
under `src/`; they are modelled from the spec (§4.D).
-/

set_option autoImplicit false

namespace EosChain

/-- The weight an authority collects, and the keys it used: the provided keys it names,
and the accounts it names that are provided or, one level down, satisfied. -/
structure Tally where
  weight : Nat
  usedKeys : List PublicKey

/-- Modelled from the spec: `authority_checker::satisfied`. An authority is satisfied
when the weight of the provided keys it names, plus the weight of each account it names
that is provided or is itself satisfied with one level less of depth, reaches its
threshold. Below depth zero nothing is satisfied. A satisfied authority returns the
provided keys it used; looking up a permission that does not exist throws. -/
def satisfiedAt (lookup : PermissionLevel → Except Failure Authority) (keys : List PublicKey)
    (accounts : List PermissionLevel) : Nat → Authority → Except Failure (Option (List PublicKey))
  | depth, auth => do
    let direct := auth.keys.filter (·.key ∈ keys)
    let start : Tally := ⟨(direct.map (·.weight)).foldl (· + ·) 0, direct.map (·.key)⟩
    let tally ← auth.accounts.foldlM (fun t plw => do
      if plw.permission ∈ accounts then pure { t with weight := t.weight + plw.weight }
      else match depth with
        | 0 => pure t
        | d + 1 => do
          match ← satisfiedAt lookup keys accounts d (← lookup plw.permission) with
          | some used => pure ⟨t.weight + plw.weight, t.usedKeys ++ used⟩
          | none => pure t) start
    pure (if auth.threshold ≤ tally.weight then some tally.usedKeys else none)

/-- Modelled from the spec: `permission_object::satisfies`. A permission satisfies
another of the same owner when it is that permission or one of its ancestors, found by
walking `parent` links (at most once per permission). -/
def PermissionObject.satisfies (p other : PermissionObject) (index : List PermissionObject) :
    Bool :=
  p.owner = other.owner && go index.length other
where
  go : Nat → PermissionObject → Bool
    | 0, q => p.name = q.name
    | n + 1, q =>
      p.name = q.name ||
        (q.parent ≠ q.name &&
          match index.find? fun r => r.owner = q.owner ∧ r.name = q.parent with
          | some r => go n r
          | none => false)

variable (env : Env)

/-- `lookup_minimum_permission(authorizer_account, scope, act_name)`: the permission a
link for this action names, else the one a link for the whole scope names, else
`active`. -/
def lookupMinimumPermission (authorizerAccount scope actName : Nat) :
    ControllerM PermissionObject := do
  let links := (← get).objects.ext.permissionLinks
  let find (msg : ActionName) := links.find? fun l =>
    l.account = authorizerAccount ∧ l.code = scope ∧ l.messageType = msg
  let link := match find actName with
    | some l => some l
    | none => find 0
  let permission := match link with
    | some l => l.requiredPermission
    | none => env.cfg.activeName
  getPermission ⟨authorizerAccount, permission⟩

/-- `get_permission(p).auth`, as the checker looks authorities up. -/
def Controller.authorityOf (c : Controller) (p : PermissionLevel) : Except Failure Authority :=
  match c.findPermission p with
  | some po => .ok po.auth
  | none => .error (.exception .keyNotFound "unknown key")

/-- The checks of `check_authorization` on one declared authority, threading the keys
the checker has used so far. -/
def checkDeclaredAuth (keys : List PublicKey) (accounts : List PermissionLevel)
    (act : Action) (used : List PublicKey) (declaredAuth : PermissionLevel) :
    ControllerM (List PublicKey) := do
  let c ← get
  let minPermission ← lookupMinimumPermission env declaredAuth.actor act.scope act.name
  if !hasFlag c.skipFlags skipAuthorityCheck then
    let p ← getPermission declaredAuth
    fcAssert (p.satisfies minPermission c.objects.ext.permissions) .txIrrelevantAuth
      "action declares irrelevant authority"
  if !hasFlag c.skipFlags skipTransactionSignatures then
    let r ← liftExcept (do
      satisfiedAt c.authorityOf keys accounts c.gpo.configuration.maxAuthorityDepth
        (← c.authorityOf declaredAuth))
    match r with
    | some u => pure (used ++ u)
    | none =>
      throwException .txMissingSigs
        "transaction declares authority, but does not have signatures for it."
  else pure used

/-- `check_authorization(trx, provided_keys, allow_unused_signatures, provided_accounts)`. -/
def checkAuthorization (trx : Transaction) (providedKeys : List PublicKey)
    (allowUnusedSignatures : Bool) (providedAccounts : List PermissionLevel) :
    ControllerM Unit := do
  let used ← trx.actions.foldlM (fun used act =>
    act.authorization.foldlM (checkDeclaredAuth env providedKeys providedAccounts act) used) []
  if !allowUnusedSignatures && !hasFlag (← get).skipFlags skipTransactionSignatures then
    fcAssert (providedKeys.all (· ∈ used)) .txIrrelevantSig
      "transaction bears irrelevant signatures from these keys"

/-- `check_transaction_authorization(trx, allow_unused_signatures)`: with the keys
recovered from the signatures and no provided accounts. -/
def checkTransactionAuthorization (trx : SignedTransaction) (allowUnusedSignatures : Bool) :
    ControllerM Unit :=
  checkAuthorization env trx.toTransaction (env.signatureKeys trx) allowUnusedSignatures []

/-- `get_required_keys(trx, candidate_keys)`: a checker over the candidate keys and no
provided accounts must satisfy every declared authority; the result is the set of keys
it used. -/
def getRequiredKeys (trx : Transaction) (candidateKeys : List PublicKey) :
    ControllerM (List PublicKey) := do
  let c ← get
  let used ← trx.actions.foldlM (fun used act =>
    act.authorization.foldlM (fun used declaredAuth => do
      let r ← liftExcept (do
        satisfiedAt c.authorityOf candidateKeys [] c.gpo.configuration.maxAuthorityDepth
          (← c.authorityOf declaredAuth))
      match r with
      | some u => pure (used ++ u)
      | none =>
        throwException .txMissingSigs
          "transaction declares authority, but does not have signatures for it.") used) []
  pure (used.insertionSort (· ≤ ·)).dedup

/-- `require_account(name)`. -/
def requireAccount (name : AccountName) : ControllerM Unit := do
  fcAssert (name ∈ (← get).objects.ext.accounts) .assertException "Account not found"

/-- `require_scope(scope)`: the built-in scopes need no account. -/
def requireScope (scope : ScopeName) : ControllerM Unit :=
  if scope = env.cfg.eosioAllScope ∨ scope = env.cfg.eosioAuthScope then pure ()
  else requireAccount scope

/-- `validate_referenced_accounts(trx)`. -/
def validateReferencedAccounts (trx : Transaction) : ControllerM Unit := do
  trx.readScope.forM (requireScope env)
  trx.writeScope.forM (requireScope env)
  trx.actions.forM fun act => do
    requireAccount act.scope
    act.authorization.forM fun auth => requireAccount auth.actor

/-- Consecutive entries of `l` strictly increase. -/
def strictlyAscending : List Nat → Bool
  | a :: b :: rest => a < b && strictlyAscending (b :: rest)
  | _ => true

/-- `validate_scope(trx)`: both scope lists sorted and unique, every authorizing account
in `write_scope`, no scope read and written. Not called by `_push_transaction`. -/
def validateScope (trx : Transaction) : ControllerM Unit := do
  fcAssert (strictlyAscending trx.readScope) .transactionException "Scopes must be sorted and unique"
  fcAssert (strictlyAscending trx.writeScope) .transactionException "Scopes must be sorted and unique"
  trx.actions.forM fun a => a.authorization.forM fun auth =>
    fcAssert (auth.actor ∈ trx.writeScope) .assertException
      "write scope of the authorizing account is required"
  fcAssert (trx.readScope.filter (· ∈ trx.writeScope)).isEmpty .assertException
    "a transaction may not redeclare scope in readscope"

/-- `validate_uniqueness(trx)`. Not called by `_push_transaction`. -/
def validateUniqueness (trx : SignedTransaction) : ControllerM Unit := do
  let c ← get
  if !hasFlag c.skipFlags skipTransactionDupeCheck then
    fcAssert (!c.isKnownTransaction (trx.id env)) .txDuplicate "transaction is not unique"

/-- `record_transaction(trx)`: insert the id into the dedup index. Not called by
`_push_transaction`. -/
def recordTransaction (trx : SignedTransaction) : ControllerM Unit :=
  modifyObjects fun o => { o with
    transactions := o.transactions ++ [⟨trx.id env, trx.expiration⟩] }

/-- Modelled from the spec: `transaction::verify_reference_block`, in `transaction.cpp`,
which is not under `src/`. The low 16 bits of the reference block number and 32 bits of
its hash must match the block id. -/
def Transaction.verifyReferenceBlock (trx : Transaction) (id : BlockId) : Bool :=
  trx.refBlockNum = id.num % uint16Modulus && trx.refBlockPrefix = id.hash % uint32Modulus

/-- `validate_tapos(trx)`: the summary at `(uint16_t)ref_block_num`. Not called by
`_push_transaction`. -/
def validateTapos (trx : Transaction) : ControllerM Unit := do
  let c ← get
  if !hasFlag c.skipFlags skipTaposCheck then
    fcAssert (trx.verifyReferenceBlock (c.objects.blockSummaries (trx.refBlockNum % uint16Modulus)))
      .transactionException
      "transaction's reference block did not match. Is this transaction from a different fork?"

/-- `validate_expiration(trx)`: `expiration` is a `time_point_sec`. Not called by
`_push_transaction`. -/
def validateExpiration (trx : Transaction) : ControllerM Unit := do
  let c ← get
  let now := c.headBlockTime
  let lifetime := c.gpo.configuration.maxTransactionLifetime
  fcAssert (decide (trx.expiration * 1000000 ≤ now + lifetime * 1000000)) .transactionException
    "transaction expiration is too far in the future"
  fcAssert (decide (now ≤ trx.expiration * 1000000)) .transactionException "transaction is expired"

end EosChain
