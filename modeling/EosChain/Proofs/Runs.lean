import EosChain.Spec.Controller

/-!
# `EosChain.Proofs.Runs`: runs of the public interface

A run is a constructed controller followed by public calls, each of which returns or
throws an `fc::exception`. `Controller.after` is the state a call leaves and
`Controller.runsOn` checks, call by call, that the node runs on after each of them;
`Reachable.foldl_after` turns that check into reachability of the last state. The check
is a `Bool` the model computes, so a concrete run is shown reachable by evaluation.

The second half sets up a small deployment to run the model on: digests that mix their
inputs, a configuration with a parameter for each of the scheduling and irreversibility
settings, a genesis with up to three producers, and empty blocks that pass the Merkle
checks.
-/

set_option autoImplicit false

namespace EosChain

variable (env : Env)

/-- The state `call` leaves when the node runs on after it; `c` itself where it stops. -/
def Controller.after (c : Controller) (call : Call) : Controller :=
  (continuation (call.run env c)).getD c

/-- Every call of `calls`, from `c` on, returns or throws an `fc::exception`. -/
def Controller.runsOn : Controller → List Call → Bool
  | _, [] => true
  | c, call :: rest => (continuation (call.run env c)).isSome && (c.after env call).runsOn rest

/-- The controller the constructor builds from `g` and `log`; the fresh one where it
throws. -/
def Controller.begin (g : Genesis) (log : BlockLog) : Controller :=
  (Controller.start env g log).getD (Controller.fresh g log)

/-- The state after `calls`, from the controller built from `g` and `log`. -/
def Controller.run (g : Genesis) (log : BlockLog) (calls : List Call) : Controller :=
  calls.foldl (Controller.after env) (Controller.begin env g log)

/-- `call` returns from `c`. -/
def Controller.returnsOn (c : Controller) (call : Call) : Bool :=
  match call.run env c with
  | .ok _ _ => true
  | .error _ _ => false

/-- `call` throws an `fc::exception` from `c`. -/
def Controller.throwsOn (c : Controller) (call : Call) : Bool :=
  match call.run env c with
  | .error (.exception _ _) _ => true
  | _ => false

/-- `call` never ends from `c`: it runs into a loop that does not terminate. -/
def Controller.hangsOn (c : Controller) (call : Call) : Bool :=
  match call.run env c with
  | .error .hang _ => true
  | _ => false

/-- The block `generate_block(when, producer, key, skip)` returns from `c`; `none` where it
fails. -/
def Controller.generated (c : Controller) (when : Nat) (producer : AccountName) (key : PrivateKey)
    (skip : Nat) : Option SignedBlock :=
  match generateBlock env when producer key skip c with
  | .ok b _ => some b
  | .error _ _ => none

/-- `_apply_block(b, skip)` throws an `fc::exception` from `c`. -/
def Controller.rejects (c : Controller) (b : SignedBlock) (skip : Nat) : Bool :=
  match _applyBlock env b skip c with
  | .error (.exception _ _) _ => true
  | _ => false

variable {env}

theorem Reachable.after {c : Controller} {call : Call} (h : Reachable env c)
    (hs : (continuation (call.run env c)).isSome) : Reachable env (c.after env call) := by
  obtain ⟨c', hc'⟩ := Option.isSome_iff_exists.1 hs
  unfold Controller.after
  rw [hc']
  exact h.step ⟨call, hc'⟩

/-- A run of calls after each of which the node runs on reaches its last state. -/
theorem Reachable.foldl_after {c : Controller} (h : Reachable env c) {calls : List Call}
    (hr : c.runsOn env calls = true) : Reachable env (calls.foldl (Controller.after env) c) := by
  induction calls generalizing c with
  | nil => exact h
  | cons call rest ih =>
    simp only [Controller.runsOn, Bool.and_eq_true] at hr
    exact ih (h.after hr.1) hr.2

theorem reachable_run {g : Genesis} {log : BlockLog} {calls : List Call}
    (hs : (Controller.start env g log).isSome)
    (hr : (Controller.begin env g log).runsOn env calls = true) :
    Reachable env (Controller.run env g log calls) := by
  obtain ⟨c, hc⟩ := Option.isSome_iff_exists.1 hs
  have hb : Controller.begin env g log = c := by rw [Controller.begin, hc]; rfl
  rw [hb] at hr
  unfold Controller.run
  rw [hb]
  exact (Reachable.start hc).foldl_after hr

/-! ### A small deployment -/

/-- A stand-in for the hashes: it mixes its inputs into one number. -/
def mixDigest (l : List Nat) : Digest :=
  l.foldl (fun a d => (a * 1000003 + d + 1) % 4294967291) 7

/-- Half-second slots from time 0, one producer signature on the producers' authority,
and the scheduling and irreversibility settings as parameters. -/
def sampleConfig (blocksPerRound producerRepititions producerCount threshold : Nat) : Config where
  blocksPerRound := blocksPerRound
  producerRepititions := producerRepititions
  producerCount := producerCount
  percent100 := 100
  irreversibleThresholdPercent := threshold
  blockIntervalMs := 500
  blockTimestampEpochMs := 0
  producersAuthorityThreshold := 1
  fixedBandwidthOverheadPerTransaction := 0
  eosioAllScope := 1
  eosioAuthScope := 2
  producersAccountName := 3
  activeName := 4

/-- The collaborators: every signature checks, and each action appends its name to the
contract tables, so that the store records every action that ran. -/
def sampleEnv (cfg : Config) : Env where
  cfg := cfg
  headerDigest h := mixDigest
    [h.previous.hash, h.timestamp, h.producer, h.transactionMroot, h.actionMroot, h.blockMroot]
  transactionId t := mixDigest (t.expiration :: t.actions.map (·.name))
  merkle := mixDigest
  blockMerkle ids := mixDigest (ids.map (·.hash))
  actionDigest a := mixDigest [a.receiver, a.act.name]
  validateSignee _ _ := true
  sign _ _ := 0
  getPublicKey k := k
  signatureKeys _ := []
  bandwidthUsage _ := 0
  exec _ a e := .ok ({ e with tables := e.tables ++ [a.name] }, ⟨[], []⟩)

/-- The producer accounts. -/
def prodA : AccountName := 10
def prodB : AccountName := 11
def prodC : AccountName := 12

/-- A genesis at time 1000 s with the schedule `producers` at version 0. The producers
account has its active permission; every producer has a signing key, an account, a stake
and a bandwidth record, and those in `votes` are voted in, in that order. -/
def sampleGenesis (producers : List AccountName) (votes : List AccountName) : Genesis where
  startTime := 1000000000
  configuration := ⟨2, 3600⟩
  producers := ⟨0, producers.map fun p => ⟨p, p + 90⟩⟩
  ext := ⟨3 :: producers, [⟨3, 4, 4, ⟨1, [], []⟩⟩], [], producers.map fun p => (p, p + 90), votes, producers,
    producers.map fun p => (p, 0), []⟩
  acts := []

/-- The slot of the genesis time. -/
def genesisSlot (cfg : Config) : Nat :=
  Controller.timePointToSlot (sampleEnv cfg) (sampleGenesis [] []).startTime

/-- An empty block by `producer`, `slot` slots after genesis, on top of the blocks
`chain`: it names the last of them as its previous block (the zero id when there is
none) and carries their block Merkle root. -/
def emptyBlock (cfg : Config) (chain : List SignedBlock) (slot : Nat) (producer : AccountName) :
    SignedBlock :=
  let ids := chain.map (SignedBlock.id (sampleEnv cfg))
  let b : SignedBlock :=
    ⟨⟨⟨ids.getLast?.getD default, genesisSlot cfg + slot, producer, 0, 0, 0, none⟩, 0⟩, [], []⟩
  { b with
    transactionMroot := b.calculateTransactionMerkleRoot (sampleEnv cfg)
    actionMroot := BlockTrace.calculateActionMerkleRoot (sampleEnv cfg) ⟨b, []⟩
    blockMroot := (sampleEnv cfg).blockMerkle ids }

/-- The checks a trusted peer's blocks and transactions skip: the producer's and the
transactions' signatures and the authority check. -/
def trustedSkip : Nat := skipProducerSignature ||| skipTransactionSignatures ||| skipAuthorityCheck

/-- A transaction with one action named `n` on the producers account, writing the all
scope, that needs no authority. -/
def sampleTrx (n : Nat) : SignedTransaction :=
  ⟨⟨0, 0, 0, [], [1], [⟨3, n, [], []⟩]⟩, []⟩

/-- A deployment whose first producer makes every block: with a round of 1000 slots in
which each producer makes 1000 blocks, only `prodA` is ever scheduled, and with a 60 %
threshold over two producers the last irreversible block stays at 0. -/
def lagConfig : Config := sampleConfig 1000 1000 2 60

/-- The genesis of the deployment `lagConfig`. -/
def lagGenesis : Genesis := sampleGenesis [prodA, prodB] [prodA, prodB]

/-- The controller the constructor builds from `lagGenesis`. -/
def lagStart : Controller := Controller.begin (sampleEnv lagConfig) lagGenesis ⟨[]⟩

/-- An empty block of the deployment `lagConfig`, by `prodA`. -/
def lagBlock (chain : List SignedBlock) (slot : Nat) : SignedBlock :=
  emptyBlock lagConfig chain slot prodA

/-- The first block of the deployment `lagConfig`, one slot after genesis. -/
def lagB1 : SignedBlock := lagBlock [] 1

/-- A deployment where three producers take turns, one block each, and a block is
irreversible once all three have built on it: with a 70 % threshold the offset into the
sorted confirmations is 0. -/
def rotationConfig : Config := sampleConfig 3 1 3 70

/-- The genesis of the deployment `rotationConfig`. -/
def rotationGenesis : Genesis := sampleGenesis [prodA, prodB, prodC] [prodA, prodB, prodC]

/-- The first three blocks of the deployment `rotationConfig`, in consecutive slots; the
first block takes the schedule's slot 1 and leaves the round's position at 1, so their
producers are `prodB`, `prodC` and `prodA`. -/
def rotB1 : SignedBlock := emptyBlock rotationConfig [] 1 prodB
def rotB2 : SignedBlock := emptyBlock rotationConfig [rotB1] 2 prodC
def rotB3 : SignedBlock := emptyBlock rotationConfig [rotB1, rotB2] 3 prodA

end EosChain
