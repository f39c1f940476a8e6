import Mathlib.Algebra.Order.BigOperators.Group.List
import Mathlib.Algebra.Order.Group.Nat
import Mathlib.Data.List.Dedup
import Mathlib.Data.List.Sort
import EosChain.Proofs.Frame
import EosChain.Proofs.Runs

/-!
# `EosChain.Proofs.RequiredKeys`: the keys `get_required_keys` returns

`get_required_keys(trx, candidate_keys)` runs the authority checker over the candidate
keys on every declared authority and returns the keys it used. `check_authorization`
runs a checker over the keys a transaction is signed with and, with
`allow_unused_signatures` false, also asserts that every provided key was used. A wallet
signs with the result of the first, so it must pass the second
(`getRequiredKeys_sound`): the keys returned are candidate keys, every declared authority
is satisfied over them, each of them is used, and the full check over them that rejects
unused keys ends exactly as the check over all the candidate keys that allows them.

The argument is that the checker takes the same path over fewer keys as long as these
hold every key it used (`satisfiedAt_restrict`): an authority names the same provided
keys, the recursion into accounts looks up the same permissions, and each satisfied
sub-authority stays satisfied with at least the keys it used. The loops of the two checks
then run side by side (`foldlM_parallel`, `checkAuthorization_loops_parallel`).

Conversely, `get_required_keys` finds keys whenever some of the candidates would do
(`getRequiredKeys_complete`): more keys never unsatisfy an authority
(`satisfiedAt_extend`), so a check that passes over a subset of the candidates means every
declared authority is satisfied over all of them, and then `get_required_keys` returns.

The checker itself, `authority_checker`, is modelled from the spec (`satisfiedAt`).
-/

set_option autoImplicit false

namespace EosChain

/-! ### Folds in `Except` -/

theorem except_bind_eq_ok {ε α β : Type} {x : Except ε α} {f : α → Except ε β} {b : β} :
    x >>= f = .ok b ↔ ∃ a, x = .ok a ∧ f a = .ok b := by
  cases x <;> simp [bind, Except.bind]

/-- Two folds whose steps keep a relation between their accumulators, the first
returning: the second returns too, related. -/
theorem foldlM_except_rel {ε α β γ : Type} {f : α → γ → Except ε α}
    {g : β → γ → Except ε β} (Rel : α → β → Prop)
    (h : ∀ a b x a', Rel a b → f a x = .ok a' → ∃ b', g b x = .ok b' ∧ Rel a' b') :
    ∀ (l : List γ) (a : α) (b : β) (a' : α), Rel a b → l.foldlM f a = .ok a' →
      ∃ b', l.foldlM g b = .ok b' ∧ Rel a' b'
  | [], a, b, a', hr, hf => by
    simp only [List.foldlM_nil, pure, Except.pure, Except.ok.injEq] at hf
    exact ⟨b, rfl, hf ▸ hr⟩
  | x :: l, a, b, a', hr, hf => by
    rw [List.foldlM_cons, except_bind_eq_ok] at hf
    obtain ⟨a₁, ha₁, hl⟩ := hf
    obtain ⟨b₁, hb₁, hr₁⟩ := h a b x a₁ hr ha₁
    obtain ⟨b', hb', hr'⟩ := foldlM_except_rel Rel h l a₁ b₁ a' hr₁ hl
    exact ⟨b', by rw [List.foldlM_cons, hb₁]; exact hb', hr'⟩

/-- A computation that returns, followed by one that returns from every value it can
return, returns. -/
theorem exists_bind_ok {ε β δ : Type} {x : Except ε β} {k : β → Except ε δ}
    {Q : β → Prop} {S : δ → Prop} (hx : ∃ b, x = .ok b ∧ Q b)
    (hk : ∀ b, Q b → ∃ r, k b = .ok r ∧ S r) :
    ∃ r, x >>= k = .ok r ∧ S r := by
  obtain ⟨b, rfl, hb⟩ := hx
  exact hk b hb

/-- A fold whose steps keep an invariant keeps it. -/
theorem foldlM_except_inv {ε α γ : Type} {f : α → γ → Except ε α} (P : α → Prop)
    (h : ∀ a x a', P a → f a x = .ok a' → P a') :
    ∀ (l : List γ) (a a' : α), P a → l.foldlM f a = .ok a' → P a' := by
  intro l a a' hp hf
  obtain ⟨_, _, h'⟩ := foldlM_except_rel (g := fun (_ : Unit) _ => .ok ()) (fun a _ => P a)
    (fun a _ x a' ha hf => ⟨(), rfl, h a x a' ha hf⟩) l a () a' hp hf
  exact h'

/-! ### The checker over fewer keys -/

section Restrict

variable (lookup : PermissionLevel → Except Failure Authority) (accounts : List PermissionLevel)

/-- The provided keys an authority names are provided keys. -/
theorem direct_keys_subset (keys : List PublicKey) (auth : Authority) :
    ((auth.keys.filter (·.key ∈ keys)).map (·.key)) ⊆ keys := by
  intro k hk
  simp only [List.mem_map, List.mem_filter, decide_eq_true_eq] at hk
  obtain ⟨kw, ⟨-, hk'⟩, rfl⟩ := hk
  exact hk'

/-- A satisfied authority used only provided keys. -/
theorem satisfiedAt_used_subset (keys : List PublicKey) (depth : Nat) :
    ∀ (auth : Authority) (u : List PublicKey),
      satisfiedAt lookup keys accounts depth auth = .ok (some u) → u ⊆ keys := by
  induction depth using Nat.strong_induction_on with
  | _ depth ih =>
  intro auth u h
  rw [satisfiedAt, except_bind_eq_ok] at h
  obtain ⟨t, hf, ht⟩ := h
  have hinv := foldlM_except_inv (fun t : Tally => t.usedKeys ⊆ keys) (fun a x a' ha hs => by
    split at hs
    · simp only [pure, Except.pure, Except.ok.injEq] at hs; subst hs; exact ha
    · split at hs
      · simp only [pure, Except.pure, Except.ok.injEq] at hs; subst hs; exact ha
      · rename_i d
        simp only [except_bind_eq_ok] at hs
        obtain ⟨auth', -, r, hr, hs⟩ := hs
        cases r with
        | none => simp only [pure, Except.pure, Except.ok.injEq] at hs; subst hs; exact ha
        | some used =>
          simp only [pure, Except.pure, Except.ok.injEq] at hs; subst hs
          exact List.append_subset.2 ⟨ha, ih d (Nat.lt_succ_self d) auth' used hr⟩)
    _ _ _ (direct_keys_subset keys auth) hf
  split at ht <;>
    simp only [pure, Except.pure, Except.ok.injEq, Option.some.injEq, reduceCtorEq] at ht
  exact ht ▸ hinv

/-- The provided keys an authority names, where the keys of a subset `R` of `K` cover
those it names from `K`: the same entries. -/
theorem direct_keys_restrict {K R : List PublicKey} (hRK : R ⊆ K) (auth : Authority)
    (h : (auth.keys.filter (·.key ∈ K)).map (·.key) ⊆ R) :
    auth.keys.filter (·.key ∈ K) = auth.keys.filter (·.key ∈ R) := by
  refine List.filter_congr fun kw hkw => ?_
  by_cases hK : kw.key ∈ K
  · have : kw.key ∈ R :=
      h (List.mem_map_of_mem _ (List.mem_filter.2 ⟨hkw, by simpa using hK⟩))
    simp [hK, this]
  · have hR : kw.key ∉ R := fun h' => hK (hRK h')
    simp [hK, hR]

/-- The tally over a subset `R` of the keys keeps up with the tally over `K`, as long as
the keys `K` used are in `R`. -/
def TallyCovered (R : List PublicKey) (tK tR : Tally) : Prop :=
  tK.usedKeys ⊆ R → tK.weight ≤ tR.weight ∧ tK.usedKeys ⊆ tR.usedKeys

/-- A sub-authority's result added to two covered tallies, over `K` and over `R`: where the
result over `R` keeps up with the one over `K`, the tallies stay covered. -/
theorem TallyCovered.add {R : List PublicKey} {tK tR : Tally} (hab : TallyCovered R tK tR)
    (w : Nat) {rK rR : Option (List PublicKey)}
    (hr : ∀ u, rK = some u → u ⊆ R → ∃ u', rR = some u' ∧ u ⊆ u') :
    TallyCovered R (rK.elim tK fun u => ⟨tK.weight + w, tK.usedKeys ++ u⟩)
      (rR.elim tR fun u => ⟨tR.weight + w, tR.usedKeys ++ u⟩) := by
  intro hc
  cases rK with
  | none =>
    obtain ⟨hw, hu⟩ := hab hc
    cases rR with
    | none => exact ⟨hw, hu⟩
    | some uR => exact ⟨Nat.le_add_right_of_le hw, hu.trans (List.subset_append_left _ _)⟩
  | some uK =>
    obtain ⟨ha, huK⟩ := List.append_subset.1 hc
    obtain ⟨hw, hu⟩ := hab ha
    obtain ⟨uR, rfl, hsub⟩ := hr uK rfl huK
    exact ⟨Nat.add_le_add_right hw _, List.append_subset.2
      ⟨hu.trans (List.subset_append_left _ _), hsub.trans (List.subset_append_right _ _)⟩⟩

/-- Restricting the provided keys to a subset `R` that holds every key a satisfied
authority used keeps it satisfied, with at least those keys used; the evaluation looks
up the same permissions, so one that returned still returns. -/
theorem satisfiedAt_restrict {K R : List PublicKey} (hRK : R ⊆ K) (depth : Nat) :
    ∀ (auth : Authority) (r : Option (List PublicKey)),
      satisfiedAt lookup K accounts depth auth = .ok r →
      ∃ r', satisfiedAt lookup R accounts depth auth = .ok r' ∧
        ∀ u, r = some u → u ⊆ R → ∃ u', r' = some u' ∧ u ⊆ u' := by
  induction depth using Nat.strong_induction_on with
  | _ depth ih =>
  intro auth r h
  rw [satisfiedAt, except_bind_eq_ok] at h
  obtain ⟨tK, hf, hr⟩ := h
  have hstart : TallyCovered R
      ⟨((auth.keys.filter (·.key ∈ K)).map (·.weight)).foldl (· + ·) 0,
        (auth.keys.filter (·.key ∈ K)).map (·.key)⟩
      ⟨((auth.keys.filter (·.key ∈ R)).map (·.weight)).foldl (· + ·) 0,
        (auth.keys.filter (·.key ∈ R)).map (·.key)⟩ := fun hc => by
    rw [direct_keys_restrict hRK auth hc]
    exact ⟨le_rfl, List.Subset.refl _⟩
  rw [satisfiedAt]
  apply exists_bind_ok
  · refine foldlM_except_rel (TallyCovered R) (fun a b x a' hab hs => ?_) _ _ _ _ hstart hf
    split at hs
    · rename_i hin
      simp only [pure, Except.pure, Except.ok.injEq] at hs
      subst hs
      refine ⟨_, if_pos hin, fun hc => ?_⟩
      obtain ⟨hw, hu⟩ := hab hc
      exact ⟨Nat.add_le_add_right hw _, hu⟩
    · rename_i hnot
      rw [if_neg hnot]
      split at hs
      · simp only [pure, Except.pure, Except.ok.injEq] at hs
        subst hs
        exact ⟨b, rfl, hab⟩
      · rename_i d
        simp only [except_bind_eq_ok] at hs
        obtain ⟨auth', hl, rK, hrK, hs⟩ := hs
        obtain ⟨rR, hrR, hprop⟩ := ih d (Nat.lt_succ_self d) auth' rK hrK
        simp only [hl, hrR, bind, Except.bind]
        cases rK <;> cases rR <;> simp only [pure, Except.pure, Except.ok.injEq] at hs <;>
          subst hs <;> exact ⟨_, rfl, hab.add x.weight hprop⟩
  · intro tR hcov
    refine ⟨_, rfl, fun u hu huR => ?_⟩
    simp only [pure, Except.pure, Except.ok.injEq] at hr
    subst hr
    split at hu
    · obtain ⟨hw, hsub⟩ := hcov (Option.some.inj hu ▸ huR)
      exact ⟨tR.usedKeys, if_pos (le_trans (by assumption) hw), Option.some.inj hu ▸ hsub⟩
    · exact absurd hu (by simp)

/-- More provided keys weigh at least as much among an authority's own keys. -/
theorem direct_weight_le {S K : List PublicKey} (hSK : S ⊆ K) (auth : Authority) :
    ((auth.keys.filter (·.key ∈ S)).map (·.weight)).foldl (· + ·) 0 ≤
      ((auth.keys.filter (·.key ∈ K)).map (·.weight)).foldl (· + ·) 0 := by
  rw [← List.sum_eq_foldl, ← List.sum_eq_foldl]
  refine ((auth.keys.monotone_filter_right fun kw h => ?_).map _).sum_le_sum fun _ _ =>
    Nat.zero_le _
  simp only [decide_eq_true_eq] at h ⊢
  exact hSK h

/-- More provided keys never unsatisfy an authority: the evaluation looks up the same
permissions, and every weight it adds only grows. -/
theorem satisfiedAt_extend {S K : List PublicKey} (hSK : S ⊆ K) (depth : Nat) :
    ∀ (auth : Authority) (r : Option (List PublicKey)),
      satisfiedAt lookup S accounts depth auth = .ok r →
      ∃ r', satisfiedAt lookup K accounts depth auth = .ok r' ∧ (r.isSome → r'.isSome) := by
  induction depth using Nat.strong_induction_on with
  | _ depth ih =>
  intro auth r h
  rw [satisfiedAt, except_bind_eq_ok] at h
  obtain ⟨tS, hf, hr⟩ := h
  rw [satisfiedAt]
  apply exists_bind_ok
  · refine foldlM_except_rel (fun tS tK : Tally => tS.weight ≤ tK.weight)
      (fun a b x a' hab hs => ?_) _ _ _ _ (direct_weight_le hSK auth) hf
    split at hs
    · rename_i hin
      simp only [pure, Except.pure, Except.ok.injEq] at hs
      subst hs
      exact ⟨_, if_pos hin, Nat.add_le_add_right hab _⟩
    · rename_i hnot
      rw [if_neg hnot]
      split at hs
      · simp only [pure, Except.pure, Except.ok.injEq] at hs
        subst hs
        exact ⟨b, rfl, hab⟩
      · rename_i d
        simp only [except_bind_eq_ok] at hs
        obtain ⟨auth', hl, rS, hrS, hs⟩ := hs
        obtain ⟨rK, hrK, hsome⟩ := ih d (Nat.lt_succ_self d) auth' rS hrS
        simp only [hl, hrK, bind, Except.bind]
        cases rS <;> cases rK <;> simp only [pure, Except.pure, Except.ok.injEq] at hs <;>
          subst hs
        · exact ⟨_, rfl, hab⟩
        · exact ⟨_, rfl, Nat.le_add_right_of_le hab⟩
        · cases hsome rfl
        · exact ⟨_, rfl, Nat.add_le_add_right hab _⟩
  · intro tK hle
    refine ⟨_, rfl, fun hs => ?_⟩
    simp only [pure, Except.pure, Except.ok.injEq] at hr
    subst hr
    split at hs
    · rw [if_pos (le_trans (by assumption) hle)]
      rfl
    · cases hs

end Restrict

/-! ### The checker on a controller -/

/-- `authority_checker::satisfied(level)` over the keys `keys` and no provided accounts,
as `get_required_keys` and `check_transaction_authorization` build it on `c`. -/
def Controller.checker (c : Controller) (keys : List PublicKey) (level : PermissionLevel) :
    Except Failure (Option (List PublicKey)) := do
  satisfiedAt c.authorityOf keys [] c.gpo.configuration.maxAuthorityDepth (← c.authorityOf level)

/-- The keys the checker over `keys` uses for the declared authority `a`, where it is
satisfied. -/
def Controller.checkerKeys (c : Controller) (keys : List PublicKey) (a : PermissionLevel) :
    List PublicKey :=
  match c.checker keys a with
  | .ok (some u) => u
  | _ => []

/-- The keys the checker over `keys` uses for every declared authority of `acts`. -/
def Controller.usedKeys (c : Controller) (keys : List PublicKey) (acts : List Action) :
    List PublicKey :=
  acts.flatMap fun act => act.authorization.flatMap (c.checkerKeys keys)

theorem checker_used_subset {c : Controller} {K : List PublicKey} {a : PermissionLevel}
    {u : List PublicKey} (h : c.checker K a = .ok (some u)) : u ⊆ K := by
  unfold Controller.checker at h
  rw [except_bind_eq_ok] at h
  obtain ⟨auth, -, h⟩ := h
  exact satisfiedAt_used_subset _ _ _ _ _ _ h

theorem checker_restrict {c : Controller} {K R : List PublicKey} (hRK : R ⊆ K)
    {a : PermissionLevel} {u : List PublicKey} (h : c.checker K a = .ok (some u)) (hu : u ⊆ R) :
    ∃ u', c.checker R a = .ok (some u') ∧ u ⊆ u' := by
  unfold Controller.checker at h ⊢
  rw [except_bind_eq_ok] at h
  obtain ⟨auth, hl, h⟩ := h
  obtain ⟨r', hr', hsub⟩ := satisfiedAt_restrict _ _ hRK _ _ _ h
  obtain ⟨u', rfl, hu'⟩ := hsub u rfl hu
  exact ⟨u', by rw [hl]; exact hr', hu'⟩

theorem checker_extend {c : Controller} {S K : List PublicKey} (hSK : S ⊆ K)
    {a : PermissionLevel} {u : List PublicKey} (h : c.checker S a = .ok (some u)) :
    ∃ u', c.checker K a = .ok (some u') := by
  unfold Controller.checker at h ⊢
  rw [except_bind_eq_ok] at h
  obtain ⟨auth, hl, h⟩ := h
  obtain ⟨r', hr', hsome⟩ := satisfiedAt_extend _ _ hSK _ _ _ h
  obtain ⟨u', rfl⟩ := Option.isSome_iff_exists.1 (hsome rfl)
  exact ⟨u', by rw [hl]; exact hr'⟩

theorem mem_usedKeys {c : Controller} {keys : List PublicKey} {acts : List Action} {k : PublicKey} :
    k ∈ c.usedKeys keys acts ↔
      ∃ act ∈ acts, ∃ a ∈ act.authorization, k ∈ c.checkerKeys keys a := by
  simp [Controller.usedKeys]

/-! ### Loops of checks -/

/-- Two runs of the authorization checks from `c`: both fail alike, or both return `c`
with the keys `d₁` and `d₂`. -/
def Parallel (c : Controller) (d₁ d₂ : List PublicKey) :
    EStateM.Result Failure Controller (List PublicKey) →
      EStateM.Result Failure Controller (List PublicKey) → Prop
  | .ok v₁ c₁, .ok v₂ c₂ => c₁ = c ∧ c₂ = c ∧ v₁ = d₁ ∧ v₂ = d₂
  | .error e₁ c₁, .error e₂ c₂ => e₁ = e₂ ∧ c₁ = c₂
  | _, _ => False

/-- Two folds of checks from `c` whose steps run in parallel, each adding its keys, run
in parallel, adding all of them. -/
theorem foldlM_parallel {γ : Type} {c : Controller}
    {f g : List PublicKey → γ → ControllerM (List PublicKey)} {d e : γ → List PublicKey} :
    ∀ (l : List γ),
      (∀ x ∈ l, ∀ v₁ v₂, Parallel c (v₁ ++ d x) (v₂ ++ e x) (f v₁ x c) (g v₂ x c)) →
      ∀ v₁ v₂, Parallel c (v₁ ++ l.flatMap d) (v₂ ++ l.flatMap e) (l.foldlM f v₁ c)
        (l.foldlM g v₂ c)
  | [], _, v₁, v₂ => by simp [Parallel]
  | x :: l, h, v₁, v₂ => by
    have hx := h x (List.mem_cons_self _ _) v₁ v₂
    simp only [List.foldlM_cons, bind_apply]
    cases hf : f v₁ x c <;> cases hg : g v₂ x c <;> simp only [Parallel, hf, hg] at hx ⊢
    · obtain ⟨rfl, rfl, rfl, rfl⟩ := hx
      have := foldlM_parallel l (fun y hy => h y (List.mem_cons_of_mem _ hy))
        (v₁ ++ d x) (v₂ ++ e x)
      simpa [List.append_assoc] using this
    · obtain ⟨rfl, rfl⟩ := hx
      exact ⟨rfl, rfl⟩

/-- Two runs in parallel, each followed by a continuation that does the same from the
keys it returned, end alike. -/
theorem Parallel.bind_eq {β : Type} {c : Controller} {d₁ d₂ : List PublicKey}
    {x₁ x₂ : ControllerM (List PublicKey)} {f g : List PublicKey → ControllerM β}
    (h : Parallel c d₁ d₂ (x₁ c) (x₂ c)) (hfg : f d₁ c = g d₂ c) :
    (x₁ >>= f) c = (x₂ >>= g) c := by
  rw [bind_apply, bind_apply]
  revert h
  cases x₁ c <;> cases x₂ c <;> simp only [Parallel, false_implies]
  · rintro ⟨rfl, rfl, rfl, rfl⟩
    exact hfg
  · rintro ⟨rfl, rfl⟩
    rfl

/-- A fold of checks from `c` whose steps, where they return, keep `c` and add their keys:
where it returns, it kept `c` and added all of them, and every step returned. -/
theorem foldlM_accumulates {γ : Type} {c : Controller}
    {f : List PublicKey → γ → ControllerM (List PublicKey)} {d : γ → List PublicKey} {P : γ → Prop}
    (h : ∀ x v v' c', f v x c = .ok v' c' → c' = c ∧ v' = v ++ d x ∧ P x) :
    ∀ (l : List γ) (v v' : List PublicKey) (c' : Controller), l.foldlM f v c = .ok v' c' →
      c' = c ∧ v' = v ++ l.flatMap d ∧ ∀ x ∈ l, P x
  | [], v, v', c', hf => by
    simp only [List.foldlM_nil, pure_apply, EStateM.Result.ok.injEq] at hf
    obtain ⟨rfl, rfl⟩ := hf
    simp
  | x :: l, v, v', c', hf => by
    simp only [List.foldlM_cons, bind_apply] at hf
    cases hx : f v x c with
    | error e c₁ => simp [hx] at hf
    | ok v₁ c₁ =>
      rw [hx] at hf
      obtain ⟨rfl, rfl, hp⟩ := h x v v₁ c₁ hx
      obtain ⟨rfl, rfl, hl⟩ := foldlM_accumulates h l _ v' c' hf
      exact ⟨rfl, by simp, fun y hy => (List.mem_cons.1 hy).elim (· ▸ hp) (hl y)⟩

section Checks

variable (env : Env)

/-- With signatures checked, a declared authority satisfied over both `K` and `R` is
checked alike over the two: both checks fail, or both return, each appending the keys its
checker used. -/
theorem checkDeclaredAuth_parallel {c : Controller}
    (hs : hasFlag c.skipFlags skipTransactionSignatures = false) {K R : List PublicKey}
    {act : Action} {a : PermissionLevel} {uK uR : List PublicKey}
    (hK : c.checker K a = .ok (some uK)) (hR : c.checker R a = .ok (some uR))
    (v₁ v₂ : List PublicKey) :
    Parallel c (v₁ ++ uK) (v₂ ++ uR) (checkDeclaredAuth env K [] act v₁ a c)
      (checkDeclaredAuth env R [] act v₂ a c) := by
  have hm := (lookupMinimumPermission_unchanged env a.actor act.scope act.name).leaves c
  simp only [checkDeclaredAuth, bind_apply, get_apply]
  cases hl : lookupMinimumPermission env a.actor act.scope act.name c with
  | error e c' => exact ⟨rfl, rfl⟩
  | ok p c' =>
    simp only [hl, resultState_ok] at hm
    subst hm
    have hK' : (c'.authorityOf a >>= satisfiedAt c'.authorityOf K []
      c'.gpo.configuration.maxAuthorityDepth) = Except.ok (some uK) := hK
    have hR' : (c'.authorityOf a >>= satisfiedAt c'.authorityOf R []
      c'.gpo.configuration.maxAuthorityDepth) = Except.ok (some uR) := hR
    simp only [hs, hK', hR', liftExcept, Bool.not_false, ite_true, bind_apply, pure_apply]
    split
    · have hg := (getPermission_unchanged a).leaves c'
      cases hp : getPermission a c' with
      | error e c'' => simp only [bind_apply, hp]; exact ⟨rfl, rfl⟩
      | ok q c'' =>
        simp only [hp, resultState_ok] at hg
        subst hg
        by_cases hsat : q.satisfies p c''.objects.ext.permissions = true
        · simp [Parallel, bind_apply, hp, fcAssert, hsat]
        · simp only [bind_apply, hp, fcAssert, hsat, throwException]
          exact ⟨rfl, rfl⟩
    · simp [Parallel, bind_apply]

/-- With signatures checked, the loops of `check_authorization` over two sets of keys
run alike from `c` where every declared authority is satisfied over both. -/
theorem checkAuthorization_loops_parallel {c : Controller}
    (hs : hasFlag c.skipFlags skipTransactionSignatures = false) {K₁ K₂ : List PublicKey}
    (acts : List Action)
    (hsat : ∀ act ∈ acts, ∀ a ∈ act.authorization,
      (∃ u, c.checker K₁ a = .ok (some u)) ∧ ∃ u, c.checker K₂ a = .ok (some u)) :
    Parallel c (c.usedKeys K₁ acts) (c.usedKeys K₂ acts)
      (acts.foldlM (fun used act =>
        act.authorization.foldlM (checkDeclaredAuth env K₁ [] act) used) [] c)
      (acts.foldlM (fun used act =>
        act.authorization.foldlM (checkDeclaredAuth env K₂ [] act) used) [] c) := by
  have := foldlM_parallel (c := c)
    (f := fun used act => act.authorization.foldlM (checkDeclaredAuth env K₁ [] act) used)
    (g := fun used act => act.authorization.foldlM (checkDeclaredAuth env K₂ [] act) used)
    (d := fun act => act.authorization.flatMap (c.checkerKeys K₁))
    (e := fun act => act.authorization.flatMap (c.checkerKeys K₂)) acts
    (fun act hact v₁ v₂ => foldlM_parallel act.authorization (fun a ha v₁ v₂ => by
      obtain ⟨⟨u₁, h₁⟩, u₂, h₂⟩ := hsat act hact a ha
      simp only [Controller.checkerKeys, h₁, h₂]
      exact checkDeclaredAuth_parallel env hs h₁ h₂ v₁ v₂) v₁ v₂) [] []
  simpa [Controller.usedKeys] using this

end Checks

/-! ### `get_required_keys` -/

/-- One step of the loop of `get_required_keys`: where it returns, it changed nothing and
added the keys the checker used for a satisfied declared authority. -/
theorem getRequiredKeys_step {c c' : Controller} {K : List PublicKey} {a : PermissionLevel}
    {v v' : List PublicKey}
    (hs : (do
      let r ← liftExcept (c.checker K a)
      match r with
      | some u => pure (v ++ u)
      | none =>
        throwException .txMissingSigs
          "transaction declares authority, but does not have signatures for it." :
        ControllerM (List PublicKey)) c = .ok v' c') :
    c' = c ∧ v' = v ++ c.checkerKeys K a ∧ ∃ u, c.checker K a = .ok (some u) := by
  simp only [bind_apply] at hs
  cases hc : c.checker K a with
  | error e => simp [hc, liftExcept] at hs
  | ok r =>
    cases r with
    | none => simp [hc, liftExcept, throwException] at hs
    | some u =>
      simp only [hc, liftExcept, pure_apply, EStateM.Result.ok.injEq] at hs
      obtain ⟨rfl, rfl⟩ := hs
      exact ⟨rfl, by simp [Controller.checkerKeys, hc], u, rfl⟩

/-- What `get_required_keys` returns: it changes nothing, every declared authority is
satisfied by the candidate keys, and the result holds the keys used for them. -/
theorem getRequiredKeys_ok {trx : Transaction} {K R : List PublicKey} {c c' : Controller}
    (h : getRequiredKeys trx K c = .ok R c') :
    c' = c ∧
      (∀ act ∈ trx.actions, ∀ a ∈ act.authorization, ∃ u, c.checker K a = .ok (some u)) ∧
      ∀ k, k ∈ R ↔ k ∈ c.usedKeys K trx.actions := by
  unfold getRequiredKeys at h
  obtain ⟨_, _, hg, h⟩ := bind_eq_ok.1 h
  simp only [get_apply, EStateM.Result.ok.injEq] at hg
  obtain ⟨rfl, rfl⟩ := hg
  obtain ⟨used, c₁, hf, hp⟩ := bind_eq_ok.1 h
  obtain ⟨rfl, rfl, hall⟩ := foldlM_accumulates
    (d := fun act => act.authorization.flatMap (c.checkerKeys K))
    (P := fun act => ∀ a ∈ act.authorization, ∃ u, c.checker K a = .ok (some u))
    (fun _ _ _ _ hs => foldlM_accumulates (fun _ _ _ _ hs => getRequiredKeys_step hs) _ _ _ _ hs)
    _ _ _ _ hf
  simp only [pure_apply, EStateM.Result.ok.injEq] at hp
  obtain ⟨rfl, rfl⟩ := hp
  refine ⟨rfl, hall, fun k => ?_⟩
  rw [List.mem_dedup, (List.perm_insertionSort _ _).mem_iff]
  rfl

section Required

variable {trx : Transaction} {K R : List PublicKey} {c c' : Controller}

/-- The keys `get_required_keys` returns are candidate keys. -/
theorem getRequiredKeys_subset (h : getRequiredKeys trx K c = .ok R c') : R ⊆ K := fun k hk => by
  obtain ⟨-, hK, hmem⟩ := getRequiredKeys_ok h
  obtain ⟨act, hact, a, ha, hk⟩ := mem_usedKeys.1 ((hmem k).1 hk)
  obtain ⟨u, hu⟩ := hK act hact a ha
  simp only [Controller.checkerKeys, hu] at hk
  exact checker_used_subset hu hk

/-- Over the keys `get_required_keys` returns, each declared authority stays satisfied,
with at least the keys it used over the candidates. -/
theorem getRequiredKeys_restrict (h : getRequiredKeys trx K c = .ok R c') :
    ∀ act ∈ trx.actions, ∀ a ∈ act.authorization, ∃ uK uR,
      c.checker K a = .ok (some uK) ∧ c.checker R a = .ok (some uR) ∧ uK ⊆ uR := by
  obtain ⟨-, hK, hmem⟩ := getRequiredKeys_ok h
  intro act hact a ha
  obtain ⟨uK, hu⟩ := hK act hact a ha
  obtain ⟨uR, hr, hsub⟩ := checker_restrict (getRequiredKeys_subset h) hu fun k hk =>
    (hmem k).2 (mem_usedKeys.2 ⟨act, hact, a, ha, by simpa [Controller.checkerKeys, hu]⟩)
  exact ⟨uK, uR, hu, hr, hsub⟩

/-- The checker over the keys `get_required_keys` returns uses every one of them. -/
theorem getRequiredKeys_used (h : getRequiredKeys trx K c = .ok R c') :
    ∀ k ∈ R, k ∈ c.usedKeys R trx.actions := fun k hk => by
  obtain ⟨-, -, hmem⟩ := getRequiredKeys_ok h
  obtain ⟨act, hact, a, ha, hk⟩ := mem_usedKeys.1 ((hmem k).1 hk)
  obtain ⟨uK, uR, hu, hr, hsub⟩ := getRequiredKeys_restrict h act hact a ha
  simp only [Controller.checkerKeys, hu] at hk
  exact mem_usedKeys.2 ⟨act, hact, a, ha, by simpa [Controller.checkerKeys, hr] using hsub hk⟩

end Required

/-- The genesis `lagGenesis` where the producers account's active permission needs
weight two from the keys 100 and 101 and the active permission of `prodA`, which the key
110 holds. -/
def keyedGenesis : Genesis :=
  { lagGenesis with
    ext := { lagGenesis.ext with
      permissions := [⟨3, 4, 4, ⟨2, [⟨100, 1⟩, ⟨101, 1⟩], [⟨⟨prodA, 4⟩, 1⟩]⟩⟩,
        ⟨prodA, 4, 4, ⟨1, [⟨110, 1⟩], []⟩⟩] } }

/-- The controller the constructor builds from `keyedGenesis`. -/
def keyedStart : Controller := Controller.begin (sampleEnv lagConfig) keyedGenesis ⟨[]⟩

/-- A transaction whose one action declares the producers account's active authority. -/
def keyedTrx : Transaction := ⟨0, 0, 0, [], [1], [⟨3, 5, [⟨3, 4⟩], []⟩]⟩

/-- `get_required_keys` is sound for `check_authorization`: the keys `R` it returns
for the candidate keys `K` are candidate keys; with signatures checked, every declared
authority is satisfied over `R` and every key of `R` is used, and the check over `R`
that rejects unused keys ends exactly as the check over `K` that allows them. -/
theorem getRequiredKeys_sound (env : Env) (trx : Transaction) (K R : List PublicKey)
    (c c' : Controller)
    (h : getRequiredKeys trx K c = .ok R c')
    (hs : hasFlag c.skipFlags skipTransactionSignatures = false) :
    R ⊆ K ∧
      (∀ act ∈ trx.actions, ∀ a ∈ act.authorization, ∃ u, c.checker R a = .ok (some u)) ∧
      (∀ k ∈ R, k ∈ c.usedKeys R trx.actions) ∧
      checkAuthorization env trx R false [] c = checkAuthorization env trx K true [] c := by
  have hR := getRequiredKeys_restrict h
  have hused := getRequiredKeys_used h
  refine ⟨getRequiredKeys_subset h, fun act hact a ha => ?_, hused, ?_⟩
  · obtain ⟨_, uR, _, hr, _⟩ := hR act hact a ha
    exact ⟨uR, hr⟩
  · refine Parallel.bind_eq (checkAuthorization_loops_parallel env hs trx.actions
      fun act hact a ha => ?_) ?_
    · obtain ⟨uK, uR, hu, hr, _⟩ := hR act hact a ha
      exact ⟨⟨uR, hr⟩, uK, hu⟩
    · simp [hs, fcAssert, List.all_eq_true.2 fun k hk => decide_eq_true (hused k hk)]

set_option smartUnfolding false in
/-- Over the candidate keys 100, 110 and 120, the required keys are 100, directly, and
110, through `prodA`'s permission; the check over them that rejects unused keys ends as
the one over the candidates that allows them. -/
theorem getRequiredKeys_sound_keyedStart :
    Reachable (sampleEnv lagConfig) keyedStart ∧
      getRequiredKeys keyedTrx [100, 110, 120] keyedStart = .ok [100, 110] keyedStart ∧
      hasFlag keyedStart.skipFlags skipTransactionSignatures = false ∧
      checkAuthorization (sampleEnv lagConfig) keyedTrx [100, 110] false [] keyedStart =
        checkAuthorization (sampleEnv lagConfig) keyedTrx [100, 110, 120] true [] keyedStart :=
  have h : getRequiredKeys keyedTrx [100, 110, 120] keyedStart = .ok [100, 110] keyedStart := rfl
  have hs : hasFlag keyedStart.skipFlags skipTransactionSignatures = false := by decide
  ⟨@reachable_run (sampleEnv lagConfig) keyedGenesis ⟨[]⟩ [] (by decide) rfl, h, hs,
    (getRequiredKeys_sound (sampleEnv lagConfig) _ _ _ _ _ h hs).2.2.2⟩

/-! ### Completeness -/

/-- A fold of checks from `c` whose every step returns and keeps `c` returns and keeps `c`. -/
theorem foldlM_returns {γ : Type} {c : Controller}
    {f : List PublicKey → γ → ControllerM (List PublicKey)} :
    ∀ (l : List γ), (∀ x ∈ l, ∀ v, ∃ v', f v x c = .ok v' c) →
      ∀ v, ∃ v', l.foldlM f v c = .ok v' c
  | [], _, v => ⟨v, rfl⟩
  | x :: l, h, v => by
    obtain ⟨v₁, h₁⟩ := h x (List.mem_cons_self _ _) v
    simp only [List.foldlM_cons, bind_apply, h₁]
    exact foldlM_returns l (fun y hy => h y (List.mem_cons_of_mem _ hy)) v₁

/-- `get_required_keys` returns, changing nothing, where every declared authority is
satisfied by the candidate keys. -/
theorem getRequiredKeys_returns {trx : Transaction} {K : List PublicKey} {c : Controller}
    (h : ∀ act ∈ trx.actions, ∀ a ∈ act.authorization, ∃ u, c.checker K a = .ok (some u)) :
    ∃ R, getRequiredKeys trx K c = .ok R c := by
  unfold getRequiredKeys
  simp only [bind_apply, get_apply]
  refine (foldlM_returns trx.actions (fun act hact v =>
    foldlM_returns act.authorization (fun a ha v => ?_) v) []).elim fun used hu =>
      ⟨_, by rw [hu]; rfl⟩
  obtain ⟨u, hu⟩ := h act hact a ha
  unfold Controller.checker at hu
  exact ⟨v ++ u, by simp only [hu, liftExcept, pure_bind, pure_apply]⟩

section Checked

variable (env : Env)

/-- With signatures checked, a declared authority whose check returned changed nothing,
added the keys its checker used, and is satisfied by the provided keys. -/
theorem checkDeclaredAuth_ok {c c' : Controller}
    (hs : hasFlag c.skipFlags skipTransactionSignatures = false) {K : List PublicKey}
    {act : Action} {a : PermissionLevel} {v v' : List PublicKey}
    (h : checkDeclaredAuth env K [] act v a c = .ok v' c') :
    c' = c ∧ v' = v ++ c.checkerKeys K a ∧ ∃ u, c.checker K a = .ok (some u) := by
  have hm := (lookupMinimumPermission_unchanged env a.actor act.scope act.name).leaves c
  simp only [checkDeclaredAuth, bind_apply, get_apply] at h
  cases hl : lookupMinimumPermission env a.actor act.scope act.name c with
  | error e c₁ => simp [hl] at h
  | ok p c₁ =>
    simp only [hl, resultState_ok] at hm h
    subst hm
    simp only [hs, Bool.not_false, ite_true] at h
    split at h
    · obtain ⟨q, c₂, hp, h⟩ := bind_eq_ok.1 h
      obtain rfl : c₂ = c₁ := by simpa [hp] using (getPermission_unchanged a).leaves c₁
      obtain ⟨_, c₃, hf, h⟩ := bind_eq_ok.1 h
      obtain rfl : c₃ = c₂ := by unfold fcAssert at hf; split at hf <;> cases hf; rfl
      exact getRequiredKeys_step h
    · exact getRequiredKeys_step h

/-- With signatures checked, a `check_authorization` that returned found every declared
authority satisfied by the provided keys. -/
theorem checkAuthorization_satisfied {trx : Transaction} {S : List PublicKey}
    {allowUnusedSignatures : Bool} {c c' : Controller}
    (hs : hasFlag c.skipFlags skipTransactionSignatures = false)
    (h : checkAuthorization env trx S allowUnusedSignatures [] c = .ok () c') :
    ∀ act ∈ trx.actions, ∀ a ∈ act.authorization, ∃ u, c.checker S a = .ok (some u) := by
  unfold checkAuthorization at h
  obtain ⟨_, _, hf, -⟩ := bind_eq_ok.1 h
  exact (foldlM_accumulates (d := fun act => act.authorization.flatMap (c.checkerKeys S))
    (P := fun act => ∀ a ∈ act.authorization, ∃ u, c.checker S a = .ok (some u))
    (fun _ _ _ _ hs' => foldlM_accumulates (fun _ _ _ _ ha => checkDeclaredAuth_ok env hs ha)
      _ _ _ _ hs') _ _ _ _ hf).2.2

end Checked

/-- `get_required_keys` is complete for `check_authorization`: with signatures checked,
when the check over some subset `S` of the candidate keys `K` returns, `get_required_keys`
over `K` returns, changing nothing, and the check over the keys `R` it returns that
rejects unused keys returns too. -/
theorem getRequiredKeys_complete (env : Env) (trx : Transaction) (K S : List PublicKey)
    (allowUnusedSignatures : Bool) (c c' : Controller) (hSK : S ⊆ K)
    (hs : hasFlag c.skipFlags skipTransactionSignatures = false)
    (h : checkAuthorization env trx S allowUnusedSignatures [] c = .ok () c') :
    ∃ R, getRequiredKeys trx K c = .ok R c ∧ checkAuthorization env trx R false [] c = .ok () c := by
  have hsatS := checkAuthorization_satisfied env hs h
  obtain ⟨R, hR⟩ := getRequiredKeys_returns fun act hact a ha =>
    (hsatS act hact a ha).elim fun _ hu => checker_extend hSK hu
  have hpar := checkAuthorization_loops_parallel env hs trx.actions fun act hact a ha =>
    ⟨(getRequiredKeys_restrict hR act hact a ha).elim fun _ ⟨uR, _, hr, _⟩ => ⟨uR, hr⟩,
      hsatS act hact a ha⟩
  refine ⟨R, hR, ?_⟩
  unfold checkAuthorization at h ⊢
  obtain ⟨_, _, hS, -⟩ := bind_eq_ok.1 h
  rw [bind_apply]
  cases hRl : trx.actions.foldlM (fun used act =>
      act.authorization.foldlM (checkDeclaredAuth env R [] act) used) [] c with
  | ok v c₁ =>
    simp only [hRl, hS, Parallel] at hpar
    obtain ⟨rfl, -, rfl, -⟩ := hpar
    simp only [bind_apply, get_apply, hs, Bool.not_false, Bool.and_self, ite_true, fcAssert,
      List.all_eq_true.2 fun k hk => decide_eq_true (getRequiredKeys_used hR k hk), pure_apply]
  | error e c₁ => simp only [hRl, hS, Parallel] at hpar

set_option smartUnfolding false in
/-- On `keyedStart`, the check over the keys 100 and 110 that allows unused keys passes;
`get_required_keys` over 100, 110 and 120 then returns keys that pass the check that
rejects them. -/
theorem getRequiredKeys_complete_keyedStart :
    ([100, 110] : List PublicKey) ⊆ [100, 110, 120] ∧
      hasFlag keyedStart.skipFlags skipTransactionSignatures = false ∧
      checkAuthorization (sampleEnv lagConfig) keyedTrx [100, 110] true [] keyedStart =
        .ok () keyedStart ∧
      ∃ R, getRequiredKeys keyedTrx [100, 110, 120] keyedStart = .ok R keyedStart ∧
        checkAuthorization (sampleEnv lagConfig) keyedTrx R false [] keyedStart = .ok () keyedStart :=
  have hSK : ([100, 110] : List PublicKey) ⊆ [100, 110, 120] := by decide
  have hs : hasFlag keyedStart.skipFlags skipTransactionSignatures = false := by decide
  have h : checkAuthorization (sampleEnv lagConfig) keyedTrx [100, 110] true [] keyedStart =
      .ok () keyedStart := rfl
  ⟨hSK, hs, h, getRequiredKeys_complete (sampleEnv lagConfig) keyedTrx _ _ _ _ _ hSK hs h⟩

end EosChain
