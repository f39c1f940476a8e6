import EosChain.Spec.Controller
import Mathlib.Order.Defs.Unbundled

/-!
# `EosChain.Proofs.Monad`: what a controller method does to the state

Every method of the controller leaves a state, whether it returns or fails
(`resultState`). The proofs about the controller are stated through that state:

* `Moves R x`: every state `x` starts from is related by `R` to the state it leaves.
  With `R` reflexive and transitive, `Moves R` goes through `bind`, `tryCatch` and the
  loops, so the frame of a method follows from the frames of the methods it calls.
* `Triple P x Q E`: from a state satisfying `P`, `x` returns in a state satisfying `Q`
  or fails in a state satisfying `E`. An invariant `I` of `x` is `Triple I x I I`; a
  step whose correctness rests on a check made before it is proved with a stronger
  `P`.

The run equations of `bind`, `tryCatch` and the other primitives come first; the
rules for `Moves` follow the shape of a `do` block.
-/

set_option autoImplicit false

namespace EosChain

/-- The state a method leaves, whether it returned or failed. -/
def resultState {α : Type} : EStateM.Result Failure Controller α → Controller
  | .ok _ c => c
  | .error _ c => c

@[simp] theorem resultState_ok {α : Type} (a : α) (c : Controller) :
    resultState (.ok a c) = c := rfl

@[simp] theorem resultState_error {α : Type} (e : Failure) (c : Controller) :
    resultState (EStateM.Result.error e c : EStateM.Result Failure Controller α) = c := rfl

section RunEquations

variable {α β : Type}

theorem bind_apply (x : ControllerM α) (f : α → ControllerM β) (c : Controller) :
    (x >>= f) c = match x c with
      | .ok a c' => f a c'
      | .error e c' => .error e c' := by
  show EStateM.bind x f c = _
  unfold EStateM.bind
  cases x c <;> rfl

/-- A bound computation returns exactly when its first part returns and the rest returns
from there. -/
theorem bind_eq_ok {x : ControllerM α} {f : α → ControllerM β} {c c' : Controller} {b : β} :
    (x >>= f) c = .ok b c' ↔ ∃ a c₁, x c = .ok a c₁ ∧ f a c₁ = .ok b c' := by
  rw [bind_apply]
  cases x c <;> simp [and_assoc]

theorem tryCatch_apply (x : ControllerM α) (h : Failure → ControllerM α) (c : Controller) :
    tryCatch x h c = match x c with
      | .ok a c' => .ok a c'
      | .error e c' => h e c' := by
  show EStateM.tryCatch x h c = _
  unfold EStateM.tryCatch
  cases x c <;> rfl

@[simp] theorem pure_apply (a : α) (c : Controller) : (pure a : ControllerM α) c = .ok a c := rfl

@[simp] theorem get_apply (c : Controller) : (get : ControllerM Controller) c = .ok c c := rfl

@[simp] theorem modify_apply (f : Controller → Controller) (c : Controller) :
    (modify f : ControllerM Unit) c = .ok () (f c) := rfl

@[simp] theorem throw_apply (e : Failure) (c : Controller) :
    (throw e : ControllerM α) c = .error e c := rfl

/-- A state the node runs on from is the state the call left. -/
theorem resultState_of_continuation {r : EStateM.Result Failure Controller α}
    {c : Controller} (h : continuation r = some c) : resultState r = c := by
  rcases r with ⟨_, d⟩ | ⟨_ | _ | _, d⟩ <;> simp only [continuation, reduceCtorEq] at h <;>
    exact Option.some.inj h

end RunEquations

/-! ### Frames -/

/-- Every state `x` starts from is related by `R` to the state it leaves. -/
structure Moves (R : Controller → Controller → Prop) {α : Type} (x : ControllerM α) : Prop where
  leaves : ∀ c, R c (resultState (x c))

namespace Moves

variable {R R' : Controller → Controller → Prop} {α β : Type}

theorem mono (hR : ∀ c c', R c c' → R' c c') {x : ControllerM α} (h : Moves R x) :
    Moves R' x := ⟨fun c => hR _ _ (h.leaves c)⟩

theorem update {f : Controller → Controller} (h : ∀ c, R c (f c)) :
    Moves R (modify f : ControllerM PUnit) := ⟨h⟩

theorem ite {p : Prop} [Decidable p] {x y : ControllerM α} (hx : Moves R x) (hy : Moves R y) :
    Moves R (if p then x else y) := by
  split <;> assumption

theorem bind [IsTrans Controller R] {x : ControllerM α} {f : α → ControllerM β}
    (hx : Moves R x) (hf : ∀ a, Moves R (f a)) : Moves R (x >>= f) := by
  refine ⟨fun c => ?_⟩
  have hc := hx.leaves c
  rw [bind_apply]
  cases h : x c with
  | ok a c' => exact trans_of R (by simpa [h] using hc) ((hf a).leaves c')
  | error e c' => simpa [h] using hc

theorem tryCatch [IsTrans Controller R] {x : ControllerM α} {h : Failure → ControllerM α}
    (hx : Moves R x) (hh : ∀ e, Moves R (h e)) : Moves R (MonadExcept.tryCatch x h) := by
  refine ⟨fun c => ?_⟩
  have hc := hx.leaves c
  rw [tryCatch_apply]
  cases h' : x c with
  | ok a c' => simpa [h'] using hc
  | error e c' => exact trans_of R (by simpa [h'] using hc) ((hh e).leaves c')

section Refl

variable [IsRefl Controller R]

theorem pure (a : α) : Moves R (Pure.pure a : ControllerM α) := ⟨refl_of R⟩

theorem get : Moves R (MonadState.get : ControllerM Controller) := ⟨refl_of R⟩

theorem throw (e : Failure) : Moves R (MonadExcept.throw e : ControllerM α) := ⟨refl_of R⟩

theorem throwException (k : ExceptionKind) (w : String) :
    Moves R (EosChain.throwException k w : ControllerM α) := throw _

theorem abortWith (w : String) : Moves R (EosChain.abortWith w : ControllerM α) := throw _

theorem fcAssert (b : Bool) (k : ExceptionKind) (w : String) :
    Moves R (EosChain.fcAssert b k w) := ite (pure _) (throwException _ _)

theorem liftExcept (r : Except Failure α) : Moves R (EosChain.liftExcept r) := by
  cases r
  · exact throw _
  · exact pure _

/-- An `if` with no `else` in front of the rest of a block, which the `do` notation copies
into both branches: the rest is proved once. -/
theorem ite_join [IsTrans Controller R] {p : Prop} [Decidable p] {x : ControllerM Unit}
    {f : Unit → ControllerM β} (hx : Moves R x) (hf : ∀ a, Moves R (f a)) :
    Moves R (if p then x >>= f else Pure.pure () >>= f) :=
  ite (bind hx hf) (bind (pure _) hf)

variable [IsTrans Controller R]

theorem forM {γ : Type} {f : γ → ControllerM PUnit} (hf : ∀ a, Moves R (f a)) :
    ∀ l : List γ, Moves R (l.forM f)
  | [] => pure _
  | a :: l => bind (hf a) fun _ => forM hf l

theorem foldlM {γ : Type} {f : β → γ → ControllerM β} (hf : ∀ b a, Moves R (f b a)) :
    ∀ (l : List γ) (b : β), Moves R (l.foldlM f b)
  | [], _ => pure _
  | a :: l, b => bind (hf b a) fun b' => foldlM hf l b'

theorem catchException {x : ControllerM α} {h : Failure → ControllerM α}
    (hx : Moves R x) (hh : ∀ e, Moves R (h e)) : Moves R (EosChain.catchException x h) :=
  tryCatch hx fun e => by cases e <;> first | exact hh _ | exact throw _

end Refl

/-! ### The store and the fork database -/

theorem modifyObjects {f : Objects → Objects}
    (h : ∀ c, R c { c with db := c.db.modify f }) : Moves R (EosChain.modifyObjects f) := ⟨h⟩

theorem modifyDb {f : Database → Database} (h : ∀ c, R c { c with db := f c.db }) :
    Moves R (EosChain.modifyDb f) := ⟨h⟩

theorem modifyForkDb {f : ForkDatabase → ForkDatabase}
    (h : ∀ c, R c { c with forkDb := f c.forkDb }) : Moves R (EosChain.modifyForkDb f) := ⟨h⟩

/-- Two frames of one method hold together. -/
theorem and {x : ControllerM α} (h : Moves R x)
    (h' : Moves R' x) : Moves (fun c c' => R c c' ∧ R' c c') x :=
  ⟨fun c => ⟨h.leaves c, h'.leaves c⟩⟩

theorem discard {x : ControllerM α} (h : Moves R x) : Moves R (Functor.discard x) :=
  ⟨fun c => by
    have := h.leaves c
    show R c (resultState (EStateM.map _ x c))
    unfold EStateM.map
    cases hx : x c <;> simpa [hx] using this⟩

/-- A read of the state, then `f`: `f` may take the value read for the state it runs from. -/
theorem get_bind {f : Controller → ControllerM α} (h : ∀ c, R c (resultState (f c c))) :
    Moves R (MonadState.get >>= f) :=
  ⟨fun c => by rw [bind_apply, get_apply]; exact h c⟩

end Moves

/-! ### Triples -/

/-- `Q` holds of the state a return leaves, `E` of the state a failure leaves. -/
def Holds {α : Type} (Q E : Controller → Prop) : EStateM.Result Failure Controller α → Prop
  | .ok _ c => Q c
  | .error _ c => E c

/-- From a state satisfying `P`, `x` returns in a state satisfying `Q`, or fails in a
state satisfying `E`. -/
structure Triple (P : Controller → Prop) {α : Type} (x : ControllerM α)
    (Q E : Controller → Prop) : Prop where
  run : ∀ c, P c → Holds Q E (x c)

namespace Triple

variable {P Q E R : Controller → Prop} {α β : Type}

theorem of_moves {Rel : Controller → Controller → Prop} {x : ControllerM α} (h : Moves Rel x)
    (hQ : ∀ c c', Rel c c' → P c → Q c') (hE : ∀ c c', Rel c c' → P c → E c') :
    Triple P x Q E := by
  refine ⟨fun c hc => ?_⟩
  have := h.leaves c
  cases hx : x c with
  | ok a c' => exact hQ c c' (by simpa [hx] using this) hc
  | error e c' => exact hE c c' (by simpa [hx] using this) hc

/-- A method whose frame keeps an invariant keeps it on every path. -/
theorem of_frame {Rel : Controller → Controller → Prop} {x : ControllerM α} (h : Moves Rel x)
    (hP : ∀ c c', Rel c c' → P c → P c') : Triple P x P P :=
  of_moves h hP hP

theorem mono {P' Q' E' : Controller → Prop} {x : ControllerM α} (h : Triple P x Q E)
    (hP : ∀ c, P' c → P c) (hQ : ∀ c, Q c → Q' c) (hE : ∀ c, E c → E' c) :
    Triple P' x Q' E' := by
  refine ⟨fun c hc => ?_⟩
  have := h.run c (hP c hc)
  cases hx : x c <;> simp only [hx, Holds] at this ⊢
  · exact hQ _ this
  · exact hE _ this

theorem pure (a : α) (hQ : ∀ c, P c → Q c) : Triple P (Pure.pure a : ControllerM α) Q E :=
  ⟨fun c hc => hQ c hc⟩

theorem get : Triple P (MonadState.get : ControllerM Controller) P E := ⟨fun _ hc => hc⟩

theorem throw (e : Failure) (hE : ∀ c, P c → E c) :
    Triple P (MonadExcept.throw e : ControllerM α) Q E := ⟨fun c hc => hE c hc⟩

theorem update {f : Controller → Controller} (h : ∀ c, P c → Q (f c)) :
    Triple P (modify f : ControllerM PUnit) Q E := ⟨fun c hc => h c hc⟩

theorem bind {x : ControllerM α} {f : α → ControllerM β} (hx : Triple P x R E)
    (hf : ∀ a, Triple R (f a) Q E) : Triple P (x >>= f) Q E := by
  refine ⟨fun c hc => ?_⟩
  have := hx.run c hc
  rw [bind_apply]
  cases h : x c with
  | ok a c' => simp only [h, Holds] at this; exact (hf a).run c' this
  | error e c' => simpa [h, Holds] using this

/-- What a triple says of the state a run leaves, whether it returns or fails. -/
theorem result {x : ControllerM α} (h : Triple P x Q Q) {c : Controller} (hc : P c) :
    Q (resultState (x c)) := by
  have := h.run c hc
  cases hx : x c <;> simpa [hx, Holds] using this

/-- `bind` through an invariant: `x` keeps `P` for the rest of the block. -/
theorem bind_keep {x : ControllerM α} {f : α → ControllerM β} (hx : Triple P x P E)
    (hf : ∀ a, Triple P (f a) Q E) : Triple P (x >>= f) Q E :=
  bind hx hf

theorem ite {p : Prop} [Decidable p] {x y : ControllerM α} (hx : Triple P x Q E)
    (hy : Triple P y Q E) : Triple P (if p then x else y) Q E := by
  split <;> assumption

/-- An `if` with no `else` in front of the rest of a block, which the `do` notation copies
into both branches: the rest is proved once. -/
theorem ite_join {p : Prop} [Decidable p] {x : ControllerM Unit} {f : Unit → ControllerM β}
    (hx : Triple P x P E) (hf : ∀ a, Triple P (f a) Q E) :
    Triple P (if p then x >>= f else Pure.pure () >>= f) Q E :=
  ite (bind hx hf) (bind (pure _ fun _ h => h) hf)

theorem tryCatch {E' : Controller → Prop} {x : ControllerM α} {h : Failure → ControllerM α}
    (hx : Triple P x Q E') (hh : ∀ e, Triple E' (h e) Q E) :
    Triple P (MonadExcept.tryCatch x h) Q E := by
  refine ⟨fun c hc => ?_⟩
  have := hx.run c hc
  rw [tryCatch_apply]
  cases h' : x c with
  | ok a c' => simpa [h', Holds] using this
  | error e c' => simp only [h', Holds] at this; exact (hh e).run c' this

/-- A step whose frame keeps `P` keeps it, and fails only where `P` holds. -/
theorem frame {Rel : Controller → Controller → Prop} {x : ControllerM α} (h : Moves Rel x)
    (hP : ∀ c c', Rel c c' → P c → P c') (hE : ∀ c, P c → E c) : Triple P x P E :=
  of_moves h hP fun c c' h hc => hE c' (hP c c' h hc)

theorem fcAssert (b : Bool) (k : ExceptionKind) (w : String) (hE : ∀ c, P c → E c) :
    Triple P (EosChain.fcAssert b k w) P E :=
  ite (pure _ fun _ h => h) (throw _ hE)

theorem liftExcept (r : Except Failure α) (hE : ∀ c, P c → E c) :
    Triple P (EosChain.liftExcept r) P E := by
  cases r
  · exact throw _ hE
  · exact pure _ fun _ h => h

theorem modifyObjects {f : Objects → Objects}
    (h : ∀ c, P c → Q { c with db := c.db.modify f }) :
    Triple P (EosChain.modifyObjects f) Q E := ⟨fun c hc => h c hc⟩

theorem modifyDb {f : Database → Database} (h : ∀ c, P c → Q { c with db := f c.db }) :
    Triple P (EosChain.modifyDb f) Q E := ⟨fun c hc => h c hc⟩

/-- The state `get` reads is the state the rest of the block starts from. -/
theorem get_bind {f : Controller → ControllerM β}
    (h : ∀ c₀, Triple (fun c => P c ∧ c = c₀) (f c₀) Q E) :
    Triple P (MonadState.get >>= f) Q E :=
  ⟨fun c hc => by rw [bind_apply]; exact (h c).run c ⟨hc, rfl⟩⟩

/-- From a known state, `get` reads that state. -/
theorem get_bind_self {c₀ : Controller} {f : Controller → ControllerM β}
    (h : Triple (· = c₀) (f c₀) Q E) : Triple (· = c₀) (MonadState.get >>= f) Q E :=
  ⟨fun c hc => by subst hc; rw [bind_apply]; exact h.run c rfl⟩

/-- The rest of the block after `get`, proved from each state the precondition admits. -/
theorem get_bind_at {f : Controller → ControllerM β}
    (h : ∀ c₀, P c₀ → Triple (· = c₀) (f c₀) Q E) : Triple P (MonadState.get >>= f) Q E :=
  ⟨fun c hc => by rw [bind_apply]; exact (h c hc).run c rfl⟩

/-- An assertion that holds goes on to the rest of the block. -/
theorem fcAssert_true_bind {f : Unit → ControllerM β} (k : ExceptionKind) (w : String)
    (h : Triple P (f ()) Q E) : Triple P (EosChain.fcAssert true k w >>= f) Q E := h

/-- A collaborator that returned `a` hands `a` to the rest of the block. -/
theorem liftExcept_ok_bind {a : α} {f : α → ControllerM β} (h : Triple P (f a) Q E) :
    Triple P (EosChain.liftExcept (.ok a) >>= f) Q E := h

theorem catchException {x : ControllerM α} {h : Failure → ControllerM α} (hx : Triple P x Q E)
    (hh : ∀ k w, Triple E (h (.exception k w)) Q E) :
    Triple P (EosChain.catchException x h) Q E :=
  tryCatch hx fun e => by cases e <;> first | exact hh _ _ | exact throw _ fun _ h => h

theorem forM {γ : Type} {f : γ → ControllerM PUnit} (hf : ∀ a, Triple P (f a) P E) :
    ∀ l : List γ, Triple P (l.forM f) P E
  | [] => pure _ fun _ h => h
  | a :: l => bind (hf a) fun _ => forM hf l

theorem discard {x : ControllerM α} (h : Triple P x Q E) :
    Triple P (Functor.discard x) Q E := by
  refine ⟨fun c hc => ?_⟩
  have := h.run c hc
  show Holds Q E (EStateM.map _ x c)
  unfold EStateM.map
  cases hx : x c <;> simpa [hx, Holds] using this

/-- After a failure nothing runs. -/
theorem throw_bind {f : α → ControllerM β} (e : Failure) (hE : ∀ c, P c → E c) :
    Triple P (MonadExcept.throw e >>= f) Q E :=
  ⟨fun c hc => by simpa [bind_apply, Holds] using hE c hc⟩

theorem abortWith_bind {f : α → ControllerM β} (w : String) (hE : ∀ c, P c → E c) :
    Triple P (EosChain.abortWith w >>= f) Q E := throw_bind _ hE

theorem abortWith (w : String) (hE : ∀ c, P c → E c) :
    Triple P (EosChain.abortWith w : ControllerM α) Q E := throw _ hE

/-- Two triples of one method hold together. -/
theorem and {Q' E' : Controller → Prop} {x : ControllerM α} (h : Triple P x Q E)
    (h' : Triple P x Q' E') : Triple P x (fun c => Q c ∧ Q' c) (fun c => E c ∧ E' c) := by
  refine ⟨fun c hc => ?_⟩
  have h₁ := h.run c hc
  have h₂ := h'.run c hc
  cases hx : x c <;> simp only [hx, Holds] at h₁ h₂ ⊢ <;> exact ⟨h₁, h₂⟩

/-- Every method returns or fails. -/
theorem top (x : ControllerM α) : Triple P x (fun _ => True) (fun _ => True) :=
  ⟨fun c _ => by cases x c <;> exact True.intro⟩

/-- A collaborator's result: the rest of the block runs on the value it returned. -/
theorem liftExcept_bind {r : Except Failure α} {f : α → ControllerM β}
    (h : ∀ a, r = .ok a → Triple P (f a) Q E) (hE : ∀ c, P c → E c) :
    Triple P (EosChain.liftExcept r >>= f) Q E := by
  cases r with
  | error e => exact throw_bind e hE
  | ok a => exact liftExcept_ok_bind (h a rfl)

/-- `with_skip_flags` keeps what its body establishes, where the skip flags do not
matter to it. -/
theorem withSkipFlags (skip : Nat) {x : ControllerM α} (hx : Triple P x Q E)
    (hP : ∀ c n, P c → P { c with skipFlags := n }) (hQ : ∀ c n, Q c → Q { c with skipFlags := n })
    (hE : ∀ c n, E c → E { c with skipFlags := n }) :
    Triple P (EosChain.withSkipFlags skip x) Q E :=
  bind get fun _ => bind (update fun c h => hP c _ h) fun _ =>
    bind (tryCatch hx fun _ => bind (update fun c h => hE c _ h) fun _ => throw _ fun _ h => h)
      fun _ => bind (update fun c h => hQ c _ h) fun _ => pure _ fun _ h => h

end Triple

end EosChain
