import Mathlib.Logic.Basic
set_option autoImplicit false

/-!
# Foundation: computations with a store and exceptions

A `Program σ ε α` runs on a store of type `σ` and ends either in a value of type
`α` or in a thrown `ε`.  The store survives a throw, as an object store does when
a method is left by an exception.  This module fixes the one-step meaning of such
a computation, `exec`, and the pre/postcondition rules a proof about a
straight-line method needs: a postcondition speaks about both ways of ending, so
a frame condition proved with these rules holds on every exit path.
-/

namespace LemonCas.Foundation

/-- A computation over a store `σ` that may throw `ε`; a throw keeps the store. -/
abbrev Program (σ ε α : Type) : Type := ExceptT ε (StateM σ) α

/-- A sequence of fallible steps returns when the first step returns and the rest
returns from there. -/
theorem bind_eq_ok_iff {ε α β : Type} {x : Except ε α} {f : α → Except ε β} {b : β} :
    x >>= f = .ok b ↔ ∃ a, x = .ok a ∧ f a = .ok b := by
  cases x with
  | error e => simp [bind, Except.bind]
  | ok a => simp [bind, Except.bind]

section Traversal

variable {ε α β : Type} {f : α → Except ε β} {l : List α}

/-- A traversal whose steps all return gives what they return. -/
theorem mapM_eq_ok_of_forall {g : α → β} (hok : ∀ a ∈ l, f a = .ok (g a)) :
    l.mapM f = .ok (l.map g) := by
  induction l with
  | nil => rfl
  | cons a rest ih =>
    have hfirst := hok a List.mem_cons_self
    have hrest := ih fun b hmem => hok b (List.mem_cons_of_mem _ hmem)
    rw [List.mapM_cons, hfirst, hrest]
    rfl

/-- Where no two steps throw differently, a step that throws makes the traversal throw. -/
theorem mapM_eq_error_of_exists {e : ε}
    (hsame : ∀ a ∈ l, ∀ thrown, f a = .error thrown → thrown = e)
    (hthrows : ∃ a ∈ l, f a = .error e) : l.mapM f = .error e := by
  induction l with
  | nil => simp at hthrows
  | cons a rest ih =>
    rw [List.mapM_cons]
    cases hfirst : f a with
    | error thrown =>
      rw [hsame a List.mem_cons_self thrown hfirst]
      rfl
    | ok b =>
      have hlater : ∃ a ∈ rest, f a = .error e := by
        simpa [hfirst] using hthrows
      rw [ih (fun c hmem => hsame c (List.mem_cons_of_mem _ hmem)) hlater]
      rfl

end Traversal

namespace Program

variable {σ ε α β : Type}

/-- Run a computation: how it ended, and the store it left. -/
def exec (m : Program σ ε α) (s : σ) : Except ε α × σ := m s

/-- A computation that only consults something fallible outside the store. -/
def ofExcept (x : Except ε α) : Program σ ε α := fun s => (x, s)

/-- Read something off the store that may be missing; throw `e` when it is. -/
def getOrThrow (f : σ → Option α) (e : ε) : Program σ ε α := fun s =>
  match f s with
  | some a => (.ok a, s)
  | none => (.error e, s)

/-- Throw `e` under the condition, and otherwise go on. -/
def throwIf (condition : Bool) (e : ε) : Program σ ε Unit :=
  if condition then throw e else pure ()

/-- Change the store and return a value. -/
def update (f : σ → α × σ) : Program σ ε α := fun s => (.ok (f s).1, (f s).2)

@[simp] theorem exec_pure (a : α) (s : σ) :
    (pure a : Program σ ε α).exec s = (.ok a, s) := rfl

@[simp] theorem exec_ofExcept (x : Except ε α) (s : σ) :
    (ofExcept x : Program σ ε α).exec s = (x, s) := rfl

@[simp] theorem exec_update (f : σ → α × σ) (s : σ) :
    (update f : Program σ ε α).exec s = (.ok (f s).1, (f s).2) := rfl

theorem exec_throwIf (condition : Bool) (e : ε) (s : σ) :
    (throwIf condition e : Program σ ε Unit).exec s =
      (if condition then .error e else .ok (), s) := by
  cases condition <;> rfl

theorem exec_getOrThrow_of_some {f : σ → Option α} {e : ε} {s : σ} {a : α}
    (h : f s = some a) : (getOrThrow f e).exec s = (.ok a, s) := by
  simp [exec, getOrThrow, h]

/-- Sequencing continues from the store the first part left, and stops at its
throw. -/
theorem exec_bind (m : Program σ ε α) (k : α → Program σ ε β) (s : σ) :
    (m >>= k).exec s =
      match m.exec s with
      | (.ok a, s') => (k a).exec s'
      | (.error e, s') => (.error e, s') := by
  show ExceptT.bind m k s = _
  simp only [ExceptT.bind, ExceptT.mk, bind, StateT.bind, exec]
  rcases m s with ⟨_ | _, s'⟩ <;> rfl

/-- Sequencing after a part that returned. -/
theorem exec_bind_of_ok {m : Program σ ε α} {k : α → Program σ ε β} {s s' : σ} {a : α}
    (h : m.exec s = (.ok a, s')) : (m >>= k).exec s = (k a).exec s' := by
  rw [exec_bind, h]

/-- Sequencing after a part that threw. -/
theorem exec_bind_of_error {m : Program σ ε α} {k : α → Program σ ε β} {s s' : σ} {e : ε}
    (h : m.exec s = (.error e, s')) : (m >>= k).exec s = (.error e, s') := by
  rw [exec_bind, h]

/-! ## Pre/postconditions

`Ensures m s Q` is the weakest precondition of `Q` at `s`, for a postcondition
over both ways of ending. -/

/-- Started in `s`, the computation ends in an outcome and a store satisfying
`Q`. -/
def Ensures (m : Program σ ε α) (s : σ) (Q : Except ε α → σ → Prop) : Prop :=
  Q (m.exec s).1 (m.exec s).2

theorem Ensures.of_exec {m : Program σ ε α} {s s' : σ} {x : Except ε α}
    {Q : Except ε α → σ → Prop} (h : m.exec s = (x, s')) (hQ : Q x s') :
    m.Ensures s Q := by
  unfold Ensures
  rw [h]
  exact hQ

/-- Consequence: a computation that ensures `Q` ensures everything `Q` implies. -/
theorem Ensures.mono {m : Program σ ε α} {s : σ} {Q R : Except ε α → σ → Prop}
    (h : m.Ensures s Q) (himp : ∀ x s', Q x s' → R x s') : m.Ensures s R :=
  himp _ _ h

/-- Sequencing after a part whose run is known. -/
theorem Ensures.bind_of_exec {m : Program σ ε α} {k : α → Program σ ε β} {s s' : σ}
    {a : α} {R : Except ε β → σ → Prop}
    (h : m.exec s = (.ok a, s')) (hk : (k a).Ensures s' R) : (m >>= k).Ensures s R := by
  unfold Ensures at hk ⊢
  rw [exec_bind_of_ok h]
  exact hk

/-! ## Runs of several computations

A caller runs one computation after the other on the same store, and goes on
after a throw. -/

universe u

variable {ι : Type u}

/-- Run the computation of every element of a list in turn; the transcript says
how each of them ended. -/
def runAll (m : ι → Program σ ε α) : List ι → σ → List (ι × Except ε α) × σ
  | [], s => ([], s)
  | i :: rest, s =>
      let (x, s₁) := (m i).exec s
      let (transcript, s₂) := runAll m rest s₁
      ((i, x) :: transcript, s₂)

/-- When no computation leaves an invariant, and under the invariant each ends in
a way that does not depend on the store, a run keeps the invariant and every
element of it ends in its own way. -/
theorem runAll_of_invariant {m : ι → Program σ ε α} {invariant : σ → Prop}
    {outcome : ι → Except ε α}
    (hstep : ∀ i s, invariant s →
      (m i).Ensures s fun x s' => x = outcome i ∧ invariant s')
    (run : List ι) {s : σ} (hs : invariant s) :
    (runAll m run s).1 = run.map (fun i => (i, outcome i)) ∧ invariant (runAll m run s).2 := by
  induction run generalizing s with
  | nil => exact ⟨rfl, hs⟩
  | cons i rest ih =>
    obtain ⟨houtcome, hnext⟩ := hstep i s hs
    obtain ⟨htranscript, hlast⟩ := ih hnext
    refine ⟨?_, hlast⟩
    have hunfold : (runAll m (i :: rest) s).1 =
        (i, ((m i).exec s).1) :: (runAll m rest ((m i).exec s).2).1 := rfl
    rw [hunfold, htranscript, houtcome, List.map_cons]

end Program

end LemonCas.Foundation
