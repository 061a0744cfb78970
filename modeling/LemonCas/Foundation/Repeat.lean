import Mathlib.Logic.Function.Iterate
set_option autoImplicit false

/-!
# Foundation: what a repeated step does to an observation

A step `f` applied again and again to the same object treats what can be observed
of the object in one of two ways.  An observation *settles* when the second
application already changes nothing more, and it *grows* when every application
appends one element to it.  A settled observation after `n ≥ 1` applications is
the one after the first; a growing one tells the number of applications, so it
agrees with the first application only for `n = 1`.
-/

namespace LemonCas.Foundation

variable {S β γ : Type}

/-- Applying the step a second time does not change the observation. -/
def Settles (f : S → S) (o : S → β) : Prop := ∀ s, o (f (f s)) = o (f s)

/-- Every application of the step appends `a` to the observation. -/
def GrowsBy (f : S → S) (o : S → List γ) (a : γ) : Prop := ∀ s, o (f s) = o s ++ [a]

/-- A settled observation is the same after any number of applications as after
one. -/
theorem Settles.iterate {f : S → S} {o : S → β} (h : Settles f o) (s : S) {n : Nat}
    (hn : 1 ≤ n) : o (f^[n] s) = o (f s) := by
  obtain ⟨m, rfl⟩ := Nat.exists_eq_add_of_le hn
  induction m with
  | zero => rfl
  | succ m ih =>
    have hstep : f^[1 + (m + 1)] s = f (f (f^[m] s)) := by
      rw [Nat.add_comm 1, Function.iterate_succ_apply', Function.iterate_succ_apply']
    have hbefore : f^[1 + m] s = f (f^[m] s) := by
      rw [Nat.add_comm 1, Function.iterate_succ_apply']
    rw [hstep, h, ← hbefore]
    exact ih (Nat.le_add_right 1 m)

/-- A growing observation has one more element per application. -/
theorem GrowsBy.iterate {f : S → S} {o : S → List γ} {a : γ} (h : GrowsBy f o a) (s : S)
    (n : Nat) : o (f^[n] s) = o s ++ List.replicate n a := by
  induction n with
  | zero => simp
  | succ n ih =>
    rw [Function.iterate_succ_apply', h, ih, List.append_assoc, List.replicate_succ']

/-- A growing observation is back at its value after one application only when
there was one application. -/
theorem GrowsBy.iterate_eq_once_iff {f : S → S} {o : S → List γ} {a : γ}
    (h : GrowsBy f o a) (s : S) (n : Nat) : o (f^[n] s) = o (f s) ↔ n = 1 := by
  rw [h.iterate, h]
  constructor
  · intro heq
    have hlength := congrArg List.length (List.append_cancel_left heq)
    simpa using hlength
  · rintro rfl
    rfl

end LemonCas.Foundation
