import Mathlib.Data.List.Basic
set_option autoImplicit false

/-!
# Foundation: texts with a delimiter

A text that starts with a part free of a mark, then the mark, can be read back: the
part is what comes before the first mark.  Two such texts that are equal have equal
parts and equal remainders.
-/

namespace LemonCas.Foundation

variable {α : Type} [DecidableEq α]

/-- What comes before the first mark; everything, when there is none. -/
def beforeMark (mark : α) (text : List α) : List α := text.takeWhile fun a => decide (a ≠ mark)

theorem beforeMark_append {mark : α} {part : List α} (hpart : mark ∉ part) (rest : List α) :
    beforeMark mark (part ++ mark :: rest) = part := by
  induction part with
  | nil => simp [beforeMark]
  | cons a part ih =>
    obtain ⟨hne, hmem⟩ := not_or.mp (List.mem_cons.not.mp hpart)
    have hkeep : beforeMark mark (a :: part ++ mark :: rest) =
        a :: beforeMark mark (part ++ mark :: rest) := by
      simp [beforeMark, Ne.symm hne]
    rw [hkeep, ih hmem]

/-- Equal texts with a part free of the mark in front have equal parts. -/
theorem append_mark_inj {mark : α} {part part' rest rest' : List α} (hpart : mark ∉ part)
    (hpart' : mark ∉ part') (heq : part ++ mark :: rest = part' ++ mark :: rest') :
    part = part' ∧ rest = rest' := by
  have hparts := congrArg (beforeMark mark) heq
  rw [beforeMark_append hpart, beforeMark_append hpart'] at hparts
  subst hparts
  exact ⟨rfl, List.cons.inj (List.append_cancel_left heq) |>.2⟩

end LemonCas.Foundation
