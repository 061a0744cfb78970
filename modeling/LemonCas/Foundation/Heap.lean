import Mathlib.Data.List.Basic
set_option autoImplicit false

/-!
# Foundation: a heap of objects addressed by reference

Objects of one type live in cells that are only ever added at the end, so a
reference stays valid and a reference handed out by `alloc` was dangling before.
`Extends` is the frame relation of a method that allocates and writes only what
it allocated: every object that existed keeps its contents.  The rules below say
which steps stay inside that relation; none of them mentions what is stored.
-/

namespace LemonCas.Foundation

/-- A reference to an object of type `α`. -/
structure Ref (α : Type) where
  index : Nat
  deriving DecidableEq, Repr

/-- The objects of type `α`, in order of allocation. -/
structure Heap (α : Type) where
  cells : List α
  deriving DecidableEq, Repr

namespace Heap

variable {α : Type}

/-- The heap with no object. -/
def empty : Heap α := ⟨[]⟩

/-- The object a reference points to. -/
def read (h : Heap α) (r : Ref α) : Option α := h.cells[r.index]?

/-- A new object, at a reference that pointed nowhere before. -/
def alloc (h : Heap α) (a : α) : Ref α × Heap α :=
  (⟨h.cells.length⟩, ⟨h.cells ++ [a]⟩)

/-- Replace the contents of an object. -/
def write (h : Heap α) (r : Ref α) (a : α) : Heap α := ⟨h.cells.set r.index a⟩

/-- No object of `h` is at `r`. -/
def Fresh (h : Heap α) (r : Ref α) : Prop := h.cells.length ≤ r.index

/-- Every object of `h` is in `h'` with the same contents. -/
def Extends (h h' : Heap α) : Prop := h.cells <+: h'.cells

theorem read_alloc (h : Heap α) (a : α) : (h.alloc a).2.read (h.alloc a).1 = some a := by
  simp [read, alloc]

theorem fresh_alloc (h : Heap α) (a : α) : h.Fresh (h.alloc a).1 := Nat.le_refl _

theorem read_write {h : Heap α} {r : Ref α} {a : α} (hr : h.read r = some a) (b : α) :
    (h.write r b).read r = some b := by
  have hlt : r.index < h.cells.length := (List.getElem?_eq_some_iff.mp hr).1
  simp [read, write, hlt]

theorem Extends.refl (h : Heap α) : h.Extends h := List.prefix_refl _

theorem Extends.trans {h₁ h₂ h₃ : Heap α} (h₁₂ : h₁.Extends h₂) (h₂₃ : h₂.Extends h₃) :
    h₁.Extends h₃ := List.IsPrefix.trans h₁₂ h₂₃

/-- An extension reads every object of the smaller heap unchanged. -/
theorem Extends.read {h h' : Heap α} (he : h.Extends h') {r : Ref α} {a : α}
    (hr : h.read r = some a) : h'.read r = some a := by
  obtain ⟨hlt, hget⟩ := List.getElem?_eq_some_iff.mp hr
  have hcell : h'.cells[r.index]? = some h.cells[r.index] :=
    List.prefix_iff_getElem?.mp he r.index hlt
  rw [hget] at hcell
  exact hcell

theorem extends_alloc (h : Heap α) (a : α) : h.Extends (h.alloc a).2 :=
  List.prefix_append _ _

/-- Writing an object allocated since `h` keeps every object of `h`. -/
theorem Extends.write {h h' : Heap α} (he : h.Extends h') {r : Ref α} (hr : h.Fresh r)
    (a : α) : h.Extends (h'.write r a) := by
  obtain ⟨suffix, hcells⟩ := he
  refine ⟨suffix.set (r.index - h.cells.length) a, ?_⟩
  simp only [Heap.write, ← hcells]
  rw [List.set_append_right _ _ hr]

end Heap

end LemonCas.Foundation
