import LemonCas.Foundation.Keyed
import Mathlib.Data.List.Induction
set_option autoImplicit false

/-!
# Foundation: declarations under names

Definitions are declared one after the other, each under a name.  A declaration on
condition that its name is free yields to a definition that is there; every other
declaration replaces it.  What is found under a name in the end is decided by the
declarations of that name alone: the last one that replaces, or the first one when all
of them yield.

The container that keeps the definitions is a parameter, known by its laws.
-/

namespace LemonCas.Foundation

/-- A definition declared under a name. -/
structure Declaration (ν β : Type) where
  name : ν
  /-- Whether the declaration is skipped when its name is taken. -/
  yields : Bool
  definition : β

/-- A container of definitions, and what a declaration does to it. -/
structure Container (ν β : Type) where
  State : Type
  empty : State
  define : State → Declaration ν β → State
  lookup : State → ν → Option β
  lookup_empty : ∀ name, lookup empty name = none
  define_of_taken : ∀ state declaration, declaration.yields = true →
    (lookup state declaration.name).isSome = true → define state declaration = state
  lookup_define : ∀ state declaration,
    declaration.yields = false ∨ lookup state declaration.name = none →
    lookup (define state declaration) declaration.name = some declaration.definition
  lookup_define_ne : ∀ state declaration name, name ≠ declaration.name →
    lookup (define state declaration) name = lookup state name

namespace Container

variable {ν β : Type} [DecidableEq ν]

/-- Declare everything in turn, beginning with nothing. -/
def defineAll (container : Container ν β) (declarations : List (Declaration ν β)) :
    container.State :=
  declarations.foldl container.define container.empty

/-- The declarations of a name. -/
def claims (name : ν) (declarations : List (Declaration ν β)) : List (Declaration ν β) :=
  declarations.filter fun declaration => decide (declaration.name = name)

/-- The declaration that counts: the last one that replaces, or else the first. -/
def prevailing (name : ν) (declarations : List (Declaration ν β)) :
    Option (Declaration ν β) :=
  (((claims name declarations).filter fun declaration => !declaration.yields).getLast?).or
    (claims name declarations).head?

omit [DecidableEq ν] in
/-- One declaration: what is found under its name afterwards. -/
theorem lookup_define_self (container : Container ν β) (state : container.State)
    (declaration : Declaration ν β) :
    container.lookup (container.define state declaration) declaration.name =
      if declaration.yields = true then
        (container.lookup state declaration.name).or (some declaration.definition)
      else some declaration.definition := by
  cases hyields : declaration.yields with
  | false =>
    rw [if_neg (by simp)]
    exact container.lookup_define state declaration (Or.inl hyields)
  | true =>
    rw [if_pos rfl]
    cases hfound : container.lookup state declaration.name with
    | none => exact container.lookup_define state declaration (Or.inr hfound)
    | some definition =>
      rw [container.define_of_taken state declaration hyields (by rw [hfound]; rfl), hfound]
      rfl

theorem prevailing_concat_ne {name : ν} {declarations : List (Declaration ν β)}
    {declaration : Declaration ν β} (hne : declaration.name ≠ name) :
    prevailing name (declarations ++ [declaration]) = prevailing name declarations := by
  have hclaims : claims name (declarations ++ [declaration]) = claims name declarations := by
    simp [claims, hne]
  rw [prevailing, hclaims, prevailing]

theorem prevailing_concat_self (declarations : List (Declaration ν β))
    (declaration : Declaration ν β) :
    prevailing declaration.name (declarations ++ [declaration]) =
      if declaration.yields = true then
        (prevailing declaration.name declarations).or (some declaration)
      else some declaration := by
  have hclaims : claims declaration.name (declarations ++ [declaration]) =
      claims declaration.name declarations ++ [declaration] := by simp [claims]
  rw [prevailing, hclaims, prevailing, List.filter_append]
  cases hyields : declaration.yields with
  | false =>
    have hkept : [declaration].filter (fun declaration => !declaration.yields) =
        [declaration] := by simp [hyields]
    rw [hkept, List.getLast?_concat, if_neg (by simp)]
    rfl
  | true =>
    have hdropped : [declaration].filter (fun declaration => !declaration.yields) = [] := by
      simp [hyields]
    rw [hdropped, List.append_nil, if_pos rfl, List.head?_append, Option.or_assoc]
    rfl

/-- What is found under a name is what the declaration that counts defines. -/
theorem lookup_defineAll (container : Container ν β) (name : ν)
    (declarations : List (Declaration ν β)) :
    container.lookup (container.defineAll declarations) name =
      (prevailing name declarations).map fun declaration => declaration.definition := by
  induction declarations using List.reverseRecOn with
  | nil => exact container.lookup_empty name
  | append_singleton declarations declaration ih =>
    have hstep : container.defineAll (declarations ++ [declaration]) =
        container.define (container.defineAll declarations) declaration := by
      rw [defineAll, List.foldl_append]
      rfl
    rw [hstep]
    by_cases hname : declaration.name = name
    · subst hname
      rw [lookup_define_self, ih, prevailing_concat_self]
      cases declaration.yields with
      | false => rfl
      | true => cases prevailing declaration.name declarations <;> rfl
    · rw [container.lookup_define_ne _ _ _ (Ne.symm hname), ih, prevailing_concat_ne hname]

/-- A declaration that replaces counts when none of its name that replaces comes after
it. -/
theorem prevailing_of_last {front back : List (Declaration ν β)}
    (declaration : Declaration ν β) (hreplaces : declaration.yields = false)
    (hlast : ∀ later ∈ back, later.name = declaration.name → later.yields = true) :
    prevailing declaration.name (front ++ declaration :: back) = some declaration := by
  have hback : (claims declaration.name back).filter (fun later => !later.yields) = [] := by
    rw [List.filter_eq_nil_iff]
    intro later hlater
    obtain ⟨hmem, hname⟩ := List.mem_filter.mp hlater
    rw [hlast later hmem (of_decide_eq_true hname)]
    exact Bool.false_ne_true
  have hclaims : claims declaration.name (front ++ declaration :: back) =
      claims declaration.name front ++ declaration :: claims declaration.name back := by
    simp [claims]
  rw [prevailing, hclaims, List.filter_append,
    List.filter_cons_of_pos (by simp [hreplaces]), hback, List.getLast?_concat]
  rfl

end Container

/-! ## A container -/

/-- The definitions in a collection by names. -/
def keyedContainer (ν β : Type) [DecidableEq ν] : Container ν β where
  State := Keyed fun entry : ν × β => entry.1
  empty := Keyed.empty
  define := fun definitions declaration =>
    if declaration.yields = true then
      definitions.addIfAbsent (declaration.name, declaration.definition)
    else definitions.put (declaration.name, declaration.definition)
  lookup := fun definitions name => (definitions.find? name).map fun entry => entry.2
  lookup_empty := fun _ => rfl
  define_of_taken := by
    intro definitions declaration hyields htaken
    rw [Option.isSome_map] at htaken
    have hmem : declaration.name ∈ definitions.keys := by
      by_contra hfree
      rw [Keyed.find?_eq_none_iff.mpr hfree] at htaken
      exact Bool.false_ne_true htaken
    rw [if_pos hyields]
    exact Keyed.addIfAbsent_of_mem hmem
  lookup_define := by
    intro definitions declaration hwins
    cases hyields : declaration.yields with
    | false =>
      rw [if_neg (by simp), Keyed.find?_put, if_pos rfl]
      rfl
    | true =>
      have hfree : (definitions.find? declaration.name).map (fun entry => entry.2) = none :=
        hwins.resolve_left (by rw [hyields]; simp)
      rw [if_pos rfl, Keyed.find?_addIfAbsent, if_pos rfl, Option.map_eq_none_iff.mp hfree]
      rfl
  lookup_define_ne := by
    intro definitions declaration name hne
    cases declaration.yields with
    | false => rw [if_neg (by simp), Keyed.find?_put, if_neg hne]
    | true => rw [if_pos rfl, Keyed.find?_addIfAbsent, if_neg hne]

end LemonCas.Foundation
