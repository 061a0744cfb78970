import Mathlib.Data.List.Nodup
set_option autoImplicit false

/-!
# Foundation: insertion-ordered keyed collections

A collection of entries no two of which have the same key, kept in the order the
keys were first entered: the behaviour of a linked hash map, and of a linked hash
set whose elements are equal when their keys are.  The two ways of entering an
element differ in who wins when the key is taken: `addIfAbsent` keeps the old
entry, `put` replaces it in place.  That no key occurs twice is a field, so a
collection with two entries under one key cannot be built.
-/

namespace LemonCas.Foundation

/-- Entries with pairwise different keys, in insertion order. -/
structure Keyed {α κ : Type} (key : α → κ) where
  entries : List α
  nodup : (entries.map key).Nodup

namespace Keyed

variable {α κ : Type} {key : α → κ}

@[ext] theorem ext {c d : Keyed key} (h : c.entries = d.entries) : c = d := by
  cases c
  cases d
  simp_all

instance [DecidableEq α] : DecidableEq (Keyed key) := fun c d =>
  decidable_of_iff (c.entries = d.entries) ⟨ext, fun h => h ▸ rfl⟩

/-- The collection without entries. -/
def empty : Keyed key := ⟨[], List.nodup_nil⟩

/-- The keys in use, in insertion order. -/
def keys (c : Keyed key) : List κ := c.entries.map key

variable [DecidableEq κ]

/-- The entry under a key. -/
def find? (c : Keyed key) (k : κ) : Option α := c.entries.find? fun a => decide (key a = k)

/-- Enter an element; the entry already under its key stays. -/
def addIfAbsent (c : Keyed key) (a : α) : Keyed key :=
  if h : key a ∈ c.keys then c
  else ⟨c.entries ++ [a], by
    rw [List.map_append]
    exact List.nodup_append.mpr ⟨c.nodup, List.nodup_singleton _, fun k hk l hl heq => by
      rw [List.map_singleton, List.mem_singleton] at hl
      subst hl heq
      exact h hk⟩⟩

/-- Apply `f` to the entry under `k`, if there is one.  An `f` that would move
the entry to another key is not applied. -/
def modify (c : Keyed key) (k : κ) (f : α → α) : Keyed key :=
  ⟨c.entries.map fun a => if key a = k ∧ key (f a) = k then f a else a, by
    have hkeys : (c.entries.map fun a => if key a = k ∧ key (f a) = k then f a else a).map key
        = c.entries.map key := by
      rw [List.map_map]
      refine List.map_congr_left fun a _ => ?_
      by_cases h : key a = k ∧ key (f a) = k
      · simp [h]
      · simp [h]
    rw [hkeys]
    exact c.nodup⟩

/-- Enter an element; it replaces the entry already under its key. -/
def put (c : Keyed key) (a : α) : Keyed key :=
  if key a ∈ c.keys then c.modify (key a) fun _ => a else c.addIfAbsent a

/-! ## Membership and lookup -/

omit [DecidableEq κ] in
@[simp] theorem not_mem_keys_empty (k : κ) : k ∉ (empty : Keyed key).keys := by
  simp [empty, keys]

theorem find?_eq_none_iff {c : Keyed key} {k : κ} : c.find? k = none ↔ k ∉ c.keys := by
  simp [find?, keys]

/-- An entry is found under its key. -/
theorem find?_of_mem {c : Keyed key} {a : α} (ha : a ∈ c.entries) : c.find? (key a) = some a := by
  obtain ⟨entries, hnodup⟩ := c
  unfold find?
  simp only at ha ⊢
  induction entries with
  | nil => cases ha
  | cons b rest ih =>
    obtain ⟨hhead, htail⟩ := List.nodup_cons.mp hnodup
    rcases List.mem_cons.mp ha with rfl | hrest
    · simp
    · have hne : key b ≠ key a := fun heq => hhead (heq ▸ List.mem_map_of_mem hrest)
      rw [List.find?_cons_of_neg (by simp [hne])]
      exact ih htail hrest

/-- Entering an element makes its key one of the keys and changes no other. -/
theorem mem_keys_addIfAbsent {c : Keyed key} {a : α} {k : κ} :
    k ∈ (c.addIfAbsent a).keys ↔ k ∈ c.keys ∨ k = key a := by
  unfold addIfAbsent
  split
  · rename_i h
    exact ⟨Or.inl, fun hk => hk.elim id (fun heq => heq ▸ h)⟩
  · simp [keys]

/-- An element whose key is taken is not entered. -/
theorem addIfAbsent_of_mem {c : Keyed key} {a : α} (h : key a ∈ c.keys) :
    c.addIfAbsent a = c := by
  simp [addIfAbsent, h]

theorem find?_addIfAbsent {c : Keyed key} {a : α} {k : κ} :
    (c.addIfAbsent a).find? k =
      if k = key a then some ((c.find? k).getD a) else c.find? k := by
  by_cases hmem : key a ∈ c.keys
  · rw [addIfAbsent_of_mem hmem]
    split
    · rename_i hk
      subst hk
      cases hfind : c.find? (key a) with
      | none => exact absurd hmem (find?_eq_none_iff.mp hfind)
      | some b => rfl
    · rfl
  · have hnone : c.find? (key a) = none := find?_eq_none_iff.mpr hmem
    unfold find? at hnone ⊢
    simp only [addIfAbsent, hmem, dite_false, List.find?_append]
    split
    · rename_i hk
      subst hk
      simp [hnone]
    · rename_i hk
      simp [Ne.symm hk]

/-- `modify` acts on the entry it names. -/
theorem find?_modify {c : Keyed key} {k : κ} {f : α → α}
    (hf : ∀ a, key a = k → key (f a) = k) : (c.modify k f).find? k = (c.find? k).map f := by
  unfold find? modify
  simp only
  induction c.entries with
  | nil => rfl
  | cons a l ih =>
    by_cases ha : key a = k
    · simp [ha, hf a ha]
    · simp [ha, ih]

/-- `modify` leaves the entries under other keys alone. -/
theorem find?_modify_ne {c : Keyed key} {k l : κ} {f : α → α} (hne : l ≠ k) :
    (c.modify k f).find? l = c.find? l := by
  unfold find? modify
  simp only
  induction c.entries with
  | nil => rfl
  | cons a rest ih =>
    by_cases ha : key a = k ∧ key (f a) = k
    · simp [ha, ih, Ne.symm hne]
    · simp only [List.map_cons, if_neg ha, List.find?_cons, ih]

/-- After `put`, the key has the element that was put, and other keys are
untouched. -/
theorem find?_put {c : Keyed key} {a : α} {k : κ} :
    (c.put a).find? k = if k = key a then some a else c.find? k := by
  unfold put
  by_cases hmem : key a ∈ c.keys
  · rw [if_pos hmem]
    split
    · rename_i hk
      subst hk
      rw [find?_modify fun _ _ => rfl]
      cases hfind : c.find? (key a) with
      | none => exact absurd hmem (find?_eq_none_iff.mp hfind)
      | some b => rfl
    · rename_i hk
      exact find?_modify_ne hk
  · rw [if_neg hmem, find?_addIfAbsent]
    split
    · rename_i hk
      subst hk
      rw [find?_eq_none_iff.mpr hmem]
      rfl
    · rfl

/-- What is entered after a `put` is the element that was put, or was entered before. -/
theorem mem_entries_put {c : Keyed key} {a b : α} (h : b ∈ (c.put a).entries) :
    b = a ∨ b ∈ c.entries := by
  unfold put at h
  split at h
  · obtain ⟨before, hbefore, hreplaced⟩ := List.mem_map.mp h
    split at hreplaced
    · exact Or.inl hreplaced.symm
    · exact Or.inr (hreplaced ▸ hbefore)
  · rename_i hfree
    simp only [addIfAbsent, hfree, dite_false, List.mem_append, List.mem_singleton] at h
    exact h.symm

/-- Something is entered after a `put`. -/
theorem entries_put_ne_nil (c : Keyed key) (a : α) : (c.put a).entries ≠ [] := by
  intro hnil
  have hfound : (c.put a).find? (key a) = some a := by rw [find?_put, if_pos rfl]
  rw [find?, hnil] at hfound
  cases hfound

/-! ## Entering many elements -/

/-- Enter the elements of a list one after the other, keeping what is there. -/
def addAll (c : Keyed key) (l : List α) : Keyed key := l.foldl addIfAbsent c

theorem mem_keys_addAll {l : List α} {c : Keyed key} {k : κ} :
    k ∈ (c.addAll l).keys ↔ k ∈ c.keys ∨ k ∈ l.map key := by
  induction l generalizing c with
  | nil => simp [addAll]
  | cons a l ih =>
    have hstep : c.addAll (a :: l) = (c.addIfAbsent a).addAll l := rfl
    rw [hstep, ih, mem_keys_addIfAbsent, List.map_cons, List.mem_cons, or_assoc]

/-- What was entered was there before, or is among the new elements. -/
theorem mem_of_mem_addAll {l : List α} {c : Keyed key} {a : α}
    (h : a ∈ (c.addAll l).entries) : a ∈ c.entries ∨ a ∈ l := by
  induction l generalizing c with
  | nil => exact Or.inl h
  | cons b l ih =>
    have hstep : c.addAll (b :: l) = (c.addIfAbsent b).addAll l := rfl
    rw [hstep] at h
    rcases ih h with hentered | hrest
    · unfold addIfAbsent at hentered
      split at hentered
      · exact Or.inl hentered
      · rcases List.mem_append.mp hentered with hold | hnew
        · exact Or.inl hold
        · rw [List.mem_singleton] at hnew
          exact Or.inr (hnew ▸ List.mem_cons_self)
    · exact Or.inr (List.mem_cons_of_mem b hrest)

/-- Of elements with different keys, all are entered. -/
theorem mem_addAll_empty {l : List α} (hkeys : ∀ a ∈ l, ∀ b ∈ l, key a = key b → a = b) {a : α} :
    a ∈ ((empty : Keyed key).addAll l).entries ↔ a ∈ l := by
  constructor
  · intro h
    exact (mem_of_mem_addAll h).resolve_left List.not_mem_nil
  · intro h
    have hkey : key a ∈ ((empty : Keyed key).addAll l).keys :=
      mem_keys_addAll.mpr (Or.inr (List.mem_map_of_mem h))
    obtain ⟨b, hb, hsame⟩ := List.mem_map.mp hkey
    have hmem : b ∈ l := (mem_of_mem_addAll hb).resolve_left List.not_mem_nil
    exact hkeys b hmem a h hsame ▸ hb

/-- Two entries with one key are one entry. -/
theorem eq_of_key_eq {c : Keyed key} {a b : α} (ha : a ∈ c.entries) (hb : b ∈ c.entries)
    (hkey : key a = key b) : a = b := by
  have hfound : some a = some b := by
    rw [← find?_of_mem ha, ← find?_of_mem hb, hkey]
  exact Option.some.inj hfound

/-- Under a free key, `put` adds at the end. -/
theorem entries_put_of_not_mem {c : Keyed key} {a : α} (h : key a ∉ c.keys) :
    (c.put a).entries = c.entries ++ [a] := by
  rw [put, if_neg h, addIfAbsent, dif_neg h]

end Keyed

/-- Of a list without repetitions, what only one of its elements satisfies keeps that
element. -/
theorem filter_eq_singleton {α : Type} {p : α → Bool} {l : List α} {a : α} (hnodup : l.Nodup)
    (ha : a ∈ l) (honly : ∀ b ∈ l, p b = true ↔ b = a) : l.filter p = [a] := by
  induction l with
  | nil => cases ha
  | cons b rest ih =>
    obtain ⟨hhead, htail⟩ := List.nodup_cons.mp hnodup
    have hrest : ∀ c ∈ rest, p c = true ↔ c = a := fun c hc =>
      honly c (List.mem_cons_of_mem b hc)
    by_cases hb : b = a
    · subst hb
      have hnone : rest.filter p = [] := by
        rw [List.filter_eq_nil_iff]
        intro c hc hp
        exact hhead ((hrest c hc).mp hp ▸ hc)
      rw [List.filter_cons_of_pos ((honly b List.mem_cons_self).mpr rfl), hnone]
    · have hmem : a ∈ rest := (List.mem_cons.mp ha).resolve_left (Ne.symm hb)
      have hnot : ¬p b = true := fun hp => hb ((honly b List.mem_cons_self).mp hp)
      rw [List.filter_cons_of_neg hnot]
      exact ih htail hmem hrest

end LemonCas.Foundation
