import Mathlib.Data.List.Basic
set_option autoImplicit false

/-!
# Foundation: alternatives tried in turn

Alternatives are tried one after the other until one of them succeeds.  `tryInTurn`
gives the failures met on the way and the success there was, if any; those after the
success are not tried.
-/

namespace LemonCas.Foundation

variable {α β ε : Type}

/-- The failures of the alternatives before the first success, and that success. -/
def tryInTurn (attempt : α → Except ε β) : List α → List (α × ε) × Option (α × β)
  | [] => ([], none)
  | a :: rest =>
      match attempt a with
      | .ok b => ([], some (a, b))
      | .error e =>
          let (failures, success) := tryInTurn attempt rest
          ((a, e) :: failures, success)

section Attempts

variable {attempt : α → Except ε β}

theorem tryInTurn_cons_of_ok {a : α} {b : β} (h : attempt a = .ok b) (rest : List α) :
    tryInTurn attempt (a :: rest) = ([], some (a, b)) := by
  simp only [tryInTurn, h]

theorem tryInTurn_cons_of_error {a : α} {e : ε} (h : attempt a = .error e) (rest : List α) :
    tryInTurn attempt (a :: rest) =
      ((a, e) :: (tryInTurn attempt rest).1, (tryInTurn attempt rest).2) := by
  simp only [tryInTurn, h]

/-- A success is that of the first alternative that succeeds; those before it are the
recorded failures. -/
theorem tryInTurn_eq_some_iff {l : List α} {failures : List (α × ε)} {a : α} {b : β} :
    tryInTurn attempt l = (failures, some (a, b)) ↔
      attempt a = .ok b ∧ (∀ f ∈ failures, attempt f.1 = .error f.2) ∧
        ∃ after, l = failures.map Prod.fst ++ a :: after := by
  induction l generalizing failures with
  | nil =>
    constructor
    · intro h
      cases congrArg Prod.snd h
    · intro h
      obtain ⟨_, _, after, hsplit⟩ := h
      cases failures <;> cases hsplit
  | cons c rest ih =>
    cases houtcome : attempt c with
    | ok d =>
      rw [tryInTurn_cons_of_ok houtcome]
      constructor
      · intro h
        cases h
        exact ⟨houtcome, by simp, rest, rfl⟩
      · intro h
        obtain ⟨hok, hfailed, after, hsplit⟩ := h
        cases failures with
        | nil =>
          obtain ⟨rfl, rfl⟩ := List.cons_eq_cons.mp hsplit
          rw [houtcome] at hok
          cases hok
          rfl
        | cons f failures =>
          have hf := hfailed f List.mem_cons_self
          obtain ⟨rfl, -⟩ := List.cons_eq_cons.mp hsplit
          rw [houtcome] at hf
          cases hf
    | error e =>
      rw [tryInTurn_cons_of_error houtcome]
      constructor
      · intro h
        obtain ⟨hfailures, hsuccess⟩ := Prod.mk.inj h
        have hrest : tryInTurn attempt rest =
            ((tryInTurn attempt rest).1, some (a, b)) := Prod.ext rfl hsuccess
        obtain ⟨hok, hfailed, after, hsplit⟩ := ih.mp hrest
        subst hfailures
        refine ⟨hok, ?_, after, by rw [List.map_cons, List.cons_append, ← hsplit]⟩
        intro f hf
        rcases List.mem_cons.mp hf with rfl | hf
        · exact houtcome
        · exact hfailed f hf
      · intro h
        obtain ⟨hok, hfailed, after, hsplit⟩ := h
        cases failures with
        | nil =>
          obtain ⟨rfl, -⟩ := List.cons_eq_cons.mp hsplit
          rw [houtcome] at hok
          cases hok
        | cons f failures =>
          have hf := hfailed f List.mem_cons_self
          obtain ⟨hhead, hrest⟩ := List.cons_eq_cons.mp hsplit
          have hsuccess := ih.mpr
            ⟨hok, fun g hg => hfailed g (List.mem_cons_of_mem f hg), after, hrest⟩
          rw [hsuccess]
          subst hhead
          rw [houtcome] at hf
          cases hf
          rfl

/-- There is no success exactly when every alternative fails. -/
theorem tryInTurn_eq_none_iff {l : List α} :
    (tryInTurn attempt l).2 = none ↔ ∀ a ∈ l, ∃ e, attempt a = .error e := by
  induction l with
  | nil => simp [tryInTurn]
  | cons a rest ih =>
    cases houtcome : attempt a with
    | ok b => simp [tryInTurn_cons_of_ok houtcome, houtcome]
    | error e => simp [tryInTurn_cons_of_error houtcome, houtcome, ih]

/-- Without a success, the failures are those of all alternatives. -/
theorem tryInTurn_eq_failures_iff {l : List α} {failures : List (α × ε)} :
    tryInTurn attempt l = (failures, none) ↔
      failures.map Prod.fst = l ∧ ∀ f ∈ failures, attempt f.1 = .error f.2 := by
  induction l generalizing failures with
  | nil =>
    cases failures with
    | nil => simp [tryInTurn]
    | cons f failures => simp [tryInTurn]
  | cons a rest ih =>
    cases houtcome : attempt a with
    | ok b =>
      rw [tryInTurn_cons_of_ok houtcome]
      constructor
      · intro h
        cases congrArg Prod.snd h
      · intro h
        obtain ⟨hall, hfailed⟩ := h
        cases failures with
        | nil => cases hall
        | cons f failures =>
          have hf := hfailed f List.mem_cons_self
          obtain ⟨rfl, -⟩ := List.cons_eq_cons.mp hall
          rw [houtcome] at hf
          cases hf
    | error e =>
      rw [tryInTurn_cons_of_error houtcome]
      constructor
      · intro h
        obtain ⟨hfailures, hnone⟩ := Prod.mk.inj h
        have hrest : tryInTurn attempt rest = ((tryInTurn attempt rest).1, none) :=
          Prod.ext rfl hnone
        obtain ⟨hall, hfailed⟩ := ih.mp hrest
        subst hfailures
        refine ⟨by rw [List.map_cons, hall], ?_⟩
        intro f hf
        rcases List.mem_cons.mp hf with rfl | hf
        · exact houtcome
        · exact hfailed f hf
      · intro h
        obtain ⟨hall, hfailed⟩ := h
        cases failures with
        | nil => cases hall
        | cons f failures =>
          have hf := hfailed f List.mem_cons_self
          obtain ⟨hhead, hrest⟩ := List.cons_eq_cons.mp hall
          have hnone := ih.mpr ⟨hrest, fun g hg => hfailed g (List.mem_cons_of_mem f hg)⟩
          rw [hnone]
          subst hhead
          rw [houtcome] at hf
          cases hf
          rfl

end Attempts

end LemonCas.Foundation
