import Mathlib.Data.BitVec
import Mathlib.Data.List.Nodup
import Mathlib.Logic.Function.Basic
set_option autoImplicit false

/-!
# Foundation: numbers drawn from shared machine-word counters

Threads draw numbers from counters of `w` bits.  A draw is not atomic.  Its first
action compares the counter with the largest signed value, and where that is what it
holds, gives out the value and resets the counter to zero; only when the comparison
failed does a second action, a fetch-and-increment, give out what the counter holds
by then.  Between the two actions any other thread may act.

A run is a list of actions in the order they happen, so a statement about every list
is a statement about every interleaving of every number of threads.  The numbers a
counter has given out are recorded in the order they were given.
-/

namespace LemonCas.Foundation

/-- A number given out: to which thread, and for which request. -/
structure Draw (τ ρ : Type) (w : ℕ) where
  thread : τ
  request : ρ
  number : BitVec w

/-- The counters, the requests whose comparison has failed and that still have to
increment, and the numbers given out so far. -/
structure Counters (τ κ ρ : Type) (w : ℕ) where
  count : κ → BitVec w
  pending : τ → Option ρ
  served : List (Draw τ ρ w)

/-- An atomic action of a thread. -/
inductive DrawAction (τ ρ : Type) where
  /-- the thread, when it has nothing pending, begins a request -/
  | call (thread : τ) (request : ρ)
  /-- the thread carries out the increment it has pending -/
  | resume (thread : τ)
  deriving Repr

namespace Counters

variable {τ κ ρ : Type} {w : ℕ}

/-- Every counter at its first value, and no draw under way. -/
def start (first : ℕ) : Counters τ κ ρ w :=
  ⟨fun _ => BitVec.ofNat w first, fun _ => none, []⟩

variable [DecidableEq τ] [DecidableEq κ] (counterOf : ρ → κ)

/-- The effect of an action. -/
def step (s : Counters τ κ ρ w) : DrawAction τ ρ → Counters τ κ ρ w
  | .call thread request =>
      match s.pending thread with
      | some _ => s
      | none =>
          if s.count (counterOf request) = BitVec.intMax w then
            { s with
              count := Function.update s.count (counterOf request) 0
              served := s.served ++ [⟨thread, request, BitVec.intMax w⟩] }
          else { s with pending := Function.update s.pending thread (some request) }
  | .resume thread =>
      match s.pending thread with
      | none => s
      | some request =>
          { count := Function.update s.count (counterOf request)
              (s.count (counterOf request) + 1)
            pending := Function.update s.pending thread none
            served := s.served ++ [⟨thread, request, s.count (counterOf request)⟩] }

/-- The effect of a run. -/
def run (actions : List (DrawAction τ ρ)) (s : Counters τ κ ρ w) : Counters τ κ ρ w :=
  actions.foldl (step counterOf) s

theorem run_append (first rest : List (DrawAction τ ρ)) (s : Counters τ κ ρ w) :
    s.run counterOf (first ++ rest) = (s.run counterOf first).run counterOf rest :=
  List.foldl_append

/-- The numbers one counter has given out, in the order it gave them. -/
def numbersOf (s : Counters τ κ ρ w) (counter : κ) : List (BitVec w) :=
  (s.served.filter fun draw => decide (counterOf draw.request = counter)).map Draw.number

/-- How many numbers a counter has given out. -/
def drawn (s : Counters τ κ ρ w) (counter : κ) : ℕ := (s.numbersOf counterOf counter).length

/-- What an action can do: nothing to counters and numbers, or give out what one
counter holds.  Below the largest value the counter then goes up by one. -/
theorem step_effect (s : Counters τ κ ρ w) (action : DrawAction τ ρ) :
    ((s.step counterOf action).served = s.served ∧
        (s.step counterOf action).count = s.count) ∨
      ∃ thread request next,
        (s.step counterOf action).served =
            s.served ++ [⟨thread, request, s.count (counterOf request)⟩] ∧
          (s.step counterOf action).count =
            Function.update s.count (counterOf request) next ∧
          (s.count (counterOf request) ≠ BitVec.intMax w →
            next = s.count (counterOf request) + 1) := by
  cases action with
  | call thread request =>
    cases hpending : s.pending thread with
    | some _ => exact Or.inl (by simp [step, hpending])
    | none =>
      by_cases hmax : s.count (counterOf request) = BitVec.intMax w
      · refine Or.inr ⟨thread, request, 0, ?_, ?_, fun hne => absurd hmax hne⟩
        · simp [step, hpending, hmax]
        · simp [step, hpending, hmax]
      · exact Or.inl (by simp [step, hpending, hmax])
  | resume thread =>
    cases hpending : s.pending thread with
    | none => exact Or.inl (by simp [step, hpending])
    | some request =>
      refine Or.inr ⟨thread, request, _, ?_, ?_, fun _ => rfl⟩
      · simp [step, hpending]
      · simp [step, hpending]

/-! ## Numbers in order

As long as a counter has not run past the largest value, its numbers are the
consecutive ones from the first, whoever drew them. -/

/-- The numbers of a counter are `first`, `first + 1`, … and the counter holds the
next one, for as long as they fit below the sign bit. -/
def InOrder (first : ℕ) (s : Counters τ κ ρ w) (counter : κ) : Prop :=
  first + s.drawn counterOf counter ≤ 2 ^ (w - 1) →
    s.numbersOf counterOf counter =
        (List.range (s.drawn counterOf counter)).map (fun i => BitVec.ofNat w (first + i)) ∧
      (first + s.drawn counterOf counter < 2 ^ (w - 1) →
        s.count counter = BitVec.ofNat w (first + s.drawn counterOf counter))

omit [DecidableEq τ] in
theorem inOrder_start (first : ℕ) (counter : κ) :
    InOrder counterOf first (start first : Counters τ κ ρ w) counter := by
  intro _
  exact ⟨rfl, fun _ => rfl⟩

/-- Values below the largest one are not the largest one. -/
theorem ofNat_ne_intMax {n : ℕ} (hn : n + 1 < 2 ^ (w - 1)) :
    BitVec.ofNat w n ≠ BitVec.intMax w := by
  intro heq
  have hpow : 2 ^ (w - 1) ≤ 2 ^ w := Nat.pow_le_pow_right (by decide) (Nat.sub_le w 1)
  have hnat := congrArg BitVec.toNat heq
  rw [BitVec.toNat_ofNat, BitVec.toNat_intMax, Nat.mod_eq_of_lt (by omega)] at hnat
  omega

theorem inOrder_step {first : ℕ} {s : Counters τ κ ρ w} {counter : κ}
    (horder : InOrder counterOf first s counter) (action : DrawAction τ ρ) :
    InOrder counterOf first (s.step counterOf action) counter := by
  obtain hsame | hdraw := s.step_effect counterOf action
  · obtain ⟨hserved, hcount⟩ := hsame
    simpa only [InOrder, drawn, numbersOf, hserved, hcount] using horder
  · obtain ⟨thread, request, next, hserved, hcount, hnext⟩ := hdraw
    by_cases hcounter : counterOf request = counter
    · subst hcounter
      have hnumbers : (s.step counterOf action).numbersOf counterOf (counterOf request) =
          s.numbersOf counterOf (counterOf request) ++ [s.count (counterOf request)] := by
        simp [numbersOf, hserved]
      have hdrawn : (s.step counterOf action).drawn counterOf (counterOf request) =
          s.drawn counterOf (counterOf request) + 1 := by
        simp [drawn, hnumbers]
      intro hfits
      obtain ⟨hbefore, hheld⟩ := horder (by omega)
      have hvalue := hheld (by omega)
      refine ⟨?_, ?_⟩
      · rw [hnumbers, hdrawn, List.range_succ, List.map_append, ← hbefore, hvalue]
        rfl
      · intro hbelow
        have hne : s.count (counterOf request) ≠ BitVec.intMax w := by
          rw [hvalue]
          exact ofNat_ne_intMax (by omega)
        rw [hcount, Function.update_self, hnext hne, hvalue, hdrawn, ← Nat.add_assoc,
          BitVec.ofNat_add _ 1]
        rfl
    · have hnumbers : (s.step counterOf action).numbersOf counterOf counter =
          s.numbersOf counterOf counter := by
        simp [numbersOf, hserved, hcounter]
      have hheld : (s.step counterOf action).count counter = s.count counter := by
        rw [hcount, Function.update_of_ne (Ne.symm hcounter)]
      simpa only [InOrder, drawn, hnumbers, hheld] using horder

/-- Every run keeps the numbers of every counter in order. -/
theorem inOrder_run {first : ℕ} {s : Counters τ κ ρ w} {counter : κ}
    (horder : InOrder counterOf first s counter) (actions : List (DrawAction τ ρ)) :
    InOrder counterOf first (s.run counterOf actions) counter := by
  induction actions generalizing s with
  | nil => exact horder
  | cons action rest ih => exact ih (inOrder_step counterOf horder action)

/-- The numbers of one counter, after any run that did not take it past the largest
value, are all different. -/
theorem nodup_numbersOf {first : ℕ} (hwidth : 0 < w) (actions : List (DrawAction τ ρ))
    {counter : κ}
    (hfits : first + ((start first : Counters τ κ ρ w).run counterOf actions).drawn
      counterOf counter ≤ 2 ^ (w - 1)) :
    (((start first : Counters τ κ ρ w).run counterOf actions).numbersOf
      counterOf counter).Nodup := by
  obtain ⟨hnumbers, _⟩ :=
    inOrder_run counterOf (inOrder_start counterOf first counter) actions hfits
  have hpow : 2 ^ (w - 1) < 2 ^ w := Nat.pow_lt_pow_right (by decide) (by omega)
  rw [hnumbers]
  refine List.Nodup.map_on ?_ List.nodup_range
  intro i hi j hj heq
  rw [List.mem_range] at hi hj
  have hnat := congrArg BitVec.toNat heq
  rw [BitVec.toNat_ofNat, BitVec.toNat_ofNat, Nat.mod_eq_of_lt (by omega),
    Nat.mod_eq_of_lt (by omega)] at hnat
  omega

/-! ## At the largest value

Draws that do not overlap go round below the sign bit.  The comparison does not
protect draws that do overlap: a comparison made one step too early lets an increment
through at the largest value. -/

/-- The two actions of a draw, with nothing of another thread between them. -/
def wholeDraw (thread : τ) (request : ρ) : List (DrawAction τ ρ) :=
  [.call thread request, .resume thread]

/-- The value after a given one, when no other thread interferes. -/
def following (n : BitVec w) : BitVec w := if n = BitVec.intMax w then 0 else n + 1

theorem run_wholeDraw {s : Counters τ κ ρ w} {thread : τ} (request : ρ)
    (hidle : s.pending thread = none) :
    s.run counterOf (wholeDraw thread request) =
      { count := Function.update s.count (counterOf request)
          (following (s.count (counterOf request)))
        pending := s.pending
        served := s.served ++ [⟨thread, request, s.count (counterOf request)⟩] } := by
  have hrestored : Function.update s.pending thread none = s.pending := by
    rw [← hidle, Function.update_eq_self]
  by_cases hmax : s.count (counterOf request) = BitVec.intMax w
  · simp [run, wholeDraw, step, hidle, hmax, following]
  · simp [run, wholeDraw, step, hidle, hmax, following, hrestored]

/-- The next value of one below the sign bit is below the sign bit. -/
theorem following_lt {n : BitVec w} (hn : n.toNat < 2 ^ (w - 1)) :
    (following n).toNat < 2 ^ (w - 1) := by
  have hpow : 2 ^ (w - 1) ≤ 2 ^ w := Nat.pow_le_pow_right (by decide) (Nat.sub_le w 1)
  unfold following
  split
  · show (BitVec.ofNat w 0).toNat < _
    rw [BitVec.toNat_ofNat, Nat.zero_mod]
    exact Nat.two_pow_pos _
  · rename_i hne
    have hnat : n.toNat ≠ 2 ^ (w - 1) - 1 := by
      intro heq
      exact hne (BitVec.eq_of_toNat_eq (heq.trans BitVec.toNat_intMax.symm))
    have hone : (BitVec.ofNat w 1).toNat ≤ 1 := by
      rw [BitVec.toNat_ofNat]
      exact Nat.mod_le 1 _
    show (n + BitVec.ofNat w 1).toNat < _
    rw [BitVec.toNat_add, Nat.mod_eq_of_lt (by omega)]
    omega

/-- No draw under way, and everything below the sign bit. -/
structure Settled (s : Counters τ κ ρ w) : Prop where
  idle : ∀ thread, s.pending thread = none
  count : ∀ counter, (s.count counter).toNat < 2 ^ (w - 1)
  served : ∀ draw ∈ s.served, draw.number.toNat < 2 ^ (w - 1)

omit [DecidableEq τ] [DecidableEq κ] in
theorem settled_start {first : ℕ} (hfirst : first < 2 ^ (w - 1)) :
    Settled (start first : Counters τ κ ρ w) where
  idle := fun _ => rfl
  count := fun _ => by
    have hpow : 2 ^ (w - 1) ≤ 2 ^ w := Nat.pow_le_pow_right (by decide) (Nat.sub_le w 1)
    rw [start, BitVec.toNat_ofNat, Nat.mod_eq_of_lt (by omega)]
    exact hfirst
  served := fun _ hdraw => by cases hdraw

theorem settled_wholeDraw {s : Counters τ κ ρ w} (hs : Settled s) (thread : τ) (request : ρ) :
    Settled (s.run counterOf (wholeDraw thread request)) := by
  rw [run_wholeDraw counterOf request (hs.idle thread)]
  refine ⟨hs.idle, fun counter => ?_, fun draw hdraw => ?_⟩
  · by_cases hcounter : counter = counterOf request
    · subst hcounter
      simpa only [Function.update_self] using following_lt (hs.count _)
    · simpa only [Function.update_of_ne hcounter] using hs.count counter
  · rcases List.mem_append.mp hdraw with hold | hnew
    · exact hs.served draw hold
    · rw [List.mem_singleton] at hnew
      rw [hnew]
      exact hs.count _

/-- Draws that do not overlap never give out a number with the sign bit. -/
theorem settled_wholeDraws {s : Counters τ κ ρ w} (hs : Settled s) (calls : List (τ × ρ)) :
    Settled (s.run counterOf (calls.flatMap fun call => wholeDraw call.1 call.2)) := by
  induction calls generalizing s with
  | nil => exact hs
  | cons call rest ih =>
    rw [List.flatMap_cons, run_append]
    exact ih (settled_wholeDraw counterOf hs call.1 call.2)

/-- One draw gives out one number of its counter. -/
theorem drawn_wholeDraw {s : Counters τ κ ρ w} {thread : τ} (request : ρ)
    (hidle : s.pending thread = none) :
    (s.run counterOf (wholeDraw thread request)).drawn counterOf (counterOf request) =
      s.drawn counterOf (counterOf request) + 1 := by
  rw [run_wholeDraw counterOf request hidle]
  simp [drawn, numbersOf]

/-- Drawing the same request over and over. -/
theorem drawn_replicate {s : Counters τ κ ρ w} (hs : Settled s) (thread : τ) (request : ρ)
    (n : ℕ) :
    (s.run counterOf ((List.replicate n (thread, request)).flatMap
        fun call => wholeDraw call.1 call.2)).drawn counterOf (counterOf request) =
      s.drawn counterOf (counterOf request) + n := by
  induction n generalizing s with
  | zero => rfl
  | succ n ih =>
    rw [List.replicate_succ, List.flatMap_cons, run_append,
      ih (settled_wholeDraw counterOf hs thread request),
      drawn_wholeDraw counterOf request (hs.idle thread)]
    omega

/-- A comparison below the largest value lets the thread increment later, whatever the
counter holds by then. -/
theorem step_call {s : Counters τ κ ρ w} {thread : τ} {request : ρ}
    (hidle : s.pending thread = none) (hbelow : s.count (counterOf request) ≠ BitVec.intMax w) :
    s.step counterOf (.call thread request) =
      { s with pending := Function.update s.pending thread (some request) } := by
  simp [step, hidle, hbelow]

theorem step_resume {s : Counters τ κ ρ w} {thread : τ} {request : ρ}
    (hpending : s.pending thread = some request) :
    s.step counterOf (.resume thread) =
      { count := Function.update s.count (counterOf request)
          (s.count (counterOf request) + 1)
        pending := Function.update s.pending thread none
        served := s.served ++ [⟨thread, request, s.count (counterOf request)⟩] } := by
  simp [step, hpending]

/-- Two draws whose comparisons come before either increment. -/
def overlappingDraws (thread other : τ) (request : ρ) : List (DrawAction τ ρ) :=
  [.call thread request, .call other request, .resume thread, .resume other]

/-- Overlapping draws move the counter by two without another comparison. -/
theorem run_overlappingDraws {s : Counters τ κ ρ w} {thread other : τ} (hne : thread ≠ other)
    {request : ρ} (hthread : s.pending thread = none) (hother : s.pending other = none)
    (hbelow : s.count (counterOf request) ≠ BitVec.intMax w) :
    (s.run counterOf (overlappingDraws thread other request)).count (counterOf request) =
        s.count (counterOf request) + 1 + 1 ∧
      (s.run counterOf (overlappingDraws thread other request)).pending thread = none := by
  let called := { s with pending := Function.update s.pending thread (some request) }
  let both := { s with pending := Function.update called.pending other (some request) }
  have hfirst : s.step counterOf (.call thread request) = called :=
    step_call counterOf hthread hbelow
  have hidle : called.pending other = none := by
    simp only [called, Function.update_of_ne hne.symm, hother]
  have hsecond : called.step counterOf (.call other request) = both :=
    step_call counterOf hidle hbelow
  have hpending : both.pending thread = some request := by
    simp only [both, called, Function.update_of_ne hne, Function.update_self]
  have hthird := step_resume counterOf hpending
  have hlast : (both.step counterOf (.resume thread)).pending other = some request := by
    rw [hthird]
    simp only [both, Function.update_of_ne hne.symm, Function.update_self]
  have hfourth := step_resume counterOf hlast
  have hrun : s.run counterOf (overlappingDraws thread other request) =
      (((s.step counterOf (.call thread request)).step counterOf (.call other request)).step
        counterOf (.resume thread)).step counterOf (.resume other) := rfl
  rw [hrun, hfirst, hsecond, hfourth, hthird]
  exact ⟨by simp only [Function.update_self, both],
    by simp only [Function.update_of_ne hne, Function.update_self]⟩

/-- When the comparisons of two draws both come one below the largest value, the
second increment goes over the sign bit, and the next draw gives out the smallest
value. -/
theorem intMin_mem_of_overlap {s : Counters τ κ ρ w} {thread other : τ} (hne : thread ≠ other)
    {request : ρ} (hthread : s.pending thread = none) (hother : s.pending other = none)
    (hwidth : 1 < w) (hcount : s.count (counterOf request) = BitVec.ofNat w (2 ^ (w - 1) - 2)) :
    ⟨thread, request, BitVec.intMin w⟩ ∈
      (s.run counterOf
        (overlappingDraws thread other request ++ wholeDraw thread request)).served := by
  have hpow : 2 ^ 1 ≤ 2 ^ (w - 1) := Nat.pow_le_pow_right (by decide) (by omega)
  have hbelow : s.count (counterOf request) ≠ BitVec.intMax w :=
    hcount ▸ ofNat_ne_intMax (by omega)
  obtain ⟨hmoved, hidle⟩ := run_overlappingDraws counterOf hne hthread hother hbelow
  have hover : s.count (counterOf request) + 1 + 1 = BitVec.intMin w := by
    have hone : (1 : BitVec w) = BitVec.ofNat w 1 := rfl
    rw [hcount, hone, ← BitVec.ofNat_add, ← BitVec.ofNat_add]
    apply BitVec.eq_of_toNat_eq
    rw [BitVec.toNat_ofNat, BitVec.toNat_intMin]
    congr 1
    omega
  rw [run_append, run_wholeDraw counterOf request hidle, hmoved, hover]
  exact List.mem_append_right _ List.mem_cons_self

/-- Two threads are enough to bring a counter to give out the smallest value. -/
theorem exists_run_intMin {first : ℕ} (hwidth : 1 < w) (hfirst : first + 2 ≤ 2 ^ (w - 1))
    {thread other : τ} (hne : thread ≠ other) (request : ρ) :
    ∃ actions, ⟨thread, request, BitVec.intMin w⟩ ∈
      ((start first : Counters τ κ ρ w).run counterOf actions).served := by
  -- one thread alone brings the counter to one below the largest value
  let alone := (List.replicate (2 ^ (w - 1) - 2 - first) (thread, request)).flatMap
    fun call => wholeDraw call.1 call.2
  have hsettled : Settled (start first : Counters τ κ ρ w) := settled_start (by omega)
  have hreached := settled_wholeDraws counterOf hsettled
    (List.replicate (2 ^ (w - 1) - 2 - first) (thread, request))
  have hdrawn : ((start first : Counters τ κ ρ w).run counterOf alone).drawn counterOf
      (counterOf request) = 2 ^ (w - 1) - 2 - first := by
    rw [drawn_replicate counterOf hsettled]
    exact Nat.zero_add _
  have hstart : InOrder counterOf first (start first : Counters τ κ ρ w) (counterOf request) :=
    inOrder_start counterOf first (counterOf request)
  have horder := inOrder_run counterOf hstart alone
  have hcount := (horder (by omega)).2 (by omega)
  rw [hdrawn] at hcount
  refine ⟨alone ++ (overlappingDraws thread other request ++ wholeDraw thread request), ?_⟩
  rw [run_append]
  refine intMin_mem_of_overlap counterOf hne (hreached.idle thread) (hreached.idle other)
    hwidth ?_
  rw [hcount]
  congr 1
  omega

end Counters

/-- A list whose elements of each class have different values has different values
wherever two elements are of one class. -/
theorem pairwise_of_nodup_classes {α β κ : Type} [DecidableEq κ] {class_ : α → κ}
    {value : α → β} {l : List α}
    (hclasses : ∀ k, ((l.filter fun a => decide (class_ a = k)).map value).Nodup) :
    l.Pairwise fun a b => class_ a = class_ b → value a ≠ value b := by
  induction l with
  | nil => exact List.Pairwise.nil
  | cons a rest ih =>
    refine List.Pairwise.cons ?_ (ih fun k => ?_)
    · intro b hb hsame heq
      have hhead := hclasses (class_ a)
      rw [List.filter_cons_of_pos (by simp), List.map_cons, List.nodup_cons] at hhead
      refine hhead.1 ?_
      rw [heq]
      exact List.mem_map_of_mem (List.mem_filter.mpr ⟨hb, by simp [hsame]⟩)
    · refine (hclasses k).sublist ?_
      exact ((List.sublist_cons_self a rest).filter _).map value

end LemonCas.Foundation
