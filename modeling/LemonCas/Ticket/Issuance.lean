import LemonCas.Foundation.SharedCounter
import LemonCas.Ticket.TicketFactories
set_option autoImplicit false

/-!
# Ticket: the ids issued over a run of the server

Any number of threads ask for ids in any order, and the two actions of each draw of a
number may interleave with those of other draws.  A run is the list of these actions,
so a statement about every run is one about every schedule.  A counter starts at one
and each generator object has its own; a request is bound to the object its factory
chooses, and its id is made of the number it drew.
-/

namespace LemonCas.Ticket

open LemonCas.Foundation
open LemonCas.Java

variable {τ : Type} [DecidableEq τ]

/-- An action of a thread that asks for a ticket id. -/
abbrev TicketAction (τ : Type) : Type := DrawAction τ TicketRequest

/-- The counters of the generators, and the numbers drawn from them. -/
abbrev IssuingState (τ : Type) : Type := Counters τ GeneratorBean TicketRequest 64

/-- A run of a server that has just started. -/
def issue (generators : GeneratorMap) (actions : List (TicketAction τ)) : IssuingState τ :=
  (Counters.start 1 : IssuingState τ).run (TicketRequest.bean generators) actions

/-- How many numbers a generator gave out in a run. -/
def issuedBy (generators : GeneratorMap) (actions : List (TicketAction τ))
    (bean : GeneratorBean) : ℕ :=
  (issue generators actions).drawn (TicketRequest.bean generators) bean

/-- The id a draw ends in. -/
def idOf (settings : TicketSettings) (generators : GeneratorMap) (draw : Draw τ TicketRequest 64) :
    String :=
  draw.request.ticketId settings generators draw.number

/-- The ids issued in a run, in the order their numbers were drawn. -/
def issuedIds (settings : TicketSettings) (generators : GeneratorMap)
    (actions : List (TicketAction τ)) : List String :=
  (issue generators actions).served.map (idOf settings generators)

/-- Two threads that log a user in at the same time. -/
def twoLogins : List (TicketAction Bool) :=
  [.call true ⟨.ticketGrantingTicket, fun _ => 0⟩, .call false ⟨.ticketGrantingTicket, fun _ => 0⟩,
    .resume false, .resume true]

/-! ## Numbers of a run -/

section Run

variable {settings : TicketSettings} {generators : GeneratorMap}
  {actions : List (TicketAction τ)}

/-- In a run that takes no counter past the largest value, the numbers of a generator
are one, two, three and so on. -/
theorem numbersOf_issue {bean : GeneratorBean} (hfits : issuedBy generators actions bean < 2 ^ 63) :
    (issue generators actions).numbersOf (TicketRequest.bean generators) bean =
      (List.range (issuedBy generators actions bean)).map fun i => BitVec.ofNat 64 (1 + i) := by
  have hstart : Counters.InOrder (TicketRequest.bean generators) 1
      (Counters.start 1 : IssuingState τ) bean := Counters.inOrder_start _ 1 bean
  have horder := Counters.inOrder_run _ hstart actions
  unfold issuedBy at hfits
  exact (horder (by show 1 + (issue generators actions).drawn _ bean ≤ 2 ^ 63; omega)).1

/-- Such a run gives out positive numbers below the sign bit. -/
theorem number_of_mem_served (hfits : ∀ bean, issuedBy generators actions bean < 2 ^ 63)
    {draw : Draw τ TicketRequest 64} (hdraw : draw ∈ (issue generators actions).served) :
    0 < draw.number.toNat ∧ draw.number.toNat < 2 ^ 63 := by
  have hmem : draw.number ∈ (issue generators actions).numbersOf
      (TicketRequest.bean generators) (draw.request.bean generators) :=
    List.mem_map_of_mem (List.mem_filter.mpr ⟨hdraw, by simp⟩)
  rw [numbersOf_issue (hfits _)] at hmem
  obtain ⟨i, hi, hnumber⟩ := List.mem_map.mp hmem
  have hbound := hfits (draw.request.bean generators)
  rw [List.mem_range] at hi
  rw [← hnumber, BitVec.toNat_ofNat, Nat.mod_eq_of_lt (by omega)]
  omega

/-! ## Ids are unique -/

/-- Objects asked for ids with one prefix make ids of different lengths after the
number. -/
def SeparatesSources (settings : TicketSettings) (generators : GeneratorMap) : Prop :=
  ∀ kind kind' : TicketKind, kind.ticketPrefix = kind'.ticketPrefix →
    kind.bean generators ≠ kind'.bean generators →
    (settings.generator (kind.bean generators)).endingLength ≠
      (settings.generator (kind'.bean generators)).endingLength

omit [DecidableEq τ] in
/-- The prefix, the number and the ending of an id can be read back. -/
theorem idOf_inj {settings' : TicketSettings} {draw draw' : Draw τ TicketRequest 64}
    (hnumber : draw.number.toNat < 2 ^ 63) (hnumber' : draw'.number.toNat < 2 ^ 63)
    (heq : idOf settings generators draw = idOf settings' generators draw') :
    draw.request.kind.ticketPrefix = draw'.request.kind.ticketPrefix ∧
      draw.number = draw'.number ∧
      (settings.generator (draw.request.bean generators)).ending draw.request.nextBytes =
        (settings'.generator (draw'.request.bean generators)).ending draw'.request.nextBytes := by
  unfold idOf TicketRequest.ticketId at heq
  exact UniqueTicketIdGenerator.getNewTicketId_inj draw.request.kind.dash_not_mem_ticketPrefix
    draw'.request.kind.dash_not_mem_ticketPrefix hnumber hnumber' heq

omit [DecidableEq τ] in
/-- Ids drawn from different objects are different: their prefixes are, or the lengths
of what follows the number. -/
theorem idOf_ne_of_bean_ne (hseparates : SeparatesSources settings generators)
    {draw draw' : Draw τ TicketRequest 64} (hnumber : draw.number.toNat < 2 ^ 63)
    (hnumber' : draw'.number.toNat < 2 ^ 63)
    (hbean : draw.request.bean generators ≠ draw'.request.bean generators) :
    idOf settings generators draw ≠ idOf settings generators draw' := by
  intro heq
  obtain ⟨hparts, _, hendings⟩ := idOf_inj hnumber hnumber' heq
  have hlengths := congrArg List.length hendings
  rw [UniqueTicketIdGenerator.length_ending, UniqueTicketIdGenerator.length_ending] at hlengths
  exact hseparates draw.request.kind draw'.request.kind hparts hbean hlengths

omit [DecidableEq τ] in
/-- Ids with different numbers are different. -/
theorem idOf_ne_of_number_ne {draw draw' : Draw τ TicketRequest 64}
    (hnumber : draw.number.toNat < 2 ^ 63) (hnumber' : draw'.number.toNat < 2 ^ 63)
    (hne : draw.number ≠ draw'.number) :
    idOf settings generators draw ≠ idOf settings generators draw' := by
  intro heq
  obtain ⟨_, hnumbers, _⟩ := idOf_inj hnumber hnumber' heq
  exact hne hnumbers

/-- No two requests of a run get the same id, whatever the threads, the schedule and
the source of randomness do: draws from one object have different numbers, and draws
from different objects are told apart by the shape of the id. -/
theorem nodup_issuedIds (hseparates : SeparatesSources settings generators)
    (hfits : ∀ bean, issuedBy generators actions bean < 2 ^ 63) :
    (issuedIds settings generators actions).Nodup := by
  have hnumbers : (issue generators actions).served.Pairwise fun draw draw' =>
      draw.request.bean generators = draw'.request.bean generators →
        draw.number ≠ draw'.number := by
    refine pairwise_of_nodup_classes fun bean => ?_
    refine Counters.nodup_numbersOf (TicketRequest.bean generators) (by decide) actions ?_
    have := hfits bean
    unfold issuedBy at this
    show 1 + (issue generators actions).drawn _ bean ≤ 2 ^ 63
    omega
  refine List.pairwise_map.mpr (hnumbers.imp_of_mem ?_)
  intro draw draw' hdraw hdraw' hsame
  obtain ⟨_, hbelow⟩ := number_of_mem_served hfits hdraw
  obtain ⟨_, hbelow'⟩ := number_of_mem_served hfits hdraw'
  by_cases hbean : draw.request.bean generators = draw'.request.bean generators
  · exact idOf_ne_of_number_ne hbelow hbelow' (hsame hbean)
  · exact idOf_ne_of_bean_ne hseparates hbelow hbelow' hbean

/-! ## The numbers in the ids -/

/-- The ids one object made in a run, in the order it drew their numbers. -/
def idsOf (settings : TicketSettings) (generators : GeneratorMap)
    (actions : List (TicketAction τ)) (bean : GeneratorBean) : List String :=
  ((issue generators actions).served.filter fun draw =>
    decide (draw.request.bean generators = bean)).map (idOf settings generators)

omit [DecidableEq τ] in
/-- The text of an id whose number is below the sign bit. -/
theorem toList_idOf {draw : Draw τ TicketRequest 64} (hnumber : draw.number.toNat < 2 ^ 63) :
    (idOf settings generators draw).toList = draw.request.kind.ticketPrefix.toList ++
      '-' :: (Nat.toDigits 10 draw.number.toNat ++
        '-' :: (settings.generator (draw.request.bean generators)).ending
          draw.request.nextBytes) := by
  rw [idOf, TicketRequest.ticketId, UniqueTicketIdGenerator.toList_getNewTicketId,
    UniqueTicketIdGenerator.toList_number hnumber]

end Run

/-- The actions of requests made one at a time. -/
def oneAtATime (calls : List (τ × TicketRequest)) : List (TicketAction τ) :=
  calls.flatMap fun call => Counters.wholeDraw call.1 call.2

/-- Requests made one at a time never get a number with the sign bit, however many
they are and whichever threads make them. -/
theorem oneAtATime_not_negative (generators : GeneratorMap) (calls : List (τ × TicketRequest))
    {draw : Draw τ TicketRequest 64}
    (hdraw : draw ∈ (issue generators (oneAtATime calls)).served) : 0 ≤ draw.number.toInt := by
  have hstart : Counters.Settled (Counters.start 1 : IssuingState τ) :=
    Counters.settled_start (by decide)
  have hsettled := Counters.settled_wholeDraws (TicketRequest.bean generators) hstart calls
  have hbelow : draw.number.toNat < 2 ^ 63 := hsettled.served draw hdraw
  rw [BitVec.toInt_eq_toNat_of_lt (by omega)]
  omega

theorem oneAtATime_not_negative_login :
    0 ≤ (⟨true, ⟨.ticketGrantingTicket, fun _ => 0⟩, 1⟩ :
      Draw Bool TicketRequest 64).number.toInt :=
  oneAtATime_not_negative deployedGeneratorsMap [(true, ⟨.ticketGrantingTicket, fun _ => 0⟩)]
    (List.mem_singleton_self _)

/-- Two threads that ask one object for ids at the same time can get one with a
negative number, whatever kind of ticket they ask for. -/
theorem exists_negative_id (settings : TicketSettings) (generators : GeneratorMap)
    {thread other : τ} (hne : thread ≠ other) (request : TicketRequest) :
    ∃ actions : List (TicketAction τ), ∃ id ∈ issuedIds settings generators actions,
      id.toList = request.kind.ticketPrefix.toList ++ "--9223372036854775808-".toList ++
        (settings.generator (request.bean generators)).ending request.nextBytes := by
  obtain ⟨actions, hdrawn⟩ : ∃ actions,
      ⟨thread, request, BitVec.intMin 64⟩ ∈ (issue generators actions).served :=
    Counters.exists_run_intMin (TicketRequest.bean generators) (by decide) (by decide) hne request
  refine ⟨actions, _, List.mem_map_of_mem hdrawn, ?_⟩
  have hnumber : (toString (BitVec.intMin 64).toInt).toList = "-9223372036854775808".toList := by
    decide
  rw [idOf, TicketRequest.ticketId, UniqueTicketIdGenerator.toList_getNewTicketId, hnumber,
    List.append_assoc]
  rfl

theorem exists_negative_id_login :
    ∃ actions : List (TicketAction Bool),
      ∃ id ∈ issuedIds (applicationSettings "node1") deployedGeneratorsMap actions,
        id.toList = "TGT".toList ++ "--9223372036854775808-".toList ++
          ((applicationSettings "node1").generator .ticketGrantingTicket).ending fun _ => 0 :=
  exists_negative_id (applicationSettings "node1") deployedGeneratorsMap Bool.false_ne_true
    ⟨.ticketGrantingTicket, fun _ => 0⟩

end LemonCas.Ticket
