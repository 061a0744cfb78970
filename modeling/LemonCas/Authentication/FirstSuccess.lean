import LemonCas.Authentication.Provenance
import LemonCas.Foundation.InTurn
set_option autoImplicit false

/-!
# Authentication: the first handler that accepts

With the policy CAS registers, one success satisfies the manager.  When no principal
resolver stands between a handler and its principal, the loop over the handlers is then a
search: the handlers that take the credential are tried in turn, up to the first that
accepts it.  `offer_eq_record` says so of one credential and of whatever was recorded
before, and what follows reads off it which transactions succeed, with which principal,
and what is recorded of the failures on the way.
-/

namespace LemonCas.Authentication

open LemonCas.Foundation
open LemonCas.Java
open LemonCas.Credential
open LemonCas.Service

variable {ν : Type}

/-! ## The search -/

/-- What a search for a handler that accepts found: the failures before, and the success. -/
abbrev SearchResult (ν : Type) : Type :=
  List (RegisteredHandler ν × Throwable) × Option (RegisteredHandler ν × HandlerResult ν)

/-- Try the handlers that take the credential in turn. -/
def search (handlers : List (RegisteredHandler ν)) (contents : CredentialValue ν) :
    SearchResult ν :=
  tryInTurn (fun handler => handler.outcomeOn contents)
    (handlers.filter fun handler => handler.supports (viewOf contents))

section Cases

variable {handler : RegisteredHandler ν} {rest : List (RegisteredHandler ν)}
  {contents : CredentialValue ν}

theorem search_cons_of_not_supports (hsupports : ¬handler.supports (viewOf contents) = true) :
    search (handler :: rest) contents = search rest contents := by
  simp only [search, List.filter_cons, hsupports, Bool.false_eq_true, if_false]

theorem search_cons_of_error (hsupports : handler.supports (viewOf contents) = true)
    {e : Throwable} (houtcome : handler.outcomeOn contents = .error e) :
    search (handler :: rest) contents =
      ((handler, e) :: (search rest contents).1, (search rest contents).2) := by
  simp only [search, List.filter_cons, hsupports, if_true]
  apply tryInTurn_cons_of_error
  exact houtcome

theorem search_cons_of_ok (hsupports : handler.supports (viewOf contents) = true)
    {result : HandlerResult ν} (houtcome : handler.outcomeOn contents = .ok result) :
    search (handler :: rest) contents = ([], some (handler, result)) := by
  simp only [search, List.filter_cons, hsupports, if_true]
  apply tryInTurn_cons_of_ok
  exact houtcome

end Cases

section Found

variable {handlers : List (RegisteredHandler ν)} {contents : CredentialValue ν}
  {failures : List (RegisteredHandler ν × Throwable)}

/-- What is found is the first handler that accepts, after the failures of those before. -/
theorem search_eq_some_iff {handler : RegisteredHandler ν} {result : HandlerResult ν} :
    search handlers contents = (failures, some (handler, result)) ↔
      handler.outcomeOn contents = .ok result ∧
        (∀ failure ∈ failures, failure.1.outcomeOn contents = .error failure.2) ∧
        ∃ after, (handlers.filter fun handler => handler.supports (viewOf contents)) =
          failures.map Prod.fst ++ handler :: after :=
  tryInTurn_eq_some_iff

/-- When nothing is found, all that take the credential have failed. -/
theorem search_eq_none_iff :
    search handlers contents = (failures, none) ↔
      failures.map Prod.fst =
          (handlers.filter fun handler => handler.supports (viewOf contents)) ∧
        ∀ failure ∈ failures, failure.1.outcomeOn contents = .error failure.2 :=
  tryInTurn_eq_failures_iff

end Found

/-- The failures of a search, under the names of the handlers. -/
def failuresOf (failures : List (RegisteredHandler ν × Throwable)) : Failures :=
  failures.foldl (fun recorded failure => recorded.put (failure.1.name, failure.2)) .empty

namespace Progress

/-- Record the failures of a search. -/
def addFailures (clock : ℕ → ℕ) (p : Progress ν)
    (failures : List (RegisteredHandler ν × Throwable)) : Progress ν :=
  failures.foldl (fun p failure => p.addFailure clock failure.1.name failure.2) p

/-- Record what a search found. -/
def record (clock : ℕ → ℕ) (p : Progress ν) (found : SearchResult ν) : Progress ν :=
  match found.2 with
  | none => p.addFailures clock found.1
  | some (handler, result) =>
      ((p.addFailures clock found.1).addSuccess handler.name result).setPrincipal result.principal

variable {clock : ℕ → ℕ} {p : Progress ν}

@[simp] theorem builder_successes_addFailure (key : String) (e : Throwable) :
    (p.addFailure clock key e).builder.successes = p.builder.successes := by
  unfold addFailure
  split <;> rfl

@[simp] theorem builder_principal_addFailure (key : String) (e : Throwable) :
    (p.addFailure clock key e).builder.principal = p.builder.principal := by
  unfold addFailure
  split <;> rfl

theorem builder_successes_addFailures (failures : List (RegisteredHandler ν × Throwable)) :
    (p.addFailures clock failures).builder.successes = p.builder.successes := by
  induction failures generalizing p with
  | nil => rfl
  | cons failure rest ih =>
    have hstep : p.addFailures clock (failure :: rest) =
        (p.addFailure clock failure.1.name failure.2).addFailures clock rest := rfl
    rw [hstep, ih, builder_successes_addFailure]

theorem builder_principal_addFailures (failures : List (RegisteredHandler ν × Throwable)) :
    (p.addFailures clock failures).builder.principal = p.builder.principal := by
  induction failures generalizing p with
  | nil => rfl
  | cons failure rest ih =>
    have hstep : p.addFailures clock (failure :: rest) =
        (p.addFailure clock failure.1.name failure.2).addFailures clock rest := rfl
    rw [hstep, ih, builder_principal_addFailure]

/-- Before the first success, failures are recorded under the names of the handlers. -/
theorem builder_addFailures_of_no_success (hnone : p.builder.successes = .empty)
    (failures : List (RegisteredHandler ν × Throwable)) :
    (p.addFailures clock failures).builder =
      { p.builder with
        failures := failures.foldl (fun recorded failure =>
          recorded.put (failure.1.name, failure.2)) p.builder.failures } := by
  induction failures generalizing p with
  | nil => rfl
  | cons failure rest ih =>
    have hstep : p.addFailures clock (failure :: rest) =
        (p.addFailure clock failure.1.name failure.2).addFailures clock rest := rfl
    have hfree : failure.1.name ∉ p.builder.successes.keys := by
      rw [hnone]
      exact Keyed.not_mem_keys_empty _
    have hput : p.addFailure clock failure.1.name failure.2 =
        p.putFailure failure.1.name failure.2 := by rw [addFailure, if_neg hfree]
    have hnext := @ih (p.putFailure failure.1.name failure.2) hnone
    rw [hstep, hput, hnext]
    rfl

end Progress

/-! ## The loops are searches -/

/-- The plan has the policy CAS registers, and no principal resolvers for the handlers
that take such credentials. -/
structure AuthenticationEventExecutionPlan.AnySuccess
    (plan : AuthenticationEventExecutionPlan ν) : Prop where
  policies : plan.policies = [atLeastOneCredentialValidatedAuthenticationPolicy false]
  noResolvers : ∀ handler ∈ plan.handlers.entries, handler.TakesCredentials →
    handler.principalResolver = none

namespace AuthenticationManager

variable {manager : AuthenticationManager ν} {clock : ℕ → ℕ}
  {transaction : AuthenticationTransaction (CredentialValue ν)}
  {handlers : List (RegisteredHandler ν)}

/-- The policy is satisfied by a success. -/
theorem evaluateAuthenticationPolicies_anySuccess (hplan : manager.plan.AnySuccess)
    (authentication : Authentication ν) :
    manager.plan.evaluateAuthenticationPolicies authentication transaction handlers = [] ↔
      authentication.successes.entries ≠ [] := by
  unfold AuthenticationEventExecutionPlan.evaluateAuthenticationPolicies
  rw [hplan.policies]
  cases hsuccesses : authentication.successes.entries with
  | nil => simp [sortByOrder, AuthenticationPolicy.failure?,
      atLeastOneCredentialValidatedAuthenticationPolicy, hsuccesses]
  | cons entry rest => simp [sortByOrder, AuthenticationPolicy.failure?,
      atLeastOneCredentialValidatedAuthenticationPolicy, hsuccesses]

/-- The loop over the handlers records a search. -/
theorem offer_eq_record (hplan : manager.plan.AnySuccess) {contents : CredentialValue ν}
    {l : List (RegisteredHandler ν)}
    (hresolvers : ∀ handler ∈ l, handler.TakesCredentials → handler.principalResolver = none)
    (p : Progress ν) :
    manager.offer clock transaction handlers contents l p = p.record clock (search l contents) := by
  induction l generalizing p with
  | nil => rfl
  | cons handler rest ih =>
    have hrest : ∀ handler ∈ rest, handler.TakesCredentials → handler.principalResolver = none :=
      fun handler hmem => hresolvers handler (List.mem_cons_of_mem _ hmem)
    unfold offer
    by_cases hsupports : handler.supports (viewOf contents) = true
    · rw [if_pos hsupports]
      cases houtcome : handler.outcomeOn contents with
      | error e =>
        have hexec : (manager.attemptOn handler contents).exec p = (.error e, p) := by
          rw [attemptOn, Program.exec_bind, Program.exec_ofExcept, houtcome]
        rw [hexec, search_cons_of_error hsupports houtcome]
        exact ih hrest _
      | ok result =>
        have hexec : (manager.attemptOn handler contents).exec p =
            (.ok (), (p.addSuccess handler.name result).setPrincipal result.principal) := by
          rw [attemptOn, Program.exec_bind, Program.exec_ofExcept, houtcome]
          simp [Program.exec, recordResult, RegisteredHandler.principalOf,
            hresolvers handler List.mem_cons_self ⟨contents, hsupports⟩]
        have hconsent : manager.plan.evaluateAuthenticationPolicies
            ((p.addSuccess handler.name result).setPrincipal result.principal).builder
              transaction handlers = [] :=
          (evaluateAuthenticationPolicies_anySuccess hplan _).mpr (Keyed.entries_put_ne_nil _ _)
        rw [hexec, search_cons_of_ok hsupports houtcome]
        simp only [concludeAttempt, hconsent, List.isEmpty_nil, Bool.not_true,
          Bool.false_eq_true, if_false]
        rfl
    · rw [if_neg hsupports, search_cons_of_not_supports hsupports]
      exact ih hrest p

/-- The loop over the credentials records one search for each. -/
theorem offerAll_eq_record (hplan : manager.plan.AnySuccess)
    (hresolvers : ∀ handler ∈ handlers, handler.TakesCredentials →
      handler.principalResolver = none)
    (credentials : List (CredentialValue ν)) (p : Progress ν) :
    manager.offerAll clock transaction handlers credentials p =
      credentials.foldl (fun p contents => p.record clock (search handlers contents)) p := by
  unfold offerAll
  congr 1
  funext p contents
  exact offer_eq_record hplan hresolvers p

end AuthenticationManager

/-! ## Which transactions succeed -/

namespace Progress

variable {clock : ℕ → ℕ} {p : Progress ν}

theorem successes_record (found : SearchResult ν) :
    (p.record clock found).builder.successes.entries ≠ [] ↔
      p.builder.successes.entries ≠ [] ∨ found.2 ≠ none := by
  unfold record
  cases found.2 with
  | none => simp [builder_successes_addFailures]
  | some success =>
    constructor
    · intro _
      exact Or.inr (by simp)
    · intro _
      exact Keyed.entries_put_ne_nil _ _

theorem principal_record (hprincipal : p.builder.successes.entries ≠ [] →
    p.builder.principal ≠ none) (found : SearchResult ν) :
    (p.record clock found).builder.successes.entries ≠ [] →
      (p.record clock found).builder.principal ≠ none := by
  unfold record
  cases found.2 with
  | none =>
    simp only [builder_successes_addFailures, builder_principal_addFailures]
    exact hprincipal
  | some success =>
    intro _ hnone
    cases hnone

/-- After the searches of a list of credentials, there is a success exactly when there
was one before or one of the searches found one, and then there is a principal. -/
theorem foldl_record (clock : ℕ → ℕ) (search : CredentialValue ν → SearchResult ν)
    (hprincipal : p.builder.successes.entries ≠ [] → p.builder.principal ≠ none)
    (credentials : List (CredentialValue ν)) :
    let recorded := credentials.foldl (fun p contents => p.record clock (search contents)) p
    (recorded.builder.successes.entries ≠ [] ↔
      p.builder.successes.entries ≠ [] ∨ ∃ contents ∈ credentials, (search contents).2 ≠ none) ∧
    (recorded.builder.successes.entries ≠ [] → recorded.builder.principal ≠ none) := by
  induction credentials generalizing p with
  | nil => simpa using hprincipal
  | cons contents rest ih =>
    obtain ⟨hsuccess, hnext⟩ := ih (principal_record hprincipal (search contents))
    refine ⟨?_, hnext⟩
    rw [List.foldl_cons, hsuccess, successes_record]
    simp [or_assoc]

end Progress

/-- A search finds a success exactly when a handler that takes the credential accepts it. -/
theorem search_ne_none_iff {handlers : List (RegisteredHandler ν)}
    {contents : CredentialValue ν} :
    (search handlers contents).2 ≠ none ↔
      ∃ handler ∈ handlers, handler.supports (viewOf contents) = true ∧
        ∃ result, handler.outcomeOn contents = .ok result := by
  unfold search
  rw [Ne, tryInTurn_eq_none_iff]
  constructor
  · intro h
    by_contra hnone
    apply h
    intro handler hmem
    obtain ⟨htried, hsupports⟩ := List.mem_filter.mp hmem
    cases houtcome : handler.outcomeOn contents with
    | error e => exact ⟨e, rfl⟩
    | ok result => exact absurd ⟨handler, htried, hsupports, result, houtcome⟩ hnone
  · intro h hall
    obtain ⟨handler, htried, hsupports, result, hok⟩ := h
    obtain ⟨e, herror⟩ := hall handler (List.mem_filter.mpr ⟨htried, hsupports⟩)
    rw [hok] at herror
    cases herror

namespace AuthenticationManager

variable {manager : AuthenticationManager ν} {clock : ℕ → ℕ}
  {transaction : AuthenticationTransaction (CredentialValue ν)}
  {handlers : List (RegisteredHandler ν)}

/-- The loops over, only a success counts. -/
theorem evaluateFinalAuthentication_anySuccess (hplan : manager.plan.AnySuccess)
    (p : Progress ν) :
    manager.evaluateFinalAuthentication clock transaction handlers p =
      if p.builder.successes.entries = [] then
        .error (.authentication (.ofOutcomes p.builder.failures p.builder.successes))
      else .ok p.builder := by
  have hpolicy : manager.plan.evaluateAuthenticationPolicies p.builder transaction handlers = [] ↔
      p.builder.successes.entries ≠ [] := evaluateAuthenticationPolicies_anySuccess hplan p.builder
  unfold evaluateFinalAuthentication
  cases hsuccesses : p.builder.successes.entries with
  | nil => rfl
  | cons entry rest =>
    have hconsent := hpolicy.mpr (by rw [hsuccesses]; exact List.cons_ne_nil _ _)
    simp only [List.isEmpty_cons, Bool.false_eq_true, if_false, hconsent, reduceCtorEq]

theorem noResolvers_of_transaction (hplan : manager.plan.AnySuccess)
    (hhandlers : manager.plan.getAuthenticationHandlersForTransaction transaction = .ok handlers) :
    ∀ handler ∈ handlers, handler.TakesCredentials → handler.principalResolver = none := by
  intro handler hmem
  have hsubset := (AuthenticationEventExecutionPlan.handlers_of_transaction hhandlers).1
  exact hplan.noResolvers handler (hsubset hmem)

/-- The progress of a transaction when the loops are over. -/
def searched (clock : ℕ → ℕ) (handlers : List (RegisteredHandler ν))
    (credentials : List (CredentialValue ν)) : Progress ν :=
  credentials.foldl (fun p contents => p.record clock (search handlers contents))
    (.opened credentials)

/-- `authenticateInternal` searches for each credential. -/
theorem internalVerdict_anySuccess (hplan : manager.plan.AnySuccess)
    (hhandlers : manager.plan.getAuthenticationHandlersForTransaction transaction = .ok handlers)
    (hcredentials : transaction.credentials ≠ [])
    (hserializable : ∀ contents ∈ transaction.credentials, contents.isSerializable = true) :
    manager.internalVerdict clock transaction =
      let p := searched clock handlers transaction.credentials
      if p.builder.successes.entries = [] then
        .error (.authentication (.ofOutcomes p.builder.failures p.builder.successes))
      else .ok p.builder := by
  have hnonempty : transaction.credentials.isEmpty = false := by simpa using hcredentials
  unfold internalVerdict
  simp only [hnonempty, Bool.false_eq_true, if_false,
    Progress.start_of_serializable hserializable, hhandlers, bind, Except.bind]
  rw [evaluateFinalAuthentication_anySuccess hplan,
    offerAll_eq_record hplan (noResolvers_of_transaction hplan hhandlers)]
  rfl

/-- There is a success, and then a principal, when one of the searches found one. -/
theorem successes_searched (clock : ℕ → ℕ) (handlers : List (RegisteredHandler ν))
    (credentials : List (CredentialValue ν)) :
    let recorded := searched clock handlers credentials
    (recorded.builder.successes.entries ≠ [] ↔
      ∃ contents ∈ credentials, (search handlers contents).2 ≠ none) ∧
    (recorded.builder.successes.entries ≠ [] → recorded.builder.principal ≠ none) := by
  have hrecorded := Progress.foldl_record (p := Progress.opened credentials) clock
    (search handlers) (fun hsome => absurd rfl hsome) credentials
  obtain ⟨hsuccess, hprincipal⟩ := hrecorded
  refine ⟨?_, hprincipal⟩
  rw [searched, hsuccess]
  exact or_iff_right fun hstart => hstart rfl

/-- A transaction, of any number of credentials, succeeds exactly when all of them can be
serialized and some handler that takes one of them accepts it: neither the order of the
handlers nor what the other credentials are matters. -/
theorem verdict_isOk_iff (hplan : manager.plan.AnySuccess)
    (hpre : manager.plan.invokeAuthenticationPreProcessors transaction = .ok true)
    (hpost : ∀ builder,
      manager.plan.invokeAuthenticationPostProcessors builder transaction = .ok builder)
    (hhandlers : manager.plan.getAuthenticationHandlersForTransaction transaction = .ok handlers) :
    (∃ authentication, manager.verdict clock transaction = .ok authentication) ↔
      (∀ contents ∈ transaction.credentials, contents.isSerializable = true) ∧
      ∃ contents ∈ transaction.credentials, ∃ handler ∈ handlers,
        handler.supports (viewOf contents) = true ∧
          ∃ result, handler.outcomeOn contents = .ok result := by
  obtain ⟨hsuccess, hprincipal⟩ := successes_searched clock handlers transaction.credentials
  have haccepted : (∃ contents ∈ transaction.credentials, ∃ handler ∈ handlers,
      handler.supports (viewOf contents) = true ∧
        ∃ result, handler.outcomeOn contents = .ok result) ↔
      (searched clock handlers transaction.credentials).builder.successes.entries ≠ [] := by
    rw [hsuccess]
    simp only [search_ne_none_iff]
  rw [haccepted]
  constructor
  · intro hok
    obtain ⟨authentication, hverdict⟩ := hok
    obtain ⟨builder, hbuilder, _⟩ := verdict_eq_ok hverdict
    have hserializable := (internalVerdict_eq_ok hbuilder).1
    refine ⟨hserializable, ?_⟩
    intro hnone
    by_cases hcredentials : transaction.credentials = []
    · rw [internalVerdict, hcredentials] at hbuilder
      cases hbuilder
    · rw [internalVerdict_anySuccess hplan hhandlers hcredentials hserializable] at hbuilder
      simp only [hnone, if_true] at hbuilder
      cases hbuilder
  · intro hgiven
    obtain ⟨hserializable, hsome⟩ := hgiven
    have hcredentials : transaction.credentials ≠ [] := by
      intro hnil
      rw [hnil] at hsome
      exact hsome rfl
    have hinternal : manager.internalVerdict clock transaction =
        .ok (searched clock handlers transaction.credentials).builder := by
      rw [internalVerdict_anySuccess hplan hhandlers hcredentials hserializable]
      simp only [hsome, if_false]
    refine ⟨(searched clock handlers transaction.credentials).builder, ?_⟩
    exact verdict_of_ok hpre (hpost _) (hprincipal hsome) hinternal

/-! ## One credential -/

/-- The authentication of a credential that a handler accepted after these failures. -/
def acceptedBy (contents : CredentialValue ν) (failures : List (RegisteredHandler ν × Throwable))
    (handler : RegisteredHandler ν) (result : HandlerResult ν) : Authentication ν :=
  ⟨[⟨contents.getId, customCredential, contents⟩], some result.principal,
    Keyed.empty.put (handler.name, result), failuresOf failures⟩

/-- How `authenticateInternal` ends after a search. -/
def outcomeOfSearch (contents : CredentialValue ν) :
    SearchResult ν → Except (TransactionFailure ν) (Authentication ν)
  | (failures, none) => .error (.authentication (.ofOutcomes (failuresOf failures) .empty))
  | (failures, some (handler, result)) => .ok (acceptedBy contents failures handler result)

theorem internalVerdict_oneCredential (clock : ℕ → ℕ) (hplan : manager.plan.AnySuccess)
    (hhandlers : manager.plan.getAuthenticationHandlersForTransaction transaction = .ok handlers)
    {contents : CredentialValue ν} (hone : transaction.credentials = [contents])
    (hserializable : contents.isSerializable = true) :
    manager.internalVerdict clock transaction =
      outcomeOfSearch contents (search handlers contents) := by
  have hcredentials : transaction.credentials ≠ [] := by rw [hone]; exact List.cons_ne_nil _ _
  have hall : ∀ contents ∈ transaction.credentials, contents.isSerializable = true := by
    rw [hone]
    exact List.forall_mem_singleton.mpr hserializable
  rw [internalVerdict_anySuccess hplan hhandlers hcredentials hall, hone]
  have hfailed : ∀ failures : List (RegisteredHandler ν × Throwable),
      ((Progress.opened [contents]).addFailures clock failures).builder =
        { (Progress.opened [contents]).builder with failures := failuresOf failures } :=
    Progress.builder_addFailures_of_no_success rfl
  generalize hfound : search handlers contents = found
  obtain ⟨failures, success⟩ := found
  have hsearched : searched clock handlers [contents] =
      (Progress.opened [contents]).record clock (failures, success) := by
    rw [searched, List.foldl_cons, List.foldl_nil, hfound]
  rw [hsearched]
  cases success with
  | none =>
    simp only [Progress.record, hfailed]
    rfl
  | some accepted =>
    obtain ⟨handler, result⟩ := accepted
    have hbuilder : ((Progress.opened [contents]).record clock
        (failures, some (handler, result))).builder =
          acceptedBy contents failures handler result := by
      simp only [Progress.record, Progress.setPrincipal, Progress.addSuccess, hfailed]
      rfl
    have hsome : (acceptedBy contents failures handler result).successes.entries ≠ [] :=
      Keyed.entries_put_ne_nil _ _
    simp only [hbuilder, hsome, if_false]
    rfl

/-- A login with one credential that can be serialized goes through exactly when some
handler that takes the credential accepts it; the first such handler gives the principal
and the only success, the failures recorded are those of the handlers before it, and those
after it play no part.  When there is none, the exception has the failures of all of
them. -/
theorem oneCredential_first_success (hplan : manager.plan.AnySuccess)
    (hhandlers : manager.plan.getAuthenticationHandlersForTransaction transaction = .ok handlers)
    {contents : CredentialValue ν} (hone : transaction.credentials = [contents])
    (hserializable : contents.isSerializable = true) :
    (∀ builder, manager.internalVerdict clock transaction = .ok builder ↔
      ∃ failures handler result after,
        (handlers.filter fun handler => handler.supports (viewOf contents)) =
          failures.map Prod.fst ++ handler :: after ∧
        (∀ failure ∈ failures, failure.1.outcomeOn contents = .error failure.2) ∧
        handler.outcomeOn contents = .ok result ∧
        builder = acceptedBy contents failures handler result) ∧
    (∀ failure, manager.internalVerdict clock transaction = .error failure ↔
      ∃ failures, failures.map Prod.fst =
          (handlers.filter fun handler => handler.supports (viewOf contents)) ∧
        (∀ failure ∈ failures, failure.1.outcomeOn contents = .error failure.2) ∧
        failure = .authentication (.ofOutcomes (failuresOf failures) .empty)) := by
  have hinternal := internalVerdict_oneCredential clock hplan hhandlers hone hserializable
  constructor
  · intro builder
    constructor
    · intro hok
      generalize hfound : search handlers contents = found at hinternal
      obtain ⟨failures, success⟩ := found
      cases success with
      | none => cases hinternal.symm.trans hok
      | some accepted =>
        obtain ⟨handler, result⟩ := accepted
        obtain ⟨haccepted, hfailed, after, hsplit⟩ := search_eq_some_iff.mp hfound
        cases hinternal.symm.trans hok
        exact ⟨failures, handler, result, after, hsplit, hfailed, haccepted, rfl⟩
    · intro hgiven
      obtain ⟨failures, handler, result, after, hsplit, hfailed, haccepted, rfl⟩ := hgiven
      rw [hinternal, search_eq_some_iff.mpr ⟨haccepted, hfailed, after, hsplit⟩]
      rfl
  · intro failure
    constructor
    · intro herror
      generalize hfound : search handlers contents = found at hinternal
      obtain ⟨failures, success⟩ := found
      cases success with
      | some accepted => cases hinternal.symm.trans herror
      | none =>
        obtain ⟨hall, hfailed⟩ := search_eq_none_iff.mp hfound
        cases hinternal.symm.trans herror
        exact ⟨failures, hall, hfailed, rfl⟩
    · intro hgiven
      obtain ⟨failures, hall, hfailed, rfl⟩ := hgiven
      rw [hinternal, search_eq_none_iff.mpr ⟨hall, hfailed⟩]
      rfl

/-! ## One user's login -/

theorem anySuccess_customManager (jdbcTemplate : JdbcTemplate) :
    (customManager jdbcTemplate).plan.AnySuccess where
  policies := rfl
  noResolvers handler hmem _ := by
    cases List.mem_singleton.mp hmem
    rfl

/-- The login of a user, by what was typed. -/
def aliceTransaction : AuthenticationTransaction (CredentialValue Unit) :=
  ⟨none, [submitted "alice" "secret"]⟩

theorem handlers_aliceTransaction :
    (customManager onlyAlice).plan.getAuthenticationHandlersForTransaction aliceTransaction =
      .ok (customManager onlyAlice).plan.handlers.entries := rfl

theorem verdict_isOk_alice :
    ∃ authentication, (customManager onlyAlice).verdict (fun _ => 0) aliceTransaction =
      .ok authentication := by
  have hpre : (customManager onlyAlice).plan.invokeAuthenticationPreProcessors
      aliceTransaction = .ok true := rfl
  apply (verdict_isOk_iff (anySuccess_customManager onlyAlice) hpre (fun _ => rfl)
    handlers_aliceTransaction).mpr
  refine ⟨List.forall_mem_singleton.mpr rfl, ?_⟩
  exact ⟨_, List.mem_singleton_self _, _, List.mem_singleton_self _, rfl, _, rfl⟩

/-- The only handler of that plan. -/
def onlyHandler (jdbcTemplate : JdbcTemplate) : RegisteredHandler Unit :=
  { (assembleHandler plainTextEncoder (some "select * from user where name = ?")
      jdbcTemplate).toAuthenticationHandler 1 fun _ => () with principalResolver := none }

theorem first_success_alice :
    (customManager onlyAlice).internalVerdict (fun _ => 0) aliceTransaction =
      .ok (acceptedBy (submitted "alice" "secret") [] (onlyHandler onlyAlice)
        (assembledResult (submitted "alice" "secret") "alice")) := by
  apply ((oneCredential_first_success (anySuccess_customManager onlyAlice)
    handlers_aliceTransaction rfl rfl).1 _).mpr
  exact ⟨[], _, _, [], rfl, List.forall_mem_nil _, rfl, rfl⟩

end AuthenticationManager

end LemonCas.Authentication
