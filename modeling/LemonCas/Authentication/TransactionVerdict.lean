import LemonCas.Authentication.AuthenticationManager
set_option autoImplicit false

/-!
# Authentication: a transaction as a function of its credentials' contents

`AuthenticationManager.verdict` says how a transaction ends, with no store: each
handler's outcome is what it makes of a fresh object with the same contents.  The main
theorem, `authenticate_refines`, connects it to the method on the store for handlers
that keep the objects there are and decide by the contents of the credential; the
custom handler is one of these.  What is proved of transactions below is proved of
verdicts.
-/

namespace LemonCas.Authentication

open LemonCas.Foundation
open LemonCas.Java
open LemonCas.Credential
open LemonCas.Service

variable {ν : Type}

/-! ## Handlers that decide by contents -/

/-- What a handler makes of a fresh object with the given contents. -/
def AuthenticationHandler.outcomeOn (handler : AuthenticationHandler ν)
    (contents : CredentialValue ν) : Except Throwable (HandlerResult ν) :=
  ((handler.authenticate freshCredential).exec (freshStore contents)).1

/-- The outcome of the handler depends on nothing but the contents of the credential,
and it keeps the contents of every object. -/
def AuthenticationHandler.DecidesByContents (handler : AuthenticationHandler ν) : Prop :=
  ∀ {s : Store ν} {credential : Ref (CustomCredential ν)} {contents : CredentialValue ν},
    s.deref credential = some contents →
      (handler.authenticate credential).Ensures s fun outcome s' =>
        outcome = handler.outcomeOn contents ∧ s.Extends s'

/-- The custom handler decides by contents. -/
theorem decidesByContents_toAuthenticationHandler {σ : Type}
    (handler : CustomAuthenticationHandler ν σ) (identity : ℕ) (salt : σ) :
    (handler.toAuthenticationHandler identity fun _ => salt).DecidesByContents := by
  intro s credential contents hderef
  have hrefines := handler.doAuthentication_refines salt hderef
  apply hrefines.mono
  intro outcome s' h
  obtain ⟨hverdict, hkept⟩ := h
  refine ⟨?_, hkept⟩
  rw [hverdict]
  exact (handler.attempt_eq_verdict salt contents).symm

/-- The handler takes some of the credentials of the login form. -/
def AuthenticationHandler.TakesCredentials (handler : AuthenticationHandler ν) : Prop :=
  ∃ contents : CredentialValue ν, handler.supports (viewOf contents) = true

/-- Every handler of the plan that takes credentials of the login form decides by their
contents. -/
def AuthenticationEventExecutionPlan.DecidesByContents
    (plan : AuthenticationEventExecutionPlan ν) : Prop :=
  ∀ handler ∈ plan.handlers.entries, handler.TakesCredentials → handler.DecidesByContents

namespace AuthenticationManager

variable (manager : AuthenticationManager ν) (clock : ℕ → ℕ)

/-! ## The verdict -/

/-- What an attempt of a handler makes of the progress. -/
def attemptOn (handler : RegisteredHandler ν) (contents : CredentialValue ν) :
    Program (Progress ν) Throwable Unit := do
  let result ← Program.ofExcept (handler.outcomeOn contents)
  manager.recordResult handler contents result

/-- What the loop over the handlers makes of the progress. -/
def offer (transaction : AuthenticationTransaction (CredentialValue ν))
    (handlers : List (RegisteredHandler ν)) (contents : CredentialValue ν) :
    List (RegisteredHandler ν) → Progress ν → Progress ν
  | [], p => p
  | handler :: rest, p =>
      if handler.supports (viewOf contents) then
        let (proceed, p₁) := manager.concludeAttempt clock transaction handlers handler
          ((manager.attemptOn handler contents).exec p)
        if proceed then offer transaction handlers contents rest p₁ else p₁
      else offer transaction handlers contents rest p

/-- What the loop over the credentials makes of the progress. -/
def offerAll (transaction : AuthenticationTransaction (CredentialValue ν))
    (handlers : List (RegisteredHandler ν)) (credentials : List (CredentialValue ν))
    (p : Progress ν) : Progress ν :=
  credentials.foldl
    (fun p contents => manager.offer clock transaction handlers contents handlers p) p

/-- How `authenticateInternal` ends. -/
def internalVerdict (transaction : AuthenticationTransaction (CredentialValue ν)) :
    Except (TransactionFailure ν) (Authentication ν) :=
  if transaction.credentials.isEmpty then
    .error (.authentication (.ofMessage "Resolved credentials for this transaction are empty"))
  else do
    let progress ← Progress.start transaction.credentials
    let handlers ← manager.plan.getAuthenticationHandlersForTransaction transaction
    manager.evaluateFinalAuthentication clock transaction handlers
      (manager.offerAll clock transaction handlers transaction.credentials progress)

/-- How a transaction ends once there is a builder: the post-processors may change it,
and it must have a principal. -/
def finish (transaction : AuthenticationTransaction (CredentialValue ν))
    (builder : Authentication ν) : Except (TransactionFailure ν) (Authentication ν) :=
  match manager.plan.invokeAuthenticationPostProcessors builder transaction with
  | .error e => .error (.authentication e)
  | .ok authentication =>
      if authentication.principal.isNone then
        .error (.authentication (unresolvedPrincipalException authentication))
      else .ok authentication

/-- How a transaction ends. -/
def verdict (transaction : AuthenticationTransaction (CredentialValue ν)) :
    Except (TransactionFailure ν) (Authentication ν) :=
  match manager.plan.invokeAuthenticationPreProcessors transaction with
  | .error e => .error (.authentication e)
  | .ok false =>
      .error (.authentication
        (.ofMessage "Authentication pre-processor has failed to process transaction"))
  | .ok true => do
      let builder ← manager.internalVerdict clock transaction
      manager.finish transaction builder

end AuthenticationManager

/-! ## The start of a transaction -/

namespace Progress

/-- The progress of a transaction whose credentials can be serialized, before any handler
is tried. -/
def opened (credentials : List (CredentialValue ν)) : Progress ν :=
  ⟨⟨credentials.map fun contents => ⟨contents.getId, customCredential, contents⟩, none,
    .empty, .empty⟩, 0⟩

theorem start_of_serializable {credentials : List (CredentialValue ν)}
    (hserializable : ∀ contents ∈ credentials, contents.isSerializable = true) :
    start credentials = .ok (opened credentials) := by
  have hmade := mapM_eq_ok_of_forall fun contents hmem =>
    metaDataOf_eq_ok_iff.mpr ⟨hserializable contents hmem, rfl⟩
  rw [start, hmade]
  rfl

/-- One credential that cannot be serialized is enough to end the transaction. -/
theorem start_of_not_serializable {credentials : List (CredentialValue ν)}
    (hbroken : ∃ contents ∈ credentials, contents.isSerializable = false) :
    start credentials = .error (.other unableToSerialize) := by
  obtain ⟨contents, hmem, hfalse⟩ := hbroken
  have hfailed : credentials.mapM metaDataOf = .error unableToSerialize :=
    mapM_eq_error_of_exists (fun _ _ _ hthrown => (metaDataOf_eq_error_iff.mp hthrown).2)
      ⟨contents, hmem, metaDataOf_eq_error_iff.mpr ⟨hfalse, rfl⟩⟩
  rw [start, hfailed]

theorem start_eq_ok {credentials : List (CredentialValue ν)} {p : Progress ν}
    (h : start credentials = .ok p) :
    (∀ contents ∈ credentials, contents.isSerializable = true) ∧ p = opened credentials := by
  by_cases hserializable : ∀ contents ∈ credentials, contents.isSerializable = true
  · rw [start_of_serializable hserializable] at h
    exact ⟨hserializable, (Except.ok.inj h).symm⟩
  · have hbroken : ∃ contents ∈ credentials, contents.isSerializable = false := by
      simpa using hserializable
    rw [start_of_not_serializable hbroken] at h
    cases h

end Progress

/-! ## The handlers of a transaction -/

/-- What the resolvers choose are handlers of the plan. -/
theorem AuthenticationEventExecutionPlan.resolveHandlers_subset
    {plan : AuthenticationEventExecutionPlan ν}
    {transaction : AuthenticationTransaction (CredentialValue ν)}
    {resolved : List (RegisteredHandler ν)}
    (h : plan.resolveHandlers transaction = .ok resolved) : resolved ⊆ plan.handlers.entries := by
  obtain ⟨resolvers, _, hchosen⟩ := bind_eq_ok_iff.mp h
  cases hchosen
  intro handler hmem
  rcases Keyed.mem_of_mem_addAll hmem with hnone | hmem
  · cases hnone
  · obtain ⟨resolver, _, hmem⟩ := List.mem_flatMap.mp hmem
    exact mem_sortByOrder.mp (resolver.chooses _ _ hmem)

/-- The handlers to try are handlers of the plan, and there is one. -/
theorem AuthenticationEventExecutionPlan.handlers_of_transaction
    {plan : AuthenticationEventExecutionPlan ν}
    {transaction : AuthenticationTransaction (CredentialValue ν)}
    {handlers : List (RegisteredHandler ν)}
    (h : plan.getAuthenticationHandlersForTransaction transaction = .ok handlers) :
    handlers ⊆ plan.handlers.entries ∧ handlers ≠ [] := by
  unfold getAuthenticationHandlersForTransaction at h
  cases hresolved : plan.resolveHandlers transaction with
  | error e =>
    rw [hresolved] at h
    cases h
  | ok resolved =>
    rw [hresolved] at h
    simp only at h
    have hsubset : (if resolved.isEmpty then plan.getAuthenticationHandlers else resolved) ⊆
        plan.handlers.entries := by
      split
      · exact fun handler hmem => mem_sortByOrder.mp hmem
      · exact resolveHandlers_subset hresolved
    generalize (if resolved.isEmpty then plan.getAuthenticationHandlers else resolved) = tried
      at h hsubset
    split at h
    · cases h
    · rename_i hsome
      cases h
      exact ⟨hsubset, fun hnil => hsome (by rw [hnil]; rfl)⟩

/-! ## Contents along a run -/

/-- The credentials of a transaction are objects of the store. -/
def AuthenticationTransaction.LiveIn
    (transaction : AuthenticationTransaction (Ref (CustomCredential ν))) (s : Store ν) : Prop :=
  ∀ credential ∈ transaction.credentials, ∃ contents, s.deref credential = some contents

section Contents

variable {transaction : AuthenticationTransaction (Ref (CustomCredential ν))} {s s' : Store ν}

theorem filterMap_deref_of_extends {credentials : List (Ref (CustomCredential ν))}
    (hlive : ∀ credential ∈ credentials, ∃ contents, s.deref credential = some contents)
    (hkept : s.Extends s') : credentials.filterMap s'.deref = credentials.filterMap s.deref := by
  apply List.filterMap_congr
  intro credential hmem
  obtain ⟨contents, hderef⟩ := hlive credential hmem
  rw [hderef, hkept.deref hderef]

/-- A transaction has the same contents in every extension of the store. -/
theorem AuthenticationTransaction.contents_of_extends (hlive : transaction.LiveIn s)
    (hkept : s.Extends s') : transaction.contents s' = transaction.contents s := by
  unfold AuthenticationTransaction.contents
  rw [filterMap_deref_of_extends hlive hkept]

theorem AuthenticationTransaction.LiveIn.of_extends (hlive : transaction.LiveIn s)
    (hkept : s.Extends s') : transaction.LiveIn s' := by
  intro credential hmem
  obtain ⟨contents, hderef⟩ := hlive credential hmem
  exact ⟨contents, hkept.deref hderef⟩

theorem isEmpty_contents (hlive : transaction.LiveIn s) :
    transaction.credentials.isEmpty = (transaction.contents s).credentials.isEmpty := by
  unfold AuthenticationTransaction.contents
  unfold AuthenticationTransaction.LiveIn at hlive
  cases hcredentials : transaction.credentials with
  | nil => rfl
  | cons credential rest =>
    rw [hcredentials] at hlive
    obtain ⟨contents, hderef⟩ := hlive credential List.mem_cons_self
    rw [List.filterMap_cons_some hderef]
    rfl

end Contents

/-! ## The methods refine the verdict -/

namespace AuthenticationManager

variable (manager : AuthenticationManager ν) (clock : ℕ → ℕ)

/-- An attempt on the store is the attempt on the contents. -/
theorem exec_authenticateAndResolvePrincipal {handler : RegisteredHandler ν}
    (hdecides : handler.DecidesByContents) {s : TransactionState ν}
    {credential : Ref (CustomCredential ν)} {contents : CredentialValue ν}
    (hderef : s.store.deref credential = some contents) :
    ∃ store, s.store.Extends store ∧
      (manager.authenticateAndResolvePrincipal credential handler).exec s =
        (((manager.attemptOn handler contents).exec s.progress).1,
          ⟨store, ((manager.attemptOn handler contents).exec s.progress).2⟩) := by
  obtain ⟨houtcome, hkept⟩ := hdecides hderef
  refine ⟨_, hkept, ?_⟩
  unfold authenticateAndResolvePrincipal attemptOn
  rw [Program.exec_bind, Program.exec_bind, Program.exec_ofExcept, ← houtcome]
  have hauthenticate : (onStore (handler.authenticate credential)).exec s =
      (((handler.authenticate credential).exec s.store).1,
        ⟨((handler.authenticate credential).exec s.store).2, s.progress⟩) := rfl
  rw [hauthenticate]
  cases ((handler.authenticate credential).exec s.store).1 with
  | error e => rfl
  | ok result =>
    simp only
    have hread := Program.exec_getOrThrow_of_some (f := fun s : Store ν => s.deref credential)
      (e := Throwable.nullPointerException none) (hkept.deref hderef)
    rw [Program.exec_bind]
    have hcontents : (onStore (Program.getOrThrow (fun s : Store ν => s.deref credential)
        (.nullPointerException none))).exec
          ⟨((handler.authenticate credential).exec s.store).2, s.progress⟩ =
        (.ok contents, ⟨((handler.authenticate credential).exec s.store).2, s.progress⟩) := by
      unfold onStore Program.exec at hread ⊢
      simp only [hread]
    rw [hcontents]
    rfl

/-- The loop over the handlers makes of the progress what the contents make of it, and
keeps every object. -/
theorem tryHandlers_refines
    {transaction : AuthenticationTransaction (Ref (CustomCredential ν))}
    (handlers : List (RegisteredHandler ν)) {credential : Ref (CustomCredential ν)}
    {contents : CredentialValue ν} {l : List (RegisteredHandler ν)}
    (hdecides : ∀ handler ∈ l, handler.TakesCredentials → handler.DecidesByContents)
    {s : TransactionState ν}
    (hlive : transaction.LiveIn s.store) (hderef : s.store.deref credential = some contents) :
    (manager.tryHandlers clock transaction handlers credential l s).progress =
        manager.offer clock (transaction.contents s.store) handlers contents l s.progress ∧
      s.store.Extends (manager.tryHandlers clock transaction handlers credential l s).store := by
  induction l generalizing s with
  | nil => exact ⟨rfl, .refl _⟩
  | cons handler rest ih =>
    have hrest : ∀ handler ∈ rest, handler.TakesCredentials → handler.DecidesByContents :=
      fun handler hmem => hdecides handler (List.mem_cons_of_mem _ hmem)
    have hsupports :
        supportsAt s.store credential handler = handler.supports (viewOf contents) := by
      simp only [supportsAt, hderef]
    unfold tryHandlers offer
    rw [hsupports]
    split
    · rename_i hasked
      obtain ⟨store, hkept, hexec⟩ := manager.exec_authenticateAndResolvePrincipal
        (hdecides handler List.mem_cons_self ⟨contents, hasked⟩) hderef
      have hcontents := AuthenticationTransaction.contents_of_extends hlive hkept
      simp only [hexec, hcontents, Prod.mk.eta]
      generalize manager.concludeAttempt clock (transaction.contents s.store) handlers handler
        ((manager.attemptOn handler contents).exec s.progress) = conclusion
      obtain ⟨proceed, progress⟩ := conclusion
      cases proceed with
      | false => exact ⟨rfl, hkept⟩
      | true =>
        have hnext :=
          ih hrest (s := ⟨store, progress⟩) (hlive.of_extends hkept) (hkept.deref hderef)
        rw [hcontents] at hnext
        exact ⟨hnext.1, hkept.trans hnext.2⟩
    · exact ih hrest hlive hderef

/-- The loop over the credentials makes of the progress what their contents make of it,
and keeps every object. -/
theorem tryCredentials_refines
    {transaction : AuthenticationTransaction (Ref (CustomCredential ν))}
    {handlers : List (RegisteredHandler ν)}
    (hdecides : ∀ handler ∈ handlers, handler.TakesCredentials → handler.DecidesByContents)
    {credentials : List (Ref (CustomCredential ν))} {s : TransactionState ν}
    (hlive : transaction.LiveIn s.store)
    (hcredentials : ∀ credential ∈ credentials, ∃ contents,
      s.store.deref credential = some contents) :
    (manager.tryCredentials clock transaction handlers credentials s).progress =
        manager.offerAll clock (transaction.contents s.store) handlers
          (credentials.filterMap s.store.deref) s.progress ∧
      s.store.Extends (manager.tryCredentials clock transaction handlers credentials s).store := by
  induction credentials generalizing s with
  | nil => exact ⟨rfl, .refl _⟩
  | cons credential rest ih =>
    obtain ⟨contents, hderef⟩ := hcredentials credential List.mem_cons_self
    have hrest : ∀ credential ∈ rest, ∃ contents, s.store.deref credential = some contents :=
      fun credential hmem => hcredentials credential (List.mem_cons_of_mem _ hmem)
    obtain ⟨hprogress, hkept⟩ :=
      manager.tryHandlers_refines clock handlers hdecides hlive hderef
    have hcontents := AuthenticationTransaction.contents_of_extends hlive hkept
    have hnext := ih (hlive.of_extends hkept) fun credential hmem => by
      obtain ⟨value, hvalue⟩ := hrest credential hmem
      exact ⟨value, hkept.deref hvalue⟩
    rw [hcontents, filterMap_deref_of_extends hrest hkept, hprogress] at hnext
    refine ⟨?_, hkept.trans hnext.2⟩
    rw [List.filterMap_cons_some hderef]
    exact hnext.1

/-- `authenticateInternal` ends as the contents of the credentials say. -/
theorem authenticateInternal_refines (hdecides : manager.plan.DecidesByContents) {s : Store ν}
    {transaction : AuthenticationTransaction (Ref (CustomCredential ν))}
    (hlive : transaction.LiveIn s) :
    (manager.authenticateInternal clock transaction).Ensures s fun outcome s' =>
      outcome = manager.internalVerdict clock (transaction.contents s) ∧ s.Extends s' := by
  unfold Program.Ensures Program.exec authenticateInternal internalVerdict
  rw [isEmpty_contents hlive]
  split
  · exact ⟨rfl, .refl s⟩
  · cases hstart : Progress.start (transaction.contents s).credentials with
    | error failure => exact ⟨rfl, .refl s⟩
    | ok progress =>
      cases hhandlers : manager.plan.getAuthenticationHandlersForTransaction
          (transaction.contents s) with
      | error failure =>
        refine ⟨?_, .refl s⟩
        simp only [bind, Except.bind]
      | ok handlers =>
        obtain ⟨hsubset, hsome⟩ :=
          AuthenticationEventExecutionPlan.handlers_of_transaction hhandlers
        have htried := manager.tryCredentials_refines clock
          (fun handler hmem => hdecides handler (hsubset hmem)) (s := ⟨s, progress⟩) hlive hlive
        obtain ⟨hprogress, hkept⟩ := htried
        have hcontents := AuthenticationTransaction.contents_of_extends hlive hkept
        have hnonempty : handlers.isEmpty = false := by simpa using hsome
        simp only [hnonempty, Bool.false_eq_true, if_false, bind, Except.bind]
        refine ⟨?_, hkept⟩
        rw [hcontents, hprogress]
        rfl

/-- What follows `authenticateInternal` writes nothing. -/
theorem exec_finish {s : Store ν}
    (transaction : AuthenticationTransaction (Ref (CustomCredential ν)))
    (builder : Authentication ν) :
    (do
      let contents ← contentsNow transaction
      let authentication ←
        rethrow (manager.plan.invokeAuthenticationPostProcessors builder contents)
      Program.throwIf authentication.principal.isNone
        (.authentication (unresolvedPrincipalException authentication))
      return authentication : Program (Store ν) (TransactionFailure ν) (Authentication ν)).exec s =
      (manager.finish (transaction.contents s) builder, s) := by
  have hnow : (contentsNow transaction).exec s = (.ok (transaction.contents s), s) := rfl
  unfold finish
  rw [Program.exec_bind_of_ok hnow]
  cases hpost : manager.plan.invokeAuthenticationPostProcessors builder
      (transaction.contents s) with
  | error e => rfl
  | ok authentication =>
    have hprocessed : (rethrow (Except.ok authentication) :
        Program (Store ν) (TransactionFailure ν) (Authentication ν)).exec s =
          (.ok authentication, s) := rfl
    rw [Program.exec_bind_of_ok hprocessed, Program.exec_bind, Program.exec_throwIf]
    simp only
    cases authentication.principal.isNone with
    | true => rfl
    | false => rfl

/-- Started on live credentials, a transaction ends in the verdict on their contents, and
every object there was keeps its contents, whichever way the transaction is left. -/
theorem authenticate_refines (hdecides : manager.plan.DecidesByContents) {s : Store ν}
    {transaction : AuthenticationTransaction (Ref (CustomCredential ν))}
    (hlive : transaction.LiveIn s) :
    (manager.authenticate clock transaction).Ensures s fun outcome s' =>
      outcome = manager.verdict clock (transaction.contents s) ∧ s.Extends s' := by
  unfold authenticate verdict
  have hnow : (contentsNow transaction).exec s = (.ok (transaction.contents s), s) := rfl
  apply Program.Ensures.bind_of_exec hnow
  cases hpre : manager.plan.invokeAuthenticationPreProcessors (transaction.contents s) with
  | error e => exact ⟨rfl, .refl s⟩
  | ok proceed =>
    apply Program.Ensures.bind_of_exec rfl
    cases proceed with
    | false => exact ⟨rfl, .refl s⟩
    | true =>
      apply Program.Ensures.bind_of_exec (Program.exec_throwIf false _ s)
      obtain ⟨hbuilder, hkept⟩ :=
        manager.authenticateInternal_refines clock hdecides hlive
      have hcontents := AuthenticationTransaction.contents_of_extends hlive hkept
      generalize hexec : (manager.authenticateInternal clock transaction).exec s = ended
        at hbuilder hkept hcontents
      obtain ⟨outcome, s'⟩ := ended
      simp only at hbuilder hkept hcontents
      subst hbuilder
      cases hverdict : manager.internalVerdict clock (transaction.contents s) with
      | error failure =>
        rw [hverdict] at hexec
        exact .of_exec (Program.exec_bind_of_error hexec) ⟨rfl, hkept⟩
      | ok builder =>
        rw [hverdict] at hexec
        apply Program.Ensures.bind_of_exec hexec
        have hfinish := manager.exec_finish (s := s') transaction builder
        rw [hcontents] at hfinish
        exact .of_exec hfinish ⟨rfl, hkept⟩

end AuthenticationManager

/-! ## One user's login -/

/-- The manager of a plan whose only handler is the custom one. -/
def customManager (jdbcTemplate : JdbcTemplate) : AuthenticationManager Unit where
  plan := AuthenticationEventExecutionPlan.withCustomHandler
    ⟨.empty, coreHandlerResolvers false, [atLeastOneCredentialValidatedAuthenticationPolicy false],
      [], []⟩ 1
    (assembleHandler plainTextEncoder (some "select * from user where name = ?") jdbcTemplate)
  principalResolutionFailureFatal := false

/-- A login with one credential and without a service. -/
def oneCredential : AuthenticationTransaction (Ref (CustomCredential Unit)) :=
  ⟨none, [freshCredential]⟩

theorem decidesByContents_customManager (jdbcTemplate : JdbcTemplate) :
    (customManager jdbcTemplate).plan.DecidesByContents := by
  intro handler hmem _
  cases List.mem_singleton.mp hmem
  exact decidesByContents_toAuthenticationHandler _ 1 ()

theorem oneCredential_liveIn (contents : CredentialValue Unit) :
    oneCredential.LiveIn (freshStore contents) := by
  intro credential hmem
  cases List.mem_singleton.mp hmem
  exact ⟨contents, deref_freshStore contents⟩

example :
    ((customManager onlyAlice).authenticate (fun _ => 0) oneCredential).Ensures
      (freshStore (submitted "alice" "secret")) fun outcome s' =>
        outcome = (customManager onlyAlice).verdict (fun _ => 0)
          (oneCredential.contents (freshStore (submitted "alice" "secret"))) ∧
        (freshStore (submitted "alice" "secret")).Extends s' :=
  (customManager onlyAlice).authenticate_refines (fun _ => 0)
    (decidesByContents_customManager onlyAlice) (oneCredential_liveIn _)

end LemonCas.Authentication
