import LemonCas.Authentication.TransactionVerdict
set_option autoImplicit false

/-!
# Authentication: where an authentication comes from

Whatever the handlers, resolvers and policies of a plan are, what the manager records of
a transaction is what happened in it.  `Genuine` is the invariant: a recorded success is
the result of a handler on a credential that was presented to it, a recorded failure is
what such a handler threw, and the principal is one that such a result led to.  Every
turn of the loops keeps it, so it holds of what the policies judge, and an
authentication comes from nothing else.
-/

namespace LemonCas.Authentication

open LemonCas.Foundation
open LemonCas.Java
open LemonCas.Credential

variable {ν : Type}

/-! ## The invariant -/

/-- The handler is asked about the credential in a transaction with these handlers and
credentials. -/
structure Asked (handlers : List (RegisteredHandler ν)) (credentials : List (CredentialValue ν))
    (handler : RegisteredHandler ν) (contents : CredentialValue ν) : Prop where
  tried : handler ∈ handlers
  presented : contents ∈ credentials
  supported : handler.supports (viewOf contents) = true

/-- What is recorded is what happened. -/
structure Genuine (handlers : List (RegisteredHandler ν))
    (credentials : List (CredentialValue ν)) (builder : Authentication ν) : Prop where
  metadata : builder.credentials = (Progress.opened credentials).builder.credentials
  successes : ∀ entry ∈ builder.successes.entries, ∃ handler contents,
    Asked handlers credentials handler contents ∧ handler.name = entry.1 ∧
      handler.outcomeOn contents = .ok entry.2
  failures : ∀ entry ∈ builder.failures.entries, ∃ handler contents,
    Asked handlers credentials handler contents ∧ (∃ time, entry.1 = handler.name ++ time) ∧
      (handler.outcomeOn contents = .error entry.2 ∨
        entry.2 = noPrincipalResolved ∧ ∃ result, handler.outcomeOn contents = .ok result ∧
          handler.principalOf contents result = none)
  principal : ∀ principal, builder.principal = some principal → ∃ handler contents result,
    Asked handlers credentials handler contents ∧ handler.outcomeOn contents = .ok result ∧
      handler.principalOf contents result = some principal

section Steps

variable {handlers : List (RegisteredHandler ν)} {credentials : List (CredentialValue ν)}
  {handler : RegisteredHandler ν} {contents : CredentialValue ν} {p : Progress ν}

theorem genuine_opened (handlers : List (RegisteredHandler ν))
    (credentials : List (CredentialValue ν)) :
    Genuine handlers credentials (Progress.opened credentials).builder where
  metadata := rfl
  successes _ hmem := nomatch hmem
  failures _ hmem := nomatch hmem
  principal _ hsome := nomatch hsome

theorem Genuine.addSuccess (hgenuine : Genuine handlers credentials p.builder)
    (hasked : Asked handlers credentials handler contents) {result : HandlerResult ν}
    (hok : handler.outcomeOn contents = .ok result) :
    Genuine handlers credentials (p.addSuccess handler.name result).builder where
  metadata := hgenuine.metadata
  successes entry hmem := by
    rcases Keyed.mem_entries_put hmem with rfl | hmem
    · exact ⟨handler, contents, hasked, rfl, hok⟩
    · exact hgenuine.successes entry hmem
  failures := hgenuine.failures
  principal := hgenuine.principal

theorem Genuine.setPrincipal (hgenuine : Genuine handlers credentials p.builder)
    (hasked : Asked handlers credentials handler contents) {result : HandlerResult ν}
    (hok : handler.outcomeOn contents = .ok result) {principal : Principal ν}
    (hprincipal : handler.principalOf contents result = some principal) :
    Genuine handlers credentials (p.setPrincipal principal).builder where
  metadata := hgenuine.metadata
  successes := hgenuine.successes
  failures := hgenuine.failures
  principal other hsome := by
    cases hsome
    exact ⟨handler, contents, result, hasked, hok, hprincipal⟩

theorem Genuine.addFailure (hgenuine : Genuine handlers credentials p.builder)
    (hasked : Asked handlers credentials handler contents) {e : Throwable}
    (hfailed : handler.outcomeOn contents = .error e ∨
      e = noPrincipalResolved ∧ ∃ result, handler.outcomeOn contents = .ok result ∧
        handler.principalOf contents result = none) (clock : ℕ → ℕ) :
    Genuine handlers credentials (p.addFailure clock handler.name e).builder := by
  have hput : ∀ key, (∃ time, key = handler.name ++ time) →
      Genuine handlers credentials (p.putFailure key e).builder := by
    intro key hkey
    refine ⟨hgenuine.metadata, hgenuine.successes, ?_, hgenuine.principal⟩
    intro entry hmem
    rcases Keyed.mem_entries_put hmem with rfl | hmem
    · exact ⟨handler, contents, hasked, hkey, hfailed⟩
    · exact hgenuine.failures entry hmem
  unfold Progress.addFailure
  split
  · have hrenamed := hput (handler.name ++ toString (clock p.clockReads)) ⟨_, rfl⟩
    exact ⟨hrenamed.metadata, hrenamed.successes, hrenamed.failures, hrenamed.principal⟩
  · exact hput handler.name ⟨"", by rw [String.append_empty]⟩

end Steps

namespace AuthenticationManager

variable {manager : AuthenticationManager ν} {clock : ℕ → ℕ}
  {transaction : AuthenticationTransaction (CredentialValue ν)}
  {handlers : List (RegisteredHandler ν)}

/-- One turn of the loop over the handlers keeps the invariant. -/
theorem genuine_concludeAttempt {credentials : List (CredentialValue ν)}
    {handler : RegisteredHandler ν} {contents : CredentialValue ν}
    (hasked : Asked handlers credentials handler contents) {p : Progress ν}
    (hgenuine : Genuine handlers credentials p.builder) :
    Genuine handlers credentials (manager.concludeAttempt clock transaction handlers handler
      ((manager.attemptOn handler contents).exec p)).2.builder := by
  unfold attemptOn
  rw [Program.exec_bind, Program.exec_ofExcept]
  cases houtcome : handler.outcomeOn contents with
  | error e => exact hgenuine.addFailure hasked (Or.inl houtcome) clock
  | ok result =>
    have hrecorded := hgenuine.addSuccess hasked houtcome
    simp only [Program.exec, recordResult]
    cases hprincipal : handler.principalOf contents result with
    | some principal => exact hrecorded.setPrincipal hasked houtcome hprincipal
    | none =>
      simp only
      split
      · exact hrecorded.addFailure hasked (Or.inr ⟨rfl, result, houtcome, hprincipal⟩) clock
      · exact hrecorded

/-- What every turn keeps is kept by the loop over the handlers. -/
theorem offer_of_step {P : Progress ν → Prop} {contents : CredentialValue ν}
    {l : List (RegisteredHandler ν)}
    (hstep : ∀ handler ∈ l, handler.supports (viewOf contents) = true → ∀ p, P p →
      P (manager.concludeAttempt clock transaction handlers handler
        ((manager.attemptOn handler contents).exec p)).2)
    {p : Progress ν} (hp : P p) :
    P (manager.offer clock transaction handlers contents l p) := by
  induction l generalizing p with
  | nil => exact hp
  | cons handler rest ih =>
    have hrest := fun handler hmem => hstep handler (List.mem_cons_of_mem _ hmem)
    unfold offer
    split
    · rename_i hsupports
      have hnext := hstep handler List.mem_cons_self hsupports p hp
      generalize manager.concludeAttempt clock transaction handlers handler
        ((manager.attemptOn handler contents).exec p) = conclusion at hnext
      obtain ⟨proceed, next⟩ := conclusion
      cases proceed with
      | false => exact hnext
      | true => exact ih hrest hnext
    · exact ih hrest hp

/-- What every turn keeps is kept by the loop over the credentials. -/
theorem offerAll_of_step {P : Progress ν → Prop} {credentials : List (CredentialValue ν)}
    (hstep : ∀ handler contents, Asked handlers credentials handler contents → ∀ p, P p →
      P (manager.concludeAttempt clock transaction handlers handler
        ((manager.attemptOn handler contents).exec p)).2)
    {p : Progress ν} (hp : P p) :
    P (manager.offerAll clock transaction handlers credentials p) := by
  unfold offerAll
  refine List.foldlRecOn credentials _ hp ?_
  intro p hp contents hcontents
  apply offer_of_step _ hp
  intro handler hhandler hsupports
  exact hstep handler contents ⟨hhandler, hcontents, hsupports⟩

/-! ## What an authentication was made of -/

/-- An authentication was under construction when the loops were over, of credentials that
can be serialized, with a success and with the consent of the policies. -/
theorem internalVerdict_eq_ok {builder : Authentication ν}
    (h : manager.internalVerdict clock transaction = .ok builder) :
    (∀ contents ∈ transaction.credentials, contents.isSerializable = true) ∧
    ∃ handlers, manager.plan.getAuthenticationHandlersForTransaction transaction = .ok handlers ∧
      builder = (manager.offerAll clock transaction handlers transaction.credentials
        (.opened transaction.credentials)).builder ∧
      builder.successes.entries ≠ [] ∧
      manager.plan.evaluateAuthenticationPolicies builder transaction handlers = [] := by
  unfold internalVerdict at h
  split at h
  · cases h
  · obtain ⟨progress, hstart, hrest⟩ := bind_eq_ok_iff.mp h
    obtain ⟨handlers, hhandlers, hfinal⟩ := bind_eq_ok_iff.mp hrest
    obtain ⟨hserializable, rfl⟩ := Progress.start_eq_ok hstart
    refine ⟨hserializable, handlers, hhandlers, ?_⟩
    generalize manager.offerAll clock transaction handlers transaction.credentials
      (.opened transaction.credentials) = p at hfinal
    unfold evaluateFinalAuthentication at hfinal
    split at hfinal
    · cases hfinal
    · rename_i hsome
      split at hfinal
      · rename_i hconsent
        cases hfinal
        exact ⟨rfl, fun hnil => hsome (by rw [hnil]; rfl), hconsent⟩
      · cases hfinal

/-- A transaction ends in an authentication through the pre-processors, the handlers and
the post-processors, and with a principal. -/
theorem verdict_eq_ok {authentication : Authentication ν}
    (h : manager.verdict clock transaction = .ok authentication) :
    ∃ builder, manager.internalVerdict clock transaction = .ok builder ∧
      manager.plan.invokeAuthenticationPostProcessors builder transaction = .ok authentication ∧
      authentication.principal ≠ none := by
  unfold verdict at h
  split at h
  · cases h
  · cases h
  · obtain ⟨builder, hbuilder, hfinish⟩ := bind_eq_ok_iff.mp h
    refine ⟨builder, hbuilder, ?_⟩
    unfold finish at hfinish
    split at hfinish
    · cases hfinish
    · rename_i processed hprocessed
      split at hfinish
      · cases hfinish
      · rename_i hprincipal
        cases hfinish
        exact ⟨hprocessed, fun hnone => hprincipal (by rw [hnone]; rfl)⟩

section Ends

variable {transaction : AuthenticationTransaction (CredentialValue ν)}

/-- A credential that cannot be serialized ends the transaction, whatever the plan. -/
theorem internalVerdict_of_not_serializable
    (hbroken : ∃ contents ∈ transaction.credentials, contents.isSerializable = false) :
    manager.internalVerdict clock transaction = .error (.other unableToSerialize) := by
  have hnonempty : transaction.credentials.isEmpty = false := by
    obtain ⟨contents, hmem, _⟩ := hbroken
    simpa using List.ne_nil_of_mem hmem
  unfold internalVerdict
  simp only [hnonempty, Bool.false_eq_true, if_false, Progress.start_of_not_serializable hbroken,
    bind, Except.bind]

theorem internalVerdict_of_error (hcredentials : transaction.credentials ≠ [])
    (hserializable : ∀ contents ∈ transaction.credentials, contents.isSerializable = true)
    {failure : TransactionFailure ν}
    (h : manager.plan.getAuthenticationHandlersForTransaction transaction = .error failure) :
    manager.internalVerdict clock transaction = .error failure := by
  have hnonempty : transaction.credentials.isEmpty = false := by simpa using hcredentials
  unfold internalVerdict
  simp only [hnonempty, Bool.false_eq_true, if_false,
    Progress.start_of_serializable hserializable, h, bind, Except.bind]

/-- When the pre-processors agree, a failure is passed on. -/
theorem verdict_of_error
    (hpre : manager.plan.invokeAuthenticationPreProcessors transaction = .ok true)
    {failure : TransactionFailure ν}
    (h : manager.internalVerdict clock transaction = .error failure) :
    manager.verdict clock transaction = .error failure := by
  unfold verdict
  simp only [hpre, h, bind, Except.bind]

/-- When the processors agree and change nothing, an authentication with a principal is
passed on. -/
theorem verdict_of_ok
    (hpre : manager.plan.invokeAuthenticationPreProcessors transaction = .ok true)
    {builder : Authentication ν}
    (hpost : manager.plan.invokeAuthenticationPostProcessors builder transaction = .ok builder)
    (hprincipal : builder.principal ≠ none)
    (h : manager.internalVerdict clock transaction = .ok builder) :
    manager.verdict clock transaction = .ok builder := by
  have hpresent : builder.principal.isNone = false :=
    Option.isNone_eq_false_iff.mpr (Option.isSome_iff_ne_none.mpr hprincipal)
  unfold verdict
  simp only [hpre, h, bind, Except.bind]
  unfold finish
  simp only [hpost, hpresent, Bool.false_eq_true, if_false]

end Ends

/-- Under any handlers, resolvers, policies and processors, a transaction that ends in an
authentication had a handler of the plan accept one of its credentials, all of which can
be serialized; what the
policies agreed to and the post-processors were given records exactly results and
exceptions of handlers asked about these credentials, and its principal, if any, is one
that such a result led to. -/
theorem authentication_is_earned (hdecides : manager.plan.DecidesByContents) {s s' : Store ν}
    {transaction : AuthenticationTransaction (Ref (CustomCredential ν))}
    (hlive : transaction.LiveIn s) {authentication : Authentication ν}
    (h : (manager.authenticate clock transaction).exec s = (.ok authentication, s')) :
    (∀ contents ∈ (transaction.contents s).credentials, contents.isSerializable = true) ∧
    ∃ handlers builder,
      manager.plan.getAuthenticationHandlersForTransaction (transaction.contents s) =
        .ok handlers ∧
      Genuine handlers (transaction.contents s).credentials builder ∧
      builder.successes.entries ≠ [] ∧
      manager.plan.evaluateAuthenticationPolicies builder (transaction.contents s) handlers = [] ∧
      manager.plan.invokeAuthenticationPostProcessors builder (transaction.contents s) =
        .ok authentication ∧
      authentication.principal ≠ none := by
  have hverdict : manager.verdict clock (transaction.contents s) = .ok authentication := by
    have hrefines := (manager.authenticate_refines clock hdecides hlive).1
    rw [h] at hrefines
    exact hrefines.symm
  obtain ⟨builder, hbuilder, hprocessed, hprincipal⟩ := verdict_eq_ok hverdict
  obtain ⟨hserializable, handlers, hhandlers, hoffered, hsome, hconsent⟩ :=
    internalVerdict_eq_ok hbuilder
  refine ⟨hserializable, handlers, builder, hhandlers, ?_, hsome, hconsent, hprocessed,
    hprincipal⟩
  rw [hoffered]
  exact offerAll_of_step
    (P := fun p => Genuine handlers (transaction.contents s).credentials p.builder)
    (fun _ _ hasked _ hgenuine => genuine_concludeAttempt hasked hgenuine)
    (genuine_opened handlers _)

theorem authentication_is_earned_alice :
    ∃ authentication handlers builder,
      (customManager onlyAlice).plan.getAuthenticationHandlersForTransaction
        (oneCredential.contents (freshStore (submitted "alice" "secret"))) = .ok handlers ∧
      Genuine handlers [submitted "alice" "secret"] builder ∧
      (customManager onlyAlice).plan.invokeAuthenticationPostProcessors builder
        (oneCredential.contents (freshStore (submitted "alice" "secret"))) =
          .ok authentication := by
  have hrun : ∃ authentication s', ((customManager onlyAlice).authenticate (fun _ => 0)
      oneCredential).exec (freshStore (submitted "alice" "secret")) =
        (.ok authentication, s') := ⟨_, _, rfl⟩
  obtain ⟨authentication, s', hrun⟩ := hrun
  have hearned := authentication_is_earned (decidesByContents_customManager onlyAlice)
    (oneCredential_liveIn _) hrun
  obtain ⟨_, handlers, builder, hhandlers, hgenuine, _, _, hprocessed, _⟩ := hearned
  exact ⟨authentication, handlers, builder, hhandlers, hgenuine, hprocessed⟩

end AuthenticationManager

end LemonCas.Authentication
