import LemonCas.Authentication.ExecutionPlan
set_option autoImplicit false

/-!
# Authentication: the manager

`PolicyBasedAuthenticationManager` runs a transaction.  It serializes the credentials
into their metadata before it asks for handlers.  Every credential is then offered to
the handlers of the plan in turn, until the policies are satisfied by what has been
recorded so far.  A handler that returns is recorded as a success before its principal
is resolved, a handler that throws is recorded as a failure, and at the end the policies
have the last word.

A credential is reached through the object store, so the methods are written on the
store; the builder of the authentication outlives what is thrown on the way.  The times
the clock gives, which the manager asks for when a failure has the name of a success,
are an argument of the transaction.
-/

namespace LemonCas.Authentication

open LemonCas.Foundation
open LemonCas.Java
open LemonCas.Credential
open LemonCas.Service

variable {ν : Type}

/-- `org.apereo.cas.authentication.PolicyBasedAuthenticationManager`. -/
structure AuthenticationManager (ν : Type) where
  plan : AuthenticationEventExecutionPlan ν
  principalResolutionFailureFatal : Bool

/-! ## The builder -/

/-- The builder of an authentication, and how often the clock was asked. -/
structure Progress (ν : Type) where
  builder : Authentication ν
  clockReads : ℕ

namespace Progress

/-- `new DefaultAuthenticationBuilder(NullPrincipal)`, with `addCredential` of the metadata
of each credential.  The metadata of one that cannot be serialized is not made, and that
ends the transaction. -/
def start (credentials : List (CredentialValue ν)) :
    Except (TransactionFailure ν) (Progress ν) :=
  match credentials.mapM metaDataOf with
  | .error e => .error (.other e)
  | .ok metaData => .ok ⟨⟨metaData, none, .empty, .empty⟩, 0⟩

/-- `addSuccess`. -/
def addSuccess (p : Progress ν) (key : String) (result : HandlerResult ν) : Progress ν :=
  { p with builder := { p.builder with successes := p.builder.successes.put (key, result) } }

/-- `setPrincipal`. -/
def setPrincipal (p : Progress ν) (principal : Principal ν) : Progress ν :=
  { p with builder := { p.builder with principal := some principal } }

/-- The failure is entered under the key. -/
def putFailure (p : Progress ν) (key : String) (e : Throwable) : Progress ν :=
  { p with builder := { p.builder with failures := p.builder.failures.put (key, e) } }

/-- `addFailure`: a key that is taken by a success is made another by the time. -/
def addFailure (clock : ℕ → ℕ) (p : Progress ν) (key : String) (e : Throwable) : Progress ν :=
  if key ∈ p.builder.successes.keys then
    { p.putFailure (key ++ toString (clock p.clockReads)) e with clockReads := p.clockReads + 1 }
  else p.putFailure key e

end Progress

/-! ## Policies -/

/-- `AtLeastOneCredentialValidatedAuthenticationPolicy`. -/
def atLeastOneCredentialValidatedAuthenticationPolicy (tryAll : Bool) : AuthenticationPolicy ν where
  simpleName := "AtLeastOneCredentialValidatedAuthenticationPolicy"
  order := 2147483647
  isSatisfiedBy authentication handlers :=
    if tryAll then
      .ok (handlers.length ==
        authentication.successes.entries.length + authentication.failures.entries.length)
    else .ok !authentication.successes.entries.isEmpty

/-- What a policy gives the manager to record. -/
def AuthenticationPolicy.failure? (policy : AuthenticationPolicy ν)
    (authentication : Authentication ν) (handlers : List (RegisteredHandler ν)) :
    Option Throwable :=
  match policy.isSatisfiedBy authentication handlers with
  | .error e => some e
  | .ok true => none
  | .ok false =>
      some (.raised "org.apereo.cas.authentication.AuthenticationException"
        (some ("Unable to satisfy authentication policy " ++ policy.simpleName)))

/-- `evaluateAuthenticationPolicies`: the failures of all policies. -/
def AuthenticationEventExecutionPlan.evaluateAuthenticationPolicies
    (plan : AuthenticationEventExecutionPlan ν) (authentication : Authentication ν)
    (transaction : AuthenticationTransaction (CredentialValue ν))
    (handlers : List (RegisteredHandler ν)) : List Throwable :=
  let supportingHandlers := handlers.filter fun handler =>
    transaction.credentials.any fun contents => handler.supports (viewOf contents)
  (sortByOrder (fun policy => policy.order) plan.policies).filterMap fun policy =>
    policy.failure? authentication supportingHandlers

/-! ## Processors -/

/-- The loop over the pre-processors: it goes on while they agree. -/
def runPreProcessors (transaction : AuthenticationTransaction (CredentialValue ν)) :
    List (AuthenticationPreProcessor ν) → Except (AuthenticationException ν) Bool
  | [] => .ok true
  | processor :: rest => do
      if ← processor.process transaction then runPreProcessors transaction rest
      else return false

/-- `invokeAuthenticationPreProcessors`. -/
def AuthenticationEventExecutionPlan.invokeAuthenticationPreProcessors
    (plan : AuthenticationEventExecutionPlan ν)
    (transaction : AuthenticationTransaction (CredentialValue ν)) :
    Except (AuthenticationException ν) Bool :=
  runPreProcessors transaction
    ((sortByOrder (fun processor => processor.order) plan.preProcessors).filter fun processor =>
      transaction.credentials.any fun contents => processor.supports (viewOf contents))

/-- The loop over the post-processors. -/
def runPostProcessors (transaction : AuthenticationTransaction (CredentialValue ν)) :
    List (AuthenticationPostProcessor ν) → Authentication ν →
      Except (AuthenticationException ν) (Authentication ν)
  | [], authentication => .ok authentication
  | processor :: rest, authentication => do
      let processed ← processor.process authentication transaction
      runPostProcessors transaction rest processed

/-- `invokeAuthenticationPostProcessors`. -/
def AuthenticationEventExecutionPlan.invokeAuthenticationPostProcessors
    (plan : AuthenticationEventExecutionPlan ν) (authentication : Authentication ν)
    (transaction : AuthenticationTransaction (CredentialValue ν)) :
    Except (AuthenticationException ν) (Authentication ν) :=
  runPostProcessors transaction
    ((sortByOrder (fun processor => processor.order) plan.postProcessors).filter fun processor =>
      transaction.credentials.any fun contents => processor.supports (viewOf contents))
    authentication

/-! ## Trying a handler -/

/-- `resolvePrincipal`: a resolver that throws gives no principal. -/
def PrincipalResolver.principalOf (resolver : PrincipalResolver ν)
    (contents : CredentialValue ν) (principal : Principal ν) (handlerName : String) :
    Option (Principal ν) :=
  if resolver.supports (viewOf contents) then
    match resolver.resolve contents principal handlerName with
    | .ok resolved => resolved
    | .error _ => none
  else none

/-- The principal a handler's result leads to. -/
def RegisteredHandler.principalOf (handler : RegisteredHandler ν) (contents : CredentialValue ν)
    (result : HandlerResult ν) : Option (Principal ν) :=
  match handler.principalResolver with
  | none => some result.principal
  | some resolver => resolver.principalOf contents result.principal handler.name

/-- `new UnresolvedPrincipalException()`. -/
def noPrincipalResolved : Throwable :=
  .raised "org.apereo.cas.authentication.exceptions.UnresolvedPrincipalException"
    (some "No resolver produced a principal.")

namespace AuthenticationManager

/-- What `authenticateAndResolvePrincipal` does with a result: the success is recorded
first, and stays when there is no principal. -/
def recordResult (manager : AuthenticationManager ν) (handler : RegisteredHandler ν)
    (contents : CredentialValue ν) (result : HandlerResult ν) :
    Program (Progress ν) Throwable Unit := fun p =>
  let recorded := p.addSuccess handler.name result
  match handler.principalOf contents result with
  | some principal => (.ok (), recorded.setPrincipal principal)
  | none =>
      if manager.principalResolutionFailureFatal then (.error noPrincipalResolved, recorded)
      else (.ok (), recorded)

/-- The end of a turn of the loop over the handlers: whether it goes on, and what has
been recorded. -/
def concludeAttempt (manager : AuthenticationManager ν) (clock : ℕ → ℕ)
    (transaction : AuthenticationTransaction (CredentialValue ν))
    (handlers : List (RegisteredHandler ν)) (handler : RegisteredHandler ν) :
    Except Throwable Unit × Progress ν → Bool × Progress ν
  | (.ok _, p) =>
      (!(manager.plan.evaluateAuthenticationPolicies p.builder transaction handlers).isEmpty, p)
  | (.error e, p) => (true, p.addFailure clock handler.name e)

/-- `evaluateFinalAuthentication`. -/
def evaluateFinalAuthentication (manager : AuthenticationManager ν) (clock : ℕ → ℕ)
    (transaction : AuthenticationTransaction (CredentialValue ν))
    (handlers : List (RegisteredHandler ν)) (p : Progress ν) :
    Except (TransactionFailure ν) (Authentication ν) :=
  if p.builder.successes.entries.isEmpty then
    .error (.authentication (.ofOutcomes p.builder.failures p.builder.successes))
  else
    match manager.plan.evaluateAuthenticationPolicies p.builder transaction handlers with
    | [] => .ok p.builder
    | failures =>
        let failed :=
          failures.foldl (fun p e => p.addFailure clock (simpleName e.className) e) p
        .error (.authentication (.ofOutcomes failed.builder.failures failed.builder.successes))

/-! ## The methods on the store -/

/-- The object store and the progress of a transaction. -/
structure TransactionState (ν : Type) where
  store : Store ν
  progress : Progress ν

/-- What a method of a handler does to the store. -/
def onStore {α : Type} (m : Method ν α) : Program (TransactionState ν) Throwable α := fun s =>
  let (x, store) := m.exec s.store
  (x, { s with store })

/-- What is done to the builder. -/
def onProgress {α : Type} (m : Program (Progress ν) Throwable α) :
    Program (TransactionState ν) Throwable α := fun s =>
  let (x, progress) := m.exec s.progress
  (x, { s with progress })

/-- `authenticateAndResolvePrincipal`. -/
def authenticateAndResolvePrincipal (manager : AuthenticationManager ν)
    (credential : Ref (CustomCredential ν)) (handler : RegisteredHandler ν) :
    Program (TransactionState ν) Throwable Unit := do
  let result ← onStore (handler.authenticate credential)
  let contents ←
    onStore (Program.getOrThrow (fun s => s.deref credential) (.nullPointerException none))
  onProgress (manager.recordResult handler contents result)

/-- `handler.supports(credential)`; the references of a transaction point to objects. -/
def supportsAt (s : Store ν) (credential : Ref (CustomCredential ν))
    (handler : RegisteredHandler ν) : Bool :=
  match s.deref credential with
  | some contents => handler.supports (viewOf contents)
  | none => false

/-- The loop over the handlers, for one credential. -/
def tryHandlers (manager : AuthenticationManager ν) (clock : ℕ → ℕ)
    (transaction : AuthenticationTransaction (Ref (CustomCredential ν)))
    (handlers : List (RegisteredHandler ν)) (credential : Ref (CustomCredential ν)) :
    List (RegisteredHandler ν) → TransactionState ν → TransactionState ν
  | [], s => s
  | handler :: rest, s =>
      if supportsAt s.store credential handler then
        let (x, s₁) := (manager.authenticateAndResolvePrincipal credential handler).exec s
        let (proceed, progress) := manager.concludeAttempt clock
          (transaction.contents s₁.store) handlers handler (x, s₁.progress)
        if proceed then manager.tryHandlers clock transaction handlers credential rest
          { s₁ with progress }
        else { s₁ with progress }
      else manager.tryHandlers clock transaction handlers credential rest s

/-- The loop over the credentials. -/
def tryCredentials (manager : AuthenticationManager ν) (clock : ℕ → ℕ)
    (transaction : AuthenticationTransaction (Ref (CustomCredential ν)))
    (handlers : List (RegisteredHandler ν)) :
    List (Ref (CustomCredential ν)) → TransactionState ν → TransactionState ν
  | [], s => s
  | credential :: rest, s =>
      manager.tryCredentials clock transaction handlers rest
        (manager.tryHandlers clock transaction handlers credential handlers s)

/-- `authenticateInternal`. -/
def authenticateInternal (manager : AuthenticationManager ν) (clock : ℕ → ℕ)
    (transaction : AuthenticationTransaction (Ref (CustomCredential ν))) :
    Program (Store ν) (TransactionFailure ν) (Authentication ν) := fun s =>
  if transaction.credentials.isEmpty then
    (.error (.authentication (.ofMessage "Resolved credentials for this transaction are empty")), s)
  else
    match Progress.start (transaction.contents s).credentials with
    | .error failure => (.error failure, s)
    | .ok progress =>
        match manager.plan.getAuthenticationHandlersForTransaction (transaction.contents s) with
        | .error failure => (.error failure, s)
        | .ok handlers =>
            if handlers.isEmpty then (.error (.authentication (.ofOutcomes .empty .empty)), s)
            else
              let reached := manager.tryCredentials clock transaction handlers
                transaction.credentials ⟨s, progress⟩
              (manager.evaluateFinalAuthentication clock (transaction.contents reached.store)
                handlers reached.progress, reached.store)

/-- The contents of the credentials of a transaction, at this moment. -/
def contentsNow (transaction : AuthenticationTransaction (Ref (CustomCredential ν))) :
    Program (Store ν) (TransactionFailure ν) (AuthenticationTransaction (CredentialValue ν)) :=
  Program.update fun s => (transaction.contents s, s)

/-- What an `AuthenticationException` does to a transaction. -/
def rethrow {α : Type} (x : Except (AuthenticationException ν) α) :
    Program (Store ν) (TransactionFailure ν) α :=
  Program.ofExcept (x.mapError .authentication)

/-- `PolicyBasedAuthenticationManager.authenticate`. -/
def authenticate (manager : AuthenticationManager ν) (clock : ℕ → ℕ)
    (transaction : AuthenticationTransaction (Ref (CustomCredential ν))) :
    Program (Store ν) (TransactionFailure ν) (Authentication ν) := do
  let contents ← contentsNow transaction
  let proceed ← rethrow (manager.plan.invokeAuthenticationPreProcessors contents)
  Program.throwIf (!proceed)
    (.authentication (.ofMessage "Authentication pre-processor has failed to process transaction"))
  let builder ← manager.authenticateInternal clock transaction
  let contents ← contentsNow transaction
  let authentication ← rethrow (manager.plan.invokeAuthenticationPostProcessors builder contents)
  Program.throwIf authentication.principal.isNone
    (.authentication (unresolvedPrincipalException authentication))
  return authentication

end AuthenticationManager

end LemonCas.Authentication
