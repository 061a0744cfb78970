import LemonCas.Authentication.Deployed
import LemonCas.Foundation.Ordered
set_option autoImplicit false
set_option linter.dupNamespace false

/-!
# Authentication: the execution plan

CAS collects handlers, policies and processors in an execution plan, and the manager
asks the plan which handlers are to try a transaction.  Handlers are kept by object
and tried in the order of their order numbers.  Resolvers narrow the choice: one by
the source a user picked in the login form, one by the handlers a service requires.
What several resolvers choose is put together, and when they choose nothing at all
every handler is tried.

The plan is that of `DefaultAuthenticationEventExecutionPlan`; what
`CustomAuthenticationEventExecutionPlanConfiguration` adds to it is at the end.  A
credential of a transaction is a reference; what resolvers, policies and processors
see of it are its contents.
-/

namespace LemonCas.Authentication

open LemonCas.Foundation
open LemonCas.Java
open LemonCas.Credential
open LemonCas.Service

/-! ## Transactions and authentications -/

/-- `org.apereo.cas.services.RegisteredService`: whether single sign-on may be used for
it, and the names of the handlers it requires. -/
structure RegisteredService where
  accessAllowed : Bool
  requiredHandlers : List String
  deriving DecidableEq, Repr

/-- `org.apereo.cas.authentication.AuthenticationTransaction`.  There may be no service,
and none may be registered for the service there is. -/
structure AuthenticationTransaction (κ : Type) where
  service : Option (Option RegisteredService)
  credentials : List κ

/-- What handlers returned, under their names. -/
abbrev Successes (ν : Type) : Type := Keyed (Prod.fst : String × HandlerResult ν → String)

/-- What was thrown, mostly under the names of handlers. -/
abbrev Failures : Type := Keyed (Prod.fst : String × Throwable → String)

/-- `org.apereo.cas.authentication.Authentication`; without a principal, it has the
`NullPrincipal`. -/
structure Authentication (ν : Type) where
  credentials : List (BasicCredentialMetaData ν)
  principal : Option (Principal ν)
  successes : Successes ν
  failures : Failures

/-- `org.apereo.cas.authentication.AuthenticationException`, and its subclass for an
authentication that has no principal. -/
structure AuthenticationException (ν : Type) where
  className : String
  message : String
  handlerErrors : Failures
  handlerSuccesses : Successes ν

/-- What a transaction can end in without an authentication. -/
inductive TransactionFailure (ν : Type) where
  | authentication (exception : AuthenticationException ν)
  | other (throwable : Throwable)

variable {ν σ : Type}

/-- `new AuthenticationException(message)`. -/
def AuthenticationException.ofMessage (message : String) : AuthenticationException ν :=
  ⟨"org.apereo.cas.authentication.AuthenticationException", message, .empty, .empty⟩

/-- `new AuthenticationException(handlerErrors, handlerSuccesses)`. -/
def AuthenticationException.ofOutcomes (handlerErrors : Failures)
    (handlerSuccesses : Successes ν) : AuthenticationException ν :=
  ⟨"org.apereo.cas.authentication.AuthenticationException",
    toString handlerErrors.entries.length ++ " errors, " ++
      toString handlerSuccesses.entries.length ++ " successes",
    handlerErrors, handlerSuccesses⟩

/-- `new UnresolvedPrincipalException(authentication)`. -/
def unresolvedPrincipalException (authentication : Authentication ν) :
    AuthenticationException ν :=
  ⟨"org.apereo.cas.authentication.exceptions.UnresolvedPrincipalException",
    "No resolver produced a principal.", authentication.failures, authentication.successes⟩

/-- What a selection can ask of a credential with the given contents. -/
def viewOf (contents : CredentialValue ν) : CredentialView := ⟨customCredential, contents.getId⟩

/-- A transaction with the contents of its credentials. -/
def AuthenticationTransaction.contents
    (transaction : AuthenticationTransaction (Ref (CustomCredential ν))) (s : Store ν) :
    AuthenticationTransaction (CredentialValue ν) :=
  ⟨transaction.service, transaction.credentials.filterMap s.deref⟩

/-! ## The parts of a plan -/

/-- `org.apereo.cas.authentication.AuthenticationHandler`. -/
structure AuthenticationHandler (ν : Type) where
  /-- which object it is -/
  identity : ℕ
  name : String
  order : ℤ
  /-- it is an `HttpBasedServiceCredentialsAuthenticationHandler` -/
  httpBased : Bool
  supportsClass : JavaClass → Bool
  supports : CredentialView → Bool
  authenticate : Ref (CustomCredential ν) → Method ν (HandlerResult ν)

/-- `org.apereo.cas.authentication.principal.PrincipalResolver`: what it makes of a
credential, the principal of a handler and the handler's name. -/
structure PrincipalResolver (ν : Type) where
  supports : CredentialView → Bool
  resolve : CredentialValue ν → Principal ν → String → Except Throwable (Option (Principal ν))

/-- A handler of a plan, with the resolver registered for it. -/
structure RegisteredHandler (ν : Type) extends AuthenticationHandler ν where
  principalResolver : Option (PrincipalResolver ν)

/-- The object a registered handler is. -/
def RegisteredHandler.object (handler : RegisteredHandler ν) : ℕ := handler.identity

/-- `org.apereo.cas.authentication.AuthenticationHandlerResolver`. -/
structure AuthenticationHandlerResolver (ν : Type) where
  order : ℤ
  supports : List (RegisteredHandler ν) → AuthenticationTransaction (CredentialValue ν) →
    Except Throwable Bool
  resolve : List (RegisteredHandler ν) → AuthenticationTransaction (CredentialValue ν) →
    List (RegisteredHandler ν)
  /-- it chooses among the candidates -/
  chooses : ∀ candidates transaction, resolve candidates transaction ⊆ candidates

/-- `org.apereo.cas.authentication.AuthenticationPolicy`; when it throws, what is thrown
here is what the manager records. -/
structure AuthenticationPolicy (ν : Type) where
  simpleName : String
  order : ℤ
  isSatisfiedBy : Authentication ν → List (RegisteredHandler ν) → Except Throwable Bool

/-- `org.apereo.cas.authentication.AuthenticationPreProcessor`. -/
structure AuthenticationPreProcessor (ν : Type) where
  order : ℤ
  supports : CredentialView → Bool
  process : AuthenticationTransaction (CredentialValue ν) →
    Except (AuthenticationException ν) Bool

/-- `org.apereo.cas.authentication.AuthenticationPostProcessor`: it may change the
authentication under construction. -/
structure AuthenticationPostProcessor (ν : Type) where
  order : ℤ
  supports : CredentialView → Bool
  process : Authentication ν → AuthenticationTransaction (CredentialValue ν) →
    Except (AuthenticationException ν) (Authentication ν)

/-- `org.apereo.cas.authentication.DefaultAuthenticationEventExecutionPlan`. -/
structure AuthenticationEventExecutionPlan (ν : Type) where
  handlers : Keyed (@RegisteredHandler.object ν)
  handlerResolvers : List (AuthenticationHandlerResolver ν)
  policies : List (AuthenticationPolicy ν)
  preProcessors : List (AuthenticationPreProcessor ν)
  postProcessors : List (AuthenticationPostProcessor ν)

/-! ## Resolvers of handlers -/

/-- `ByCredentialSourceAuthenticationHandlerResolver`: the handlers that say they take
the class of the parent of the credential, and whose name the user picked. -/
def byCredentialSourceAuthenticationHandlerResolver : AuthenticationHandlerResolver ν where
  order := -2147483648
  supports _ transaction :=
    .ok (transaction.credentials.any fun contents =>
      usernamePasswordCredential.isAssignableFrom (viewOf contents).javaClass)
  resolve candidates transaction :=
    (candidates.filter fun handler => handler.supportsClass usernamePasswordCredential).filter
      fun handler => transaction.credentials.any fun contents =>
        isNotBlank contents.source && equalsIgnoreCase (contents.source.getD "") handler.name
  chooses _ _ _ hchosen := (List.mem_filter.mp (List.mem_filter.mp hchosen).1).1

/-- `RegisteredServiceAuthenticationHandlerResolver`: the handlers the service requires,
when it requires any. -/
def registeredServiceAuthenticationHandlerResolver : AuthenticationHandlerResolver ν where
  order := -2147483648
  supports _ transaction :=
    match transaction.service with
    | none => .ok false
    | some none =>
        .error (.raised "org.apereo.cas.services.UnauthorizedSsoServiceException"
          (some "service.not.authorized.sso"))
    | some (some service) =>
        if service.accessAllowed then .ok !service.requiredHandlers.isEmpty
        else
          .error (.raised "org.apereo.cas.services.UnauthorizedSsoServiceException"
            (some "service.not.authorized.sso"))
  resolve candidates transaction :=
    match transaction.service with
    | some (some service) =>
        candidates.filter fun handler =>
          handler.httpBased || decide (handler.name ∈ service.requiredHandlers)
    | _ => candidates
  chooses candidates transaction handler hchosen := by
    split at hchosen
    · exact (List.mem_filter.mp hchosen).1
    · exact hchosen

/-- The resolvers CAS registers: the one by source, when the users may pick one, and
the one by service. -/
def coreHandlerResolvers (sourceSelectionEnabled : Bool) : List (AuthenticationHandlerResolver ν) :=
  (if sourceSelectionEnabled then [byCredentialSourceAuthenticationHandlerResolver] else []) ++
    [registeredServiceAuthenticationHandlerResolver]

namespace AuthenticationEventExecutionPlan

/-- `registerAuthenticationHandlerWithPrincipalResolver`. -/
def registerAuthenticationHandlerWithPrincipalResolver
    (plan : AuthenticationEventExecutionPlan ν) (handler : AuthenticationHandler ν)
    (principalResolver : Option (PrincipalResolver ν)) : AuthenticationEventExecutionPlan ν :=
  { plan with handlers := plan.handlers.put { handler with principalResolver } }

/-- `registerAuthenticationHandler`. -/
def registerAuthenticationHandler (plan : AuthenticationEventExecutionPlan ν)
    (handler : AuthenticationHandler ν) : AuthenticationEventExecutionPlan ν :=
  plan.registerAuthenticationHandlerWithPrincipalResolver handler none

/-- `registerAuthenticationPreProcessor`. -/
def registerAuthenticationPreProcessor (plan : AuthenticationEventExecutionPlan ν)
    (processor : AuthenticationPreProcessor ν) : AuthenticationEventExecutionPlan ν :=
  { plan with preProcessors := plan.preProcessors ++ [processor] }

/-- `registerAuthenticationPostProcessor`. -/
def registerAuthenticationPostProcessor (plan : AuthenticationEventExecutionPlan ν)
    (processor : AuthenticationPostProcessor ν) : AuthenticationEventExecutionPlan ν :=
  { plan with postProcessors := plan.postProcessors ++ [processor] }

/-- `getAuthenticationHandlers`. -/
def getAuthenticationHandlers (plan : AuthenticationEventExecutionPlan ν) :
    List (RegisteredHandler ν) :=
  sortByOrder (fun handler => handler.order) plan.handlers.entries

/-- What the resolvers choose together: each handler once, in the order in which it was
chosen first. -/
def resolveHandlers (plan : AuthenticationEventExecutionPlan ν)
    (transaction : AuthenticationTransaction (CredentialValue ν)) :
    Except Throwable (List (RegisteredHandler ν)) := do
  let candidates := plan.getAuthenticationHandlers
  let resolvers ← (sortByOrder (fun resolver => resolver.order) plan.handlerResolvers).filterM
    fun resolver => resolver.supports candidates transaction
  let resolved := (Keyed.empty : Keyed (@RegisteredHandler.object ν)).addAll
    (resolvers.flatMap fun resolver => resolver.resolve candidates transaction)
  return resolved.entries

/-- `getAuthenticationHandlersForTransaction`. -/
def getAuthenticationHandlersForTransaction (plan : AuthenticationEventExecutionPlan ν)
    (transaction : AuthenticationTransaction (CredentialValue ν)) :
    Except (TransactionFailure ν) (List (RegisteredHandler ν)) :=
  match plan.resolveHandlers transaction with
  | .error e => .error (.other e)
  | .ok resolved =>
      let handlers := if resolved.isEmpty then plan.getAuthenticationHandlers else resolved
      if handlers.isEmpty then
        .error (.authentication (.ofMessage
          "No authentication handlers could be resolved to support the authentication transaction"))
      else .ok handlers

end AuthenticationEventExecutionPlan

/-! ## What the repository registers -/

/-- The custom handler in a plan: it is not asked anything before `doAuthentication`, and
what that returns is the result. -/
def CustomAuthenticationHandler.toAuthenticationHandler
    (handler : CustomAuthenticationHandler ν σ) (identity : ℕ)
    (salt : Ref (CustomCredential ν) → σ) : AuthenticationHandler ν where
  identity := identity
  name := handler.name
  order := handler.order
  httpBased := false
  supportsClass := handler.supports
  supports := handler.supportsCredential
  authenticate credential := handler.doAuthentication (salt credential) credential

/-- `com.lemon.cas.authentication.CustomAuthenticationPreProcessor`. -/
def customAuthenticationPreProcessor : AuthenticationPreProcessor ν where
  order := 0
  supports credential := customCredential.isAssignableFrom credential.javaClass
  process _ := .ok true

/-- `com.lemon.cas.authentication.CustomAuthenticationPostProcessor`. -/
def customAuthenticationPostProcessor : AuthenticationPostProcessor ν where
  order := 0
  supports credential := customCredential.isAssignableFrom credential.javaClass
  process authentication _ := .ok authentication

/-- The plan with a handler of the repository and the two processors. -/
def AuthenticationEventExecutionPlan.withCustomHandler
    (plan : AuthenticationEventExecutionPlan ν) (identity : ℕ)
    (handler : CustomAuthenticationHandler ν Unit) : AuthenticationEventExecutionPlan ν :=
  ((plan.registerAuthenticationHandler
    (handler.toAuthenticationHandler identity fun _ => ())).registerAuthenticationPreProcessor
      customAuthenticationPreProcessor).registerAuthenticationPostProcessor
        customAuthenticationPostProcessor

/-- `CustomAuthenticationEventExecutionPlanConfiguration.configureAuthenticationExecutionPlan`;
the bean it registers is a new object. -/
def configureAuthenticationExecutionPlan (noOp : NoOpPasswordEncoder) (querUserSql : JString)
    (jdbcTemplate : JdbcTemplate) (identity : ℕ) (plan : AuthenticationEventExecutionPlan ν) :
    Except Throwable (AuthenticationEventExecutionPlan ν) := do
  let handler ← customAuthenticationHandler noOp querUserSql jdbcTemplate
  return plan.withCustomHandler identity handler

end LemonCas.Authentication
