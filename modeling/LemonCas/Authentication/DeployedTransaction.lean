import LemonCas.Authentication.FirstSuccess
import LemonCas.Authentication.Processors
set_option autoImplicit false

/-!
# Authentication: transactions of the deployed plan

CAS prepares a plan with its resolvers, its policy and handlers for other kinds of
credentials; the configuration of the repository adds the custom handler and the two
processors.  Of a login with one credential this module says when the custom handler is
among the handlers to try, which the source picked in the form and the handlers a service
requires can prevent, and that the transaction then ends as the handler decides.
-/

namespace LemonCas.Authentication

open LemonCas.Foundation
open LemonCas.Java
open LemonCas.Credential
open LemonCas.Service
open CustomAuthenticationHandler

variable {ν : Type}

/-! ## Deployments -/

/-- A plan as CAS prepares it: its own resolvers and policy, no processors, and handlers
that do not take the credentials of the login form. -/
structure CorePlan (ν : Type) where
  plan : AuthenticationEventExecutionPlan ν
  sourceSelectionEnabled : Bool
  handlerResolvers : plan.handlerResolvers = coreHandlerResolvers sourceSelectionEnabled
  policies : plan.policies = [atLeastOneCredentialValidatedAuthenticationPolicy false]
  preProcessors : plan.preProcessors = []
  postProcessors : plan.postProcessors = []
  others : ∀ handler ∈ plan.handlers.entries, ¬handler.TakesCredentials

/-- Such a plan, with what the configuration of the repository is given: the encoder that
does nothing, a query, and a handler that is a new object. -/
structure Deployment (ν : Type) where
  core : CorePlan ν
  noOp : NoOpPasswordEncoder
  querUserSql : JString
  jdbcTemplate : JdbcTemplate
  identity : ℕ
  principalResolutionFailureFatal : Bool
  hasQuery : isBlank querUserSql = false
  newObject : identity ∉ core.plan.handlers.keys

/-- The name of the custom handler. -/
def customHandlerName : String := "com.lemon.cas.authentication.CustomAuthenticationHandler"

namespace Deployment

/-- The custom handler. -/
def handler (d : Deployment ν) : CustomAuthenticationHandler ν Unit :=
  assembleHandler d.noOp d.querUserSql d.jdbcTemplate

/-- The custom handler as it is registered. -/
def registered (d : Deployment ν) : RegisteredHandler ν :=
  { d.handler.toAuthenticationHandler d.identity fun _ => () with principalResolver := none }

/-- The plan after the configuration. -/
def plan (d : Deployment ν) : AuthenticationEventExecutionPlan ν :=
  d.core.plan.withCustomHandler d.identity d.handler

/-- The manager of that plan. -/
def manager (d : Deployment ν) : AuthenticationManager ν :=
  ⟨d.plan, d.principalResolutionFailureFatal⟩

/-- It is the plan `configureAuthenticationExecutionPlan` leaves. -/
theorem configureAuthenticationExecutionPlan_eq (d : Deployment ν) :
    configureAuthenticationExecutionPlan d.noOp d.querUserSql d.jdbcTemplate d.identity
      d.core.plan = .ok d.plan := by
  have hhandler : customAuthenticationHandler (ν := ν) d.noOp d.querUserSql d.jdbcTemplate =
      .ok d.handler := customAuthenticationHandler_eq_ok_iff.mpr ⟨d.hasQuery, rfl⟩
  unfold configureAuthenticationExecutionPlan
  rw [hhandler]
  rfl

/-! ## The custom handler in the plan -/

theorem supports_registered (d : Deployment ν) (contents : CredentialValue ν) :
    d.registered.supports (viewOf contents) = true := by
  rfl

theorem name_registered (d : Deployment ν) : d.registered.name = customHandlerName := rfl

theorem handlerResolvers_plan (d : Deployment ν) :
    d.plan.handlerResolvers = coreHandlerResolvers d.core.sourceSelectionEnabled :=
  d.core.handlerResolvers

/-- It does not take the class the selection by source asks for. -/
theorem supportsClass_registered (d : Deployment ν) :
    d.registered.supportsClass usernamePasswordCredential = false := by
  rfl

variable {d : Deployment ν}

theorem mem_handlers_plan {handler : RegisteredHandler ν} :
    handler ∈ d.plan.handlers.entries ↔
      handler ∈ d.core.plan.handlers.entries ∨ handler = d.registered := by
  have hentries : d.plan.handlers.entries = d.core.plan.handlers.entries ++ [d.registered] :=
    Keyed.entries_put_of_not_mem d.newObject
  rw [hentries, List.mem_append, List.mem_singleton]

/-- It is the only handler that takes credentials of the login form. -/
theorem supports_iff {handler : RegisteredHandler ν} (hmem : handler ∈ d.plan.handlers.entries)
    (contents : CredentialValue ν) :
    handler.supports (viewOf contents) = true ↔ handler = d.registered := by
  constructor
  · intro hsupports
    exact (mem_handlers_plan.mp hmem).resolve_left fun hother =>
      d.core.others handler hother ⟨contents, hsupports⟩
  · intro heq
    rw [heq]
    exact d.supports_registered contents

theorem anySuccess (d : Deployment ν) : d.plan.AnySuccess where
  policies := d.core.policies
  noResolvers handler hmem htakes := by
    obtain ⟨contents, hsupports⟩ := htakes
    rw [(supports_iff hmem contents).mp hsupports]
    rfl

theorem decidesByContents (d : Deployment ν) : d.plan.DecidesByContents := by
  intro handler hmem htakes
  obtain ⟨contents, hsupports⟩ := htakes
  rw [(supports_iff hmem contents).mp hsupports]
  exact decidesByContents_toAuthenticationHandler _ d.identity ()

theorem invokeAuthenticationPreProcessors (d : Deployment ν)
    (transaction : AuthenticationTransaction (CredentialValue ν)) :
    d.plan.invokeAuthenticationPreProcessors transaction = .ok true := by
  have hcore : d.core.plan.invokeAuthenticationPreProcessors transaction = .ok true := by
    rw [AuthenticationEventExecutionPlan.invokeAuthenticationPreProcessors, d.core.preProcessors]
    rfl
  rw [← hcore]
  exact AuthenticationEventExecutionPlan.invokeAuthenticationPreProcessors_register d.core.plan
    transaction customAuthenticationPreProcessor rfl

theorem invokeAuthenticationPostProcessors (d : Deployment ν)
    (transaction : AuthenticationTransaction (CredentialValue ν)) (builder : Authentication ν) :
    d.plan.invokeAuthenticationPostProcessors builder transaction = .ok builder := by
  have hcore : d.core.plan.invokeAuthenticationPostProcessors builder transaction =
      .ok builder := by
    rw [AuthenticationEventExecutionPlan.invokeAuthenticationPostProcessors,
      d.core.postProcessors]
    rfl
  rw [← hcore]
  exact AuthenticationEventExecutionPlan.invokeAuthenticationPostProcessors_register d.core.plan
    transaction customAuthenticationPostProcessor (fun _ => rfl) builder

end Deployment

/-! ## What a login asks for -/

namespace AuthenticationTransaction

variable {κ : Type}

/-- Single sign-on may not be used for the service, or the service is not registered. -/
def AccessRefused (transaction : AuthenticationTransaction κ) : Prop :=
  match transaction.service with
  | none => False
  | some none => True
  | some (some service) => service.accessAllowed = false

/-- The service requires the handler of this name. -/
def Requires (transaction : AuthenticationTransaction κ) (name : String) : Prop :=
  match transaction.service with
  | some (some service) => name ∈ service.requiredHandlers
  | _ => False

/-- The service requires some handlers. -/
def requiresSome (transaction : AuthenticationTransaction κ) : Bool :=
  match transaction.service with
  | some (some service) => !service.requiredHandlers.isEmpty
  | _ => false

/-- The source of a credential names the handler. -/
def Picks (transaction : AuthenticationTransaction (CredentialValue ν)) (name : String) : Prop :=
  ∃ contents ∈ transaction.credentials, isNotBlank contents.source = true ∧
    equalsIgnoreCase (contents.source.getD "") name = true

theorem requiresSome_of_requires {transaction : AuthenticationTransaction κ} {name : String}
    (h : transaction.Requires name) : transaction.requiresSome = true := by
  obtain ⟨service, credentials⟩ := transaction
  match service with
  | none => exact absurd h id
  | some none => exact absurd h id
  | some (some service) =>
    have hname : name ∈ service.requiredHandlers := h
    have hsome : service.requiredHandlers ≠ [] := List.ne_nil_of_mem hname
    simpa [AuthenticationTransaction.requiresSome] using hsome

end AuthenticationTransaction

/-- What the service of a refused transaction makes of it. -/
def unauthorizedSsoServiceException : Throwable :=
  .raised "org.apereo.cas.services.UnauthorizedSsoServiceException"
    (some "service.not.authorized.sso")

/-! ## CAS's resolvers -/

section Resolvers

variable {transaction : AuthenticationTransaction (CredentialValue ν)}
  {candidates : List (RegisteredHandler ν)} {handler : RegisteredHandler ν}

theorem supports_byService (candidates : List (RegisteredHandler ν))
    (haccess : ¬transaction.AccessRefused) :
    registeredServiceAuthenticationHandlerResolver.supports candidates transaction =
      .ok transaction.requiresSome := by
  obtain ⟨service, credentials⟩ := transaction
  match service with
  | none => rfl
  | some none => exact absurd trivial haccess
  | some (some service) =>
    have hallowed : service.accessAllowed = true := Bool.eq_true_of_not_eq_false haccess
    simp [registeredServiceAuthenticationHandlerResolver, hallowed,
      AuthenticationTransaction.requiresSome]

theorem supports_byService_refused (candidates : List (RegisteredHandler ν))
    (hrefused : transaction.AccessRefused) :
    registeredServiceAuthenticationHandlerResolver.supports candidates transaction =
      .error unauthorizedSsoServiceException := by
  obtain ⟨service, credentials⟩ := transaction
  match service with
  | none => exact absurd hrefused id
  | some none => rfl
  | some (some service) =>
    have hallowed : service.accessAllowed = false := hrefused
    simp [registeredServiceAuthenticationHandlerResolver, hallowed,
      unauthorizedSsoServiceException]

theorem supports_bySource (candidates : List (RegisteredHandler ν))
    (hcredentials : transaction.credentials ≠ []) :
    byCredentialSourceAuthenticationHandlerResolver.supports candidates transaction =
      .ok true := by
  obtain ⟨contents, rest, hcons⟩ := List.exists_cons_of_ne_nil hcredentials
  simp only [byCredentialSourceAuthenticationHandlerResolver, hcons]
  rfl

theorem mem_resolve_bySource :
    handler ∈ byCredentialSourceAuthenticationHandlerResolver.resolve candidates transaction ↔
      handler ∈ candidates ∧ handler.supportsClass usernamePasswordCredential = true ∧
        transaction.Picks handler.name := by
  simp only [byCredentialSourceAuthenticationHandlerResolver, AuthenticationTransaction.Picks,
    List.mem_filter, List.any_eq_true, Bool.and_eq_true, and_assoc]

theorem mem_resolve_byService (hrequires : transaction.requiresSome = true) :
    handler ∈ registeredServiceAuthenticationHandlerResolver.resolve candidates transaction ↔
      handler ∈ candidates ∧
        (handler.httpBased = true ∨ transaction.Requires handler.name) := by
  obtain ⟨service, credentials⟩ := transaction
  match service with
  | none => cases hrequires
  | some none => cases hrequires
  | some (some service) =>
    simp [registeredServiceAuthenticationHandlerResolver, AuthenticationTransaction.Requires]

/-- What the two resolvers choose from the candidates, the second when the service
requires some handlers. -/
def chosen (sourceSelectionEnabled requiresSome : Bool)
    (transaction : AuthenticationTransaction (CredentialValue ν))
    (candidates : List (RegisteredHandler ν)) : List (RegisteredHandler ν) :=
  (if sourceSelectionEnabled then
    byCredentialSourceAuthenticationHandlerResolver.resolve candidates transaction else []) ++
  (if requiresSome then
    registeredServiceAuthenticationHandlerResolver.resolve candidates transaction else [])

/-- The resolvers choose a handler by the source, or for the service. -/
theorem mem_chosen_iff {sourceSelectionEnabled : Bool} :
    handler ∈ chosen sourceSelectionEnabled transaction.requiresSome transaction candidates ↔
      handler ∈ candidates ∧
        ((sourceSelectionEnabled = true ∧
            handler.supportsClass usernamePasswordCredential = true ∧
            transaction.Picks handler.name) ∨
          (transaction.requiresSome = true ∧
            (handler.httpBased = true ∨ transaction.Requires handler.name))) := by
  unfold chosen
  cases sourceSelectionEnabled with
  | true =>
    cases hrequires : transaction.requiresSome with
    | true => simp [mem_resolve_bySource, mem_resolve_byService hrequires, ← and_or_left]
    | false => simp [mem_resolve_bySource]
  | false =>
    cases hrequires : transaction.requiresSome with
    | true => simp [mem_resolve_byService hrequires]
    | false => simp

/-- What CAS's resolvers choose together, or the refusal of the service. -/
theorem resolveHandlers_core {plan : AuthenticationEventExecutionPlan ν}
    {sourceSelectionEnabled : Bool}
    (hresolvers : plan.handlerResolvers = coreHandlerResolvers sourceSelectionEnabled)
    (hcredentials : transaction.credentials ≠ []) :
    plan.resolveHandlers transaction =
      match registeredServiceAuthenticationHandlerResolver.supports
        plan.getAuthenticationHandlers transaction with
      | .error e => .error e
      | .ok requiresSome =>
          .ok ((Keyed.empty : Keyed (@RegisteredHandler.object ν)).addAll
            (chosen sourceSelectionEnabled requiresSome transaction
              plan.getAuthenticationHandlers)).entries := by
  have hsource := supports_bySource plan.getAuthenticationHandlers hcredentials
  have hsorted : sortByOrder (fun resolver => resolver.order)
      (coreHandlerResolvers (ν := ν) sourceSelectionEnabled) =
        coreHandlerResolvers sourceSelectionEnabled := by
    cases sourceSelectionEnabled <;> rfl
  unfold AuthenticationEventExecutionPlan.resolveHandlers
  rw [hresolvers, hsorted]
  unfold coreHandlerResolvers chosen
  cases hservice : registeredServiceAuthenticationHandlerResolver.supports
      plan.getAuthenticationHandlers transaction with
  | error e =>
    cases sourceSelectionEnabled with
    | true => simp [List.filterM, List.filterAuxM, hsource, hservice, bind, Except.bind]
    | false => simp [List.filterM, List.filterAuxM, hservice, bind, Except.bind]
  | ok requiresSome =>
    cases sourceSelectionEnabled with
    | true =>
      cases requiresSome <;>
        simp [List.filterM, List.filterAuxM, hsource, hservice, bind, Except.bind, pure,
          Except.pure]
    | false =>
      cases requiresSome <;>
        simp [List.filterM, List.filterAuxM, hservice, bind, Except.bind, pure, Except.pure]

end Resolvers

/-! ## The handlers to try -/

namespace Deployment

/-- The custom handler is among those to try: the service requires it, or no handler of
CAS's own is chosen, neither by the source picked in the form nor for the service. -/
def TriesCustom (d : Deployment ν)
    (transaction : AuthenticationTransaction (CredentialValue ν)) : Prop :=
  transaction.Requires customHandlerName ∨
    ∀ handler ∈ d.core.plan.handlers.entries,
      (d.core.sourceSelectionEnabled = true →
        handler.supportsClass usernamePasswordCredential = true →
          ¬transaction.Picks handler.name) ∧
      (transaction.requiresSome = true →
        handler.httpBased = false ∧ ¬transaction.Requires handler.name)

variable {d : Deployment ν} {transaction : AuthenticationTransaction (CredentialValue ν)}

theorem mem_getAuthenticationHandlers {handler : RegisteredHandler ν} :
    handler ∈ d.plan.getAuthenticationHandlers ↔
      handler ∈ d.core.plan.handlers.entries ∨ handler = d.registered := by
  rw [← mem_handlers_plan]
  exact mem_sortByOrder

/-- What the resolvers choose from the handlers of the plan. -/
def choice (d : Deployment ν) (transaction : AuthenticationTransaction (CredentialValue ν)) :
    List (RegisteredHandler ν) :=
  chosen d.core.sourceSelectionEnabled transaction.requiresSome transaction
    d.plan.getAuthenticationHandlers

/-- The custom handler is chosen when it is required, and never by source. -/
theorem registered_mem_choice_iff :
    d.registered ∈ d.choice transaction ↔ transaction.Requires customHandlerName := by
  have hhttp : d.registered.httpBased = false := rfl
  rw [choice, mem_chosen_iff, supportsClass_registered, name_registered, hhttp]
  constructor
  · intro h
    obtain ⟨_, ⟨_, hclass, _⟩ | ⟨_, hhttp | hrequires⟩⟩ := h
    · cases hclass
    · cases hhttp
    · exact hrequires
  · intro h
    exact ⟨mem_getAuthenticationHandlers.mpr (Or.inr rfl),
      Or.inr ⟨AuthenticationTransaction.requiresSome_of_requires h, Or.inr h⟩⟩

/-- When nothing is chosen, the custom handler is tried. -/
theorem triesCustom_of_no_choice (hnone : d.choice transaction = []) :
    d.TriesCustom transaction := by
  refine Or.inr fun handler hbase => ?_
  have hunchosen : handler ∉ d.choice transaction := by
    rw [hnone]
    exact List.not_mem_nil
  have hcandidate := mem_getAuthenticationHandlers.mpr (Or.inl hbase)
  rw [choice, mem_chosen_iff] at hunchosen
  refine ⟨?_, ?_⟩
  · intro hsource hclass hpicks
    exact hunchosen ⟨hcandidate, Or.inl ⟨hsource, hclass, hpicks⟩⟩
  · intro hrequires
    refine ⟨Bool.eq_false_of_not_eq_true fun hhttp => ?_, fun hname => ?_⟩
    · exact hunchosen ⟨hcandidate, Or.inr ⟨hrequires, Or.inl hhttp⟩⟩
    · exact hunchosen ⟨hcandidate, Or.inr ⟨hrequires, Or.inr hname⟩⟩

/-- When something is chosen, the custom handler is tried only if it is required. -/
theorem requires_of_triesCustom {handler : RegisteredHandler ν}
    (hchosen : handler ∈ d.choice transaction) (htries : d.TriesCustom transaction) :
    transaction.Requires customHandlerName := by
  rcases htries with hrequired | hothers
  · exact hrequired
  · obtain ⟨hcandidate, hwhy⟩ := mem_chosen_iff.mp hchosen
    rcases mem_getAuthenticationHandlers.mp hcandidate with hbase | rfl
    · obtain ⟨hsource, hservice⟩ := hothers handler hbase
      rcases hwhy with ⟨henabled, hclass, hpicks⟩ | ⟨hrequires, hhttp | hname⟩
      · exact absurd hpicks (hsource henabled hclass)
      · rw [(hservice hrequires).1] at hhttp
        cases hhttp
      · exact absurd hname (hservice hrequires).2
    · exact registered_mem_choice_iff.mp hchosen

/-- The handlers to try for a transaction that is not refused. -/
theorem handlers_of_allowed (d : Deployment ν) (hcredentials : transaction.credentials ≠ [])
    (haccess : ¬transaction.AccessRefused) :
    ∃ handlers, d.plan.getAuthenticationHandlersForTransaction transaction = .ok handlers ∧
      handlers.Nodup ∧ (d.registered ∈ handlers ↔ d.TriesCustom transaction) := by
  let resolved := (Keyed.empty : Keyed (@RegisteredHandler.object ν)).addAll (d.choice transaction)
  have hresolved : d.plan.resolveHandlers transaction = .ok resolved.entries := by
    rw [resolveHandlers_core d.handlerResolvers_plan hcredentials, supports_byService _ haccess]
    rfl
  have hcustom : d.registered ∈ d.plan.getAuthenticationHandlers :=
    mem_getAuthenticationHandlers.mpr (Or.inr rfl)
  have hentries : ∀ handler ∈ d.choice transaction, handler ∈ d.plan.handlers.entries :=
    fun handler hmem => mem_sortByOrder.mp (mem_chosen_iff.mp hmem).1
  have hmem : ∀ handler, handler ∈ resolved.entries ↔ handler ∈ d.choice transaction :=
    fun handler => Keyed.mem_addAll_empty fun a ha b hb hkey =>
      Keyed.eq_of_key_eq (hentries a ha) (hentries b hb) hkey
  have hplan : d.plan.getAuthenticationHandlersForTransaction transaction =
      .ok (if resolved.entries.isEmpty then d.plan.getAuthenticationHandlers
        else resolved.entries) := by
    unfold AuthenticationEventExecutionPlan.getAuthenticationHandlersForTransaction
    rw [hresolved]
    simp only
    cases hempty : resolved.entries.isEmpty with
    | true =>
      have hsome : d.plan.getAuthenticationHandlers.isEmpty = false := by
        simpa using List.ne_nil_of_mem hcustom
      simp only [if_true, hsome, Bool.false_eq_true, if_false]
    | false => simp only [Bool.false_eq_true, if_false, hempty]
  refine ⟨_, hplan, ?_, ?_⟩
  · split
    · exact (perm_sortByOrder _).nodup_iff.mpr (List.Nodup.of_map _ d.plan.handlers.nodup)
    · exact List.Nodup.of_map _ resolved.nodup
  · split
    · rename_i hempty
      have hnone : d.choice transaction = [] := by
        rw [List.isEmpty_iff] at hempty
        rw [List.eq_nil_iff_forall_not_mem]
        intro handler hchosen
        have hin := (hmem handler).mpr hchosen
        rw [hempty] at hin
        cases hin
      exact ⟨fun _ => triesCustom_of_no_choice hnone, fun _ => hcustom⟩
    · rename_i hsome
      rw [hmem]
      constructor
      · intro hchosen
        exact Or.inl (registered_mem_choice_iff.mp hchosen)
      · intro htries
        have hne : resolved.entries ≠ [] := by simpa using hsome
        obtain ⟨handler, hin⟩ := List.exists_mem_of_ne_nil _ hne
        have hrequired := requires_of_triesCustom ((hmem handler).mp hin) htries
        exact registered_mem_choice_iff.mpr hrequired

/-- A refused transaction is left before any handler is tried. -/
theorem handlers_of_refused (d : Deployment ν) (hcredentials : transaction.credentials ≠ [])
    (hrefused : transaction.AccessRefused) :
    d.plan.getAuthenticationHandlersForTransaction transaction =
      .error (.other unauthorizedSsoServiceException) := by
  unfold AuthenticationEventExecutionPlan.getAuthenticationHandlersForTransaction
  rw [resolveHandlers_core d.handlerResolvers_plan hcredentials,
    supports_byService_refused _ hrefused]

/-! ## How a login ends -/

/-- What the manager makes of the handler's own outcome. -/
def outcomeOfAttempt (contents : CredentialValue ν) :
    Except Throwable (HandlerResult ν) → Except (TransactionFailure ν) (Authentication ν)
  | .ok result =>
      .ok ⟨[⟨contents.getId, customCredential, contents⟩], some result.principal,
        Keyed.empty.put (customHandlerName, result), .empty⟩
  | .error e =>
      .error (.authentication (.ofOutcomes (Keyed.empty.put (customHandlerName, e)) .empty))

/-- The search that comes down to one attempt of the custom handler. -/
def searchOfAttempt (d : Deployment ν) :
    Except Throwable (HandlerResult ν) → SearchResult ν
  | .ok result => ([], some (d.registered, result))
  | .error e => ([(d.registered, e)], none)

theorem outcomeOfSearch_searchOfAttempt (d : Deployment ν) (contents : CredentialValue ν)
    (outcome : Except Throwable (HandlerResult ν)) :
    AuthenticationManager.outcomeOfSearch contents (d.searchOfAttempt outcome) =
      outcomeOfAttempt contents outcome := by
  cases outcome with
  | ok result =>
    simp only [searchOfAttempt, outcomeOfAttempt, AuthenticationManager.outcomeOfSearch,
      AuthenticationManager.acceptedBy, failuresOf, List.foldl_nil, name_registered]
  | error e =>
    simp only [searchOfAttempt, outcomeOfAttempt, AuthenticationManager.outcomeOfSearch,
      failuresOf, List.foldl_cons, List.foldl_nil, name_registered]

/-- Among handlers of the plan, a search comes down to the custom handler. -/
theorem search_plan {handlers : List (RegisteredHandler ν)} (hnodup : handlers.Nodup)
    (hsubset : handlers ⊆ d.plan.handlers.entries) (contents : CredentialValue ν) :
    (d.registered ∈ handlers →
      search handlers contents = d.searchOfAttempt (d.handler.attempt () contents)) ∧
    (d.registered ∉ handlers → search handlers contents = ([], none)) := by
  have honly : ∀ handler ∈ handlers, handler.supports (viewOf contents) = true ↔
      handler = d.registered := fun handler hmem => supports_iff (hsubset hmem) contents
  constructor
  · intro hmem
    unfold search
    rw [filter_eq_singleton hnodup hmem honly]
    cases houtcome : d.handler.attempt () contents with
    | ok result =>
      apply tryInTurn_cons_of_ok
      exact houtcome
    | error e =>
      apply tryInTurn_cons_of_error
      exact houtcome
  · intro hmem
    have hnone : (handlers.filter fun handler => handler.supports (viewOf contents)) = [] := by
      rw [List.filter_eq_nil_iff]
      intro handler htried hsupports
      exact hmem ((honly handler htried).mp hsupports ▸ htried)
    rw [search, hnone]
    rfl

/-- `authenticateInternal` is a search among the handlers of the transaction. -/
theorem internalVerdict_eq_search (d : Deployment ν) (clock : ℕ → ℕ)
    {contents : CredentialValue ν} (hone : transaction.credentials = [contents])
    (hserializable : contents.isSerializable = true) (haccess : ¬transaction.AccessRefused) :
    ∃ handlers : List (RegisteredHandler ν), handlers.Nodup ∧
      handlers ⊆ d.plan.handlers.entries ∧
      (d.registered ∈ handlers ↔ d.TriesCustom transaction) ∧
      d.manager.internalVerdict clock transaction =
        AuthenticationManager.outcomeOfSearch contents (search handlers contents) := by
  have hcredentials : transaction.credentials ≠ [] := by rw [hone]; exact List.cons_ne_nil _ _
  obtain ⟨handlers, hhandlers, hnodup, hcustom⟩ := d.handlers_of_allowed hcredentials haccess
  have hsubset := (AuthenticationEventExecutionPlan.handlers_of_transaction hhandlers).1
  have hsuccess : d.manager.plan.AnySuccess := d.anySuccess
  refine ⟨handlers, hnodup, hsubset, hcustom, ?_⟩
  exact AuthenticationManager.internalVerdict_oneCredential clock hsuccess hhandlers hone
    hserializable

/-- `authenticateInternal` is one attempt of the custom handler, or none. -/
theorem internalVerdict_of_login (d : Deployment ν) (clock : ℕ → ℕ)
    {contents : CredentialValue ν} (hone : transaction.credentials = [contents])
    (hserializable : contents.isSerializable = true) (haccess : ¬transaction.AccessRefused) :
    (d.TriesCustom transaction →
      d.manager.internalVerdict clock transaction =
        outcomeOfAttempt contents (d.handler.attempt () contents)) ∧
    (¬d.TriesCustom transaction →
      d.manager.internalVerdict clock transaction =
        .error (.authentication (.ofOutcomes .empty .empty))) := by
  obtain ⟨handlers, hnodup, hsubset, hcustom, hinternal⟩ :=
    d.internalVerdict_eq_search clock hone hserializable haccess
  obtain ⟨htried, huntried⟩ := search_plan hnodup hsubset contents
  rw [hinternal]
  constructor
  · intro htries
    rw [htried (hcustom.mpr htries), outcomeOfSearch_searchOfAttempt]
  · intro htries
    rw [huntried (mt hcustom.mp htries)]
    simp only [AuthenticationManager.outcomeOfSearch, failuresOf, List.foldl_nil]

/-- A login whose credential cannot be serialized ends before the service is asked. -/
theorem verdict_of_not_serializable (d : Deployment ν) (clock : ℕ → ℕ)
    {contents : CredentialValue ν} (hone : transaction.credentials = [contents])
    (hbroken : contents.isSerializable = false) :
    d.manager.verdict clock transaction = .error (.other unableToSerialize) := by
  have hpresented : ∃ contents ∈ transaction.credentials, contents.isSerializable = false := by
    rw [hone]
    exact ⟨contents, List.mem_singleton_self contents, hbroken⟩
  exact AuthenticationManager.verdict_of_error (d.invokeAuthenticationPreProcessors transaction)
    (AuthenticationManager.internalVerdict_of_not_serializable hpresented)

/-- A login with one credential that can be serialized, for any base plan CAS may have
prepared: refused by the service, or decided by the custom handler alone, or left without
a handler that takes the credential. -/
theorem verdict_of_login (d : Deployment ν) (clock : ℕ → ℕ) {contents : CredentialValue ν}
    (hone : transaction.credentials = [contents])
    (hserializable : contents.isSerializable = true) :
    (transaction.AccessRefused →
      d.manager.verdict clock transaction = .error (.other unauthorizedSsoServiceException)) ∧
    (¬transaction.AccessRefused → d.TriesCustom transaction →
      d.manager.verdict clock transaction =
        outcomeOfAttempt contents (d.handler.attempt () contents)) ∧
    (¬transaction.AccessRefused → ¬d.TriesCustom transaction →
      d.manager.verdict clock transaction =
        .error (.authentication (.ofOutcomes .empty .empty))) := by
  have hcredentials : transaction.credentials ≠ [] := by rw [hone]; exact List.cons_ne_nil _ _
  have hpre : d.manager.plan.invokeAuthenticationPreProcessors transaction = .ok true :=
    d.invokeAuthenticationPreProcessors transaction
  have hall : ∀ contents ∈ transaction.credentials, contents.isSerializable = true := by
    rw [hone]
    exact List.forall_mem_singleton.mpr hserializable
  refine ⟨?_, ?_, ?_⟩
  · intro hrefused
    exact AuthenticationManager.verdict_of_error hpre
      (AuthenticationManager.internalVerdict_of_error hcredentials hall
        (d.handlers_of_refused hcredentials hrefused))
  · intro haccess htries
    have hinternal := (d.internalVerdict_of_login clock hone hserializable haccess).1 htries
    cases houtcome : d.handler.attempt () contents with
    | ok result =>
      rw [houtcome] at hinternal
      exact AuthenticationManager.verdict_of_ok hpre
        (d.invokeAuthenticationPostProcessors transaction _)
        (Option.some_ne_none result.principal) hinternal
    | error e =>
      rw [houtcome] at hinternal
      exact AuthenticationManager.verdict_of_error hpre hinternal
  · intro haccess htries
    exact AuthenticationManager.verdict_of_error hpre
      ((d.internalVerdict_of_login clock hone hserializable haccess).2 htries)

end Deployment

/-! ## The plan CAS prepares by default -/

/-- `org.apereo.cas.authentication.credential.HttpBasedServiceCredential`. -/
def httpBasedServiceCredential : JavaClass := .root "HttpBasedServiceCredential" []

/-- `ProxyingPrincipalResolver`. -/
def proxyingPrincipalResolver : PrincipalResolver ν where
  supports credential := credential.id.isSome
  resolve contents _ _ := do
    let principal ← defaultPrincipalFactory.createPrincipal contents.getId
    return some principal

/-- `HttpBasedServiceCredentialsAuthenticationHandler`, which CAS registers for proxies.  A
credential of the login form cannot be cast to the credential it takes. -/
def httpBasedServiceCredentialsAuthenticationHandler : RegisteredHandler ν where
  identity := 0
  name := "HttpBasedServiceCredentialsAuthenticationHandler"
  order := -2147483648
  httpBased := true
  supportsClass := httpBasedServiceCredential.isAssignableFrom
  supports credential := httpBasedServiceCredential.isAssignableFrom credential.javaClass
  authenticate _ := Program.ofExcept (.error (.raised "java.lang.ClassCastException" none))
  principalResolver := some proxyingPrincipalResolver

/-- The plan with that handler only. -/
def defaultCorePlan (ν : Type) (sourceSelectionEnabled : Bool) : CorePlan ν where
  plan := ⟨Keyed.empty.put httpBasedServiceCredentialsAuthenticationHandler,
    coreHandlerResolvers sourceSelectionEnabled,
    [atLeastOneCredentialValidatedAuthenticationPolicy false], [], []⟩
  sourceSelectionEnabled := sourceSelectionEnabled
  handlerResolvers := rfl
  policies := rfl
  preProcessors := rfl
  postProcessors := rfl
  others handler hmem := by
    have hproxy : handler = httpBasedServiceCredentialsAuthenticationHandler :=
      List.mem_singleton.mp hmem
    intro htakes
    obtain ⟨contents, hsupports⟩ := htakes
    rw [hproxy] at hsupports
    cases hsupports

namespace Deployment

/-- Beside the handler for proxies, the custom handler is tried unless the service requires
handlers and not this one: the handler for proxies is chosen for every such service. -/
theorem triesCustom_default_iff {d : Deployment ν} {sourceSelectionEnabled : Bool}
    (hcore : d.core = defaultCorePlan ν sourceSelectionEnabled)
    (transaction : AuthenticationTransaction (CredentialValue ν)) :
    d.TriesCustom transaction ↔
      transaction.Requires customHandlerName ∨ transaction.requiresSome = false := by
  have hentries : d.core.plan.handlers.entries =
      [httpBasedServiceCredentialsAuthenticationHandler] := by
    rw [hcore]
    rfl
  unfold TriesCustom
  rw [hentries]
  simp only [List.forall_mem_singleton]
  constructor
  · intro htries
    rcases htries with hrequired | hunchosen
    · exact Or.inl hrequired
    · refine Or.inr (Bool.eq_false_of_not_eq_true fun hrequires => ?_)
      cases (hunchosen.2 hrequires).1
  · intro htries
    rcases htries with hrequired | hnone
    · exact Or.inl hrequired
    · refine Or.inr ⟨fun _ hclass => ?_, fun hrequires => ?_⟩
      · cases hclass
      · rw [hnone] at hrequires
        cases hrequires

end Deployment

/-- A deployment on that plan, over one user's row. -/
def aliceDeployment : Deployment Unit where
  core := defaultCorePlan Unit false
  noOp := plainTextEncoder
  querUserSql := some "select * from user where name = ?"
  jdbcTemplate := onlyAlice
  identity := 1
  principalResolutionFailureFatal := false
  hasQuery := by decide
  newObject := by decide

theorem aliceDeployment_tries (contents : CredentialValue Unit) :
    aliceDeployment.TriesCustom ⟨none, [contents]⟩ :=
  (Deployment.triesCustom_default_iff rfl _).mpr (Or.inr rfl)

end LemonCas.Authentication
