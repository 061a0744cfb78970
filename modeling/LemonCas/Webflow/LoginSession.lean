import LemonCas.Webflow.AuthenticationFailure
import LemonCas.Webflow.Submission
set_option autoImplicit false

/-!
# Webflow: a session at the login form

A session is at a state of the login flow; submitting the form takes it through the action
states up to the next state that waits.  The transition of the form is the one the configurer
created, however often it was initialised; the action states are those of the inherited
configurer and of `login-webflow.xml`.  What is done for a service once the user is known is
a parameter, and no second factor is asked for.

Along any list of submissions, the session gets to the creation of a ticket by an accepted
submission only, and stays at the form until there is one.
-/

namespace LemonCas.Webflow

open LemonCas.Foundation
open LemonCas.Java
open LemonCas.Credential
open LemonCas.Service
open LemonCas.Authentication
open CasConfiguration

variable {ν : Type}

/-! ## The action states -/

/-- An action state: its transitions by event, and the target of every other event. -/
structure ActionState where
  transitions : List (String × String)
  otherwise : Option String

namespace ActionState

/-- The state the event of the action leads to. -/
def next (state : ActionState) (event : String) : Option String :=
  (state.transitions.lookup event).or state.otherwise

/-- The states it can lead to. -/
def targets (state : ActionState) : List String :=
  state.transitions.map Prod.snd ++ state.otherwise.toList

theorem mem_targets_of_next {state : ActionState} {event target : String}
    (h : state.next event = some target) : target ∈ state.targets := by
  unfold next at h
  unfold targets
  cases hlookup : state.transitions.lookup event with
  | none =>
    rw [hlookup, Option.none_or] at h
    rw [h]
    exact List.mem_append_right _ (List.mem_singleton_self _)
  | some found =>
    rw [hlookup, Option.some_or] at h
    cases h
    obtain ⟨before, after, hsplit, _⟩ := List.lookup_eq_some_iff.mp hlookup
    apply List.mem_append_left
    rw [hsplit]
    simp

end ActionState

/-- `createRealSubmitAction`. -/
def realSubmit : ActionState where
  transitions := [("warn", "warn"), ("success", "createTicketGrantingTicket"),
    ("successWithWarnings", "showAuthenticationWarningMessages"),
    ("authenticationFailure", "handleAuthenticationFailure"), ("error", "initializeLoginForm"),
    ("valid", "serviceCheck")]
  otherwise := none

/-- `createHandleAuthenticationFailureAction`. -/
def handleAuthenticationFailure : ActionState where
  transitions := [("AccountDisabledException", "casAccountDisabledView"),
    ("AccountLockedException", "casAccountLockedView"),
    ("AccountPasswordMustChangeException", "casMustChangePassView"),
    ("CredentialExpiredException", "casExpiredPassView"),
    ("InvalidLoginLocationException", "casBadWorkstationView"),
    ("InvalidLoginTimeException", "casBadHoursView"),
    ("FailedLoginException", "initializeLoginForm"),
    ("AccountNotFoundException", "initializeLoginForm"),
    ("UnauthorizedServiceForPrincipalException", "initializeLoginForm"),
    ("PrincipalException", "initializeLoginForm"),
    ("UnsatisfiedAuthenticationPolicyException", "initializeLoginForm"),
    ("UnauthorizedAuthenticationException", "casAuthenticationBlockedView"),
    ("serviceUnauthorizedCheck", "serviceUnauthorizedCheck")]
  otherwise := some "initializeLoginForm"

/-- `initializeLoginForm` of `login-webflow.xml`. -/
def initializeLoginForm : ActionState := ⟨[("success", "viewLoginForm")], none⟩

/-- Go to a state; `initializeLoginForm` only signals success. -/
def goTo (target : String) : String :=
  if target = "initializeLoginForm" then (initializeLoginForm.next "success").getD target
  else target

/-! ## The flow and its sessions -/

/-- The login flow after some initialisations of the configurer. -/
structure InitialisedFlow where
  law : VariableLaw
  config : CasConfiguration
  autoconfigure : config.autoconfigure = true
  definition : LoginFlowDefinition
  initialisations : ℕ
  initialised : 1 ≤ initialisations

/-- The definition of the flow. -/
def InitialisedFlow.flow (initialised : InitialisedFlow) : Flow :=
  (initialised.config.initializeWebflow initialised.law)^[initialised.initialisations]
    initialised.definition.flow

/-- The form's transition on `submit`: of several, the first. -/
def InitialisedFlow.submitTransition (initialised : InitialisedFlow) : Option Transition :=
  (initialised.flow.loginFormTransitions "submit").head?

/-- However many there are, the first is the one an initialisation creates. -/
theorem InitialisedFlow.submitTransition_eq (initialised : InitialisedFlow) :
    initialised.submitTransition = some submitLoginForm := by
  unfold submitTransition flow
  rw [submitTransitions_iterate initialised.law initialised.autoconfigure initialised.definition]
  obtain ⟨n, hn⟩ :=
    Nat.exists_eq_succ_of_ne_zero (Nat.one_le_iff_ne_zero.mp initialised.initialised)
  rw [hn, List.replicate_succ, List.head?_cons]

/-- A login flow at work: the deployment it authenticates with, and what
`determineRegisteredServiceForEvent` makes of an authentication. -/
structure LoginWebflow (ν : Type) where
  initialised : InitialisedFlow
  deployment : Deployment ν
  determineRegisteredService : Option (Option RegisteredService) → Authentication ν →
    Except (TransactionFailure ν) Unit
  unauthorizedRedirectUrl : Option (Option RegisteredService) → JString

/-- Where a session is, the messages of its page, the authentication put into it, and the
objects there are. -/
structure LoginSession (ν : Type) where
  state : String
  messageCodes : List String
  authentication : Option (Authentication ν)
  store : Store ν

/-- A session that shows the login form. -/
def LoginSession.atForm (s : Store ν) : LoginSession ν := ⟨"viewLoginForm", [], none, s⟩

/-- The event `authenticationViaFormAction` signals. -/
def realSubmitEvent {α : Type} : Except (TransactionFailure ν) α → String
  | .ok _ => "success"
  | .error (.authentication _) => "authenticationFailure"
  | .error (.other _) => "error"

namespace LoginWebflow

variable (w : LoginWebflow ν)

/-- What `authenticationExceptionHandler` makes of the failure of a submission. -/
def handle {α : Type} (service : Option (Option RegisteredService)) :
    Except (TransactionFailure ν) α → HandledFailure
  | .ok _ => ⟨"error", []⟩
  | .error (.authentication e) =>
      handleAuthenticationException (handledAuthenticationExceptions [])
        (w.unauthorizedRedirectUrl service) e
  | .error (.other _) => ⟨"UNKNOWN", ["authenticationFailure.UNKNOWN"]⟩

/-- The session goes on from `realSubmit` with the outcome of the action. -/
def proceed {α : Type} (service : Option (Option RegisteredService))
    (outcome : Except (TransactionFailure ν) α) (session : LoginSession ν) : LoginSession ν :=
  match realSubmit.next (realSubmitEvent outcome) with
  | none => session
  | some target =>
      if target = "handleAuthenticationFailure" then
        let handled := w.handle service outcome
        { session with
          state := goTo ((handleAuthenticationFailure.next handled.event).getD target)
          messageCodes := handled.messageCodes }
      else { session with state := goTo target, messageCodes := [] }

/-- `realSubmit` with the outcome of the manager: an authentication is put into the session
before the service is asked about it. -/
def conclude (service : Option (Option RegisteredService))
    (outcome : Except (TransactionFailure ν) (Authentication ν)) (session : LoginSession ν) :
    LoginSession ν :=
  match outcome with
  | .error failure => w.proceed service (Except.error failure : Except _ Unit) session
  | .ok authentication =>
      w.proceed service (w.determineRegisteredService service authentication)
        { session with authentication := some authentication }

variable {s : Store ν}

/-- The form is submitted. -/
def submit (login : Login s) (session : LoginSession ν) : LoginSession ν :=
  if session.state = "viewLoginForm" then
    match w.initialised.submitTransition, session.store.deref login.credential with
    | some transition, some contents =>
        let errors :=
          if transition.attributes.find? "validate" = some ("validate", .flag true) then
            validate (some w.deployment.core.sourceSelectionEnabled) transition.event contents
          else []
        if errors.isEmpty && decide (transition.target = "realSubmit") then
          let (outcome, store) :=
            (w.deployment.manager.authenticate login.clock login.transaction).exec session.store
          w.conclude login.service outcome { session with store := store }
        else { session with messageCodes := errors.map ErrorMessage.code }
    | _, _ => session
  else session

/-- The form is submitted again and again. -/
def run (logins : List (Login s)) (session : LoginSession ν) : LoginSession ν :=
  logins.foldl (fun session login => w.submit login session) session

/-- A submission that is valid, accepted and let through by the service. -/
structure GoesThrough (login : Login s) : Prop where
  valid : validate (some w.deployment.core.sourceSelectionEnabled) "submit" login.contents = []
  accepted : w.deployment.Accepts login.service login.contents
  served : w.determineRegisteredService login.service
    (Deployment.authenticationOf login.contents) = .ok ()

end LoginWebflow

/-! ## Where a submission leads -/

/-- No failure is handled by going to the creation of a ticket. -/
theorem goTo_ne_of_failure {event target : String}
    (h : handleAuthenticationFailure.next event = some target) :
    goTo target ≠ "createTicketGrantingTicket" := by
  have hall : ∀ target ∈ handleAuthenticationFailure.targets,
      goTo target ≠ "createTicketGrantingTicket" := by decide
  exact hall target (ActionState.mem_targets_of_next h)

namespace LoginWebflow

section Submission

variable (w : LoginWebflow ν) {service : Option (Option RegisteredService)}
  {session : LoginSession ν}

/-- A failure does not lead to the creation of a ticket. -/
theorem state_proceed_error {α : Type} (failure : TransactionFailure ν) :
    (w.proceed service (Except.error failure : Except _ α) session).state ≠
      "createTicketGrantingTicket" := by
  cases failure with
  | other e =>
    have hstate : (w.proceed service (Except.error (.other e) : Except _ α) session).state =
        "viewLoginForm" := rfl
    rw [hstate]
    decide
  | authentication e =>
    have hstate : (w.proceed service (Except.error (.authentication e) : Except _ α)
        session).state = goTo ((handleAuthenticationFailure.next
          (w.handle service (Except.error (.authentication e) : Except _ α)).event).getD
            "handleAuthenticationFailure") := rfl
    rw [hstate]
    cases hnext : handleAuthenticationFailure.next
        (w.handle service (Except.error (.authentication e) : Except _ α)).event with
    | none =>
      rw [Option.getD_none]
      decide
    | some target =>
      rw [Option.getD_some]
      exact goTo_ne_of_failure hnext

theorem store_proceed {α : Type} (outcome : Except (TransactionFailure ν) α) :
    (w.proceed service outcome session).store = session.store := by
  unfold proceed
  split
  · rfl
  · split <;> rfl

theorem store_conclude (outcome : Except (TransactionFailure ν) (Authentication ν)) :
    (w.conclude service outcome session).store = session.store := by
  cases outcome with
  | error failure => exact w.store_proceed _
  | ok authentication => exact w.store_proceed _

theorem conclude_ok (authentication : Authentication ν) :
    w.conclude service (.ok authentication) session =
      w.proceed service (w.determineRegisteredService service authentication)
        { session with authentication := some authentication } := rfl

/-- With an authentication that the service lets through, the session is at the creation of
a ticket. -/
theorem conclude_of_served {authentication : Authentication ν}
    (hserved : w.determineRegisteredService service authentication = .ok ()) :
    w.conclude service (.ok authentication) session =
      ⟨"createTicketGrantingTicket", [], some authentication, session.store⟩ := by
  rw [conclude_ok, hserved]
  rfl

/-- Without one, it is not. -/
theorem state_conclude_ne {outcome : Except (TransactionFailure ν) (Authentication ν)}
    (hfailed : ∀ authentication, outcome = .ok authentication →
      w.determineRegisteredService service authentication ≠ .ok ()) :
    (w.conclude service outcome session).state ≠ "createTicketGrantingTicket" := by
  cases outcome with
  | error failure => exact w.state_proceed_error failure
  | ok authentication =>
    rw [conclude_ok]
    cases hserved : w.determineRegisteredService service authentication with
    | error failure => exact w.state_proceed_error failure
    | ok _ => exact absurd hserved (hfailed authentication rfl)

variable {s : Store ν} (login : Login s)

/-- At the form, a submission that is not valid only adds the messages. -/
theorem submit_of_invalid (hkept : s.Extends session.store)
    (hform : session.state = "viewLoginForm")
    (hinvalid : validate (some w.deployment.core.sourceSelectionEnabled) "submit"
      login.contents ≠ []) :
    w.submit login session =
      { session with
        messageCodes := (validate (some w.deployment.core.sourceSelectionEnabled) "submit"
          login.contents).map ErrorMessage.code } := by
  have hderef := hkept.deref login.filled
  have hvalidate : submitLoginForm.attributes.find? "validate" = some ("validate", .flag true) :=
    rfl
  have hevent : submitLoginForm.event = "submit" := rfl
  have hsome : (validate (some w.deployment.core.sourceSelectionEnabled) "submit"
      login.contents).isEmpty = false := by simpa using hinvalid
  unfold submit
  simp only [hform, if_true, w.initialised.submitTransition_eq, hderef, hvalidate, hevent, hsome,
    Bool.false_and, Bool.false_eq_true, if_false]

/-- At the form, a valid submission goes on with the outcome of its login. -/
theorem submit_of_valid (hkept : s.Extends session.store)
    (hform : session.state = "viewLoginForm")
    (hvalid : validate (some w.deployment.core.sourceSelectionEnabled) "submit"
      login.contents = []) :
    ∃ store, s.Extends store ∧
      w.submit login session =
        w.conclude login.service (w.deployment.outcomeOf login)
          { session with store := store } := by
  have hderef := hkept.deref login.filled
  have hvalidate : submitLoginForm.attributes.find? "validate" = some ("validate", .flag true) :=
    rfl
  have hevent : submitLoginForm.event = "submit" := rfl
  have htarget : decide (submitLoginForm.target = "realSubmit") = true := rfl
  have hensures := w.deployment.authenticate_ensures login hkept
  unfold submit
  simp only [hform, if_true, w.initialised.submitTransition_eq, hderef, hvalidate, hevent, hvalid,
    List.isEmpty_nil, htarget, Bool.and_self]
  unfold Program.Ensures at hensures
  generalize (w.deployment.manager.authenticate login.clock login.transaction).exec
    session.store = ended at hensures
  obtain ⟨outcome, store⟩ := ended
  obtain ⟨houtcome, hstore⟩ := hensures
  refine ⟨store, hstore, ?_⟩
  simp only at houtcome ⊢
  rw [houtcome]

/-- What one submission at the form does. -/
theorem submit_spec (hkept : s.Extends session.store) (hform : session.state = "viewLoginForm") :
    s.Extends (w.submit login session).store ∧
    (w.GoesThrough login →
      (w.submit login session).state = "createTicketGrantingTicket" ∧
        (w.submit login session).authentication =
          some (Deployment.authenticationOf login.contents)) ∧
    (¬w.GoesThrough login →
      (w.submit login session).state ≠ "createTicketGrantingTicket") := by
  by_cases hvalid : validate (some w.deployment.core.sourceSelectionEnabled) "submit"
      login.contents = []
  · obtain ⟨store, hstore, hsubmit⟩ := w.submit_of_valid login hkept hform hvalid
    rw [hsubmit, store_conclude]
    refine ⟨hstore, ?_, ?_⟩
    · intro hthrough
      have hok : w.deployment.outcomeOf login =
          .ok (Deployment.authenticationOf login.contents) :=
        (w.deployment.verdict_eq_ok_iff_accepts _ _ _ _).mpr ⟨hthrough.accepted, rfl⟩
      rw [hok, w.conclude_of_served hthrough.served]
      exact ⟨rfl, rfl⟩
    · intro hstopped
      refine w.state_conclude_ne fun authentication hok hserved => hstopped ?_
      obtain ⟨haccepted, rfl⟩ := (w.deployment.verdict_eq_ok_iff_accepts _ _ _ _).mp hok
      exact ⟨hvalid, haccepted, hserved⟩
  · rw [w.submit_of_invalid login hkept hform hvalid]
    refine ⟨hkept, fun hthrough => absurd hthrough.valid hvalid, fun _ => ?_⟩
    rw [hform]
    decide

/-- An unsuccessful login goes back to the form, when the query throws nothing that has a
view of its own. -/
theorem state_proceed_of_login
    (hquery : ThrowsUnlisted w.deployment.jdbcTemplate (handledAuthenticationExceptions []))
    {failure : TransactionFailure ν} (hfailed : w.deployment.outcomeOf login = .error failure) :
    (w.proceed login.service (Except.error failure : Except _ Unit) session).state =
      "viewLoginForm" := by
  have hone : (Deployment.loginTransaction login.service login.contents).credentials =
      [login.contents] := rfl
  have hreturns : ∀ {e : AuthenticationException ν} {name : String},
      failure = .authentication e →
      (handleAuthenticationException (handledAuthenticationExceptions [])
        (w.unauthorizedRedirectUrl login.service) e).event = name →
      name ∈ ["AccountNotFoundException", "FailedLoginException", "UNKNOWN"] →
      (w.proceed login.service (Except.error failure : Except _ Unit) session).state =
        "viewLoginForm" := by
    intro e name hfailure hevent hname
    subst hfailure
    have hstate : (w.proceed login.service (Except.error (.authentication e) : Except _ Unit)
        session).state = goTo ((handleAuthenticationFailure.next
          (handleAuthenticationException (handledAuthenticationExceptions [])
            (w.unauthorizedRedirectUrl login.service) e).event).getD
              "handleAuthenticationFailure") := rfl
    have hall : ∀ name ∈ ["AccountNotFoundException", "FailedLoginException", "UNKNOWN"],
        goTo ((handleAuthenticationFailure.next name).getD "handleAuthenticationFailure") =
          "viewLoginForm" := by decide
    rw [hstate, hevent]
    exact hall name hname
  by_cases hbroken : login.contents.isSerializable = false
  · have hend := (w.deployment.verdict_of_not_serializable login.clock hone hbroken).symm.trans
      hfailed
    cases hend
    rfl
  · have hserializable : login.contents.isSerializable = true :=
      Bool.eq_true_of_not_eq_false hbroken
    obtain ⟨hrefused, _, huntried⟩ :=
      w.deployment.verdict_of_login login.clock hone hserializable
    by_cases haccess :
        (Deployment.loginTransaction login.service login.contents).AccessRefused
    · have hend := (hrefused haccess).symm.trans hfailed
      cases hend
      rfl
    · by_cases htries :
          w.deployment.TriesCustom (Deployment.loginTransaction login.service login.contents)
      · obtain ⟨e, hend, hrejection⟩ := exists_rejection w.deployment login.clock hserializable
          haccess htries fun _ hok => by cases hfailed.symm.trans hok
        have hrejected :=
          w.deployment.verdict_of_rejection login.clock hserializable haccess htries hend
        have hfailure := Except.error.inj (hfailed.symm.trans hrejected)
        refine hreturns hfailure (congrArg HandledFailure.event
          (handle_of_one_failure (by decide) e Keyed.empty)) ?_
        rcases reportedName_of_rejection w.deployment hquery hserializable hrejection with
          ⟨hname, _⟩ | ⟨hname, _⟩ | ⟨hname, _⟩
        all_goals
          rw [hname]
          decide
      · have hfailure := Except.error.inj (hfailed.symm.trans (huntried haccess htries))
        exact hreturns hfailure (congrArg HandledFailure.event (handle_of_no_failure Keyed.empty))
          (by decide)

/-- At the form, a submission that does not go through leaves the session at the form. -/
theorem state_submit_of_not_through
    (hquery : ThrowsUnlisted w.deployment.jdbcTemplate (handledAuthenticationExceptions []))
    (hserved : ∀ service authentication,
      w.determineRegisteredService service authentication = .ok ())
    (hkept : s.Extends session.store) (hform : session.state = "viewLoginForm")
    (hstopped : ¬w.GoesThrough login) : (w.submit login session).state = "viewLoginForm" := by
  by_cases hvalid : validate (some w.deployment.core.sourceSelectionEnabled) "submit"
      login.contents = []
  · obtain ⟨store, _, hsubmit⟩ := w.submit_of_valid login hkept hform hvalid
    rw [hsubmit]
    cases houtcome : w.deployment.outcomeOf login with
    | error failure => exact w.state_proceed_of_login login hquery houtcome
    | ok authentication =>
      obtain ⟨haccepted, _⟩ := (w.deployment.verdict_eq_ok_iff_accepts _ _ _ _).mp houtcome
      exact absurd ⟨hvalid, haccepted, hserved _ _⟩ hstopped
  · rw [w.submit_of_invalid login hkept hform hvalid]
    exact hform

end Submission

/-! ## Runs of submissions -/

section Runs

variable (w : LoginWebflow ν) {s : Store ν}

theorem run_cons (login : Login s) (rest : List (Login s)) (session : LoginSession ν) :
    w.run (login :: rest) session = w.run rest (w.submit login session) := rfl

/-- Away from the form, nothing is submitted any more. -/
theorem run_of_not_form (logins : List (Login s)) {session : LoginSession ν}
    (haway : session.state ≠ "viewLoginForm") : w.run logins session = session := by
  induction logins with
  | nil => rfl
  | cons login rest ih =>
    have hignored : w.submit login session = session := by
      unfold submit
      rw [if_neg haway]
    rw [run_cons, hignored]
    exact ih

/-- The login is the first of the list that goes through. -/
def FirstThrough (logins : List (Login s)) (login : Login s) : Prop :=
  ∃ before after, logins = before ++ login :: after ∧
    (∀ earlier ∈ before, ¬w.GoesThrough earlier) ∧ w.GoesThrough login

theorem FirstThrough.cons {logins : List (Login s)} {login first : Login s}
    (h : w.FirstThrough logins first) (hstopped : ¬w.GoesThrough login) :
    w.FirstThrough (login :: logins) first := by
  obtain ⟨before, after, hsplit, hbefore, hthrough⟩ := h
  refine ⟨login :: before, after, ?_, ?_, hthrough⟩
  · rw [hsplit, List.cons_append]
  · intro earlier hmem
    rcases List.mem_cons.mp hmem with rfl | hmem
    · exact hstopped
    · exact hbefore earlier hmem

/-- From the form on, the creation of a ticket is reached by a submission that goes through,
the first one, and for its user. -/
theorem run_spec (logins : List (Login s)) {session : LoginSession ν}
    (hkept : s.Extends session.store) (hform : session.state = "viewLoginForm") :
    s.Extends (w.run logins session).store ∧
    ((w.run logins session).state = "createTicketGrantingTicket" →
      ∃ login, w.FirstThrough logins login ∧
        (w.run logins session).authentication =
          some (Deployment.authenticationOf login.contents)) := by
  induction logins generalizing session with
  | nil =>
    refine ⟨hkept, fun hgranted => ?_⟩
    exact absurd (hform.symm.trans hgranted) (by decide)
  | cons login rest ih =>
    obtain ⟨hnext, hthrough, hstopped⟩ := w.submit_spec login hkept hform
    rw [run_cons]
    by_cases hgoes : w.GoesThrough login
    · obtain ⟨hstate, hauthentication⟩ := hthrough hgoes
      have haway : (w.submit login session).state ≠ "viewLoginForm" := by
        rw [hstate]
        decide
      rw [w.run_of_not_form rest haway]
      exact ⟨hnext, fun _ => ⟨login, ⟨[], rest, rfl, List.forall_mem_nil _, hgoes⟩,
        hauthentication⟩⟩
    · by_cases hback : (w.submit login session).state = "viewLoginForm"
      · obtain ⟨hlast, hgranted⟩ := ih hnext hback
        refine ⟨hlast, fun hstate => ?_⟩
        obtain ⟨first, hfirst, hauthentication⟩ := hgranted hstate
        exact ⟨first, hfirst.cons w hgoes, hauthentication⟩
      · rw [w.run_of_not_form rest hback]
        exact ⟨hnext, fun hgranted => absurd hgranted (hstopped hgoes)⟩

/-- From the form on, a session is at the creation of a ticket when some submission has gone
through, and at the form otherwise. -/
theorem run_cases
    (hquery : ThrowsUnlisted w.deployment.jdbcTemplate (handledAuthenticationExceptions []))
    (hserved : ∀ service authentication,
      w.determineRegisteredService service authentication = .ok ())
    (logins : List (Login s)) {session : LoginSession ν} (hkept : s.Extends session.store)
    (hform : session.state = "viewLoginForm") :
    (w.run logins session).state = "createTicketGrantingTicket" ∧
        (∃ login ∈ logins, w.GoesThrough login) ∨
      (w.run logins session).state = "viewLoginForm" ∧
        ∀ login ∈ logins, ¬w.GoesThrough login := by
  induction logins generalizing session with
  | nil => exact Or.inr ⟨hform, List.forall_mem_nil _⟩
  | cons login rest ih =>
    obtain ⟨hnext, hthrough, _⟩ := w.submit_spec login hkept hform
    rw [run_cons]
    by_cases hgoes : w.GoesThrough login
    · obtain ⟨hstate, _⟩ := hthrough hgoes
      have haway : (w.submit login session).state ≠ "viewLoginForm" := by
        rw [hstate]
        decide
      rw [w.run_of_not_form rest haway]
      exact Or.inl ⟨hstate, login, List.mem_cons_self, hgoes⟩
    · have hback := w.state_submit_of_not_through login hquery hserved hkept hform hgoes
      rcases ih hnext hback with ⟨hstate, first, hmem, hfirst⟩ | ⟨hstate, hnone⟩
      · exact Or.inl ⟨hstate, first, List.mem_cons_of_mem _ hmem, hfirst⟩
      · exact Or.inr ⟨hstate, List.forall_mem_cons.mpr ⟨hgoes, hnone⟩⟩

end Runs

/-! ## One user's session -/

/-- The login flow after start-up, without custom fields and for one known user. -/
def aliceWebflow : LoginWebflow Unit where
  initialised :=
    { law := .keepFirst
      config := plainConfiguration
      autoconfigure := rfl
      definition := loginWebflow
      initialisations := 3
      initialised := by decide }
  deployment := aliceDeployment
  determineRegisteredService _ _ := .ok ()
  unauthorizedRedirectUrl _ := none

/-- The user submits the right password. -/
def aliceLogin : Login (freshStore (submitted "alice" "secret")) where
  clock _ := 0
  service := none
  credential := freshCredential
  contents := submitted "alice" "secret"
  filled := deref_freshStore _

theorem aliceLogin_goesThrough : aliceWebflow.GoesThrough aliceLogin where
  valid := validate_submit_eq_nil_iff.mpr (Or.inl (by decide))
  accepted := ⟨rfl, id, aliceDeployment_tries _, ⟨by decide, by decide, _, rfl, rfl⟩⟩
  served := rfl

end LoginWebflow

end LemonCas.Webflow
