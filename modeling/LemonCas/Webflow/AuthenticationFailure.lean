import LemonCas.Authentication.Logins
set_option autoImplicit false

/-!
# Webflow: what a failed login shows

An authentication exception reaches the flow with what each handler threw.  CAS has a list
of exception classes it tells apart; the first of them that some handler threw gives the
event of the failure and the code of its message, and a failure without any of them is
unknown.  The texts are those of the message bundles of the repository.  The handler's own
`AccountNotPresenceException` and `AccountConfuseException` are not on the list, so their
messages are never shown, and what a page tells about an account is a matter of the texts
of the other three.  The custom fields of a form are texts, so a submitted credential can
be serialized; the pages are those of such logins.
-/

namespace LemonCas.Webflow

open LemonCas.Foundation
open LemonCas.Java
open LemonCas.Credential
open LemonCas.Service
open LemonCas.Authentication

variable {ν : Type}

/-! ## The exceptions CAS tells apart -/

/-- `CasCoreWebflowConfiguration.handledAuthenticationExceptions`: the classes of CAS, and
then those of `cas.authn.errors.exceptions`. -/
def handledAuthenticationExceptions (configured : List String) : List String :=
  ["javax.security.auth.login.AccountLockedException",
    "javax.security.auth.login.CredentialExpiredException",
    "javax.security.auth.login.AccountExpiredException",
    "org.apereo.cas.authentication.exceptions.AccountDisabledException",
    "org.apereo.cas.authentication.exceptions.InvalidLoginLocationException",
    "org.apereo.cas.authentication.exceptions.AccountPasswordMustChangeException",
    "org.apereo.cas.authentication.exceptions.InvalidLoginTimeException",
    "javax.security.auth.login.AccountNotFoundException",
    "javax.security.auth.login.FailedLoginException",
    "org.apereo.cas.services.UnauthorizedServiceForPrincipalException",
    "org.apereo.cas.authentication.PrincipalException",
    "org.apereo.cas.ticket.UnsatisfiedAuthenticationPolicyException",
    "org.apereo.cas.authentication.adaptive.UnauthorizedAuthenticationException",
    "org.apereo.cas.authentication.MultifactorAuthenticationProviderAbsentException"] ++ configured

/-- What comes of a failure: the event it signals, and the codes of its messages. -/
structure HandledFailure where
  event : String
  messageCodes : List String
  deriving DecidableEq, Repr

/-- `DefaultCasWebflowAuthenticationExceptionHandler.handleAuthenticationException`, with
the URL for principals a service does not let through. -/
def handleAuthenticationException (errors : List String) (unauthorizedRedirectUrl : JString)
    (e : AuthenticationException ν) : HandledFailure :=
  if "UnauthorizedServiceForPrincipalException" ∈ e.handlerErrors.keys ∧
      unauthorizedRedirectUrl ≠ none then
    ⟨"serviceUnauthorizedCheck", []⟩
  else
    let values := e.handlerErrors.entries.map fun failure => failure.2.className
    let handlerErrorName :=
      ((errors.filter fun error => decide (error ∈ values)).map simpleName).head?.getD "UNKNOWN"
    ⟨handlerErrorName, ["authenticationFailure." ++ handlerErrorName]⟩

/-- The name under which a throwable is reported. -/
def reportedName (errors : List String) (e : Throwable) : String :=
  if e.className ∈ errors then simpleName e.className else "UNKNOWN"

section Reported

variable {errors : List String} {unauthorizedRedirectUrl : JString}

/-- The name reported for several failures is that of the first class of the list that one
of them has. -/
theorem handlerErrorName_eq (values : List String) :
    ((errors.filter fun error => decide (error ∈ values)).map simpleName).head?.getD "UNKNOWN" =
      ((errors.find? fun error => decide (error ∈ values)).map simpleName).getD "UNKNOWN" := by
  rw [List.head?_map, List.head?_filter]

theorem find?_eq_of_mem {error : String} :
    (errors.find? fun other => decide (other ∈ [error])) =
      if error ∈ errors then some error else none := by
  split
  · rename_i hmem
    cases hfound : errors.find? fun other => decide (other ∈ [error]) with
    | none =>
      have hnone := List.find?_eq_none.mp hfound error hmem
      simp at hnone
    | some found =>
      have hsame := List.find?_some hfound
      simp only [List.mem_singleton, decide_eq_true_eq] at hsame
      rw [hsame]
  · rename_i hmem
    rw [List.find?_eq_none]
    intro other hother hsame
    simp only [List.mem_singleton, decide_eq_true_eq] at hsame
    exact hmem (hsame ▸ hother)

/-- A single failure is reported under its own name. -/
theorem handle_of_one_failure {name : String}
    (hname : name ≠ "UnauthorizedServiceForPrincipalException") (e : Throwable)
    (handlerSuccesses : Successes ν) :
    handleAuthenticationException errors unauthorizedRedirectUrl
        (.ofOutcomes (Keyed.empty.put (name, e)) handlerSuccesses) =
      ⟨reportedName errors e, ["authenticationFailure." ++ reportedName errors e]⟩ := by
  have hkeys : (Keyed.empty.put (name, e) : Failures).keys = [name] := rfl
  have hunauthorized : ¬("UnauthorizedServiceForPrincipalException" ∈ [name] ∧
      unauthorizedRedirectUrl ≠ none) := by
    rw [List.mem_singleton]
    exact fun h => hname h.1.symm
  have hreported : ((errors.filter fun error => decide (error ∈ [e.className])).map
      simpleName).head?.getD "UNKNOWN" = reportedName errors e := by
    rw [handlerErrorName_eq, find?_eq_of_mem, reportedName]
    split <;> rfl
  unfold handleAuthenticationException AuthenticationException.ofOutcomes
  simp only [hkeys, if_neg hunauthorized]
  rw [← hreported]
  rfl

/-- Without a failure, nothing is known of it. -/
theorem handle_of_no_failure (handlerSuccesses : Successes ν) :
    handleAuthenticationException errors unauthorizedRedirectUrl
        (.ofOutcomes .empty handlerSuccesses) =
      ⟨"UNKNOWN", ["authenticationFailure.UNKNOWN"]⟩ := by
  have hnone : (errors.filter fun error => decide (error ∈ ([] : List String))) = [] := by
    simp
  have hkeys : ¬("UnauthorizedServiceForPrincipalException" ∈ (Keyed.empty : Failures).keys ∧
      unauthorizedRedirectUrl ≠ none) := fun h => Keyed.not_mem_keys_empty _ h.1
  have hvalues : ((Keyed.empty : Failures).entries.map fun failure => failure.2.className) = [] :=
    rfl
  unfold handleAuthenticationException AuthenticationException.ofOutcomes
  simp only [if_neg hkeys, hvalues, hnone]
  decide

end Reported

/-! ## The messages -/

/-- A message bundle: the texts under their codes. -/
abbrev MessageBundle : Type := List (String × String)

/-- `messages.properties`, as far as it is about failed logins. -/
def messages : MessageBundle :=
  [("authenticationFailure.AccountDisabledException", "This account has been disabled."),
    ("authenticationFailure.AccountLockedException", "This account has been locked."),
    ("authenticationFailure.AccountExpiredException",
      "This account has expired and is forbidden to login at this time."),
    ("authenticationFailure.CredentialExpiredException", "Your password has expired."),
    ("authenticationFailure.InvalidLoginLocationException",
      "You cannot login from this workstation."),
    ("authenticationFailure.InvalidLoginTimeException",
      "Your account is forbidden to login at this time."),
    ("authenticationFailure.AccountNotFoundException",
      "Your account is not recognized and cannot login at this time."),
    ("authenticationFailure.FailedLoginException",
      "Authentication attempt has failed, likely due to invalid credentials. " ++
        "Please verify and try again."),
    ("authenticationFailure.MultifactorAuthenticationProviderAbsentException",
      "Unable to satisfy multifactor authentication requirements. " ++
        "Your account is configured for a multifactor authentication strategy, " ++
        "yet CAS is unable to locate and execute that strategy " ++
        "most likely due to misconfiguration of the server. " ++
        "Contact the service administrators for assistance."),
    ("authenticationFailure.SurrogateAuthenticationException",
      "You are not authorized to impersonate the indicated user at this time."),
    ("authenticationFailure.AccountPasswordMustChangeException",
      "Your account password has expired and must be changed."),
    ("authenticationFailure.UnauthorizedServiceForPrincipalException",
      "Service access denied due to missing privileges."),
    ("authenticationFailure.UNKNOWN", "Authentication attempt has failed."),
    ("authenticationFailure.AuthenticationException",
      "Credentials are rejected/invalid and authentication attempt has failed.")]

/-- `messages_zh_CN.properties`, as far as it is about failed logins. -/
def messagesZhCN : MessageBundle :=
  [("authenticationFailure.AccountDisabledException", "这个账户被禁用了。"),
    ("authenticationFailure.AccountLockedException", "这个账户被上锁了。"),
    ("authenticationFailure.CredentialExpiredException", "你的密码过期了。"),
    ("authenticationFailure.InvalidLoginLocationException", "你不能从这个工作站登录。"),
    ("authenticationFailure.InvalidLoginTimeException", "你的账户现在被禁止登录了。"),
    ("authenticationFailure.AccountNotFoundException", "认证信息无效。"),
    ("authenticationFailure.FailedLoginException", "认证信息无效。"),
    ("authenticationFailure.UNKNOWN", "认证信息无效。"),
    ("authenticationFailure.AccountNotPresenceException", "账号不存在"),
    ("authenticationFailure.AccountConfuseException", "账号存在多个")]

/-- The text of a code: that of the first bundle that has the code. -/
def textOf (bundles : List MessageBundle) (code : String) : Option String :=
  bundles.findSome? fun bundle => bundle.lookup code

/-- The bundles of a page in English, and of one in Chinese. -/
def english : List MessageBundle := [messages]

def chinese : List MessageBundle := [messagesZhCN, messages]

/-- The codes of the messages an ended transaction adds to the login form.  A failure that
is no authentication exception adds none. -/
def messageCodesOf (errors : List String) (unauthorizedRedirectUrl : JString) :
    Except (TransactionFailure ν) (Authentication ν) → List String
  | .ok _ => []
  | .error (.authentication e) =>
      (handleAuthenticationException errors unauthorizedRedirectUrl e).messageCodes
  | .error (.other _) => []

/-- The texts of a page for these codes. -/
def page (bundles : List MessageBundle) (codes : List String) : List (Option String) :=
  codes.map (textOf bundles)

/-! ## Which messages are ever shown -/

/-- A message is shown for some failure exactly when it is that of an unknown failure, or of
a class on the list. -/
theorem message_shown_iff (errors : List String) (name : String) :
    (∃ (unauthorizedRedirectUrl : JString) (e : AuthenticationException ν),
      "authenticationFailure." ++ name ∈
        (handleAuthenticationException errors unauthorizedRedirectUrl e).messageCodes) ↔
      name = "UNKNOWN" ∨ name ∈ errors.map simpleName := by
  constructor
  · intro h
    obtain ⟨unauthorizedRedirectUrl, e, hshown⟩ := h
    unfold handleAuthenticationException at hshown
    split at hshown
    · cases hshown
    · rw [List.mem_singleton, handlerErrorName_eq] at hshown
      have hname := (String.append_right_inj _).mp hshown
      cases hfound : errors.find? fun error =>
          decide (error ∈ e.handlerErrors.entries.map fun failure => failure.2.className) with
      | none =>
        rw [hfound] at hname
        exact Or.inl hname
      | some error =>
        rw [hfound] at hname
        exact Or.inr (List.mem_map.mpr ⟨error, List.mem_of_find?_eq_some hfound, hname.symm⟩)
  · intro h
    rcases h with rfl | hlisted
    · refine ⟨none, .ofOutcomes .empty .empty, ?_⟩
      rw [handle_of_no_failure]
      decide
    · obtain ⟨error, hmem, rfl⟩ := List.mem_map.mp hlisted
      refine ⟨none,
        .ofOutcomes (Keyed.empty.put (customHandlerName, .raised error none)) .empty, ?_⟩
      rw [handle_of_one_failure (by decide)]
      have hreported : reportedName errors (.raised error none) = simpleName error := if_pos hmem
      rw [hreported]
      exact List.mem_singleton_self _

/-! ## The page after a rejected login -/

/-- What a query throws is not among the classes of the list. -/
def ThrowsUnlisted (jdbcTemplate : JdbcTemplate) (errors : List String) : Prop :=
  ∀ sql arguments e, jdbcTemplate.query sql arguments = .error e → e.className ∉ errors

section Deployed

variable (d : Deployment ν) (clock : ℕ → ℕ) {service : Option (Option RegisteredService)}
  {contents : CredentialValue ν} {configured : List String}
  {unauthorizedRedirectUrl : JString}

/-- The codes of the messages after a login at a deployment. -/
def loginMessageCodes (configured : List String) (unauthorizedRedirectUrl : JString)
    (service : Option (Option RegisteredService)) (contents : CredentialValue ν) : List String :=
  messageCodesOf (handledAuthenticationExceptions configured) unauthorizedRedirectUrl
    (d.manager.verdict clock (Deployment.loginTransaction service contents))

/-- A login the handler rejects is reported under the name of what it threw. -/
theorem loginMessageCodes_of_rejection
    (hserializable : contents.isSerializable = true)
    (haccess : ¬(Deployment.loginTransaction service contents).AccessRefused)
    (htries : d.TriesCustom (Deployment.loginTransaction service contents)) {e : Throwable}
    (hend : d.handler.attempt () contents = .error e) :
    loginMessageCodes d clock configured unauthorizedRedirectUrl service contents =
      ["authenticationFailure." ++
        reportedName (handledAuthenticationExceptions configured) e] := by
  have hname : customHandlerName ≠ "UnauthorizedServiceForPrincipalException" := by decide
  rw [loginMessageCodes, d.verdict_of_rejection clock hserializable haccess htries hend,
    messageCodesOf, handle_of_one_failure hname]

/-- The two exceptions of the lookup are reported under their names only when they are
configured. -/
theorem reportedName_of_lookup {e : Throwable}
    (he : e = .accountNotPresenceException ∨ e = .accountConfuseException) :
    reportedName (handledAuthenticationExceptions configured) e =
      if e.className ∈ configured then simpleName e.className else "UNKNOWN" := by
  have hcas : e.className ∉ handledAuthenticationExceptions [] := by
    rcases he with rfl | rfl <;> decide
  have hmem : e.className ∈ handledAuthenticationExceptions configured ↔
      e.className ∈ configured := by
    rw [handledAuthenticationExceptions, List.mem_append]
    refine or_iff_right fun hlisted => hcas ?_
    rw [handledAuthenticationExceptions, List.append_nil]
    exact hlisted
  unfold reportedName
  simp only [hmem]

end Deployed

/-- A deployment over a table without rows. -/
def emptyDeployment : Deployment Unit :=
  { aliceDeployment with jdbcTemplate := ⟨fun _ _ => .ok []⟩ }

section Pages

variable (d : Deployment ν) (clock : ℕ → ℕ) {service : Option (Option RegisteredService)}
  {contents : CredentialValue ν}

/-- The name a rejection is reported under, when nothing is configured. -/
theorem reportedName_of_rejection
    (hquery : ThrowsUnlisted d.jdbcTemplate (handledAuthenticationExceptions []))
    (hserializable : contents.isSerializable = true) {e : Throwable}
    (hrejection : d.Rejection contents e) :
    let bothGiven := isBlank contents.username = false ∧ isBlank contents.password = false
    let oneRow := ∃ row, d.jdbcTemplate.query d.querUserSql [contents.username] = .ok [row]
    let name := reportedName (handledAuthenticationExceptions []) e
    name = "AccountNotFoundException" ∧ isBlank contents.username = true ∨
      name = "FailedLoginException" ∧ isBlank contents.username = false ∧
        (isBlank contents.password = true ∨ oneRow) ∨
      name = "UNKNOWN" ∧ bothGiven ∧ ¬oneRow := by
  intro bothGiven oneRow name
  cases hrejection with
  | blankUsername husername => exact Or.inl ⟨rfl, husername⟩
  | blankPassword husername hpassword =>
    exact Or.inr (Or.inl ⟨rfl, husername, Or.inl hpassword⟩)
  | queryFailed husername hpassword hfailed =>
    have hunknown : name = "UNKNOWN" := if_neg (hquery _ _ _ hfailed)
    refine Or.inr (Or.inr ⟨hunknown, ⟨husername, hpassword⟩, ?_⟩)
    intro hrow
    obtain ⟨row, hrow⟩ := hrow
    cases hfailed.symm.trans hrow
  | noRow husername hpassword hnone =>
    refine Or.inr (Or.inr ⟨rfl, ⟨husername, hpassword⟩, ?_⟩)
    intro hrow
    obtain ⟨row, hrow⟩ := hrow
    cases hnone.symm.trans hrow
  | severalRows husername hpassword hseveral =>
    refine Or.inr (Or.inr ⟨rfl, ⟨husername, hpassword⟩, ?_⟩)
    intro hrow
    obtain ⟨row, hrow⟩ := hrow
    cases hseveral.symm.trans hrow
  | wrongPassword husername _ hrow _ =>
    exact Or.inr (Or.inl ⟨rfl, husername, Or.inr ⟨_, hrow⟩⟩)
  | notSerializable hbroken _ =>
    exact absurd (hbroken.symm.trans hserializable) Bool.false_ne_true

/-- When a login that the handler tries is not accepted, the handler has rejected it. -/
theorem exists_rejection
    (hserializable : contents.isSerializable = true)
    (haccess : ¬(Deployment.loginTransaction service contents).AccessRefused)
    (htries : d.TriesCustom (Deployment.loginTransaction service contents))
    (hrejected : ∀ authentication,
      d.manager.verdict clock (Deployment.loginTransaction service contents) ≠
        .ok authentication) :
    ∃ e, d.handler.attempt () contents = .error e ∧ d.Rejection contents e := by
  rcases d.attempt_cases contents with ⟨_, _, hknown⟩ | hrejection
  · have haccepted := (d.verdict_eq_ok_iff_accepts clock service contents _).mpr
      ⟨⟨hserializable, haccess, htries, hknown⟩, rfl⟩
    exact absurd haccepted (hrejected _)
  · exact hrejection

/-- The English pages of the three names a rejection is reported under are different. -/
theorem english_pages_differ :
    page english ["authenticationFailure.AccountNotFoundException"] ≠
        page english ["authenticationFailure.FailedLoginException"] ∧
      page english ["authenticationFailure.AccountNotFoundException"] ≠
        page english ["authenticationFailure.UNKNOWN"] ∧
      page english ["authenticationFailure.FailedLoginException"] ≠
        page english ["authenticationFailure.UNKNOWN"] := by
  refine ⟨?_, ?_, ?_⟩ <;> decide

end Pages

/-! ## A mistyped password -/

theorem throwsUnlisted_onlyAlice :
    ThrowsUnlisted onlyAlice (handledAuthenticationExceptions []) := by
  intro sql arguments e herror
  cases herror

theorem mistyped_rejected (authentication : Authentication Unit) :
    aliceDeployment.manager.verdict (fun _ => 0)
      (Deployment.loginTransaction none (submitted "alice" "wrong")) ≠ .ok authentication := by
  intro hok
  have haccepts := (aliceDeployment.verdict_eq_ok_iff_accepts _ none _ authentication).mp hok
  obtain ⟨row, hquery, hpassword⟩ := haccepts.1.known.row
  cases hquery
  exact absurd hpassword (by decide)

end LemonCas.Webflow
