import LemonCas.Authentication.CustomAuthenticationHandler
import LemonCas.Webflow.CustomWebflowConfigurer
set_option autoImplicit false

/-!
# Webflow: the login form after any number of initialisations

The parts of the login form that are entered under a key settle after the first
initialisation, and the parts that are appended grow with every one.  The first
half of this module says which are which, for every flow; the second half says
what the settled part is on the flow the definition file leaves, and when the
credential it produces is one that the form and the handler accept.
-/

namespace LemonCas.Webflow

open LemonCas.Foundation
open LemonCas.Java
open LemonCas.Credential
open LemonCas.Authentication
open CasConfiguration

/-! ## Observations -/

namespace Flow

/-- The bindings of the login form. -/
def loginFormBindings (flow : Flow) : Option BinderConfiguration :=
  flow.loginForm.map ViewState.binder

/-- The render actions of the login form. -/
def loginFormRenderActions (flow : Flow) : List EvaluateAction :=
  (flow.loginForm.map ViewState.renderActionList).getD []

/-- The transitions of the login form that match an event. -/
def loginFormTransitions (event : String) (flow : Flow) : List Transition :=
  ((flow.loginForm.map ViewState.transitions).getD []).filter fun t => decide (t.event = event)

end Flow

/-! ## What settles and what grows -/

namespace CasConfiguration

section Initialisation

variable (law : VariableLaw) (config : CasConfiguration)

@[simp] theorem addRememberMe_renderActionList (state : ViewState) :
    (config.addRememberMe state).renderActionList = state.renderActionList := by
  unfold addRememberMe
  cases config.rememberMe with
  | true => exact state.addBinding_renderActionList _
  | false => rfl

@[simp] theorem addRememberMe_transitions (state : ViewState) :
    (config.addRememberMe state).transitions = state.transitions := by
  unfold addRememberMe
  cases config.rememberMe with
  | true => exact state.addBinding_transitions _
  | false => rfl

/-- The remember-me binding is entered once. -/
theorem addRememberMe_settled (state : ViewState) :
    (config.addRememberMe (fillLoginForm (config.addRememberMe state))).binder =
      (config.addRememberMe state).binder := by
  unfold addRememberMe
  cases config.rememberMe with
  | false => rfl
  | true =>
    apply Keyed.addIfAbsent_of_mem
    exact Keyed.mem_keys_addIfAbsent.mpr (Or.inr rfl)

/-- Every initialisation adds a render action to the login form. -/
theorem renderActions_grow :
    GrowsBy (config.doInitialize law) Flow.loginFormRenderActions renderLoginForm := by
  intro flow
  unfold Flow.loginFormRenderActions
  rw [loginForm_doInitialize]
  cases flow.loginForm with
  | none => simp [newLoginForm]
  | some form => simp

/-- Every initialisation adds a transition on `submit` to the login form. -/
theorem submitTransitions_grow :
    GrowsBy (config.doInitialize law) (Flow.loginFormTransitions "submit")
      submitLoginForm := by
  intro flow
  unfold Flow.loginFormTransitions
  rw [loginForm_doInitialize]
  have hmatches : submitLoginForm.event = "submit" := rfl
  cases flow.loginForm with
  | none => simp [newLoginForm, hmatches]
  | some form => simp [hmatches]

/-- The bindings settle: the binder is created once, and the remember-me binding is
keyed by its property. -/
theorem bindings_settle : Settles (config.doInitialize law) Flow.loginFormBindings := by
  intro flow
  unfold Flow.loginFormBindings
  rw [loginForm_doInitialize law config (config.doInitialize law flow)]
  rw [loginForm_doInitialize law config flow]
  simp only [Option.getD_some, Option.map_some]
  rw [addRememberMe_settled]

/-- The credential variable settles under both laws. -/
theorem credentialClass_settles : Settles (config.doInitialize law) Flow.credentialClass := by
  intro flow
  rw [credentialClass_doInitialize law config (config.doInitialize law flow)]
  rw [credentialClass_doInitialize law config flow]
  cases law <;> rfl

end Initialisation

end CasConfiguration

/-! ## The login flow of the definition file -/

/-- A login flow as its definition file leaves it: the form and the credential
variable are left to the configurer. -/
structure LoginFlowDefinition where
  flow : Flow
  no_login_form : flow.loginForm = none
  no_credential : flow.credentialClass = none

/-- `webflow/login/login-webflow.xml`: no variable, and no view state. -/
def loginWebflow : LoginFlowDefinition where
  flow := ⟨.empty, .empty⟩
  no_login_form := rfl
  no_credential := rfl

/-- The bindings of the login form the configurer creates. -/
def CasConfiguration.settledBindings (config : CasConfiguration) : BinderConfiguration :=
  (config.addRememberMe (fillLoginForm config.newLoginForm)).binder

section Definition

variable (law : VariableLaw) {config : CasConfiguration}

/-- The bindings after any number of initialisations. -/
theorem loginFormBindings_iterate (hauto : config.autoconfigure = true)
    (definition : LoginFlowDefinition) {n : Nat} (hn : 1 ≤ n) :
    ((config.initializeWebflow law)^[n] definition.flow).loginFormBindings =
      some config.settledBindings := by
  rw [initializeWebflow_of_autoconfigure law hauto]
  rw [(config.bindings_settle law).iterate definition.flow hn]
  unfold Flow.loginFormBindings
  rw [loginForm_doInitialize, definition.no_login_form]
  rfl

/-- The class of the credential after any number of initialisations: under the law
that keeps the first definition, that of the remember-me step. -/
theorem credentialClass_iterate (hauto : config.autoconfigure = true)
    (definition : LoginFlowDefinition) {n : Nat} (hn : 1 ≤ n) :
    ((config.initializeWebflow law)^[n] definition.flow).credentialClass =
      some (law.redefine (some config.rememberMeClass) customCredential) := by
  rw [initializeWebflow_of_autoconfigure law hauto]
  rw [(config.credentialClass_settles law).iterate definition.flow hn]
  rw [credentialClass_doInitialize, definition.no_credential]
  cases law <;> rfl

/-- The properties the login form binds. -/
theorem mem_boundProperties {property : String} :
    property ∈ config.settledBindings.keys ↔
      property ∈ ["username", "password", "source", "email", "telephone"] ∨
      (∃ field ∈ config.customLoginFormFields.keys, property = customFieldPath field) ∨
      (config.rememberMe = true ∧ property = "rememberMe") := by
  have hfields : (config.customLoginFormFields.entries.map
      (Binding.property ∘ fieldBinding)) =
      config.customLoginFormFields.keys.map customFieldPath := by
    rw [Keyed.keys, List.map_map]
    rfl
  have hform : property ∈ config.loginFormBinder.keys ↔
      property ∈ ["username", "password", "source", "email", "telephone"] ∨
      (∃ field ∈ config.customLoginFormFields.keys, property = customFieldPath field) := by
    unfold loginFormBinder createStateBinderConfiguration
    rw [Keyed.mem_keys_addAll, Keyed.mem_keys_addAll, List.map_map, List.map_map, hfields]
    simp [eq_comm]
  unfold settledBindings addRememberMe
  cases hremember : config.rememberMe with
  | false => simpa [newLoginForm] using hform
  | true =>
    simp only [if_true, ViewState.addBinding, fillLoginForm_binder,
      newLoginForm, Keyed.mem_keys_addIfAbsent, hform, true_and, or_assoc]

/-! ## The credential and its form -/

/-- The handler's selection predicate, when it has one, accepts everything; this is how a
handler is constructed. -/
def SelectsEverything {ν σ : Type} (handler : CustomAuthenticationHandler ν σ) : Prop :=
  ∀ predicate, handler.credentialSelectionPredicate = some predicate →
    ∀ credential, predicate credential = true

example {ν : Type} (noOp : NoOpPasswordEncoder) (name : JString)
    (principalFactory : PrincipalFactory ν) (order : Int) :
    SelectsEverything
      (CustomAuthenticationHandler.newHandler noOp name principalFactory order) := by
  intro predicate hpredicate credential
  cases hpredicate
  rfl

/-- Every handler whose selection predicate is null or accepts everything accepts
credentials of the class. -/
def SupportedByHandler (clazz : JavaClass) : Prop :=
  ∀ {ν σ : Type} (handler : CustomAuthenticationHandler ν σ),
    SelectsEverything handler →
      handler.supports clazz = true ∧
        ∀ id, handler.supportsCredential ⟨clazz, id⟩ = true

/-- The flow registers a class for its credential that the handler accepts and that
has every property the login form binds. -/
def AcceptsItsCredential (flow : Flow) : Prop :=
  ∃ clazz form, flow.credentialClass = some clazz ∧ flow.loginForm = some form ∧
    SupportedByHandler clazz ∧ ∀ property ∈ form.binder.keys, clazz.Exposes property

theorem supportedByHandler_iff {clazz : JavaClass} :
    SupportedByHandler clazz ↔ customCredential.isAssignableFrom clazz = true := by
  constructor
  · intro hsupported
    let handler : CustomAuthenticationHandler Unit Unit :=
      ⟨"", CustomAuthenticationHandler.defaultPrincipalFactory, 1, none, none, none, none, none,
        none⟩
    have hselects : SelectsEverything handler := fun _ hpredicate => nomatch hpredicate
    exact (hsupported handler hselects).1
  · intro hassignable ν σ handler hselects
    refine ⟨hassignable, fun id => ?_⟩
    unfold CustomAuthenticationHandler.supportsCredential
    cases hpredicate : handler.credentialSelectionPredicate with
    | none => simp [hassignable]
    | some predicate => simp [hassignable, hselects predicate hpredicate]

/-- A class the handler accepts has every property of the form but `rememberMe`. -/
theorem exposes_boundProperties (hremember : config.rememberMe = false) {clazz : JavaClass}
    (hsupported : SupportedByHandler clazz) {property : String}
    (hbound : property ∈ config.settledBindings.keys) :
    clazz.Exposes property := by
  have hcustom : customCredential.Exposes property := by
    rcases mem_boundProperties.mp hbound with hfixed | ⟨field, _, rfl⟩ | ⟨henabled, _⟩
    · have hexposed : ∀ p ∈ ["username", "password", "source", "email", "telephone"],
          customCredential.Exposes p := by decide
      exact hexposed property hfixed
    · have hproperty : Property.customFields.toBeanProperty ∈ customCredential.properties := by
        decide
      exact JavaClass.exposes_customFieldPath hproperty rfl rfl rfl field
    · rw [hremember] at henabled
      cases henabled
  exact hcustom.of_isAssignableFrom (supportedByHandler_iff.mp hsupported)

/-- With remember-me disabled, the credential is a `CustomCredential`, and that is
what the form and the handler are for. -/
theorem acceptsItsCredential_of_no_rememberMe (hauto : config.autoconfigure = true)
    (hremember : config.rememberMe = false) (definition : LoginFlowDefinition) {n : Nat}
    (hn : 1 ≤ n) :
    AcceptsItsCredential ((config.initializeWebflow law)^[n] definition.flow) := by
  have hclass := credentialClass_iterate law hauto definition hn
  have hcustom : law.redefine (some config.rememberMeClass) customCredential
      = customCredential := by
    cases law <;> simp [VariableLaw.redefine, rememberMeClass, hremember]
  rw [hcustom] at hclass
  have hbindings := loginFormBindings_iterate law hauto definition hn
  obtain ⟨form, hform, hbinder⟩ := Option.map_eq_some_iff.mp hbindings
  have hsupported : SupportedByHandler customCredential :=
    supportedByHandler_iff.mpr (JavaClass.isAssignableFrom_refl _)
  refine ⟨customCredential, form, hclass, hform, hsupported, ?_⟩
  intro property hproperty
  rw [hbinder] at hproperty
  exact exposes_boundProperties hremember hsupported hproperty

/-- With remember-me enabled, the credential fails on its class when the first
definition of the variable is kept, and on the property `rememberMe` when the last
one is. -/
theorem not_acceptsItsCredential_of_rememberMe (hauto : config.autoconfigure = true)
    (hremember : config.rememberMe = true) (definition : LoginFlowDefinition) {n : Nat}
    (hn : 1 ≤ n) :
    ¬ AcceptsItsCredential ((config.initializeWebflow law)^[n] definition.flow) := by
  intro haccepts
  obtain ⟨clazz, form, hclazz, hform, hsupported, hexposes⟩ := haccepts
  rw [credentialClass_iterate law hauto definition hn, Option.some.injEq] at hclazz
  rw [supportedByHandler_iff] at hsupported
  cases law with
  | keepFirst =>
    have hfirst : clazz = rememberMeUsernamePasswordCredential := by
      rw [← hclazz]
      simp [VariableLaw.redefine, rememberMeClass, hremember]
    rw [hfirst] at hsupported
    exact absurd hsupported (by decide)
  | keepLast =>
    have hlast : clazz = customCredential := hclazz.symm
    have hbindings := loginFormBindings_iterate .keepLast hauto definition hn
    rw [Flow.loginFormBindings, hform, Option.map_some, Option.some.injEq] at hbindings
    have hbound : "rememberMe" ∈ form.binder.keys := by
      rw [hbindings, mem_boundProperties]
      exact Or.inr (Or.inr ⟨hremember, rfl⟩)
    have hexposed := hexposes "rememberMe" hbound
    rw [hlast] at hexposed
    exact absurd hexposed (by decide)

/-- After any number of initialisations, the flow's credential is accepted by its
form and by its handler exactly when remember-me is disabled. -/
theorem acceptsItsCredential_iff (hauto : config.autoconfigure = true)
    (definition : LoginFlowDefinition) {n : Nat} (hn : 1 ≤ n) :
    AcceptsItsCredential ((config.initializeWebflow law)^[n] definition.flow) ↔
      config.rememberMe = false := by
  cases hremember : config.rememberMe with
  | false =>
    have haccepts := acceptsItsCredential_of_no_rememberMe law hauto hremember definition hn
    exact iff_of_true haccepts rfl
  | true =>
    have hrefused := not_acceptsItsCredential_of_rememberMe law hauto hremember definition hn
    exact iff_of_false hrefused (by decide)

end Definition

/-- Remember-me enabled, one custom field. -/
def rememberMeConfiguration : CasConfiguration where
  customLoginFormFields := Keyed.empty.addIfAbsent ("phone", ⟨none, false⟩)
  rememberMe := true
  autoconfigure := true

theorem acceptsItsCredential_iff_rememberMeConfiguration :
    AcceptsItsCredential ((rememberMeConfiguration.initializeWebflow .keepFirst)^[2]
      loginWebflow.flow) ↔ rememberMeConfiguration.rememberMe = false :=
  acceptsItsCredential_iff .keepFirst rfl loginWebflow (by decide)

/-- With remember-me enabled, one initialisation of the login flow leaves a class the
handler does not accept, or a class without the property the form binds. -/
theorem rememberMeConfiguration_credential_not_accepted :
    ¬ AcceptsItsCredential ((rememberMeConfiguration.initializeWebflow .keepFirst)^[1]
        loginWebflow.flow) ∧
      ¬ AcceptsItsCredential ((rememberMeConfiguration.initializeWebflow .keepLast)^[1]
        loginWebflow.flow) := by
  constructor
  · exact not_acceptsItsCredential_of_rememberMe .keepFirst rfl rfl loginWebflow (Nat.le_refl 1)
  · exact not_acceptsItsCredential_of_rememberMe .keepLast rfl rfl loginWebflow (Nat.le_refl 1)

end LemonCas.Webflow
