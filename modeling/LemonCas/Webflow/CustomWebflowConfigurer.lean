import LemonCas.Credential.CustomCredential
import LemonCas.Foundation.Repeat
import LemonCas.Webflow.Flow
set_option autoImplicit false

/-!
# Webflow: `CustomWebflowConfigurer`

`com.lemon.cas.webflow.CustomWebflowConfigurer` over the initialisation it
inherits from `DefaultLoginWebflowConfigurer`, and the places that initialise it at
start-up: two of `CustomAuthenticationWebflowConfiguration`, one of CAS.  The inherited
`doInitialize` also creates end states, decision states and action states; those
touch neither the login form nor the flow variables and are left out.
-/

namespace LemonCas.Webflow

open LemonCas.Foundation
open LemonCas.Java
open LemonCas.Credential

/-- `CustomLoginField` of the CAS configuration, as far as it is bound. -/
structure CustomLoginField where
  converter : JString
  required : Bool
  deriving DecidableEq, Repr

/-- What the configurer reads of `CasConfigurationProperties`. -/
structure CasConfiguration where
  /-- `cas.view.customLoginFormFields` -/
  customLoginFormFields : Keyed (Prod.fst : String × CustomLoginField → String)
  /-- `cas.ticket.tgt.rememberMe.enabled` -/
  rememberMe : Bool
  /-- `cas.webflow.autoconfigure` -/
  autoconfigure : Bool

/-- `CasWebflowConstants.VAR_ID_CREDENTIAL` -/
def varIdCredential : String := "credential"

/-- `CasWebflowConstants.STATE_ID_VIEW_LOGIN_FORM` -/
def stateIdViewLoginForm : String := "viewLoginForm"

/-- `CustomWebflowConfigurer.createStateBinderConfiguration`: the two added
properties, and then the inherited method, which requires every property. -/
def createStateBinderConfiguration (properties : List String) : BinderConfiguration :=
  let properties := properties ++ ["email", "telephone"]
  Keyed.empty.addAll (properties.map fun property => ⟨property, none, true⟩)

namespace CasConfiguration

/-- The binding of a custom field. -/
def fieldBinding (field : String × CustomLoginField) : Binding :=
  ⟨customFieldPath field.1, field.2.converter, field.2.required⟩

/-- The binder of the login form. -/
def loginFormBinder (config : CasConfiguration) : BinderConfiguration :=
  let binder := createStateBinderConfiguration ["username", "password", "source"]
  binder.addAll (config.customLoginFormFields.entries.map fieldBinding)

/-- What `createLoginFormView` does to the view state it got. -/
def fillLoginForm (state : ViewState) : ViewState :=
  let state := state.addRenderAction "renderLoginFormAction"
  let state := state.createStateModelBinding "credential" customCredential
  state.createTransitionForState "submit" "realSubmit"
    [("bind", .flag true), ("validate", .flag true), ("history", .historyInvalidate)]

/-- `CustomWebflowConfigurer.createLoginFormView`. -/
def createLoginFormView (config : CasConfiguration) (flow : Flow) : Flow :=
  let flow := flow.createViewState "viewLoginForm" "casLoginView" config.loginFormBinder
  flow.updateViewState "viewLoginForm" fillLoginForm

/-- `CustomWebflowConfigurer.createRememberMeAuthnWebflowConfig`. -/
def createRememberMeAuthnWebflowConfig (law : VariableLaw) (config : CasConfiguration)
    (flow : Flow) : Flow :=
  if config.rememberMe then
    let flow :=
      flow.createFlowVariable law varIdCredential rememberMeUsernamePasswordCredential
    flow.updateViewState stateIdViewLoginForm fun state =>
      state.addBinding ⟨"rememberMe", none, false⟩
  else
    flow.createFlowVariable law varIdCredential customCredential

/-- `CustomWebflowConfigurer.doInitialize`: the inherited steps, and the variable. -/
def doInitialize (law : VariableLaw) (config : CasConfiguration) (flow : Flow) : Flow :=
  -- `super.doInitialize()`
  let flow := config.createLoginFormView flow
  let flow := config.createRememberMeAuthnWebflowConfig law flow
  flow.createFlowVariable law varIdCredential customCredential

/-- `initialize`, inherited from `AbstractCasWebflowConfigurer`. -/
def initializeWebflow (law : VariableLaw) (config : CasConfiguration) (flow : Flow) : Flow :=
  if config.autoconfigure then config.doInitialize law flow else flow

end CasConfiguration

/-! ## Start-up -/

/-- `CasWebflowExecutionPlan`: the registered configurers, each by what its
`initialize` does to the login flow. -/
structure CasWebflowExecutionPlan where
  webflowConfigurers : List (Flow → Flow)

namespace CasWebflowExecutionPlan

/-- `registerWebflowConfigurer`: a configurer that is there is entered once more. -/
def registerWebflowConfigurer (plan : CasWebflowExecutionPlan) (configurer : Flow → Flow) :
    CasWebflowExecutionPlan :=
  ⟨plan.webflowConfigurers ++ [configurer]⟩

/-- `execute`: initialise every registered configurer. -/
def execute (plan : CasWebflowExecutionPlan) (flow : Flow) : Flow :=
  plan.webflowConfigurers.foldl (fun flow configurer => configurer flow) flow

end CasWebflowExecutionPlan

/-- `CustomAuthenticationWebflowConfiguration.defaultWebflowConfigurer` initialises the
configurer when it creates the bean.  Its `configureWebflowExecutionPlan` registers the
bean, `CasWebflowContextConfiguration.casDefaultWebflowExecutionPlanConfigurer` registers
the same bean, and CAS executes the plan. -/
def startUp (law : VariableLaw) (config : CasConfiguration) (flow : Flow) : Flow :=
  let flow := config.initializeWebflow law flow
  let plan : CasWebflowExecutionPlan := ⟨[]⟩
  let plan := plan.registerWebflowConfigurer (config.initializeWebflow law)
  let plan := plan.registerWebflowConfigurer (config.initializeWebflow law)
  plan.execute flow

/-- Start-up initialises the configurer three times. -/
theorem startUp_eq_iterate (law : VariableLaw) (config : CasConfiguration) (flow : Flow) :
    startUp law config flow = (config.initializeWebflow law)^[3] flow := rfl

/-! ## What one initialisation does

The two observations of a flow that the login form consists of, and their value
after one initialisation in terms of their value before. -/

namespace Flow

/-- The view state of the login form. -/
def loginForm (flow : Flow) : Option ViewState := flow.viewState? "viewLoginForm"

/-- The class registered for the credential variable. -/
def credentialClass (flow : Flow) : Option JavaClass := flow.variableClass? varIdCredential

end Flow

namespace CasConfiguration

/-- The view state `createViewState` makes when there is none. -/
def newLoginForm (config : CasConfiguration) : ViewState :=
  ⟨"viewLoginForm", "casLoginView", config.loginFormBinder, [], none, []⟩

/-- The class registered for the credential by the remember-me step. -/
def rememberMeClass (config : CasConfiguration) : JavaClass :=
  if config.rememberMe then rememberMeUsernamePasswordCredential else customCredential

/-- The change of the remember-me step to the login form. -/
def addRememberMe (config : CasConfiguration) (state : ViewState) : ViewState :=
  if config.rememberMe then state.addBinding ⟨"rememberMe", none, false⟩ else state

/-- The render action of the login form. -/
def renderLoginForm : EvaluateAction := ⟨"renderLoginFormAction"⟩

/-- The transition that submits the login form. -/
def submitLoginForm : Transition :=
  ⟨"submit", "realSubmit", [("bind", .flag true), ("validate", .flag true),
    ("history", .historyInvalidate)].foldl Keyed.put .empty⟩

@[simp] theorem fillLoginForm_binder (state : ViewState) :
    (fillLoginForm state).binder = state.binder := rfl

@[simp] theorem fillLoginForm_renderActionList (state : ViewState) :
    (fillLoginForm state).renderActionList = state.renderActionList ++ [renderLoginForm] := rfl

@[simp] theorem fillLoginForm_transitions (state : ViewState) :
    (fillLoginForm state).transitions = state.transitions ++ [submitLoginForm] := rfl

theorem loginForm_createLoginFormView (config : CasConfiguration) (flow : Flow) :
    (config.createLoginFormView flow).loginForm =
      some (fillLoginForm (flow.loginForm.getD config.newLoginForm)) := by
  have hkeeps : ∀ state, (fillLoginForm state).id = state.id := fun _ => rfl
  unfold createLoginFormView Flow.loginForm
  rw [Flow.viewState?_updateViewState _ _ hkeeps, Flow.viewState?_createViewState]
  rfl

theorem loginForm_createRememberMeAuthnWebflowConfig (law : VariableLaw)
    (config : CasConfiguration) (flow : Flow) :
    (config.createRememberMeAuthnWebflowConfig law flow).loginForm =
      flow.loginForm.map config.addRememberMe := by
  unfold createRememberMeAuthnWebflowConfig Flow.loginForm addRememberMe
  cases config.rememberMe with
  | true =>
    simp only [if_true, stateIdViewLoginForm]
    rw [Flow.viewState?_updateViewState _ _ (fun state => state.addBinding_id _)]
    rw [Flow.viewState?_createFlowVariable]
  | false => simp

/-- The login form after an initialisation: the form there was, or a new one, with
one more render action and one more transition, and the remember-me binding when
it is enabled. -/
theorem loginForm_doInitialize (law : VariableLaw) (config : CasConfiguration) (flow : Flow) :
    (config.doInitialize law flow).loginForm =
      some (config.addRememberMe
        (fillLoginForm (flow.loginForm.getD config.newLoginForm))) := by
  have hvariable : (config.doInitialize law flow).loginForm =
      (config.createRememberMeAuthnWebflowConfig law
        (config.createLoginFormView flow)).loginForm :=
    Flow.viewState?_createFlowVariable _ _ _ _ _
  rw [hvariable, loginForm_createRememberMeAuthnWebflowConfig, loginForm_createLoginFormView]
  rfl

theorem credentialClass_createLoginFormView (config : CasConfiguration) (flow : Flow) :
    (config.createLoginFormView flow).credentialClass = flow.credentialClass := by
  simp [createLoginFormView, Flow.credentialClass]

/-- The remember-me step defines the variable in both cases. -/
theorem credentialClass_createRememberMeAuthnWebflowConfig (law : VariableLaw)
    (config : CasConfiguration) (flow : Flow) :
    (config.createRememberMeAuthnWebflowConfig law flow).credentialClass =
      some (law.redefine flow.credentialClass config.rememberMeClass) := by
  unfold createRememberMeAuthnWebflowConfig rememberMeClass Flow.credentialClass
  cases config.rememberMe with
  | true =>
    simp only [if_true, Flow.variableClass?_updateViewState]
    exact Flow.variableClass?_createFlowVariable law _ _ _
  | false => exact Flow.variableClass?_createFlowVariable law _ _ _

/-- The credential variable after an initialisation: defined by the remember-me
step, and then once more. -/
theorem credentialClass_doInitialize (law : VariableLaw) (config : CasConfiguration)
    (flow : Flow) :
    (config.doInitialize law flow).credentialClass =
      some (law.redefine (some (law.redefine flow.credentialClass config.rememberMeClass))
        customCredential) := by
  have hlast : (config.doInitialize law flow).credentialClass =
      some (law.redefine (config.createRememberMeAuthnWebflowConfig law
        (config.createLoginFormView flow)).credentialClass customCredential) :=
    Flow.variableClass?_createFlowVariable law _ _ _
  rw [hlast, credentialClass_createRememberMeAuthnWebflowConfig,
    credentialClass_createLoginFormView]

/-- Initialising with auto-configuration on is `doInitialize`. -/
theorem initializeWebflow_of_autoconfigure (law : VariableLaw) {config : CasConfiguration}
    (hauto : config.autoconfigure = true) :
    config.initializeWebflow law = config.doInitialize law := by
  funext flow
  simp [initializeWebflow, hauto]

end CasConfiguration

end LemonCas.Webflow
