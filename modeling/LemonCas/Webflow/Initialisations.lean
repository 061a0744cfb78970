import LemonCas.Webflow.LoginForm
set_option autoImplicit false

/-!
# Webflow: initialising the configurer more than once

The configurer is initialised when its bean is created, and twice more when the plan is
executed, where it was registered twice.  Its bindings and its credential variable are
the same after every initialisation; the render actions and the `submit` transitions of
the login form count the initialisations.
-/

namespace LemonCas.Webflow

open LemonCas.Foundation
open CasConfiguration

/-- The login form of `many` is that of `once`: it renders once, and submits in one
way. -/
structure SameLoginForm (once many : Flow) : Prop where
  renderActions : many.loginFormRenderActions = once.loginFormRenderActions
  renders_once : many.loginFormRenderActions.count renderLoginForm = 1
  submitTransitions :
    many.loginFormTransitions "submit" = once.loginFormTransitions "submit"
  submits_once : (many.loginFormTransitions "submit").length = 1
  bindings : many.loginFormBindings = once.loginFormBindings
  credentialClass : many.credentialClass = once.credentialClass

section Definition

variable (law : VariableLaw) {config : CasConfiguration}

/-- On the flow of the definition file the render actions are one per
initialisation. -/
theorem renderActions_iterate (hauto : config.autoconfigure = true)
    (definition : LoginFlowDefinition) (n : Nat) :
    ((config.initializeWebflow law)^[n] definition.flow).loginFormRenderActions =
      List.replicate n renderLoginForm := by
  rw [initializeWebflow_of_autoconfigure law hauto]
  rw [(config.renderActions_grow law).iterate]
  have hnone : definition.flow.loginFormRenderActions = [] := by
    rw [Flow.loginFormRenderActions, definition.no_login_form]
    rfl
  rw [hnone, List.nil_append]

/-- And so are the transitions on `submit`. -/
theorem submitTransitions_iterate (hauto : config.autoconfigure = true)
    (definition : LoginFlowDefinition) (n : Nat) :
    ((config.initializeWebflow law)^[n] definition.flow).loginFormTransitions "submit" =
      List.replicate n submitLoginForm := by
  rw [initializeWebflow_of_autoconfigure law hauto]
  rw [(config.submitTransitions_grow law).iterate]
  have hnone : definition.flow.loginFormTransitions "submit" = [] := by
    rw [Flow.loginFormTransitions, definition.no_login_form]
    rfl
  rw [hnone, List.nil_append]

/-- What is entered under a key is the same after any number of initialisations of
any flow. -/
theorem keyed_parts_iterate (hauto : config.autoconfigure = true) (flow : Flow) {n : Nat}
    (hn : 1 ≤ n) :
    ((config.initializeWebflow law)^[n] flow).loginFormBindings =
        (config.initializeWebflow law flow).loginFormBindings ∧
      ((config.initializeWebflow law)^[n] flow).credentialClass =
        (config.initializeWebflow law flow).credentialClass := by
  rw [initializeWebflow_of_autoconfigure law hauto]
  have hbindings := (config.bindings_settle law).iterate flow hn
  have hclass := (config.credentialClass_settles law).iterate flow hn
  exact ⟨hbindings, hclass⟩

/-- The login form after `n` initialisations is the one after the first, rendering
and submitting once, exactly when there was one. -/
theorem sameLoginForm_iff (hauto : config.autoconfigure = true)
    (definition : LoginFlowDefinition) (n : Nat) :
    SameLoginForm (config.initializeWebflow law definition.flow)
        ((config.initializeWebflow law)^[n] definition.flow) ↔ n = 1 := by
  constructor
  · intro hsame
    have hactions := hsame.renderActions
    rw [initializeWebflow_of_autoconfigure law hauto] at hactions
    exact ((config.renderActions_grow law).iterate_eq_once_iff definition.flow n).mp hactions
  · rintro rfl
    have hactions := renderActions_iterate law hauto definition 1
    have hsubmits := submitTransitions_iterate law hauto definition 1
    refine ⟨rfl, ?_, rfl, ?_, rfl, rfl⟩
    · rw [hactions]
      rfl
    · rw [hsubmits]
      rfl

/-- At start-up the configurer is initialised three times, so the form renders three
times and submits in three ways. -/
theorem startUp_triples (hauto : config.autoconfigure = true)
    (definition : LoginFlowDefinition) :
    (startUp law config definition.flow).loginFormRenderActions =
        [renderLoginForm, renderLoginForm, renderLoginForm] ∧
      (startUp law config definition.flow).loginFormTransitions "submit" =
        [submitLoginForm, submitLoginForm, submitLoginForm] := by
  rw [startUp_eq_iterate]
  exact ⟨renderActions_iterate law hauto definition 3,
    submitTransitions_iterate law hauto definition 3⟩

end Definition

/-- Remember-me disabled, no custom field. -/
def plainConfiguration : CasConfiguration where
  customLoginFormFields := .empty
  rememberMe := false
  autoconfigure := true

theorem sameLoginForm_iff_plainConfiguration :
    SameLoginForm (plainConfiguration.initializeWebflow .keepFirst loginWebflow.flow)
      ((plainConfiguration.initializeWebflow .keepFirst)^[3] loginWebflow.flow) ↔ 3 = 1 :=
  sameLoginForm_iff .keepFirst rfl loginWebflow 3

/-- The second initialisation adds to the login form. -/
theorem plainConfiguration_second_initialisation :
    ¬ SameLoginForm (plainConfiguration.initializeWebflow .keepFirst loginWebflow.flow)
      ((plainConfiguration.initializeWebflow .keepFirst)^[2] loginWebflow.flow) := by
  intro hsame
  have hlength := hsame.submits_once
  rw [submitTransitions_iterate .keepFirst rfl loginWebflow 2] at hlength
  exact absurd hlength (by decide)

end LemonCas.Webflow
