import LemonCas.Credential.Value
import LemonCas.Webflow.Initialisations
set_option autoImplicit false

/-!
# Webflow: submitting the login form

The `submit` transition of the form asks for validation, and
`CustomCredential.validate` acts on the event of that name only.  Its one message
is addressed to a property; a message can be shown next to a field when that
property is one the form binds.
-/

namespace LemonCas.Webflow

open LemonCas.Foundation
open LemonCas.Java
open LemonCas.Credential
open CasConfiguration

variable {ν : Type}

/-- An error `MessageBuilder` builds: the property it is about, and its code. -/
structure ErrorMessage where
  source : String
  code : String
  deriving DecidableEq, Repr

/-- `CustomCredential.validate`: the messages it adds for a user event.  The CAS
properties may be absent; when they are there, the flag is
`cas.authn.policy.sourceSelectionEnabled`. -/
def validate (sourceSelectionEnabled : Option Bool) (userEvent : String)
    (contents : CredentialValue ν) : List ErrorMessage :=
  if !equalsIgnoreCase userEvent "submit" then []
  else
    match sourceSelectionEnabled with
    | none => []
    | some enabled =>
        if isBlank contents.source && enabled then [⟨"source", "source.required"⟩] else []

/-- A submitted credential is refused exactly when a source has to be selected and
none is. -/
theorem validate_submit_eq_nil_iff {sourceSelectionEnabled : Option Bool}
    {contents : CredentialValue ν} :
    validate sourceSelectionEnabled "submit" contents = [] ↔
      sourceSelectionEnabled ≠ some true ∨ isBlank contents.source = false := by
  unfold validate
  simp only [equalsIgnoreCase_self, Bool.not_true, Bool.false_eq_true, if_false]
  cases sourceSelectionEnabled with
  | none => simp
  | some enabled =>
    cases enabled with
    | false => simp
    | true =>
      cases isBlank contents.source with
      | true => simp
      | false => simp

/-- Every message is about the source. -/
theorem source_of_mem_validate {sourceSelectionEnabled : Option Bool} {userEvent : String}
    {contents : CredentialValue ν} {message : ErrorMessage}
    (hmessage : message ∈ validate sourceSelectionEnabled userEvent contents) :
    message.source = "source" := by
  unfold validate at hmessage
  split at hmessage
  · cases hmessage
  · cases sourceSelectionEnabled with
    | none => cases hmessage
    | some enabled =>
      simp only at hmessage
      split at hmessage
      · rw [List.mem_singleton] at hmessage
        rw [hmessage]
      · cases hmessage

section Definition

variable (law : VariableLaw) {config : CasConfiguration}

/-- However often the flow was initialised, each of its `submit` transitions binds
and validates, and fires on the event `validate` acts on. -/
theorem submitTransitions_validate (hauto : config.autoconfigure = true)
    (definition : LoginFlowDefinition) (n : Nat) {transition : Transition}
    (hmem : transition ∈
      ((config.initializeWebflow law)^[n] definition.flow).loginFormTransitions "submit") :
    transition.attributes.find? "bind" = some ("bind", .flag true) ∧
      transition.attributes.find? "validate" = some ("validate", .flag true) ∧
      equalsIgnoreCase transition.event "submit" = true := by
  rw [submitTransitions_iterate law hauto definition n] at hmem
  obtain ⟨_, rfl⟩ := List.mem_replicate.mp hmem
  exact ⟨rfl, rfl, equalsIgnoreCase_self _⟩

/-- However often the flow was initialised, every validation message is about a
property the login form binds. -/
theorem validate_names_boundProperty (hauto : config.autoconfigure = true)
    (definition : LoginFlowDefinition) {n : Nat} (hn : 1 ≤ n)
    {sourceSelectionEnabled : Option Bool} {userEvent : String}
    {contents : CredentialValue ν} {message : ErrorMessage}
    (hmessage : message ∈ validate sourceSelectionEnabled userEvent contents) :
    ∃ form, ((config.initializeWebflow law)^[n] definition.flow).loginForm = some form ∧
      message.source ∈ form.binder.keys := by
  have hbindings := loginFormBindings_iterate law hauto definition hn
  obtain ⟨form, hform, hbinder⟩ := Option.map_eq_some_iff.mp hbindings
  refine ⟨form, hform, ?_⟩
  rw [source_of_mem_validate hmessage, hbinder, mem_boundProperties]
  exact Or.inl (by decide)

end Definition

end LemonCas.Webflow
