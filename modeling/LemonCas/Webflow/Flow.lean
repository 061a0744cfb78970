import LemonCas.Foundation.Keyed
import LemonCas.Java.BeanClass
import LemonCas.Java.Text
set_option autoImplicit false

/-!
# Webflow: flow definitions under construction

The part of a Spring Webflow definition that the configurer of the login form
creates and changes: flow variables, and view states with their binder, render
actions, model and transitions.  The operations are those of
`AbstractCasWebflowConfigurer`.  They treat what is already defined in two ways: a
state, a binding and a variable are entered under a key, while a render action and
a transition are appended to whatever is there.
-/

namespace LemonCas.Webflow

open LemonCas.Foundation
open LemonCas.Java

/-! ## Definitions -/

/-- `BinderConfiguration.Binding`: a property, the converter for it, and whether a
value is required. -/
structure Binding where
  property : String
  converter : JString
  required : Bool
  deriving DecidableEq, Repr

/-- `BinderConfiguration`: a linked set of bindings, equal when their properties
are. -/
abbrev BinderConfiguration : Type := Keyed Binding.property

/-- `EvaluateAction`, by its expression. -/
structure EvaluateAction where
  expression : String
  deriving DecidableEq, Repr

/-- The values a transition attribute has here: a flag, or what happens to the
history. -/
inductive AttributeValue where
  | flag (value : Bool)
  | historyInvalidate
  deriving DecidableEq, Repr

/-- The attributes of a transition. -/
abbrev AttributeMap : Type := Keyed (Prod.fst : String × AttributeValue → String)

/-- `Transition`: the event it matches, its target, and its attributes. -/
structure Transition where
  event : String
  target : String
  attributes : AttributeMap
  deriving DecidableEq

/-- `ViewState`. -/
structure ViewState where
  id : String
  viewId : String
  binder : BinderConfiguration
  renderActionList : List EvaluateAction
  model : Option (String × JavaClass)
  transitions : List Transition
  deriving DecidableEq

/-- `FlowVariable`, with the class its value factory instantiates. -/
structure FlowVariable where
  name : String
  type : JavaClass
  deriving DecidableEq

/-- Variables are looked up by `equalsIgnoreCase`. -/
def FlowVariable.key (v : FlowVariable) : String := caseKey v.name

/-- `Flow`, as far as the login form is concerned. -/
structure Flow where
  flowVariables : Keyed FlowVariable.key
  viewStates : Keyed ViewState.id
  deriving DecidableEq

/-- What a second definition of a variable does. -/
inductive VariableLaw where
  | keepFirst
  | keepLast
  deriving DecidableEq, Repr

/-- The class of a variable that had `before` and is defined again. -/
def VariableLaw.redefine (law : VariableLaw) (before : Option JavaClass) (type : JavaClass) :
    JavaClass :=
  match law with
  | .keepFirst => before.getD type
  | .keepLast => type

/-! ## Operations on a view state -/

namespace ViewState

/-- `getViewStateBinderConfiguration(state).addBinding(binding)`. -/
def addBinding (state : ViewState) (binding : Binding) : ViewState :=
  { state with binder := state.binder.addIfAbsent binding }

/-- `state.getRenderActionList().add(createEvaluateAction(expression))`. -/
def addRenderAction (state : ViewState) (expression : String) : ViewState :=
  { state with renderActionList := state.renderActionList ++ [⟨expression⟩] }

/-- `createStateModelBinding`. -/
def createStateModelBinding (state : ViewState) (name : String) (type : JavaClass) :
    ViewState :=
  { state with model := some (name, type) }

/-- `createTransitionForState`, with the attributes then put into the transition. -/
def createTransitionForState (state : ViewState) (event target : String)
    (attributes : List (String × AttributeValue)) : ViewState :=
  let transition : Transition := ⟨event, target, attributes.foldl Keyed.put .empty⟩
  { state with transitions := state.transitions ++ [transition] }

@[simp] theorem addBinding_id (state : ViewState) (binding : Binding) :
    (state.addBinding binding).id = state.id := rfl

@[simp] theorem addBinding_renderActionList (state : ViewState) (binding : Binding) :
    (state.addBinding binding).renderActionList = state.renderActionList := rfl

@[simp] theorem addBinding_transitions (state : ViewState) (binding : Binding) :
    (state.addBinding binding).transitions = state.transitions := rfl

end ViewState

/-! ## Operations on a flow -/

namespace Flow

/-- `createViewState`: a state already defined under the id is kept. -/
def createViewState (flow : Flow) (id viewId : String) (binder : BinderConfiguration) : Flow :=
  { flow with viewStates := flow.viewStates.addIfAbsent ⟨id, viewId, binder, [], none, []⟩ }

/-- Change the view state with an id. -/
def updateViewState (flow : Flow) (id : String) (change : ViewState → ViewState) : Flow :=
  { flow with viewStates := flow.viewStates.modify id change }

/-- `createFlowVariable`. -/
def createFlowVariable (law : VariableLaw) (flow : Flow) (name : String) (type : JavaClass) :
    Flow :=
  match law with
  | .keepFirst => { flow with flowVariables := flow.flowVariables.addIfAbsent ⟨name, type⟩ }
  | .keepLast => { flow with flowVariables := flow.flowVariables.put ⟨name, type⟩ }

/-- The view state under an id. -/
def viewState? (flow : Flow) (id : String) : Option ViewState := flow.viewStates.find? id

/-- The class registered for a variable. -/
def variableClass? (flow : Flow) (name : String) : Option JavaClass :=
  (flow.flowVariables.find? (caseKey name)).map FlowVariable.type

theorem viewState?_createViewState (flow : Flow) (id viewId : String)
    (binder : BinderConfiguration) :
    (flow.createViewState id viewId binder).viewState? id =
      some ((flow.viewState? id).getD ⟨id, viewId, binder, [], none, []⟩) := by
  simp only [createViewState, viewState?, Keyed.find?_addIfAbsent, if_true]

theorem viewState?_updateViewState (flow : Flow) (id : String)
    {change : ViewState → ViewState} (hid : ∀ state, (change state).id = state.id) :
    (flow.updateViewState id change).viewState? id = (flow.viewState? id).map change := by
  apply Keyed.find?_modify
  intro state hstate
  rw [hid, hstate]

@[simp] theorem viewState?_createFlowVariable (law : VariableLaw) (flow : Flow)
    (name : String) (type : JavaClass) (id : String) :
    (flow.createFlowVariable law name type).viewState? id = flow.viewState? id := by
  cases law <;> rfl

@[simp] theorem variableClass?_createViewState (flow : Flow) (id viewId : String)
    (binder : BinderConfiguration) (name : String) :
    (flow.createViewState id viewId binder).variableClass? name = flow.variableClass? name := rfl

@[simp] theorem variableClass?_updateViewState (flow : Flow) (id : String)
    (change : ViewState → ViewState) (name : String) :
    (flow.updateViewState id change).variableClass? name = flow.variableClass? name := rfl

/-- A definition of a variable takes effect as the law says. -/
theorem variableClass?_createFlowVariable (law : VariableLaw) (flow : Flow) (name : String)
    (type : JavaClass) :
    (flow.createFlowVariable law name type).variableClass? name =
      some (law.redefine (flow.variableClass? name) type) := by
  unfold variableClass?
  cases law with
  | keepFirst =>
    simp only [createFlowVariable, Keyed.find?_addIfAbsent, FlowVariable.key, if_true]
    cases flow.flowVariables.find? (caseKey name) with
    | none => rfl
    | some before => rfl
  | keepLast =>
    simp only [createFlowVariable, Keyed.find?_put, FlowVariable.key, if_true]
    rfl

end Flow

end LemonCas.Webflow
