import LemonCas.Foundation.Declarations
set_option autoImplicit false

/-!
# Startup: whose beans are used

Five configuration classes of the application declare beans, and seven of the eight
names they declare are names of CAS's own configuration classes as well.  The container
loads one class after the other, in an order the annotations `AutoConfigureBefore` and
`AutoConfigureAfter` restrict.  A bean method with `ConditionalOnMissingBean` is skipped
when its name is taken; any other replaces what is defined
(`spring.main.allow-bean-definition-overriding` is set).

What the container does with a declaration is taken as a parameter with those laws.  Of
CAS's classes only the bean methods whose names the application declares are listed; no
other class of the deployment declares one of these names.
-/

namespace LemonCas.Startup

open LemonCas.Foundation

/-- The configuration classes of the application, and those of CAS they meet. -/
inductive ConfigurationClass where
  | ticketsConfiguration
  | casServiceTicketIdGeneratorsConfiguration
  | customAuthenticationEventExecutionPlanConfiguration
  | customAuthenticationWebflowConfiguration
  | customLogoutExecutionPlanConfiguration
  | casCoreTicketsConfiguration
  | casDefaultServiceTicketIdGeneratorsConfiguration
  | casCoreAuthenticationHandlersConfiguration
  | casWebflowContextConfiguration
  | casCoreLogoutConfiguration
deriving DecidableEq, Repr

/-- A method that makes a bean, by the name of the bean. -/
structure BeanMethod where
  name : String
  conditionalOnMissingBean : Bool := false

/-- The name under which both CAS and the application declare the logout. -/
def casCoreLogoutExecutionPlanConfigurer : String := "casCoreLogoutExecutionPlanConfigurer"

namespace ConfigurationClass

/-- The bean methods of a class. -/
def beanMethods : ConfigurationClass → List BeanMethod
  | ticketsConfiguration =>
    [⟨"proxyGrantingTicketUniqueIdGenerator", false⟩,
      ⟨"ticketGrantingTicketUniqueIdGenerator", false⟩,
      ⟨"proxy20TicketUniqueIdGenerator", false⟩]
  | casServiceTicketIdGeneratorsConfiguration =>
    [⟨"serviceTicketUniqueIdGenerator", false⟩,
      ⟨"casDefaultServiceTicketUniqueTicketIdGeneratorConfigurer", false⟩]
  | customAuthenticationEventExecutionPlanConfiguration =>
    [⟨"customAuthenticationHandler", false⟩]
  | customAuthenticationWebflowConfiguration => [⟨"defaultWebflowConfigurer", false⟩]
  | customLogoutExecutionPlanConfiguration => [⟨casCoreLogoutExecutionPlanConfigurer, false⟩]
  | casCoreTicketsConfiguration =>
    [⟨"proxyGrantingTicketUniqueIdGenerator", true⟩,
      ⟨"ticketGrantingTicketUniqueIdGenerator", true⟩,
      ⟨"proxy20TicketUniqueIdGenerator", true⟩]
  | casDefaultServiceTicketIdGeneratorsConfiguration =>
    [⟨"serviceTicketUniqueIdGenerator", false⟩,
      ⟨"casDefaultServiceTicketUniqueTicketIdGeneratorConfigurer", false⟩]
  | casCoreAuthenticationHandlersConfiguration => []
  | casWebflowContextConfiguration => [⟨"defaultWebflowConfigurer", true⟩]
  | casCoreLogoutConfiguration => [⟨casCoreLogoutExecutionPlanConfigurer, false⟩]

/-- `AutoConfigureBefore`: the classes it is to be loaded before. -/
def autoConfigureBefore : ConfigurationClass → List ConfigurationClass
  | ticketsConfiguration => [casCoreTicketsConfiguration]
  | customAuthenticationWebflowConfiguration => [casWebflowContextConfiguration]
  | customLogoutExecutionPlanConfiguration => [casCoreLogoutConfiguration]
  | _ => []

/-- `AutoConfigureAfter`: the classes it is to be loaded after. -/
def autoConfigureAfter : ConfigurationClass → List ConfigurationClass
  | casServiceTicketIdGeneratorsConfiguration =>
    [casDefaultServiceTicketIdGeneratorsConfiguration]
  | customAuthenticationEventExecutionPlanConfiguration =>
    [casCoreAuthenticationHandlersConfiguration]
  | _ => []

/-- The classes of the application, each with the class of CAS it names. -/
def counterparts : List (ConfigurationClass × ConfigurationClass) :=
  [(ticketsConfiguration, casCoreTicketsConfiguration),
    (casServiceTicketIdGeneratorsConfiguration, casDefaultServiceTicketIdGeneratorsConfiguration),
    (customAuthenticationEventExecutionPlanConfiguration,
      casCoreAuthenticationHandlersConfiguration),
    (customAuthenticationWebflowConfiguration, casWebflowContextConfiguration),
    (customLogoutExecutionPlanConfiguration, casCoreLogoutConfiguration)]

/-- The class declares the name, on whatever condition. -/
def Declares (c : ConfigurationClass) (name : String) : Prop :=
  name ∈ c.beanMethods.map fun method => method.name

/-- The class declares the name without a condition. -/
def Replaces (c : ConfigurationClass) (name : String) : Prop :=
  ∃ method ∈ c.beanMethods, method.name = name ∧ method.conditionalOnMissingBean = false

instance (c : ConfigurationClass) (name : String) : Decidable (c.Declares name) :=
  inferInstanceAs (Decidable (name ∈ c.beanMethods.map fun method => method.name))

instance (c : ConfigurationClass) (name : String) : Decidable (c.Replaces name) :=
  inferInstanceAs (Decidable (∃ method ∈ c.beanMethods,
    method.name = name ∧ method.conditionalOnMissingBean = false))

/-- What loading the class declares; the definition is the class that makes the bean. -/
def declarations (c : ConfigurationClass) : List (Declaration String ConfigurationClass) :=
  c.beanMethods.map fun method => ⟨method.name, method.conditionalOnMissingBean, c⟩

/-- A class declares a name once. -/
theorem nodup_names (c : ConfigurationClass) :
    (c.beanMethods.map fun method => method.name).Nodup := by
  cases c <;> decide

/-- The application declares its beans without condition. -/
theorem replaces_of_declares {c rival : ConfigurationClass} (hown : (c, rival) ∈ counterparts)
    {name : String} (hname : c.Declares name) : c.Replaces name := by
  have hall : ∀ pair ∈ counterparts, ∀ method ∈ pair.1.beanMethods,
      method.conditionalOnMissingBean = false := by decide
  obtain ⟨method, hmethod, hmethodName⟩ := List.mem_map.mp hname
  exact ⟨method, hmethod, hmethodName, hall (c, rival) hown method hmethod⟩

/-- A name of the application is declared without condition by the class itself and its
counterpart at most. -/
theorem eq_or_eq_of_replaces {c rival : ConfigurationClass} (hown : (c, rival) ∈ counterparts)
    {name : String} (hname : c.Declares name) {other : ConfigurationClass}
    (hother : other.Replaces name) : other = c ∨ other = rival := by
  have hall : ∀ pair ∈ counterparts, ∀ name ∈ pair.1.beanMethods.map (fun method => method.name),
      ∀ method ∈ other.beanMethods, method.name = name ∧ method.conditionalOnMissingBean = false →
        other = pair.1 ∨ other = pair.2 := by
    cases other <;> decide
  obtain ⟨method, hmethod, hreplaces⟩ := hother
  exact hall (c, rival) hown name hname method hmethod hreplaces

end ConfigurationClass

open ConfigurationClass

/-! ## Orders of loading -/

/-- An order in which the container may load the classes: every class, and each once. -/
structure LoadOrder where
  classes : List ConfigurationClass
  complete : ∀ c, c ∈ classes
  nodup : classes.Nodup

namespace LoadOrder

/-- The first class is loaded before the second. -/
def Before (order : LoadOrder) (c d : ConfigurationClass) : Prop :=
  order.classes.idxOf c < order.classes.idxOf d

instance (order : LoadOrder) (c d : ConfigurationClass) : Decidable (order.Before c d) :=
  inferInstanceAs (Decidable (_ < _))

/-- The order keeps to the annotations. -/
def AsAnnotated (order : LoadOrder) : Prop :=
  ∀ c, (∀ d ∈ c.autoConfigureBefore, order.Before c d) ∧
    ∀ d ∈ c.autoConfigureAfter, order.Before d c

/-- Of two classes one is loaded before the other. -/
theorem before_of_not_before {order : LoadOrder} {c d : ConfigurationClass} (hne : c ≠ d)
    (hnot : ¬order.Before c d) : order.Before d c := by
  have hplaces : order.classes.idxOf d ≠ order.classes.idxOf c := fun heq =>
    hne ((List.idxOf_inj (order.complete d)).mp heq).symm
  unfold Before at hnot ⊢
  omega

/-- A class is loaded at one place, and what is loaded later is not loaded before it. -/
theorem exists_split (order : LoadOrder) (c : ConfigurationClass) :
    ∃ earlier later, order.classes = earlier ++ c :: later ∧
      ∀ d ∈ later, d ≠ c ∧ ¬order.Before d c := by
  obtain ⟨earlier, later, hsplit⟩ := List.append_of_mem (order.complete c)
  refine ⟨earlier, later, hsplit, ?_⟩
  intro d hd
  have hnodup := order.nodup
  rw [hsplit] at hnodup
  obtain ⟨_, htail, hdisjoint⟩ := List.nodup_append'.mp hnodup
  have hc : c ∉ earlier := fun h => hdisjoint h List.mem_cons_self
  have hdearlier : d ∉ earlier := fun h => hdisjoint h (List.mem_cons_of_mem c hd)
  have hne : d ≠ c := fun heq => (List.nodup_cons.mp htail).1 (heq ▸ hd)
  refine ⟨hne, ?_⟩
  rw [Before, hsplit, List.idxOf_append_of_notMem hc, List.idxOf_append_of_notMem hdearlier,
    List.idxOf_cons_self]
  omega

/-- Everything the container is told while it starts, in order. -/
def declarations (order : LoadOrder) : List (Declaration String ConfigurationClass) :=
  order.classes.flatMap ConfigurationClass.declarations

/-- The class whose bean is found under a name when the application has started. -/
def definedBy (order : LoadOrder) (container : Container String ConfigurationClass)
    (name : String) : Option ConfigurationClass :=
  container.lookup (container.defineAll order.declarations) name

/-- The bean is that of the last class that declares the name without a condition. -/
theorem definedBy_of_last (container : Container String ConfigurationClass) {order : LoadOrder}
    {c : ConfigurationClass} {name : String} (hreplaces : c.Replaces name)
    (hlast : ∀ d, d.Replaces name → d ≠ c → order.Before d c) :
    order.definedBy container name = some c := by
  obtain ⟨method, hmethod, hname, hcondition⟩ := hreplaces
  subst hname
  obtain ⟨earlier, later, hsplit, hlater⟩ := order.exists_split c
  obtain ⟨front, back, hmethods⟩ := List.append_of_mem hmethod
  let declaration : Declaration String ConfigurationClass :=
    ⟨method.name, method.conditionalOnMissingBean, c⟩
  let declarationOf : BeanMethod → Declaration String ConfigurationClass := fun method =>
    ⟨method.name, method.conditionalOnMissingBean, c⟩
  have hdeclarations : order.declarations =
      (earlier.flatMap ConfigurationClass.declarations ++ front.map declarationOf) ++
        declaration :: (back.map declarationOf ++
          later.flatMap ConfigurationClass.declarations) := by
    rw [declarations, hsplit, List.flatMap_append, List.flatMap_cons,
      ConfigurationClass.declarations, hmethods, List.map_append, List.map_cons]
    simp [declaration, declarationOf]
  have hprevails : Container.prevailing method.name order.declarations = some declaration := by
    rw [hdeclarations]
    refine Container.prevailing_of_last declaration hcondition ?_
    intro other hother hsame
    rcases List.mem_append.mp hother with hback | hlaterClass
    · -- the class itself declares the name once
      obtain ⟨again, hagain, rfl⟩ := List.mem_map.mp hback
      have hnodup := c.nodup_names
      rw [hmethods, List.map_append, List.map_cons] at hnodup
      have hfresh := (List.nodup_cons.mp (List.nodup_append'.mp hnodup).2.1).1
      exact absurd (List.mem_map.mpr ⟨again, hagain, hsame⟩) hfresh
    · obtain ⟨d, hd, hdeclared⟩ := List.mem_flatMap.mp hlaterClass
      obtain ⟨again, hagain, rfl⟩ := List.mem_map.mp hdeclared
      by_contra hyields
      obtain ⟨hne, hnot⟩ := hlater d hd
      exact hnot (hlast d ⟨again, hagain, hsame, Bool.not_eq_true _ ▸ hyields⟩ hne)
  rw [definedBy, Container.lookup_defineAll, hprevails]
  rfl

/-- Under a name of the application the bean is that of the application, unless its
counterpart declares the name without a condition too and is loaded later. -/
theorem definedBy_eq (container : Container String ConfigurationClass) (order : LoadOrder)
    {c rival : ConfigurationClass} (hown : (c, rival) ∈ counterparts) {name : String}
    (hname : c.Declares name) :
    order.definedBy container name =
      some (if rival.Replaces name ∧ order.Before c rival then rival else c) := by
  have hne : rival ≠ c := by
    have hall : ∀ pair ∈ counterparts, pair.2 ≠ pair.1 := by decide
    exact hall (c, rival) hown
  by_cases hloses : rival.Replaces name ∧ order.Before c rival
  · rw [if_pos hloses]
    refine definedBy_of_last container hloses.1 ?_
    intro d hd hdne
    rcases eq_or_eq_of_replaces hown hname hd with rfl | rfl
    · exact hloses.2
    · exact absurd rfl hdne
  · rw [if_neg hloses]
    refine definedBy_of_last container (replaces_of_declares hown hname) ?_
    intro d hd hdne
    rcases eq_or_eq_of_replaces hown hname hd with rfl | rfl
    · exact absurd rfl hdne
    · exact before_of_not_before hne.symm fun hbefore => hloses ⟨hd, hbefore⟩

/-- In every order that keeps to the annotations, the beans of the application are used
under all names but one: under the name of the logout configurer it is CAS's own. -/
theorem definedBy_annotated (container : Container String ConfigurationClass)
    {order : LoadOrder} (hannotated : order.AsAnnotated) {c rival : ConfigurationClass}
    (hown : (c, rival) ∈ counterparts) {name : String} (hname : c.Declares name) :
    order.definedBy container name =
      some (if name = casCoreLogoutExecutionPlanConfigurer then rival else c) := by
  have hlogout : ∀ pair ∈ counterparts,
      ∀ name ∈ pair.1.beanMethods.map (fun method => method.name),
        if name = casCoreLogoutExecutionPlanConfigurer then
          pair.2.Replaces name ∧ pair.2 ∈ pair.1.autoConfigureBefore
        else pair.2.Replaces name → pair.2 ∈ pair.1.autoConfigureAfter := by decide
  have hdeclared := hlogout (c, rival) hown name hname
  rw [definedBy_eq container order hown hname]
  by_cases hsame : name = casCoreLogoutExecutionPlanConfigurer
  · rw [if_pos hsame] at hdeclared ⊢
    rw [if_pos ⟨hdeclared.1, (hannotated c).1 rival hdeclared.2⟩]
  · rw [if_neg hsame] at hdeclared ⊢
    rw [if_neg]
    intro hloses
    have hafter := (hannotated c).2 rival (hdeclared hloses.1)
    exact Nat.lt_asymm hloses.2 hafter

/-- An order that keeps to the annotations. -/
def applicationOrder : LoadOrder where
  classes :=
    [.casCoreAuthenticationHandlersConfiguration,
      .casDefaultServiceTicketIdGeneratorsConfiguration,
      .casServiceTicketIdGeneratorsConfiguration,
      .customAuthenticationEventExecutionPlanConfiguration,
      .customAuthenticationWebflowConfiguration, .customLogoutExecutionPlanConfiguration,
      .ticketsConfiguration, .casCoreLogoutConfiguration, .casCoreTicketsConfiguration,
      .casWebflowContextConfiguration]
  complete := by
    intro c
    cases c <;> decide
  nodup := by decide

theorem asAnnotated_applicationOrder : applicationOrder.AsAnnotated := by
  intro c
  cases c <;> decide

theorem definedBy_annotated_logout :
    applicationOrder.definedBy (keyedContainer String ConfigurationClass)
        casCoreLogoutExecutionPlanConfigurer =
      some .casCoreLogoutConfiguration :=
  definedBy_annotated (keyedContainer String ConfigurationClass) asAnnotated_applicationOrder
    (c := .customLogoutExecutionPlanConfiguration) (by decide) (by decide)

end LoadOrder

end LemonCas.Startup
