import LemonCas.Foundation.Ordered
import LemonCas.Foundation.Program
import LemonCas.Startup.Configurations
set_option autoImplicit false

/-!
# Logout: what the end of a session does

When a ticket-granting ticket is destroyed, CAS's `DefaultLogoutManager` asks the message
handlers of its plan to tell the services the ticket was used for, and then runs the
post-processors of the plan.  The plan is filled by the configurer found under the name
`casCoreLogoutExecutionPlanConfigurer`, a name that both CAS and the application declare.
This module follows a logout from the order in which the configurations are loaded to
what becomes of the ticket.

The message handler of CAS, the requests it makes and the deletion of a ticket from the
registry are parameters: they act on a store and may throw.
-/

namespace LemonCas.Logout

open LemonCas.Foundation
open LemonCas.Startup

/-- A service a ticket was used for. -/
structure Service where
  id : String
  /-- `service instanceof WebApplicationService` -/
  isWebApplicationService : Bool
deriving DecidableEq, Repr

/-- What a logout reads off a ticket-granting ticket: the services under the ids of the
tickets given out for them, and the tickets that descend from it. -/
structure TicketGrantingTicket where
  id : String
  services : List (String × Service)
  proxyGrantingTickets : List (String × Service)
  descendantTickets : List String

section Plan

variable {σ ε ρ : Type}

/-- `LogoutPostProcessor`. -/
structure LogoutPostProcessor (σ ε : Type) where
  order : ℤ
  handle : TicketGrantingTicket → Program σ ε Unit

/-- `SingleLogoutServiceMessageHandler`: the requests it answers with may be missing. -/
structure SingleLogoutServiceMessageHandler (σ ε ρ : Type) where
  order : ℤ
  supports : Service → Program σ ε Bool
  handle : Service → String → TicketGrantingTicket → Program σ ε (List (Option ρ))

/-- `DefaultLogoutExecutionPlan`. -/
structure LogoutExecutionPlan (σ ε ρ : Type) where
  handlers : List (LogoutPostProcessor σ ε)
  singleLogoutServiceMessageHandlers : List (SingleLogoutServiceMessageHandler σ ε ρ)

namespace LogoutExecutionPlan

/-- The plan nothing is registered in. -/
def empty : LogoutExecutionPlan σ ε ρ := ⟨[], []⟩

def registerLogoutPostProcessor (plan : LogoutExecutionPlan σ ε ρ)
    (handler : LogoutPostProcessor σ ε) : LogoutExecutionPlan σ ε ρ :=
  { plan with handlers := plan.handlers ++ [handler] }

def registerSingleLogoutServiceMessageHandler (plan : LogoutExecutionPlan σ ε ρ)
    (handler : SingleLogoutServiceMessageHandler σ ε ρ) : LogoutExecutionPlan σ ε ρ :=
  { plan with
    singleLogoutServiceMessageHandlers := plan.singleLogoutServiceMessageHandlers ++ [handler] }

def getLogoutPostProcessor (plan : LogoutExecutionPlan σ ε ρ) :
    List (LogoutPostProcessor σ ε) :=
  sortByOrder (fun handler => handler.order) plan.handlers

def getSingleLogoutServiceMessageHandlers (plan : LogoutExecutionPlan σ ε ρ) :
    List (SingleLogoutServiceMessageHandler σ ε ρ) :=
  sortByOrder (fun handler => handler.order) plan.singleLogoutServiceMessageHandlers

end LogoutExecutionPlan

/-! ## The manager -/

/-- The answers of all elements of a list, asked in turn. -/
def collect {α β : Type} (ask : α → Program σ ε (List β)) : List α → Program σ ε (List β)
  | [] => pure []
  | a :: rest => do
    let answers ← ask a
    let others ← collect ask rest
    pure (answers ++ others)

theorem collect_of_silent {α β : Type} {ask : α → Program σ ε (List β)} {l : List α}
    (hsilent : ∀ a, ask a = pure []) : collect ask l = pure [] := by
  induction l with
  | nil => rfl
  | cons a rest ih => rw [collect, hsilent, pure_bind, ih, pure_bind, List.nil_append]

/-- One handler and one service: the requests the handler makes, if it supports it. -/
def requestsOf (ticket : TicketGrantingTicket) (entry : String × Service)
    (handler : SingleLogoutServiceMessageHandler σ ε ρ) : Program σ ε (List ρ) := do
  let supported ← handler.supports entry.2
  if supported = true then
    let requests ← handler.handle entry.2 entry.1 ticket
    pure (requests.filterMap id)
  else pure []

namespace TicketGrantingTicket

/-- The services that can be told of a logout, those with proxy tickets last. -/
def webApplicationServices (ticket : TicketGrantingTicket) : List (String × Service) :=
  (ticket.services ++ ticket.proxyGrantingTickets).filter fun entry =>
    entry.2.isWebApplicationService

end TicketGrantingTicket

/-- `DefaultLogoutManager`. -/
structure LogoutManager (σ ε ρ : Type) where
  singleLogoutCallbacksDisabled : Bool
  logoutExecutionPlan : LogoutExecutionPlan σ ε ρ

namespace LogoutManager

def performLogoutForTicket (manager : LogoutManager σ ε ρ) (ticket : TicketGrantingTicket) :
    Program σ ε (List ρ) :=
  collect (fun entry =>
    collect (requestsOf ticket entry)
      manager.logoutExecutionPlan.getSingleLogoutServiceMessageHandlers)
    ticket.webApplicationServices

def performLogout (manager : LogoutManager σ ε ρ) (ticket : TicketGrantingTicket) :
    Program σ ε (List ρ) :=
  if manager.singleLogoutCallbacksDisabled = true then pure []
  else do
    let logoutRequests ← manager.performLogoutForTicket ticket
    manager.logoutExecutionPlan.getLogoutPostProcessor.forM fun handler => handler.handle ticket
    pure logoutRequests

end LogoutManager

/-! ## The two configurers -/

/-- `CustomLogoutPostProcessor`: it writes to the log only. -/
def customLogoutPostProcessor : LogoutPostProcessor σ ε where
  order := -2147483648
  handle := fun _ => pure ()

/-- `CustomLogoutExecutionPlanConfigurer.configureLogoutExecutionPlan` -/
def customConfigureLogoutExecutionPlan (plan : LogoutExecutionPlan σ ε ρ) :
    LogoutExecutionPlan σ ε ρ :=
  plan.registerLogoutPostProcessor customLogoutPostProcessor

/-- What CAS's own configuration of the logout works with: the properties `cas.slo.disabled`
and `cas.logout.removeDescendantTickets`, its message handler and the ticket registry. -/
structure CoreLogout (σ ε ρ : Type) where
  disabled : Bool
  removeDescendantTickets : Bool
  defaultSingleLogoutServiceMessageHandler : SingleLogoutServiceMessageHandler σ ε ρ
  deleteTicket : String → Program σ ε Unit

namespace CoreLogout

/-- The post-processor that deletes the tickets descending from a ticket. -/
def removingDescendantTickets (core : CoreLogout σ ε ρ) : LogoutPostProcessor σ ε where
  order := -2147483648
  handle := fun ticket => ticket.descendantTickets.forM core.deleteTicket

/-- `casCoreLogoutExecutionPlanConfigurer` of `CasCoreLogoutConfiguration`. -/
def configureLogoutExecutionPlan (core : CoreLogout σ ε ρ) (plan : LogoutExecutionPlan σ ε ρ) :
    LogoutExecutionPlan σ ε ρ :=
  let plan := plan.registerSingleLogoutServiceMessageHandler
    core.defaultSingleLogoutServiceMessageHandler
  if core.removeDescendantTickets = true then
    plan.registerLogoutPostProcessor core.removingDescendantTickets
  else plan

/-- The plan of the started application: filled by the configurer that is found. -/
def logoutExecutionPlan (core : CoreLogout σ ε ρ)
    (container : Container String ConfigurationClass) (order : LoadOrder) :
    LogoutExecutionPlan σ ε ρ :=
  match order.definedBy container casCoreLogoutExecutionPlanConfigurer with
  | some .customLogoutExecutionPlanConfiguration => customConfigureLogoutExecutionPlan .empty
  | some .casCoreLogoutConfiguration => core.configureLogoutExecutionPlan .empty
  | _ => .empty

/-- The manager of the started application. -/
def logoutManager (core : CoreLogout σ ε ρ)
    (container : Container String ConfigurationClass) (order : LoadOrder) :
    LogoutManager σ ε ρ :=
  ⟨core.disabled, core.logoutExecutionPlan container order⟩

/-! ## A logout of the application -/

/-- A logout as CAS configures it: every web application the ticket was used for is told,
and then the descending tickets are deleted. -/
def logout (core : CoreLogout σ ε ρ) (ticket : TicketGrantingTicket) : Program σ ε (List ρ) :=
  if core.disabled = true then pure []
  else do
    let requests ← collect
      (fun entry => requestsOf ticket entry core.defaultSingleLogoutServiceMessageHandler)
      ticket.webApplicationServices
    if core.removeDescendantTickets = true then
      ticket.descendantTickets.forM core.deleteTicket
    pure requests

/-- With the configurer of CAS a logout is the one CAS configures. -/
theorem performLogout_configured (core : CoreLogout σ ε ρ) (ticket : TicketGrantingTicket) :
    LogoutManager.performLogout ⟨core.disabled, core.configureLogoutExecutionPlan .empty⟩ ticket =
      core.logout ticket := by
  have hone : ∀ entry, collect (requestsOf ticket entry)
      [core.defaultSingleLogoutServiceMessageHandler] =
        requestsOf ticket entry core.defaultSingleLogoutServiceMessageHandler := by
    intro entry
    simp only [collect, pure_bind, List.append_nil, bind_pure]
  have hhandlers :
      (core.configureLogoutExecutionPlan .empty).getSingleLogoutServiceMessageHandlers =
        [core.defaultSingleLogoutServiceMessageHandler] := by
    unfold configureLogoutExecutionPlan
    split <;> rfl
  have hrequests : LogoutManager.performLogoutForTicket
      ⟨core.disabled, core.configureLogoutExecutionPlan .empty⟩ ticket =
        collect (fun entry => requestsOf ticket entry core.defaultSingleLogoutServiceMessageHandler)
          ticket.webApplicationServices := by
    simp only [LogoutManager.performLogoutForTicket, hhandlers, hone]
  unfold LogoutManager.performLogout logout
  rw [hrequests]
  cases hremove : core.removeDescendantTickets with
  | false =>
    have hprocessors : (core.configureLogoutExecutionPlan .empty).getLogoutPostProcessor = [] := by
      rw [configureLogoutExecutionPlan, hremove]
      rfl
    simp [hprocessors]
  | true =>
    have hprocessors : (core.configureLogoutExecutionPlan .empty).getLogoutPostProcessor =
        [core.removingDescendantTickets] := by
      rw [configureLogoutExecutionPlan, hremove]
      rfl
    simp [hprocessors, removingDescendantTickets]

/-- With the configurer of the application no service is told and no ticket is deleted. -/
theorem performLogout_customConfigured (disabled : Bool) (ticket : TicketGrantingTicket) :
    LogoutManager.performLogout
      (⟨disabled, customConfigureLogoutExecutionPlan .empty⟩ : LogoutManager σ ε ρ) ticket =
        pure [] := by
  have hrequests : LogoutManager.performLogoutForTicket
      (⟨disabled, customConfigureLogoutExecutionPlan .empty⟩ : LogoutManager σ ε ρ) ticket =
        pure [] :=
    collect_of_silent fun _ => rfl
  have hprocessors : (customConfigureLogoutExecutionPlan
      (.empty : LogoutExecutionPlan σ ε ρ)).getLogoutPostProcessor = [customLogoutPostProcessor] :=
    rfl
  unfold LogoutManager.performLogout
  rw [hrequests, hprocessors]
  cases disabled <;> rfl

/-- The plan is filled by one of the two configurers, never by both: that of the class that
is loaded later. -/
theorem logoutExecutionPlan_eq (core : CoreLogout σ ε ρ)
    (container : Container String ConfigurationClass) (order : LoadOrder) :
    core.logoutExecutionPlan container order =
      if order.Before .customLogoutExecutionPlanConfiguration .casCoreLogoutConfiguration then
        core.configureLogoutExecutionPlan .empty
      else customConfigureLogoutExecutionPlan .empty := by
  have hown : (ConfigurationClass.customLogoutExecutionPlanConfiguration,
      ConfigurationClass.casCoreLogoutConfiguration) ∈ ConfigurationClass.counterparts := by decide
  have hname : ConfigurationClass.customLogoutExecutionPlanConfiguration.Declares
      casCoreLogoutExecutionPlanConfigurer := by decide
  have hreplaces : ConfigurationClass.casCoreLogoutConfiguration.Replaces
      casCoreLogoutExecutionPlanConfigurer := by decide
  unfold logoutExecutionPlan
  rw [LoadOrder.definedBy_eq container order hown hname]
  by_cases hbefore :
      order.Before .customLogoutExecutionPlanConfiguration .casCoreLogoutConfiguration
  · rw [if_pos ⟨hreplaces, hbefore⟩, if_pos hbefore]
  · rw [if_neg (fun h => hbefore h.2), if_neg hbefore]

/-- Every logout of the started application, for every ticket and in every order of
loading, is either the one CAS configures, without the post-processor of the application,
or does nothing at all: no service is told and no ticket deleted.  It is the first exactly
when the configuration of the application is loaded before that of CAS, as annotated. -/
theorem performLogout_eq (core : CoreLogout σ ε ρ)
    (container : Container String ConfigurationClass) (order : LoadOrder)
    (ticket : TicketGrantingTicket) :
    (core.logoutManager container order).performLogout ticket =
      if order.Before .customLogoutExecutionPlanConfiguration .casCoreLogoutConfiguration then
        core.logout ticket
      else pure [] := by
  rw [logoutManager, logoutExecutionPlan_eq]
  split
  · exact core.performLogout_configured ticket
  · exact performLogout_customConfigured core.disabled ticket

end CoreLogout

end Plan

end LemonCas.Logout
