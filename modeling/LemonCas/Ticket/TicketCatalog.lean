import LemonCas.Ticket.Issuance
set_option autoImplicit false

/-!
# Ticket: finding the definition of a ticket by its id

The registry of tickets knows a ticket by its id alone.  `DefaultTicketCatalog.find`
reads the prefix off the id and looks for a definition with this prefix, letter case
aside, in the values of a hash map, whose order is not fixed.  The ids that are issued
here are found again as what they were issued for; only the receipts for
proxy-granting tickets, which are not stored, have no definition.
-/

namespace LemonCas.Ticket

open LemonCas.Foundation
open LemonCas.Java

/-- `org.apereo.cas.ticket.DefaultTicketDefinition`. -/
structure TicketDefinition where
  implementationClass : String
  ticketPrefix : String
  deriving DecidableEq, Repr

/-- `DefaultTicketCatalog`: the definitions under their prefixes. -/
abbrev TicketCatalog : Type := Keyed TicketDefinition.ticketPrefix

/-- The part of an id before its first dash. -/
def prefixOfId (ticketId : String) : String := String.ofList (beforeMark '-' ticketId.toList)

/-- `DefaultTicketCatalog.find`, when the map gives its values in this order. -/
def findDefinition (values : List TicketDefinition) (ticketId : String) :
    Option TicketDefinition :=
  values.find? fun definition =>
    equalsIgnoreCase (prefixOfId ticketId) definition.ticketPrefix

/-- `BaseTicketCatalogConfigurer.buildTicketDefinition`, and the registration of what
it gives: a definition that is there is looked up and put back.  A prefix that is
registered is found. -/
def buildAndRegister (catalog : TicketCatalog) (definition : TicketDefinition) : TicketCatalog :=
  if definition.ticketPrefix ∈ catalog.keys then
    match findDefinition catalog.entries definition.ticketPrefix with
    | some registered => catalog.put registered
    | none => catalog
  else catalog.put definition

/-- `CasCoreTicketCatalogConfiguration.configureTicketCatalog`. -/
def configureTicketCatalog (catalog : TicketCatalog) : TicketCatalog :=
  [⟨"org.apereo.cas.ticket.ProxyTicketImpl", "PT"⟩,
    ⟨"org.apereo.cas.ticket.ServiceTicketImpl", "ST"⟩,
    ⟨"org.apereo.cas.ticket.ProxyGrantingTicketImpl", "PGT"⟩,
    ⟨"org.apereo.cas.ticket.TicketGrantingTicketImpl", "TGT"⟩,
    ⟨"org.apereo.cas.ticket.TransientSessionTicketImpl", "TST"⟩].foldl buildAndRegister catalog

/-- The class of the tickets of a kind; a receipt is not a ticket. -/
def TicketKind.implementationClass : TicketKind → Option String
  | ticketGrantingTicket => some "org.apereo.cas.ticket.TicketGrantingTicketImpl"
  | proxyGrantingTicket => some "org.apereo.cas.ticket.ProxyGrantingTicketImpl"
  | proxyGrantingTicketIou => none
  | serviceTicket _ => some "org.apereo.cas.ticket.ServiceTicketImpl"
  | proxyTicket _ => some "org.apereo.cas.ticket.ProxyTicketImpl"

theorem TicketKind.implementationClass_eq_none_iff {kind : TicketKind} :
    kind.implementationClass = none ↔ kind = .proxyGrantingTicketIou := by
  cases kind <;> simp [implementationClass]

/-! ## Prefixes -/

/-- The prefix of an issued id is that of its kind, whatever number was drawn. -/
theorem prefixOfId_idOf {τ : Type} (settings : TicketSettings) (generators : GeneratorMap)
    (draw : Draw τ TicketRequest 64) :
    prefixOfId (idOf settings generators draw) = draw.request.kind.ticketPrefix := by
  rw [prefixOfId, idOf, TicketRequest.ticketId, UniqueTicketIdGenerator.toList_getNewTicketId,
    beforeMark_append draw.request.kind.dash_not_mem_ticketPrefix, String.ofList_toList]

/-- Where no two prefixes are equal up to letter case, the order of the values does not
matter: what is found is the definition whose prefix the id has. -/
theorem findDefinition_of_mem {values : List TicketDefinition}
    (hdistinct : (values.map fun definition => caseKey definition.ticketPrefix).Nodup)
    {definition : TicketDefinition} (hmem : definition ∈ values) {ticketId : String}
    (hid : prefixOfId ticketId = definition.ticketPrefix) :
    findDefinition values ticketId = some definition := by
  let byCase : Keyed fun definition : TicketDefinition => caseKey definition.ticketPrefix :=
    ⟨values, hdistinct⟩
  have hfound := Keyed.find?_of_mem (c := byCase) hmem
  rw [← hfound]
  unfold findDefinition Keyed.find?
  simp only [equalsIgnoreCase, hid, eq_comm, byCase]

/-! ## The tickets of a run -/

/-- The definitions after the start. -/
theorem entries_configureTicketCatalog :
    (configureTicketCatalog .empty).entries =
      [⟨"org.apereo.cas.ticket.ProxyTicketImpl", "PT"⟩,
        ⟨"org.apereo.cas.ticket.ServiceTicketImpl", "ST"⟩,
        ⟨"org.apereo.cas.ticket.ProxyGrantingTicketImpl", "PGT"⟩,
        ⟨"org.apereo.cas.ticket.TicketGrantingTicketImpl", "TGT"⟩,
        ⟨"org.apereo.cas.ticket.TransientSessionTicketImpl", "TST"⟩] := by
  decide

theorem nodup_caseKey_configureTicketCatalog :
    ((configureTicketCatalog .empty).entries.map fun definition =>
      caseKey definition.ticketPrefix).Nodup := by
  rw [entries_configureTicketCatalog]
  decide

/-- A kind of ticket is registered under its prefix with its class. -/
theorem mem_configureTicketCatalog {kind : TicketKind} {implementationClass : String}
    (hclass : kind.implementationClass = some implementationClass) :
    ⟨implementationClass, kind.ticketPrefix⟩ ∈ (configureTicketCatalog .empty).entries := by
  rw [entries_configureTicketCatalog]
  cases kind <;> cases hclass <;> simp [TicketKind.ticketPrefix]

/-- Every id issued in any run is found, whatever the order of the hash map, as what it
was issued for: with the class of the kind of ticket that was asked for, and not at all
for a receipt. -/
theorem findDefinition_issued (settings : TicketSettings) (generators : GeneratorMap)
    {τ : Type} [DecidableEq τ] (actions : List (TicketAction τ)) {values : List TicketDefinition}
    (hvalues : values.Perm (configureTicketCatalog .empty).entries) :
    ∀ draw ∈ (issue generators actions).served,
      findDefinition values (idOf settings generators draw) =
        draw.request.kind.implementationClass.map fun implementationClass =>
          ⟨implementationClass, draw.request.kind.ticketPrefix⟩ := by
  intro draw _
  have hdistinct : (values.map fun definition => caseKey definition.ticketPrefix).Nodup :=
    (hvalues.map _).nodup_iff.mpr nodup_caseKey_configureTicketCatalog
  have hid := prefixOfId_idOf settings generators draw
  cases hclass : draw.request.kind.implementationClass with
  | some implementationClass =>
    have hmem := hvalues.mem_iff.mpr (mem_configureTicketCatalog hclass)
    exact findDefinition_of_mem hdistinct hmem hid
  | none =>
    have hkind := TicketKind.implementationClass_eq_none_iff.mp hclass
    refine List.find?_eq_none.mpr ?_
    intro definition hdefinition
    have hregistered := hvalues.mem_iff.mp hdefinition
    rw [hid, hkind, TicketKind.ticketPrefix]
    have hall : ((configureTicketCatalog .empty).entries.all fun definition =>
        !equalsIgnoreCase "PGTIOU" definition.ticketPrefix) = true := by
      rw [entries_configureTicketCatalog]
      decide
    simpa using List.all_eq_true.mp hall definition hregistered

theorem findDefinition_twoLogins :
    let draw : Draw Bool TicketRequest 64 := ⟨false, ⟨.ticketGrantingTicket, fun _ => 0⟩, 1⟩
    findDefinition (configureTicketCatalog .empty).entries.reverse
        (idOf (applicationSettings "node1") deployedGeneratorsMap draw) =
      some ⟨"org.apereo.cas.ticket.TicketGrantingTicketImpl", "TGT"⟩ := by
  intro draw
  have hdraw : draw ∈ (issue deployedGeneratorsMap twoLogins).served := List.mem_cons_self
  exact findDefinition_issued (applicationSettings "node1") deployedGeneratorsMap twoLogins
    (List.reverse_perm _) draw hdraw

end LemonCas.Ticket
