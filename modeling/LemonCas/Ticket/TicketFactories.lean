import LemonCas.Foundation.Keyed
import LemonCas.Ticket.UniqueTicketIdGenerator
set_option autoImplicit false

/-!
# Ticket: which generator makes which id

The generators are the beans of `TicketsConfiguration` and
`CasServiceTicketIdGeneratorsConfiguration`, and one generator each that the factories
of service tickets and of proxy tickets fall back on.  A factory chooses by the class
of the service: it consults the map the configurers filled, and what it finds there is
also what it uses for a kind of ticket the configurer did not have in mind.  The
generator made for proxy tickets is asked for the ids of proxy-granting-ticket
receipts only.
-/

namespace LemonCas.Ticket

open LemonCas.Foundation
open LemonCas.Java

/-! ## Configuration -/

/-- The suffixes under `lemon.ticket`, the maximal lengths under `cas.ticket`, and the
name of the machine. -/
structure TicketSettings where
  tgtSuffix : JString
  pgtSuffix : JString
  ptSuffix : JString
  stSuffix : JString
  tgtMaxLength : ℕ
  pgtMaxLength : ℕ
  stMaxLength : ℕ
  localHostName : String
  deriving DecidableEq, Repr

/-- The generator objects. -/
inductive GeneratorBean where
  | ticketGrantingTicket
  | proxyGrantingTicket
  | proxy20Ticket
  | serviceTicket
  /-- made by `DefaultServiceTicketFactory` for itself -/
  | defaultServiceTicket
  /-- made by `DefaultProxyTicketFactory` for itself -/
  | defaultProxyTicket
  deriving DecidableEq, Repr

namespace TicketSettings

/-- `TicketsConfiguration.proxyGrantingTicketUniqueIdGenerator`. -/
def proxyGrantingTicketUniqueIdGenerator (settings : TicketSettings) :
    UniqueTicketIdGenerator :=
  .newHostNameBased settings.localHostName settings.tgtMaxLength settings.pgtSuffix

/-- `TicketsConfiguration.ticketGrantingTicketUniqueIdGenerator`. -/
def ticketGrantingTicketUniqueIdGenerator (settings : TicketSettings) :
    UniqueTicketIdGenerator :=
  .newHostNameBased settings.localHostName settings.tgtMaxLength settings.tgtSuffix

/-- `TicketsConfiguration.proxy20TicketUniqueIdGenerator`. -/
def proxy20TicketUniqueIdGenerator (settings : TicketSettings) : UniqueTicketIdGenerator :=
  .newHostNameBased settings.localHostName settings.pgtMaxLength settings.ptSuffix

/-- `CasServiceTicketIdGeneratorsConfiguration.serviceTicketUniqueIdGenerator`. -/
def serviceTicketUniqueIdGenerator (settings : TicketSettings) : UniqueTicketIdGenerator :=
  .newHostNameBased settings.localHostName settings.stMaxLength settings.stSuffix

/-- The generator behind each object. -/
def generator (settings : TicketSettings) : GeneratorBean → UniqueTicketIdGenerator
  | .ticketGrantingTicket => settings.ticketGrantingTicketUniqueIdGenerator
  | .proxyGrantingTicket => settings.proxyGrantingTicketUniqueIdGenerator
  | .proxy20Ticket => settings.proxy20TicketUniqueIdGenerator
  | .serviceTicket => settings.serviceTicketUniqueIdGenerator
  | .defaultServiceTicket => .newDefault
  | .defaultProxyTicket => .newDefault

end TicketSettings

/-- The generators registered for classes of services. -/
abbrev GeneratorMap : Type := Keyed (Prod.fst : String × GeneratorBean → String)

/-- `org.apereo.cas.authentication.principal.SimpleWebApplicationServiceImpl`, by name. -/
def simpleWebApplicationServiceImpl : String :=
  "org.apereo.cas.authentication.principal.SimpleWebApplicationServiceImpl"

/-- `casDefaultServiceTicketUniqueTicketIdGeneratorConfigurer`. -/
def casDefaultServiceTicketUniqueTicketIdGeneratorConfigurer : List (String × GeneratorBean) :=
  [(simpleWebApplicationServiceImpl, .serviceTicket)]

/-- `CasCoreTicketIdGeneratorsConfiguration.uniqueIdGeneratorsMap`. -/
def uniqueIdGeneratorsMap (configurers : List (List (String × GeneratorBean))) : GeneratorMap :=
  configurers.flatten.foldl Keyed.put .empty

/-- The map of the deployment: the bean of the repository takes the place of the one of
the same name that it was written after. -/
def deployedGeneratorsMap : GeneratorMap :=
  uniqueIdGeneratorsMap [casDefaultServiceTicketUniqueTicketIdGeneratorConfigurer]

/-! ## Requests for an id -/

/-- What an id is made for.  Tickets for a service are asked for with the class of the
service. -/
inductive TicketKind where
  | ticketGrantingTicket
  | proxyGrantingTicket
  /-- the receipt `Cas20ProxyHandler` sends for a proxy-granting ticket -/
  | proxyGrantingTicketIou
  | serviceTicket (serviceClass : String)
  | proxyTicket (serviceClass : String)
  deriving DecidableEq, Repr

/-- The object a factory asks for a class of services: the one registered for the
class, and its own when there is none. -/
def GeneratorMap.generatorFor (generators : GeneratorMap) (own : GeneratorBean)
    (serviceClass : String) : GeneratorBean :=
  ((generators.find? serviceClass).map Prod.snd).getD own

namespace TicketKind

/-- The prefix the id is asked for with. -/
def ticketPrefix : TicketKind → String
  | ticketGrantingTicket => "TGT"
  | proxyGrantingTicket => "PGT"
  | proxyGrantingTicketIou => "PGTIOU"
  | serviceTicket _ => "ST"
  | proxyTicket _ => "PT"

/-- The object asked: `produceTicketIdentifier` of the factories, and
`Cas20ProxyHandler.handle` for the receipts. -/
def bean (generators : GeneratorMap) : TicketKind → GeneratorBean
  | ticketGrantingTicket => .ticketGrantingTicket
  | proxyGrantingTicket => .proxyGrantingTicket
  | proxyGrantingTicketIou => .proxy20Ticket
  | serviceTicket serviceClass => generators.generatorFor .defaultServiceTicket serviceClass
  | proxyTicket serviceClass => generators.generatorFor .defaultProxyTicket serviceClass

theorem dash_not_mem_ticketPrefix (kind : TicketKind) : '-' ∉ kind.ticketPrefix.toList := by
  cases kind with
  | ticketGrantingTicket => decide
  | proxyGrantingTicket => decide
  | proxyGrantingTicketIou => decide
  | serviceTicket _ => exact (by decide : '-' ∉ "ST".toList)
  | proxyTicket _ => exact (by decide : '-' ∉ "PT".toList)

end TicketKind

/-- A request for an id: the kind, and what the source of randomness will give. -/
structure TicketRequest where
  kind : TicketKind
  nextBytes : ℕ → UInt8

/-- The object a request is made to. -/
def TicketRequest.bean (generators : GeneratorMap) (request : TicketRequest) : GeneratorBean :=
  request.kind.bean generators

/-- The id a request is answered with, when the counter of its generator gives
`number`. -/
def TicketRequest.ticketId (settings : TicketSettings) (generators : GeneratorMap)
    (request : TicketRequest) (number : BitVec 64) : String :=
  (settings.generator (request.bean generators)).getNewTicketId request.kind.ticketPrefix
    number request.nextBytes

/-! ## The deployment -/

/-- The settings of the application, on a machine with the given name. -/
def applicationSettings (localHostName : String) : TicketSettings where
  tgtSuffix := some "tgt"
  pgtSuffix := some "pgt"
  ptSuffix := some "pt"
  stSuffix := some "st"
  tgtMaxLength := 50
  pgtMaxLength := 50
  stMaxLength := 20
  localHostName := localHostName

/-- In the deployment, the factories ask one object for the tickets of a simple web
application, and their own object for those of any other class of service. -/
theorem generatorFor_deployed (own : GeneratorBean) (serviceClass : String) :
    deployedGeneratorsMap.generatorFor own serviceClass =
      if serviceClass = simpleWebApplicationServiceImpl then .serviceTicket else own := by
  have hmap : deployedGeneratorsMap =
      Keyed.put .empty (simpleWebApplicationServiceImpl, .serviceTicket) := rfl
  rw [GeneratorMap.generatorFor, hmap, Keyed.find?_put,
    Keyed.find?_eq_none_iff.mpr (Keyed.not_mem_keys_empty _)]
  split <;> rfl

end LemonCas.Ticket
