import LemonCas.Ticket.Issuance
set_option autoImplicit false

/-!
# Ticket: what the configured suffixes do

The suffixes of `lemon.ticket` take the place of the name of the machine, which is
what CAS puts there.  This module follows one suffix and the machine's name through
every run of the deployment: the shapes of the ids keep service tickets of different
origin apart, the suffix configured for proxy tickets goes into no proxy ticket, and
two servers that share the configured suffixes are no longer told apart by their ids.
-/

namespace LemonCas.Ticket

open LemonCas.Foundation
open LemonCas.Java

variable {τ : Type} [DecidableEq τ]

/-! ## The objects of the deployment -/

/-- The object made for proxy tickets is asked for receipts only. -/
theorem bean_eq_proxy20Ticket_iff (kind : TicketKind) :
    kind.bean deployedGeneratorsMap = .proxy20Ticket ↔ kind = .proxyGrantingTicketIou := by
  cases kind with
  | ticketGrantingTicket => simp [TicketKind.bean]
  | proxyGrantingTicket => simp [TicketKind.bean]
  | proxyGrantingTicketIou => simp [TicketKind.bean]
  | serviceTicket serviceClass =>
    simp only [TicketKind.bean, generatorFor_deployed]
    split <;> simp
  | proxyTicket serviceClass =>
    simp only [TicketKind.bean, generatorFor_deployed]
    split <;> simp

/-! ## Ids are unique -/

/-- When a factory asks different objects for two classes of services, the ids differ
in length, unless the configured suffix makes up for the shorter random text. -/
theorem endingLength_generatorFor_ne {settings : TicketSettings}
    (hlength : settings.serviceTicketUniqueIdGenerator.endingLength ≠
      UniqueTicketIdGenerator.newDefault.endingLength)
    {own : GeneratorBean} (hown : settings.generator own = .newDefault)
    {serviceClass serviceClass' : String}
    (hne : deployedGeneratorsMap.generatorFor own serviceClass ≠
      deployedGeneratorsMap.generatorFor own serviceClass') :
    (settings.generator (deployedGeneratorsMap.generatorFor own serviceClass)).endingLength ≠
      (settings.generator (deployedGeneratorsMap.generatorFor own serviceClass')).endingLength := by
  rw [generatorFor_deployed, generatorFor_deployed] at hne ⊢
  by_cases hclass : serviceClass = simpleWebApplicationServiceImpl
  · by_cases hclass' : serviceClass' = simpleWebApplicationServiceImpl
    · exact absurd (by rw [if_pos hclass, if_pos hclass']) hne
    · rw [if_pos hclass, if_neg hclass', hown]
      exact hlength
  · by_cases hclass' : serviceClass' = simpleWebApplicationServiceImpl
    · rw [if_neg hclass, if_pos hclass', hown]
      exact hlength.symm
    · exact absurd (by rw [if_neg hclass, if_neg hclass']) hne

theorem separatesSources_deployed {settings : TicketSettings}
    (hlength : settings.serviceTicketUniqueIdGenerator.endingLength ≠
      UniqueTicketIdGenerator.newDefault.endingLength) :
    SeparatesSources settings deployedGeneratorsMap := by
  intro kind kind' hsame hbean
  -- kinds with the same prefix are the same kind, for classes that may differ
  cases kind <;> cases kind' <;>
    simp only [TicketKind.ticketPrefix, String.reduceEq] at hsame
  case ticketGrantingTicket.ticketGrantingTicket => exact absurd rfl hbean
  case proxyGrantingTicket.proxyGrantingTicket => exact absurd rfl hbean
  case proxyGrantingTicketIou.proxyGrantingTicketIou => exact absurd rfl hbean
  case serviceTicket.serviceTicket => exact endingLength_generatorFor_ne hlength rfl hbean
  case proxyTicket.proxyTicket => exact endingLength_generatorFor_ne hlength rfl hbean

/-- In the deployment no two tickets of a run get the same id. -/
theorem nodup_issuedIds_deployed {settings : TicketSettings} {actions : List (TicketAction τ)}
    (hlength : settings.serviceTicketUniqueIdGenerator.endingLength ≠
      UniqueTicketIdGenerator.newDefault.endingLength)
    (hfits : ∀ bean, issuedBy deployedGeneratorsMap actions bean < 2 ^ 63) :
    (issuedIds settings deployedGeneratorsMap actions).Nodup :=
  nodup_issuedIds (separatesSources_deployed hlength) hfits

theorem nodup_issuedIds_twoLogins :
    (issuedIds (applicationSettings "node1.example.org") deployedGeneratorsMap twoLogins).Nodup :=
  nodup_issuedIds_deployed (by decide) (by intro bean; cases bean <;> decide)

/-! ## The suffix for proxy tickets -/

omit [DecidableEq τ] in
/-- The suffix for proxy tickets is read by the object asked for receipts alone. -/
theorem idOf_ptSuffix (settings : TicketSettings) (ptSuffix : JString)
    {draw : Draw τ TicketRequest 64}
    (hkind : draw.request.kind ≠ .proxyGrantingTicketIou) :
    idOf { settings with ptSuffix } deployedGeneratorsMap draw =
      idOf settings deployedGeneratorsMap draw := by
  have hbean : draw.request.bean deployedGeneratorsMap ≠ .proxy20Ticket :=
    fun h => hkind ((bean_eq_proxy20Ticket_iff _).mp h)
  have hgenerator : TicketSettings.generator { settings with ptSuffix }
      (draw.request.bean deployedGeneratorsMap) =
        settings.generator (draw.request.bean deployedGeneratorsMap) := by
    cases hobject : draw.request.bean deployedGeneratorsMap with
    | proxy20Ticket => exact absurd hobject hbean
    | ticketGrantingTicket => rfl
    | proxyGrantingTicket => rfl
    | serviceTicket => rfl
    | defaultServiceTicket => rfl
    | defaultProxyTicket => rfl
  unfold idOf TicketRequest.ticketId
  rw [hgenerator]

omit [DecidableEq τ] in
/-- An id ends in the suffix of the object that made it. -/
theorem exists_front_idOf (settings : TicketSettings) (generators : GeneratorMap)
    (draw : Draw τ TicketRequest 64) :
    ∃ front, idOf settings generators draw =
      front ++ (settings.generator (draw.request.bean generators)).finalSuffix :=
  ⟨_, rfl⟩

/-- Over any run, the suffix configured for proxy tickets changes no id but those of
receipts.  The proxy tickets of a simple web application end in the suffix configured
for service tickets, and the receipts in the one for proxy tickets. -/
theorem ptSuffix_only_in_receipts (settings : TicketSettings) (actions : List (TicketAction τ)) :
    (∀ ptSuffix, ((issue deployedGeneratorsMap actions).served.filter fun draw =>
        decide (draw.request.kind ≠ .proxyGrantingTicketIou)).map
          (idOf { settings with ptSuffix } deployedGeneratorsMap) =
      ((issue deployedGeneratorsMap actions).served.filter fun draw =>
        decide (draw.request.kind ≠ .proxyGrantingTicketIou)).map
          (idOf settings deployedGeneratorsMap)) ∧
    ∀ draw ∈ (issue deployedGeneratorsMap actions).served,
      (draw.request.kind = .proxyTicket simpleWebApplicationServiceImpl →
        ∃ front, idOf settings deployedGeneratorsMap draw =
          front ++ settings.serviceTicketUniqueIdGenerator.finalSuffix) ∧
      (draw.request.kind = .proxyGrantingTicketIou →
        ∃ front, idOf settings deployedGeneratorsMap draw =
          front ++ settings.proxy20TicketUniqueIdGenerator.finalSuffix) := by
  refine ⟨?_, ?_⟩
  · intro ptSuffix
    refine List.map_congr_left ?_
    intro draw hdraw
    exact idOf_ptSuffix settings ptSuffix (of_decide_eq_true (List.mem_filter.mp hdraw).2)
  · intro draw _
    refine ⟨?_, ?_⟩
    · intro hkind
      have hbean : draw.request.bean deployedGeneratorsMap = .serviceTicket := by
        rw [TicketRequest.bean, hkind, TicketKind.bean, generatorFor_deployed, if_pos rfl]
      have hfront := exists_front_idOf settings deployedGeneratorsMap draw
      rwa [hbean] at hfront
    · intro hkind
      have hbean : draw.request.bean deployedGeneratorsMap = .proxy20Ticket :=
        (bean_eq_proxy20Ticket_iff _).mpr hkind
      have hfront := exists_front_idOf settings deployedGeneratorsMap draw
      rwa [hbean] at hfront

/-! ## Two servers -/

namespace TicketSettings

/-- The settings on another machine. -/
def onHost (settings : TicketSettings) (localHostName : String) : TicketSettings :=
  { settings with localHostName }

/-- The suffix of the object is left to the name of the machine. -/
def namesMachine (settings : TicketSettings) : GeneratorBean → Bool
  | .ticketGrantingTicket => isBlank settings.tgtSuffix
  | .proxyGrantingTicket => isBlank settings.pgtSuffix
  | .proxy20Ticket => isBlank settings.ptSuffix
  | .serviceTicket => isBlank settings.stSuffix
  | .defaultServiceTicket => false
  | .defaultProxyTicket => false

/-- A machine's name goes into the objects whose suffix is not configured, and into no
other. -/
theorem generator_onHost (settings : TicketSettings) (localHostName : String)
    (bean : GeneratorBean) :
    (settings.onHost localHostName).generator bean =
      if settings.namesMachine bean = true then
        ⟨(settings.generator bean).maxLength, some (getCasServerHostName localHostName)⟩
      else settings.generator bean := by
  have hmachine : ∀ (maxLength : ℕ) (suffix : JString),
      UniqueTicketIdGenerator.newHostNameBased localHostName maxLength suffix =
        if isBlank suffix = true then ⟨maxLength, some (getCasServerHostName localHostName)⟩
        else .newHostNameBased settings.localHostName maxLength suffix := by
    intro maxLength suffix
    cases hsuffix : isBlank suffix with
    | true => exact UniqueTicketIdGenerator.newHostNameBased_of_blank hsuffix _ _
    | false =>
      rw [UniqueTicketIdGenerator.newHostNameBased_of_suffix hsuffix,
        UniqueTicketIdGenerator.newHostNameBased_of_suffix hsuffix]
      rfl
  cases bean with
  | ticketGrantingTicket => exact hmachine settings.tgtMaxLength settings.tgtSuffix
  | proxyGrantingTicket => exact hmachine settings.tgtMaxLength settings.pgtSuffix
  | proxy20Ticket => exact hmachine settings.pgtMaxLength settings.ptSuffix
  | serviceTicket => exact hmachine settings.stMaxLength settings.stSuffix
  | defaultServiceTicket => rfl
  | defaultProxyTicket => rfl

end TicketSettings

/-- A kind of ticket whose ids the object makes. -/
def someKind : GeneratorBean → TicketKind
  | .ticketGrantingTicket => .ticketGrantingTicket
  | .proxyGrantingTicket => .proxyGrantingTicket
  | .proxy20Ticket => .proxyGrantingTicketIou
  | .serviceTicket => .serviceTicket simpleWebApplicationServiceImpl
  | .defaultServiceTicket => .serviceTicket ""
  | .defaultProxyTicket => .proxyTicket ""

theorem bean_someKind (bean : GeneratorBean) :
    (someKind bean).bean deployedGeneratorsMap = bean := by
  cases bean with
  | serviceTicket => exact generatorFor_deployed _ _
  | defaultServiceTicket => exact generatorFor_deployed _ _
  | defaultProxyTicket => exact generatorFor_deployed _ _
  | ticketGrantingTicket => rfl
  | proxyGrantingTicket => rfl
  | proxy20Ticket => rfl

/-- The run of one request. -/
def oneRequest (thread : τ) (request : TicketRequest) : List (TicketAction τ) :=
  Counters.wholeDraw thread request

/-- One request draws the number one. -/
theorem served_oneRequest (generators : GeneratorMap) (thread : τ) (request : TicketRequest) :
    (issue generators (oneRequest thread request)).served = [⟨thread, request, 1⟩] := by
  rw [issue, oneRequest, Counters.run_wholeDraw _ _ rfl]
  rfl

theorem issuedBy_oneRequest_lt (generators : GeneratorMap) (thread : τ) (request : TicketRequest)
    (bean : GeneratorBean) : issuedBy generators (oneRequest thread request) bean < 2 ^ 63 := by
  have hlength : issuedBy generators (oneRequest thread request) bean ≤ 1 := by
    rw [issuedBy, Counters.drawn, Counters.numbersOf, served_oneRequest, List.length_map]
    exact List.length_filter_le _ _
  omega

omit [DecidableEq τ] in
/-- Ids that two machines with different names make with an object whose suffix is not
configured are different. -/
theorem idOf_onHost_ne {settings : TicketSettings} {host host' : String}
    (hhosts : getCasServerHostName host ≠ getCasServerHostName host') {bean : GeneratorBean}
    (hmachine : settings.namesMachine bean = true) {draw draw' : Draw τ TicketRequest 64}
    (hbean : draw.request.bean deployedGeneratorsMap = bean)
    (hbean' : draw'.request.bean deployedGeneratorsMap = bean)
    (hnumber : draw.number.toNat < 2 ^ 63) (hnumber' : draw'.number.toNat < 2 ^ 63) :
    idOf (settings.onHost host) deployedGeneratorsMap draw ≠
      idOf (settings.onHost host') deployedGeneratorsMap draw' := by
  intro heq
  obtain ⟨_, _, hendings⟩ := idOf_inj hnumber hnumber' heq
  rw [hbean, hbean', TicketSettings.generator_onHost, TicketSettings.generator_onHost,
    if_pos hmachine, if_pos hmachine] at hendings
  -- the random texts are of one length on both machines
  exact hhosts (UniqueTicketIdGenerator.ending_inj hendings)

/-- The characters a URL carries as they are. -/
def Unreserved (c : Char) : Prop := c ∈ Base64Url.alphabet ∨ c = '.' ∨ c = '~'

theorem unreserved_dash : Unreserved '-' := Or.inl (by decide)

theorem unreserved_of_mem_ticketPrefix (kind : TicketKind) {c : Char}
    (hc : c ∈ kind.ticketPrefix.toList) : Unreserved c := by
  have hupper : kind.ticketPrefix.toList.all Char.isUpper = true := by
    cases kind with
    | ticketGrantingTicket => decide
    | proxyGrantingTicket => decide
    | proxyGrantingTicketIou => decide
    | serviceTicket _ => exact (by decide : "ST".toList.all Char.isUpper = true)
    | proxyTicket _ => exact (by decide : "PT".toList.all Char.isUpper = true)
  exact Or.inl (Base64Url.mem_alphabet_of_isUpper (List.all_eq_true.mp hupper c hc))

omit [DecidableEq τ] in
/-- An id is made of unreserved characters when the suffix of its object is. -/
theorem unreserved_of_mem_idOf {settings : TicketSettings} {draw : Draw τ TicketRequest 64}
    (hsuffix : ∀ c ∈ (settings.generator
      (draw.request.bean deployedGeneratorsMap)).finalSuffix.toList, Unreserved c) {c : Char}
    (hc : c ∈ (idOf settings deployedGeneratorsMap draw).toList) : Unreserved c := by
  rw [idOf, TicketRequest.ticketId, UniqueTicketIdGenerator.toList_getNewTicketId,
    UniqueTicketIdGenerator.ending] at hc
  simp only [List.mem_append, List.mem_cons] at hc
  rcases hc with hkind | hdash | hnumber | hdash | hrandom | hend
  · exact unreserved_of_mem_ticketPrefix draw.request.kind hkind
  · exact hdash ▸ unreserved_dash
  · exact Or.inl (UniqueTicketIdGenerator.mem_alphabet_of_mem_number hnumber)
  · exact hdash ▸ unreserved_dash
  · exact Or.inl (UniqueTicketIdGenerator.mem_alphabet_of_mem_randomText hrandom)
  · exact hsuffix c hend

/-- The ids of all runs can stand in a URL as they are exactly when the suffixes of the
objects can: every other part of an id is made of unreserved characters, also the numbers
beyond the largest one. -/
theorem issuedIds_unreserved_iff [Inhabited τ] (settings : TicketSettings) :
    (∀ actions : List (TicketAction τ), ∀ id ∈ issuedIds settings deployedGeneratorsMap actions,
      ∀ c ∈ id.toList, Unreserved c) ↔
    ∀ bean, ∀ c ∈ (settings.generator bean).finalSuffix.toList, Unreserved c := by
  constructor
  · intro hids bean c hc
    -- an id of the object ends in its suffix
    let request : TicketRequest := ⟨someKind bean, fun _ => 0⟩
    let draw : Draw τ TicketRequest 64 := ⟨default, request, 1⟩
    have hissued : idOf settings deployedGeneratorsMap draw ∈
        issuedIds settings deployedGeneratorsMap (oneRequest (default : τ) request) := by
      rw [issuedIds, served_oneRequest]
      exact List.mem_singleton_self _
    obtain ⟨front, hfront⟩ := exists_front_idOf settings deployedGeneratorsMap draw
    have hbean : draw.request.bean deployedGeneratorsMap = bean := bean_someKind bean
    refine hids _ _ hissued c ?_
    rw [hfront, hbean, String.toList_append]
    exact List.mem_append_right _ hc
  · intro hsuffixes actions id hid c hc
    obtain ⟨draw, _, rfl⟩ := List.mem_map.mp hid
    exact unreserved_of_mem_idOf (hsuffixes _) hc

end LemonCas.Ticket
