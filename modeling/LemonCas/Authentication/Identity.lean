import LemonCas.Authentication.Deployed
set_option autoImplicit false

/-!
# Authentication: whose session it is

An attempt knows three names: the one submitted, the one the transformer made of
it, and the `userName` of the row that was found.  Which of them the principal and
the credential metadata carry is decided at the end of `doAuthentication`, and not
in the same way on its two branches.  With a strategy the principal is the
transformed name; without one it is the submitted name, and the metadata records
the transformed one.  The row's own name is never used.
-/

namespace LemonCas.Authentication

open LemonCas.Foundation
open LemonCas.Java
open LemonCas.Credential
open LemonCas.Service
variable {ν σ : Type}

namespace CustomAuthenticationHandler

/-! ## The identity of a result -/

/-- The result of a verified attempt was granted for its name and encoding. -/
theorem VerifiedAgainst.grant_of_attempt {handler : CustomAuthenticationHandler ν σ} {salt : σ}
    {contents : CredentialValue ν} {name encoding : JString} {row : UserBaseInfoEntity}
    (hverified : handler.VerifiedAgainst salt contents name encoding row)
    {result : HandlerResult ν} (hattempt : handler.attempt salt contents = .ok result) :
    handler.grant contents name encoding = .ok result := by
  rw [attempt_eq_verdict] at hattempt
  obtain ⟨name', encoding', row', hverified', hgrant⟩ := verdict_eq_ok_iff.mp hattempt
  obtain ⟨rfl, rfl, _⟩ :=
    hverified'.unique hverified.resolved hverified.encoded hverified.found
  exact hgrant

/-- With a strategy, the principal is the transformed name and the metadata has the
submitted one. -/
theorem ids_of_strategy {handler : CustomAuthenticationHandler ν σ}
    (hstrategy : handler.passwordPolicyHandlingStrategy ≠ none) {salt : σ}
    {contents : CredentialValue ν} {name encoding : JString} {row : UserBaseInfoEntity}
    (hverified : handler.VerifiedAgainst salt contents name encoding row)
    {result : HandlerResult ν} (hattempt : handler.attempt salt contents = .ok result) :
    some result.principal.id = name ∧ result.credentialMetaData.id = contents.username := by
  obtain ⟨strategy, hsome⟩ := Option.ne_none_iff_exists'.mp hstrategy
  obtain ⟨_, _, hname⟩ := resolveName_eq_ok_iff.mp hverified.resolved
  have hgrant := hverified.grant_of_attempt hattempt
  obtain ⟨_, id, warnings, rfl, _, rfl⟩ := (grant_eq_ok_iff_of_strategy hsome hname).mp hgrant
  exact ⟨congrArg some (handler.principalFactory.make_id id), rfl⟩

/-- Without a strategy, it is the other way round. -/
theorem ids_of_no_strategy {handler : CustomAuthenticationHandler ν σ}
    (hstrategy : handler.passwordPolicyHandlingStrategy = none) {salt : σ}
    {contents : CredentialValue ν} {name encoding : JString} {row : UserBaseInfoEntity}
    (hverified : handler.VerifiedAgainst salt contents name encoding row)
    {result : HandlerResult ν} (hattempt : handler.attempt salt contents = .ok result) :
    some result.principal.id = contents.username ∧ result.credentialMetaData.id = name := by
  have hgrant := hverified.grant_of_attempt hattempt
  obtain ⟨_, id, husername, rfl⟩ := (grant_eq_ok_iff_of_no_strategy hstrategy).mp hgrant
  rw [husername]
  exact ⟨congrArg some (handler.principalFactory.make_id id), rfl⟩

/-! ## One account, one principal -/

/-- Attempts verified against rows of the same account give the same principal. -/
def OnePrincipalPerAccount (handler : CustomAuthenticationHandler ν σ) : Prop :=
  ∀ {salt₁ salt₂ contents₁ contents₂ result₁ result₂ name₁ name₂ encoding₁ encoding₂
      row₁ row₂},
    handler.attempt salt₁ contents₁ = .ok result₁ →
    handler.attempt salt₂ contents₂ = .ok result₂ →
    handler.VerifiedAgainst salt₁ contents₁ name₁ encoding₁ row₁ →
    handler.VerifiedAgainst salt₂ contents₂ name₂ encoding₂ row₂ →
    row₁.userName = row₂.userName →
    result₁.principal.id = result₂.principal.id

/-- The lookup finds no account under two names. -/
def LookupSeparatesNames (handler : CustomAuthenticationHandler ν σ) : Prop :=
  ∀ {name₁ name₂ row₁ row₂},
    handler.queryByUserName name₁ = .ok row₁ → handler.queryByUserName name₂ = .ok row₂ →
    row₁.userName = row₂.userName → name₁ = name₂

/-- With a strategy, two results carry the same principal exactly when the two
submitted names were transformed to the same name; so an account has one principal
when the lookup finds it under one name only. -/
theorem samePrincipal_iff_sameName {handler : CustomAuthenticationHandler ν σ}
    (hstrategy : handler.passwordPolicyHandlingStrategy ≠ none) {salt₁ salt₂ : σ}
    {contents₁ contents₂ : CredentialValue ν} {result₁ result₂ : HandlerResult ν}
    (hattempt₁ : handler.attempt salt₁ contents₁ = .ok result₁)
    (hattempt₂ : handler.attempt salt₂ contents₂ = .ok result₂)
    {name₁ name₂ encoding₁ encoding₂ : JString} {row₁ row₂ : UserBaseInfoEntity}
    (hverified₁ : handler.VerifiedAgainst salt₁ contents₁ name₁ encoding₁ row₁)
    (hverified₂ : handler.VerifiedAgainst salt₂ contents₂ name₂ encoding₂ row₂) :
    (result₁.principal.id = result₂.principal.id ↔ name₁ = name₂) ∧
    (handler.LookupSeparatesNames → row₁.userName = row₂.userName →
      result₁.principal.id = result₂.principal.id) := by
  obtain ⟨hid₁, _⟩ := ids_of_strategy hstrategy hverified₁ hattempt₁
  obtain ⟨hid₂, _⟩ := ids_of_strategy hstrategy hverified₂ hattempt₂
  have hsame : result₁.principal.id = result₂.principal.id ↔ name₁ = name₂ := by
    rw [← hid₁, ← hid₂, Option.some.injEq]
  refine ⟨hsame, ?_⟩
  intro hseparates haccount
  exact hsame.mpr (hseparates hverified₁.found hverified₂.found haccount)

/-- A lookup that compares names without regard to case, as many databases do. -/
def caseInsensitiveTemplate : JdbcTemplate where
  query _ arguments :=
    if arguments = [some "alice"] ∨ arguments = [some "Alice"] then
      .ok [⟨some "1", some "alice", some "secret", some true, none⟩]
    else .ok []

/-- The deployed handler over that lookup. -/
def caseInsensitiveHandler : CustomAuthenticationHandler Unit Unit :=
  assembleHandler plainTextEncoder (some "select * from user where name = ?")
    caseInsensitiveTemplate

/-- The row of that user. -/
def aliceRow : UserBaseInfoEntity := ⟨some "1", some "alice", some "secret", some true, none⟩

theorem caseInsensitiveHandler_verified (username : String)
    (hname : username = "alice" ∨ username = "Alice") :
    caseInsensitiveHandler.attempt () (submitted username "secret") =
        .ok (assembledResult (submitted username "secret") username) ∧
      caseInsensitiveHandler.VerifiedAgainst () (submitted username "secret") (some username)
        (some "secret") aliceRow := by
  rcases hname with rfl | rfl
  · exact ⟨rfl, rfl, rfl, rfl, rfl⟩
  · exact ⟨rfl, rfl, rfl, rfl, rfl⟩

/-- A transformer that drops the capital of a name. -/
def uncapitalize : PrincipalNameTransformer where
  transform formUserId := .ok (if formUserId = some "Alice" then some "alice" else formUserId)

/-- A lookup that compares names as they are. -/
def exactTemplate : JdbcTemplate where
  query _ arguments := .ok (if arguments = [some "alice"] then [aliceRow] else [])

def exactService : UserBaseInfoServiceImpl :=
  ⟨some "select * from user where name = ?", exactTemplate⟩

/-- The deployed handler with that transformer, over that lookup. -/
def uncapitalizeHandler : CustomAuthenticationHandler Unit Unit :=
  { assembleHandler plainTextEncoder exactService.querUserSql exactService.jdbcTemplate with
    principalNameTransformer := some uncapitalize }

/-- That lookup finds its user under one name. -/
theorem uncapitalizeHandler_lookupSeparatesNames :
    uncapitalizeHandler.LookupSeparatesNames := by
  have hfound : ∀ {name row}, uncapitalizeHandler.queryByUserName name = .ok row →
      name = some "alice" := by
    intro name row hrow
    have hrows : exactService.rows name = .ok [row] :=
      UserBaseInfoServiceImpl.queryByUserName_eq_ok_iff.mp hrow
    have hlist : (if [name] = [some "alice"] then [aliceRow] else []) = [row] :=
      Except.ok.inj hrows
    by_contra hname
    simp [hname] at hlist
  intro name₁ name₂ row₁ row₂ hrow₁ hrow₂ _
  rw [hfound hrow₁, hfound hrow₂]

theorem uncapitalizeHandler_verified (username : String)
    (hname : username = "alice" ∨ username = "Alice") :
    uncapitalizeHandler.attempt () (submitted username "secret") =
        .ok (assembledResult (submitted username "secret") "alice") ∧
      uncapitalizeHandler.VerifiedAgainst () (submitted username "secret") (some "alice")
        (some "secret") aliceRow := by
  rcases hname with rfl | rfl
  · exact ⟨rfl, rfl, rfl, rfl, rfl⟩
  · exact ⟨rfl, rfl, rfl, rfl, rfl⟩

/-- Two spellings are two principals where the lookup ignores case, and one where the
transformer removes the difference and the lookup is exact. -/
theorem aliceSpellings_samePrincipal_iff :
    (let lower := assembledResult (submitted "alice" "secret") "alice"
      let upper := assembledResult (submitted "Alice" "secret") "Alice"
      (lower.principal.id = upper.principal.id ↔ some "alice" = some "Alice") ∧
        (caseInsensitiveHandler.LookupSeparatesNames → some "alice" = some "alice" →
          lower.principal.id = upper.principal.id)) ∧
    (let lower := assembledResult (submitted "alice" "secret") "alice"
      let upper := assembledResult (submitted "Alice" "secret") "alice"
      uncapitalizeHandler.attempt () (submitted "Alice" "secret") = .ok upper ∧
        uncapitalizeHandler.LookupSeparatesNames ∧
        lower.principal.id = upper.principal.id) := by
  constructor
  · have hlower := caseInsensitiveHandler_verified "alice" (.inl rfl)
    have hupper := caseInsensitiveHandler_verified "Alice" (.inr rfl)
    exact samePrincipal_iff_sameName (by decide) hlower.1 hupper.1 hlower.2 hupper.2
  · have hlower := uncapitalizeHandler_verified "alice" (.inl rfl)
    have hupper := uncapitalizeHandler_verified "Alice" (.inr rfl)
    have hsame := samePrincipal_iff_sameName (by decide) hlower.1 hupper.1 hlower.2 hupper.2
    exact ⟨hupper.1, uncapitalizeHandler_lookupSeparatesNames,
      hsame.2 uncapitalizeHandler_lookupSeparatesNames rfl⟩

/-- One user logs in under two spellings and is two principals. -/
theorem caseInsensitiveHandler_two_principals :
    caseInsensitiveHandler.passwordPolicyHandlingStrategy ≠ none ∧
      ¬ caseInsensitiveHandler.OnePrincipalPerAccount := by
  refine ⟨by simp [caseInsensitiveHandler, assembleHandler, newHandler], ?_⟩
  intro hone
  have hlower := caseInsensitiveHandler_verified "alice" (.inl rfl)
  have hupper := caseInsensitiveHandler_verified "Alice" (.inr rfl)
  have hsame : "alice" = "Alice" := hone hlower.1 hupper.1 hlower.2 hupper.2 rfl
  exact absurd hsame (by decide)

/-! ## The two ways out of `doAuthentication` -/

/-- The handler with another strategy. -/
def withStrategy (handler : CustomAuthenticationHandler ν σ)
    (strategy : Option (AuthenticationPasswordPolicyHandlingStrategy ν)) :
    CustomAuthenticationHandler ν σ :=
  { handler with passwordPolicyHandlingStrategy := strategy }

/-- The stages up to the password check do not ask for the strategy. -/
theorem verifiedAgainst_withStrategy {handler : CustomAuthenticationHandler ν σ}
    {strategy : Option (AuthenticationPasswordPolicyHandlingStrategy ν)} {salt : σ}
    {contents : CredentialValue ν} {name encoding : JString} {row : UserBaseInfoEntity} :
    (handler.withStrategy strategy).VerifiedAgainst salt contents name encoding row ↔
      handler.VerifiedAgainst salt contents name encoding row :=
  ⟨fun h => ⟨h.resolved, h.encoded, h.found, h.accepted⟩,
    fun h => ⟨h.resolved, h.encoded, h.found, h.accepted⟩⟩

/-- Without a strategy, and with the default one, an attempt succeeds when it is
verified and the credential can be serialized. -/
theorem succeeds_withStrategy {handler : CustomAuthenticationHandler ν σ}
    {strategy : Option (AuthenticationPasswordPolicyHandlingStrategy ν)}
    (hstrategy : strategy = none ∨ strategy = some noWarnings) {salt : σ}
    {contents : CredentialValue ν} :
    (handler.withStrategy strategy).Succeeds salt contents ↔
      contents.isSerializable = true ∧
        ∃ name encoding row, handler.VerifiedAgainst salt contents name encoding row := by
  have hpolicy : (handler.withStrategy strategy).PolicyAnswers := by
    rcases hstrategy with rfl | rfl
    · intro strategy hsome
      cases hsome
    · exact policyAnswers_noWarnings rfl
  rw [succeeds_iff hpolicy]
  simp only [verifiedAgainst_withStrategy]

/-- Both ways out give a result, the two results carry the same ids, and the
principal is the name whose row was found and whose password was checked. -/
def PathsAgree (handler : CustomAuthenticationHandler ν σ) (salt : σ)
    (contents : CredentialValue ν) : Prop :=
  ∃ withoutStrategy withDefault name encoding row,
    (handler.withStrategy none).attempt salt contents = .ok withoutStrategy ∧
    (handler.withStrategy (some noWarnings)).attempt salt contents = .ok withDefault ∧
    handler.VerifiedAgainst salt contents name encoding row ∧
    withoutStrategy.principal.id = withDefault.principal.id ∧
    withoutStrategy.credentialMetaData.id = withDefault.credentialMetaData.id ∧
    some withoutStrategy.principal.id = name

/-- Whenever an attempt succeeds on one of the two ways out, they agree exactly when
the transformer leaves the submitted name as it is. -/
theorem pathsAgree_iff {handler : CustomAuthenticationHandler ν σ} {salt : σ}
    {contents : CredentialValue ν}
    {strategy : Option (AuthenticationPasswordPolicyHandlingStrategy ν)}
    (hstrategy : strategy = none ∨ strategy = some noWarnings)
    (hsucceeds : (handler.withStrategy strategy).Succeeds salt contents) :
    handler.PathsAgree salt contents ↔
      handler.transform contents.username = .ok contents.username := by
  obtain ⟨hserializable, name, encoding, row, hverified⟩ :=
    (succeeds_withStrategy hstrategy).mp hsucceeds
  obtain ⟨_, htransform, _⟩ := resolveName_eq_ok_iff.mp hverified.resolved
  constructor
  · intro hagree
    obtain ⟨withoutStrategy, withDefault, name', encoding', row', hnull, _, hverified', _, _,
      hprincipal⟩ := hagree
    obtain ⟨hsubmitted, _⟩ :=
      ids_of_no_strategy rfl (verifiedAgainst_withStrategy.mpr hverified') hnull
    obtain ⟨_, htransform', _⟩ := resolveName_eq_ok_iff.mp hverified'.resolved
    rw [htransform', ← hprincipal, hsubmitted]
  · intro hunchanged
    have hname : name = contents.username := by
      rw [hunchanged] at htransform
      cases htransform
      rfl
    obtain ⟨withoutStrategy, hnull⟩ :=
      (succeeds_withStrategy (.inl rfl)).mpr ⟨hserializable, name, encoding, row, hverified⟩
    obtain ⟨withDefault, hdefault⟩ :=
      (succeeds_withStrategy (.inr rfl)).mpr ⟨hserializable, name, encoding, row, hverified⟩
    obtain ⟨hnullPrincipal, hnullCredential⟩ :=
      ids_of_no_strategy rfl (verifiedAgainst_withStrategy.mpr hverified) hnull
    obtain ⟨hdefaultPrincipal, hdefaultCredential⟩ :=
      ids_of_strategy (Option.some_ne_none _) (verifiedAgainst_withStrategy.mpr hverified)
        hdefault
    refine ⟨withoutStrategy, withDefault, name, encoding, row, hnull, hdefault, hverified,
      ?_, ?_, ?_⟩
    · apply Option.some.inj
      rw [hnullPrincipal, hdefaultPrincipal, hname]
    · rw [hnullCredential, hdefaultCredential, hname]
    · rw [hnullPrincipal, hname]

/-- A transformer that puts a fixed prefix in front of the name. -/
def prefixTransformer : PrincipalNameTransformer where
  transform formUserId := .ok (formUserId.map fun name => "staff-" ++ name)

/-- The deployed handler with that transformer, over a lookup that knows the
transformed name. -/
def prefixHandler : CustomAuthenticationHandler Unit Unit :=
  { assembleHandler plainTextEncoder (some "select * from user where name = ?")
      ⟨fun _ _ => .ok [⟨some "1", some "staff-alice", some "secret", some true, none⟩]⟩ with
    principalNameTransformer := some prefixTransformer }

theorem prefixHandler_succeeds :
    (prefixHandler.withStrategy (some noWarnings)).Succeeds () (submitted "alice" "secret") :=
  ⟨_, rfl⟩

theorem prefixHandler_pathsAgree_iff :
    prefixHandler.PathsAgree () (submitted "alice" "secret") ↔
      prefixHandler.transform (some "alice") = .ok (some "alice") :=
  pathsAgree_iff (.inr rfl) prefixHandler_succeeds

/-- `staff-alice` was looked up and checked, and without a strategy the session is
that of `alice`. -/
theorem prefixHandler_paths_disagree :
    (prefixHandler.withStrategy (some noWarnings)).Succeeds () (submitted "alice" "secret") ∧
      ¬ prefixHandler.PathsAgree () (submitted "alice" "secret") := by
  refine ⟨prefixHandler_succeeds, ?_⟩
  intro hagree
  obtain ⟨withoutStrategy, withDefault, name, encoding, row, hnull, hdefault, _,
    hprincipal, _⟩ := hagree
  cases hnull
  cases hdefault
  exact absurd hprincipal (by decide)

end CustomAuthenticationHandler

end LemonCas.Authentication
