import LemonCas.Authentication.Verdict
set_option autoImplicit false

/-!
# Authentication: when an attempt succeeds

An attempt succeeds when each of its stages does.  This module inverts the stages
of a verdict one by one, and reads off the result they lead to on the two ways
out of `concludeAuthentication`.
-/

namespace LemonCas.Authentication

open LemonCas.Foundation
open LemonCas.Java
open LemonCas.Credential
open LemonCas.Service

variable {ν σ : Type}

/-- Metadata is made of a credential that can be serialized, and of no other. -/
theorem metaDataOf_eq_ok_iff {contents : CredentialValue ν}
    {metaData : BasicCredentialMetaData ν} :
    metaDataOf contents = .ok metaData ↔
      contents.isSerializable = true ∧
        metaData = ⟨contents.getId, customCredential, contents⟩ := by
  unfold metaDataOf
  cases contents.isSerializable with
  | true => simp [eq_comm]
  | false => simp

theorem metaDataOf_eq_error_iff {contents : CredentialValue ν} {e : Throwable} :
    metaDataOf contents = .error e ↔
      contents.isSerializable = false ∧ e = unableToSerialize := by
  unfold metaDataOf
  cases contents.isSerializable with
  | true => simp
  | false => simp [eq_comm]

namespace CustomAuthenticationHandler

/-- The attempt returns a result. -/
def Succeeds (handler : CustomAuthenticationHandler ν σ) (salt : σ)
    (contents : CredentialValue ν) : Prop :=
  ∃ result, handler.attempt salt contents = .ok result

/-- The stages that lead to the user's row were passed with this row: it was found
under the transformed name, and the encoding of the password was accepted against
the row's. -/
structure VerifiedAgainst (handler : CustomAuthenticationHandler ν σ) (salt : σ)
    (contents : CredentialValue ν) (name encoding : JString) (row : UserBaseInfoEntity) :
    Prop where
  resolved : handler.resolveName contents.username = .ok name
  encoded : handler.encodePassword salt contents.password = .ok encoding
  found : handler.queryByUserName name = .ok row
  accepted : handler.matches encoding row.password = .ok true

/-- The password policy, when there is one, answers with a list of warnings. -/
def PolicyAnswers (handler : CustomAuthenticationHandler ν σ) : Prop :=
  ∀ strategy, handler.passwordPolicyHandlingStrategy = some strategy →
    ∀ principal, ∃ warnings,
      strategy.handle principal handler.passwordPolicyConfiguration = .ok (some warnings)

/-! ## Inversion of the stages -/

/-- A replaced text was not blank, and neither is its replacement. -/
theorem replaceText_eq_ok_iff {replacement : JString → Except Throwable JString}
    {blank blankReplacement : Throwable} {text transformed : JString} :
    replaceText replacement blank blankReplacement text = .ok transformed ↔
      isBlank text = false ∧ replacement text = .ok transformed ∧
        isBlank transformed = false := by
  unfold replaceText
  cases isBlank text with
  | true => simp
  | false =>
    cases hreplacement : replacement text with
    | error e => simp
    | ok result =>
      cases hresult : isBlank result with
      | true =>
        simp only [Bool.false_eq_true, if_false, hresult, if_true, reduceCtorEq, true_and,
          Except.ok.injEq, false_iff, not_and]
        rintro rfl
        simp [hresult]
      | false =>
        simp only [Bool.false_eq_true, if_false, hresult, Except.ok.injEq, true_and]
        constructor
        · rintro rfl
          exact ⟨rfl, hresult⟩
        · intro h
          exact h.1

theorem resolveName_eq_ok_iff {handler : CustomAuthenticationHandler ν σ}
    {username name : JString} :
    handler.resolveName username = .ok name ↔
      isBlank username = false ∧ handler.transform username = .ok name ∧
        isBlank name = false :=
  replaceText_eq_ok_iff

theorem encodePassword_eq_ok_iff {handler : CustomAuthenticationHandler ν σ} {salt : σ}
    {password encoding : JString} :
    handler.encodePassword salt password = .ok encoding ↔
      isBlank password = false ∧ handler.encode salt password = .ok encoding ∧
        isBlank encoding = false :=
  replaceText_eq_ok_iff

theorem checkRow_eq_ok_iff {handler : CustomAuthenticationHandler ν σ}
    {name encoding : JString} :
    handler.checkRow name encoding = .ok () ↔
      ∃ row, handler.queryByUserName name = .ok row ∧
        handler.matches encoding row.password = .ok true := by
  unfold checkRow
  rw [bind_eq_ok_iff]
  constructor
  · intro hstages
    obtain ⟨row, hfound, hrest⟩ := hstages
    obtain ⟨accepted, haccepted, hend⟩ := bind_eq_ok_iff.mp hrest
    cases accepted with
    | true => exact ⟨row, hfound, haccepted⟩
    | false => cases hend
  · intro hstages
    obtain ⟨row, hfound, haccepted⟩ := hstages
    refine ⟨row, hfound, bind_eq_ok_iff.mpr ⟨true, haccepted, ?_⟩⟩
    rfl

/-- The stages are functions, so an attempt is verified in one way at most. -/
theorem VerifiedAgainst.unique {handler : CustomAuthenticationHandler ν σ} {salt : σ}
    {contents : CredentialValue ν} {name name' encoding encoding' : JString}
    {row row' : UserBaseInfoEntity}
    (hverified : handler.VerifiedAgainst salt contents name encoding row)
    (hname : handler.resolveName contents.username = .ok name')
    (hencoding : handler.encodePassword salt contents.password = .ok encoding')
    (hrow : handler.queryByUserName name' = .ok row') :
    name = name' ∧ encoding = encoding' ∧ row = row' := by
  have hsameName : name = name' := Except.ok.inj (hverified.resolved.symm.trans hname)
  have hsameEncoding : encoding = encoding' :=
    Except.ok.inj (hverified.encoded.symm.trans hencoding)
  subst hsameName
  have hsameRow : row = row' := Except.ok.inj (hverified.found.symm.trans hrow)
  exact ⟨rfl, hsameEncoding, hsameRow⟩

/-- An attempt returns a result exactly when it was verified against some row and
the result could be built. -/
theorem verdict_eq_ok_iff {handler : CustomAuthenticationHandler ν σ} {salt : σ}
    {contents : CredentialValue ν} {result : HandlerResult ν} :
    handler.verdict salt contents = .ok result ↔
      ∃ name encoding row, handler.VerifiedAgainst salt contents name encoding row ∧
        handler.grant contents name encoding = .ok result := by
  unfold verdict
  constructor
  · intro h
    obtain ⟨name, hname, h⟩ := bind_eq_ok_iff.mp h
    obtain ⟨encoding, hencoding, h⟩ := bind_eq_ok_iff.mp h
    obtain ⟨_, hcheck, hgrant⟩ := bind_eq_ok_iff.mp h
    obtain ⟨row, hfound, haccepted⟩ := checkRow_eq_ok_iff.mp hcheck
    exact ⟨name, encoding, row, ⟨hname, hencoding, hfound, haccepted⟩, hgrant⟩
  · intro hstages
    obtain ⟨name, encoding, row, hverified, hgrant⟩ := hstages
    have hcheck : handler.checkRow name encoding = .ok () :=
      checkRow_eq_ok_iff.mpr ⟨row, hverified.found, hverified.accepted⟩
    refine bind_eq_ok_iff.mpr ⟨name, hverified.resolved, ?_⟩
    refine bind_eq_ok_iff.mpr ⟨encoding, hverified.encoded, ?_⟩
    exact bind_eq_ok_iff.mpr ⟨(), hcheck, hgrant⟩

/-! ## The result -/

theorem resultFor_eq_ok_iff {handler : CustomAuthenticationHandler ν σ}
    {contents : CredentialValue ν} {principal : Principal ν}
    {messageList : Option (List MessageDescriptor)} {result : HandlerResult ν} :
    handler.resultFor contents principal messageList = .ok result ↔
      contents.isSerializable = true ∧ ∃ warnings, messageList = some warnings ∧
        result = ⟨handler.name, ⟨contents.getId, customCredential, contents⟩, principal,
          warnings⟩ := by
  cases messageList with
  | none => simp [resultFor]
  | some warnings =>
    unfold resultFor
    rw [bind_eq_ok_iff]
    constructor
    · intro hstages
      obtain ⟨metaData, hmetaData, hend⟩ := hstages
      obtain ⟨hserializable, rfl⟩ := metaDataOf_eq_ok_iff.mp hmetaData
      cases hend
      exact ⟨hserializable, warnings, rfl, rfl⟩
    · intro hgiven
      obtain ⟨hserializable, warnings', hwarnings, rfl⟩ := hgiven
      cases hwarnings
      exact ⟨_, metaDataOf_eq_ok_iff.mpr ⟨hserializable, rfl⟩, rfl⟩

/-- With a strategy, the principal is the name and the metadata is that of the
credential submitted. -/
theorem grant_eq_ok_iff_of_strategy {handler : CustomAuthenticationHandler ν σ}
    {strategy : AuthenticationPasswordPolicyHandlingStrategy ν}
    (hstrategy : handler.passwordPolicyHandlingStrategy = some strategy)
    {contents : CredentialValue ν} {name encoding : JString} (hname : isBlank name = false)
    {result : HandlerResult ν} :
    handler.grant contents name encoding = .ok result ↔
      contents.isSerializable = true ∧ ∃ id warnings, name = some id ∧
        strategy.handle (handler.principalFactory.make id)
          handler.passwordPolicyConfiguration = .ok (some warnings) ∧
        result = ⟨handler.name, ⟨contents.getId, customCredential, contents⟩,
          handler.principalFactory.make id, warnings⟩ := by
  obtain ⟨id, rfl⟩ := exists_of_not_isBlank hname
  have hstrategyFor : handler.strategyFor (some id) = some strategy := by
    simp [strategyFor, isNotBlank, hname, hstrategy]
  unfold grant
  simp only [hstrategyFor]
  rw [bind_eq_ok_iff]
  constructor
  · intro hstages
    obtain ⟨principal, hprincipal, h⟩ := hstages
    cases hprincipal
    obtain ⟨messageList, hhandle, h⟩ := bind_eq_ok_iff.mp h
    obtain ⟨hserializable, warnings, rfl, hresult⟩ := resultFor_eq_ok_iff.mp h
    exact ⟨hserializable, id, warnings, rfl, hhandle, hresult⟩
  · intro hgiven
    obtain ⟨hserializable, id', warnings, hid, hhandle, hresult⟩ := hgiven
    cases hid
    refine ⟨_, rfl, bind_eq_ok_iff.mpr ⟨some warnings, hhandle, ?_⟩⟩
    exact resultFor_eq_ok_iff.mpr ⟨hserializable, warnings, rfl, hresult⟩

/-- Without a strategy, the principal is the name submitted and the metadata is
that of the rewritten copy. -/
theorem grant_eq_ok_iff_of_no_strategy {handler : CustomAuthenticationHandler ν σ}
    (hstrategy : handler.passwordPolicyHandlingStrategy = none)
    {contents : CredentialValue ν} {name encoding : JString} {result : HandlerResult ν} :
    handler.grant contents name encoding = .ok result ↔
      contents.isSerializable = true ∧ ∃ id, contents.username = some id ∧
        result = ⟨handler.name,
          ⟨name, customCredential, { contents with username := name, password := encoding }⟩,
          handler.principalFactory.make id, []⟩ := by
  have hstrategyFor : handler.strategyFor name = none := by
    simp [strategyFor, hstrategy]
  unfold grant
  simp only [hstrategyFor]
  rw [bind_eq_ok_iff]
  constructor
  · intro hstages
    obtain ⟨principal, hprincipal, h⟩ := hstages
    cases husername : contents.username with
    | none =>
      rw [husername] at hprincipal
      cases hprincipal
    | some id =>
      rw [husername] at hprincipal
      cases hprincipal
      -- the rewritten copy has the custom fields of the credential
      obtain ⟨hserializable, warnings, hwarnings, hresult⟩ := resultFor_eq_ok_iff.mp h
      cases hwarnings
      exact ⟨hserializable, id, rfl, hresult⟩
  · intro hgiven
    obtain ⟨hserializable, id, husername, hresult⟩ := hgiven
    rw [husername]
    exact ⟨_, rfl, resultFor_eq_ok_iff.mpr ⟨hserializable, [], rfl, hresult⟩⟩

/-- When the policy answers, a verified attempt on a credential that can be serialized
gets its result. -/
theorem exists_grant {handler : CustomAuthenticationHandler ν σ}
    (hpolicy : handler.PolicyAnswers) {salt : σ} {contents : CredentialValue ν}
    (hserializable : contents.isSerializable = true) {name encoding : JString}
    {row : UserBaseInfoEntity}
    (hverified : handler.VerifiedAgainst salt contents name encoding row) :
    ∃ result, handler.grant contents name encoding = .ok result := by
  obtain ⟨husername, _, hname⟩ := resolveName_eq_ok_iff.mp hverified.resolved
  cases hstrategy : handler.passwordPolicyHandlingStrategy with
  | none =>
    obtain ⟨id, hid⟩ := exists_of_not_isBlank husername
    exact ⟨_, (grant_eq_ok_iff_of_no_strategy hstrategy).mpr ⟨hserializable, id, hid, rfl⟩⟩
  | some strategy =>
    obtain ⟨id, hid⟩ := exists_of_not_isBlank hname
    obtain ⟨warnings, hhandle⟩ :=
      hpolicy strategy hstrategy (handler.principalFactory.make id)
    exact ⟨_, (grant_eq_ok_iff_of_strategy hstrategy hname).mpr
      ⟨hserializable, id, warnings, hid, hhandle, rfl⟩⟩

/-- No result is built for a credential that cannot be serialized. -/
theorem serializable_of_grant {handler : CustomAuthenticationHandler ν σ}
    {contents : CredentialValue ν} {name encoding : JString} {result : HandlerResult ν}
    (hgrant : handler.grant contents name encoding = .ok result) :
    contents.isSerializable = true := by
  unfold grant at hgrant
  cases hstrategy : handler.strategyFor name with
  | none =>
    simp only [hstrategy] at hgrant
    obtain ⟨principal, _, h⟩ := bind_eq_ok_iff.mp hgrant
    exact (resultFor_eq_ok_iff.mp h).1
  | some strategy =>
    simp only [hstrategy] at hgrant
    obtain ⟨principal, _, h⟩ := bind_eq_ok_iff.mp hgrant
    obtain ⟨messageList, _, h⟩ := bind_eq_ok_iff.mp h
    exact (resultFor_eq_ok_iff.mp h).1

/-- When the policy answers, to succeed is to be verified against some row with a
credential that can be serialized. -/
theorem succeeds_iff {handler : CustomAuthenticationHandler ν σ}
    (hpolicy : handler.PolicyAnswers) {salt : σ} {contents : CredentialValue ν} :
    handler.Succeeds salt contents ↔
      contents.isSerializable = true ∧
        ∃ name encoding row, handler.VerifiedAgainst salt contents name encoding row := by
  unfold Succeeds
  simp only [attempt_eq_verdict, verdict_eq_ok_iff]
  constructor
  · intro hsucceeds
    obtain ⟨result, name, encoding, row, hverified, hgrant⟩ := hsucceeds
    exact ⟨serializable_of_grant hgrant, name, encoding, row, hverified⟩
  · intro hverifies
    obtain ⟨hserializable, name, encoding, row, hverified⟩ := hverifies
    obtain ⟨result, hresult⟩ := exists_grant hpolicy hserializable hverified
    exact ⟨result, name, encoding, row, hverified, hresult⟩

/-- The default strategy of the field answers. -/
theorem policyAnswers_noWarnings {handler : CustomAuthenticationHandler ν σ}
    (hstrategy : handler.passwordPolicyHandlingStrategy = some noWarnings) :
    handler.PolicyAnswers := by
  intro strategy hsome principal
  rw [hstrategy] at hsome
  cases hsome
  exact ⟨[], rfl⟩

end CustomAuthenticationHandler

end LemonCas.Authentication
