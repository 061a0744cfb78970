import LemonCas.Authentication.CustomAuthenticationHandler
set_option autoImplicit false

/-!
# Authentication: an attempt as a function of the credential's contents

`verdict` says what an attempt decides, with no store: it resolves the name,
encodes the password, finds the row, compares, and grants.  The main theorem,
`doAuthentication_refines`, connects it to the method of the source: from any
store and any live credential, the method ends in the verdict on the contents of
that credential, and every object that existed keeps its contents, whichever
way the method is left.  What is proved of verdicts below is proved of the method.
-/

namespace LemonCas.Authentication

open LemonCas.Foundation
open LemonCas.Java
open LemonCas.Credential
open LemonCas.Service

variable {ν σ : Type}

namespace CustomAuthenticationHandler

/-! ## The stages of an attempt -/

/-- What `replaceField` makes of a text. -/
def replaceText (replacement : JString → Except Throwable JString)
    (blank blankReplacement : Throwable) (text : JString) : Except Throwable JString :=
  if isBlank text then .error blank
  else
    match replacement text with
    | .error e => .error e
    | .ok transformed =>
        if isBlank transformed then .error blankReplacement else .ok transformed

/-- The name an attempt works with, or the failure of `transformUsername`. -/
def resolveName (handler : CustomAuthenticationHandler ν σ) :
    JString → Except Throwable JString :=
  replaceText handler.transform
    (.accountNotFoundException "Username is null.")
    (.accountNotFoundException "Transformed username is null.")

/-- The encoding an attempt compares, or the failure of `transformPassword`. -/
def encodePassword (handler : CustomAuthenticationHandler ν σ) (salt : σ) :
    JString → Except Throwable JString :=
  replaceText (handler.encode salt)
    (.failedLoginException (some "Password is null."))
    (.accountNotFoundException "Encoded password is null.")

/-- The result for a credential with the given contents. -/
def resultFor (handler : CustomAuthenticationHandler ν σ) (contents : CredentialValue ν)
    (principal : Principal ν) : Option (List MessageDescriptor) →
      Except Throwable (HandlerResult ν)
  | none => .error (.nullPointerException (some "warnings is marked non-null but is null"))
  | some warnings => do
      let metaData ← metaDataOf contents
      return ⟨handler.name, metaData, principal, warnings⟩

/-- The lookup of a name, and the check of an encoding against the row found. -/
def checkRow (handler : CustomAuthenticationHandler ν σ) (name encoding : JString) :
    Except Throwable Unit := do
  let row ← handler.queryByUserName name
  let accepted ← handler.matches encoding row.password
  if accepted then .ok () else .error (.failedLoginException none)

/-- The tail of an attempt whose password was accepted. -/
def grant (handler : CustomAuthenticationHandler ν σ) (contents : CredentialValue ν)
    (name encoding : JString) : Except Throwable (HandlerResult ν) :=
  match handler.strategyFor name with
  | some strategy => do
      let principal ← handler.principalFactory.createPrincipal name
      let messageList ← strategy.handle principal handler.passwordPolicyConfiguration
      handler.resultFor contents principal messageList
  | none => do
      let principal ← handler.principalFactory.createPrincipal contents.username
      handler.resultFor { contents with username := name, password := encoding }
        principal (some [])

/-- What an attempt decides about a credential with the given contents. -/
def verdict (handler : CustomAuthenticationHandler ν σ) (salt : σ)
    (contents : CredentialValue ν) : Except Throwable (HandlerResult ν) := do
  let name ← handler.resolveName contents.username
  let encoding ← handler.encodePassword salt contents.password
  handler.checkRow name encoding
  handler.grant contents name encoding

/-! ## The methods of the source, stage by stage -/

/-- `replaceField` sets the replacement, or throws and leaves the store alone. -/
theorem exec_replaceField {s : Store ν} {getter : Method ν JString}
    {setter : JString → Method ν Unit} {text : JString} {written : JString → Store ν}
    (hgetter : getter.exec s = (.ok text, s))
    (hsetter : ∀ transformed, (setter transformed).exec s = (.ok (), written transformed))
    (replacement : JString → Except Throwable JString) (blank blankReplacement : Throwable) :
    (replaceField getter setter replacement blank blankReplacement).exec s =
      match replaceText replacement blank blankReplacement text with
      | .error e => (.error e, s)
      | .ok transformed => (.ok (), written transformed) := by
  unfold replaceField replaceText
  rw [Program.exec_bind_of_ok hgetter]
  rw [Program.exec_bind, Program.exec_throwIf]
  cases isBlank text with
  | true => rfl
  | false =>
    simp only [Bool.false_eq_true, if_false]
    rw [Program.exec_bind, Program.exec_ofExcept]
    cases replacement text with
    | error e => rfl
    | ok transformed =>
      simp only
      rw [Program.exec_bind, Program.exec_throwIf]
      cases isBlank transformed with
      | true => rfl
      | false => exact hsetter transformed

theorem exec_transformUsername (handler : CustomAuthenticationHandler ν σ) {s : Store ν}
    {userPass : Ref (CustomCredential ν)} {object : CustomCredential ν}
    {username : JString} (hread : s.credentials.read userPass = some object)
    (husername : object.username = username) :
    (handler.transformUsername userPass).exec s =
      match handler.resolveName username with
      | .error e => (.error e, s)
      | .ok name => (.ok (), s.writeCredential userPass { object with username := name }) := by
  subst husername
  exact exec_replaceField (exec_getUsername hread) (exec_setUsername hread) _ _ _

theorem exec_transformPassword (handler : CustomAuthenticationHandler ν σ) (salt : σ)
    {s : Store ν} {userPass : Ref (CustomCredential ν)} {object : CustomCredential ν}
    {password : JString} (hread : s.credentials.read userPass = some object)
    (hpassword : object.password = password) :
    (handler.transformPassword salt userPass).exec s =
      match handler.encodePassword salt password with
      | .error e => (.error e, s)
      | .ok encoding =>
          (.ok (), s.writeCredential userPass { object with password := encoding }) := by
  subst hpassword
  exact exec_replaceField (exec_getPassword hread) (exec_setPassword hread) _ _ _

/-- The password check writes nothing. -/
theorem exec_checkPassword (handler : CustomAuthenticationHandler ν σ) {s : Store ν}
    {userPass : Ref (CustomCredential ν)} {object : CustomCredential ν}
    (hread : s.credentials.read userPass = some object) :
    (handler.checkPassword userPass).exec s =
      (handler.checkRow object.username object.password, s) := by
  unfold checkPassword checkRow
  rw [Program.exec_bind_of_ok (exec_getUsername hread)]
  rw [Program.exec_bind, Program.exec_ofExcept]
  cases handler.queryByUserName object.username with
  | error e => rfl
  | ok row =>
    simp only
    rw [Program.exec_bind_of_ok (exec_getPassword hread)]
    rw [Program.exec_bind, Program.exec_ofExcept]
    cases hmatches : handler.matches object.password row.password with
    | error e => simp only [bind, Except.bind, hmatches]
    | ok accepted =>
      simp only [bind, Except.bind, hmatches, Program.exec_throwIf]
      cases accepted <;> rfl

/-- `createHandlerResult` reads the credential and writes nothing. -/
theorem exec_createHandlerResult {handler : CustomAuthenticationHandler ν σ} {s : Store ν}
    {credential : Ref (CustomCredential ν)} {contents : CredentialValue ν}
    (hderef : s.deref credential = some contents) (principal : Principal ν)
    (warnings : Option (List MessageDescriptor)) :
    (handler.createHandlerResult credential principal warnings).exec s =
      (handler.resultFor contents principal warnings, s) := by
  cases warnings with
  | none => rfl
  | some warnings =>
    have hmetaData : (basicCredentialMetaData credential).exec s =
        (metaDataOf contents, s) := by
      unfold basicCredentialMetaData
      rw [Program.exec_bind_of_ok
        (Program.exec_getOrThrow_of_some (f := fun s : Store ν => s.deref credential) hderef),
        Program.exec_ofExcept]
    unfold createHandlerResult resultFor
    rw [Program.exec_bind, hmetaData]
    cases metaDataOf contents with
    | error e => rfl
    | ok metaData => rfl

/-- Both branches of `concludeAuthentication` end in `grant`, and write nothing. -/
theorem exec_concludeAuthentication (handler : CustomAuthenticationHandler ν σ) {s : Store ν}
    {credential userPass : Ref (CustomCredential ν)} {object rewritten : CustomCredential ν}
    {contents : CredentialValue ν} {name encoding : JString}
    (hread : s.credentials.read credential = some object)
    (husername : object.username = contents.username)
    (hcredential : s.deref credential = some contents)
    (hreadUserPass : s.credentials.read userPass = some rewritten)
    (hname : rewritten.username = name)
    (huserPass : s.deref userPass =
      some { contents with username := name, password := encoding }) :
    (handler.concludeAuthentication credential userPass).exec s
      = (handler.grant contents name encoding, s) := by
  unfold concludeAuthentication grant
  rw [Program.exec_bind_of_ok (exec_getUsername hreadUserPass), hname]
  cases handler.strategyFor name with
  | some strategy =>
    simp only
    rw [Program.exec_bind, Program.exec_ofExcept]
    cases handler.principalFactory.createPrincipal name with
    | error e => rfl
    | ok principal =>
      simp only
      rw [Program.exec_bind, Program.exec_ofExcept]
      cases hhandle : strategy.handle principal handler.passwordPolicyConfiguration with
      | error e => simp only [bind, Except.bind, hhandle]
      | ok messageList =>
        simp only [bind, Except.bind, hhandle]
        exact exec_createHandlerResult hcredential principal messageList
  | none =>
    simp only
    rw [Program.exec_bind_of_ok (exec_getUsername hread), husername]
    rw [Program.exec_bind, Program.exec_ofExcept]
    cases handler.principalFactory.createPrincipal contents.username with
    | error e => rfl
    | ok principal => exact exec_createHandlerResult huserPass principal (some [])

/-! ## The method refines the verdict -/

/-- The copy the handler works on: a fresh object with the fields of the credential. -/
theorem exec_copy {s : Store ν} {credential : Ref (CustomCredential ν)}
    {object : CustomCredential ν} (hread : s.credentials.read credential = some object) :
    ∃ userPass created copied,
      (newCustomCredential (ν := ν)).exec s = (.ok userPass, created) ∧
      (copyProperties credential userPass).exec created = (.ok (), copied) ∧
      s.Extends copied ∧ s.credentials.Fresh userPass ∧
      copied.credentials.read userPass = some object := by
  obtain ⟨userPass, created, blank, hnew, hcreated, hfresh, hblank⟩ :=
    exec_newCustomCredential s
  have hcopy := exec_copyProperties (hcreated.credentials.read hread) hblank
  refine ⟨userPass, created, created.writeCredential userPass object, hnew, hcopy, ?_⟩
  have hextends : s.Extends (created.writeCredential userPass object) :=
    hcreated.writeCredential hfresh object
  exact ⟨hextends, hfresh, Store.read_writeCredential hblank object⟩

/-- Started on a live credential, `doAuthentication` ends in the verdict on its
contents, and every object there was keeps its contents.  The postcondition is on
both ways of ending, so the frame holds after a throw at any step. -/
theorem doAuthentication_refines (handler : CustomAuthenticationHandler ν σ) (salt : σ)
    {s : Store ν} {credential : Ref (CustomCredential ν)} {contents : CredentialValue ν}
    (hderef : s.deref credential = some contents) :
    (handler.doAuthentication salt credential).Ensures s fun outcome s' =>
      outcome = handler.verdict salt contents ∧ s.Extends s' := by
  obtain ⟨object, hread, hresolve⟩ := Option.bind_eq_some_iff.mp hderef
  have husername : object.username = contents.username :=
    congrArg CredentialValue.username (Store.toValue_of_resolve hresolve)
  have hpassword : object.password = contents.password :=
    congrArg CredentialValue.password (Store.toValue_of_resolve hresolve)
  unfold doAuthentication
  -- only the copy is written, and it did not exist in `s`: the frame of each stage
  -- follows from `hfresh`
  obtain ⟨userPass, created, copied, hnew, hcopy, hcopied, hfresh, hreadCopy⟩ :=
    exec_copy hread
  apply Program.Ensures.bind_of_exec hnew
  apply Program.Ensures.bind_of_exec hcopy
  have hrename := handler.exec_transformUsername hreadCopy husername
  cases hname : handler.resolveName contents.username with
  | error e =>
    rw [hname] at hrename
    have hverdict : handler.verdict salt contents = .error e := by
      simp only [verdict, bind, Except.bind, hname]
    exact .of_exec (Program.exec_bind_of_error hrename) ⟨hverdict.symm, hcopied⟩
  | ok name =>
    rw [hname] at hrename
    apply Program.Ensures.bind_of_exec hrename
    have hrenamed := hcopied.writeCredential hfresh { object with username := name }
    have hreadName := Store.read_writeCredential hreadCopy { object with username := name }
    have hencode := handler.exec_transformPassword salt hreadName hpassword
    cases hencoding : handler.encodePassword salt contents.password with
    | error e =>
      rw [hencoding] at hencode
      have hverdict : handler.verdict salt contents = .error e := by
        simp only [verdict, bind, Except.bind, hname, hencoding]
      exact .of_exec (Program.exec_bind_of_error hencode) ⟨hverdict.symm, hrenamed⟩
    | ok encoding =>
      rw [hencoding] at hencode
      apply Program.Ensures.bind_of_exec hencode
      have hrewritten := hrenamed.writeCredential hfresh
        { object with username := name, password := encoding }
      have hreadRewritten := Store.read_writeCredential hreadName
        { object with username := name, password := encoding }
      have hcheck := handler.exec_checkPassword hreadRewritten
      cases hrow : handler.checkRow name encoding with
      | error e =>
        rw [hrow] at hcheck
        have hverdict : handler.verdict salt contents = .error e := by
          simp only [verdict, bind, Except.bind, hname, hencoding, hrow]
        exact .of_exec (Program.exec_bind_of_error hcheck) ⟨hverdict.symm, hrewritten⟩
      | ok _ =>
        rw [hrow] at hcheck
        apply Program.Ensures.bind_of_exec hcheck
        -- without a strategy the result records the rewritten copy
        have huserPass := Option.bind_eq_some_iff.mpr
          ⟨_, hreadRewritten, hrewritten.resolve (Store.resolve_replace hresolve name encoding)⟩
        have hconclude := handler.exec_concludeAuthentication
          (hrewritten.credentials.read hread) husername (hrewritten.deref hderef)
          hreadRewritten rfl huserPass
        have hverdict : handler.verdict salt contents = handler.grant contents name encoding := by
          simp only [verdict, bind, Except.bind, hname, hencoding, hrow]
        exact .of_exec hconclude ⟨hverdict.symm, hrewritten⟩

/-! ## The outcome of an attempt -/

/-- The outcome of an attempt on a fresh object with the given contents. -/
def attempt (handler : CustomAuthenticationHandler ν σ) (salt : σ)
    (contents : CredentialValue ν) : Except Throwable (HandlerResult ν) :=
  ((handler.doAuthentication salt freshCredential).exec (freshStore contents)).1

/-- The outcome on a live credential depends on nothing but its contents. -/
theorem outcome_eq_attempt (handler : CustomAuthenticationHandler ν σ) (salt : σ)
    {s : Store ν} {credential : Ref (CustomCredential ν)} {contents : CredentialValue ν}
    (hderef : s.deref credential = some contents) :
    ((handler.doAuthentication salt credential).exec s).1 = handler.attempt salt contents := by
  have hlive := (handler.doAuthentication_refines salt hderef).1
  have hfresh := (handler.doAuthentication_refines salt (deref_freshStore contents)).1
  exact hlive.trans hfresh.symm

theorem attempt_eq_verdict (handler : CustomAuthenticationHandler ν σ) (salt : σ)
    (contents : CredentialValue ν) :
    handler.attempt salt contents = handler.verdict salt contents :=
  (handler.doAuthentication_refines salt (deref_freshStore contents)).1

end CustomAuthenticationHandler

end LemonCas.Authentication
