import LemonCas.Authentication.Decision
set_option autoImplicit false

/-!
# Authentication: the deployed handler

`CustomAuthenticationEventExecutionPlanConfiguration.customAuthenticationHandler`
sets a user service and leaves every other collaborator at its initial value: the
encoder that does nothing, the identity transformer and the strategy without
warnings.  Its decision is then a function of what was submitted and of the rows the
query gives, and `deployed_decision` says which.  An accepted password is not the end:
the metadata of the result is a serialized copy of the credential, and a custom field
that cannot be serialized ends the attempt in an exception no error page knows.
-/

namespace LemonCas.Authentication

open LemonCas.Foundation
open LemonCas.Java
open LemonCas.Credential
open LemonCas.Service
open CustomAuthenticationHandler

variable {ν : Type}

/-! ## The wiring -/

/-- The handler the configuration assembles, given that there is a query. -/
def assembleHandler (noOp : NoOpPasswordEncoder) (querUserSql : JString)
    (jdbcTemplate : JdbcTemplate) : CustomAuthenticationHandler ν Unit :=
  let handler := newHandler noOp
    (some "com.lemon.cas.authentication.CustomAuthenticationHandler") defaultPrincipalFactory 1
  let userBaseInfoService : UserBaseInfoServiceImpl := ⟨querUserSql, jdbcTemplate⟩
  { handler with userBaseInfoService := some userBaseInfoService.toUserBaseInfoService }

/-- `CustomAuthenticationEventExecutionPlanConfiguration.customAuthenticationHandler`. -/
def customAuthenticationHandler (noOp : NoOpPasswordEncoder) (querUserSql : JString)
    (jdbcTemplate : JdbcTemplate) : Except Throwable (CustomAuthenticationHandler ν Unit) :=
  if isNotBlank querUserSql then .ok (assembleHandler noOp querUserSql jdbcTemplate)
  else .error (.illegalArgumentException "QuerUserSql is not allowed to be empty")

/-- A handler that was wired has a query, and is the assembled one. -/
theorem customAuthenticationHandler_eq_ok_iff {noOp : NoOpPasswordEncoder}
    {querUserSql : JString} {jdbcTemplate : JdbcTemplate}
    {handler : CustomAuthenticationHandler ν Unit} :
    customAuthenticationHandler noOp querUserSql jdbcTemplate = .ok handler ↔
      isBlank querUserSql = false ∧ handler = assembleHandler noOp querUserSql jdbcTemplate := by
  unfold customAuthenticationHandler isNotBlank
  cases isBlank querUserSql with
  | true => simp
  | false => simp [eq_comm]

/-! ## The ways an attempt can end -/

/-- The kinds of outcome an error page, or the session, tells apart. -/
inductive Ending where
  | accountNotFound
  | failedLogin
  | accountNotPresence
  | accountConfuse
  | success
  | unchecked
  deriving DecidableEq, Repr

/-- The kind of an outcome. -/
def endingOf : Except Throwable (HandlerResult ν) → Ending
  | .error (.accountNotFoundException _) => .accountNotFound
  | .error (.failedLoginException _) => .failedLogin
  | .error .accountNotPresenceException => .accountNotPresence
  | .error .accountConfuseException => .accountConfuse
  | .error _ => .unchecked
  | .ok _ => .success

theorem endingOf_unableToSerialize :
    endingOf (.error unableToSerialize : Except Throwable (HandlerResult ν)) = .unchecked := rfl

section Wired

variable {noOp : NoOpPasswordEncoder} {querUserSql : JString} {jdbcTemplate : JdbcTemplate}
  {contents : CredentialValue ν}

/-! ## The stages of the assembled handler -/

theorem resolveName_assembled {username : JString} (husername : isBlank username = false) :
    (assembleHandler (ν := ν) noOp querUserSql jdbcTemplate).resolveName username
      = .ok username :=
  resolveName_eq_ok_iff.mpr ⟨husername, rfl, husername⟩

theorem encodePassword_assembled {password : JString} (hpassword : isBlank password = false) :
    (assembleHandler (ν := ν) noOp querUserSql jdbcTemplate).encodePassword () password
      = .ok password := by
  obtain ⟨text, rfl⟩ := exists_of_not_isBlank hpassword
  exact encodePassword_eq_ok_iff.mpr ⟨hpassword, noOp.encode_text text, hpassword⟩

/-- The result of the assembled handler for a name. -/
def assembledResult (contents : CredentialValue ν) (id : String) : HandlerResult ν :=
  ⟨"com.lemon.cas.authentication.CustomAuthenticationHandler",
    ⟨contents.getId, customCredential, contents⟩, ⟨id, .empty⟩, []⟩

/-- An accepted password leads to that result, unless the credential cannot be
serialized. -/
theorem grant_assembled {username : String} (husername : isBlank (some username) = false)
    (encoding : JString) :
    (assembleHandler noOp querUserSql jdbcTemplate).grant contents (some username) encoding =
      if contents.isSerializable = true then .ok (assembledResult contents username)
      else .error unableToSerialize := by
  have hstrategy : (assembleHandler (ν := ν) noOp querUserSql jdbcTemplate).strategyFor
      (some username) = some noWarnings := by
    rw [strategyFor, isNotBlank, husername]
    rfl
  have hgrant : (assembleHandler noOp querUserSql jdbcTemplate).grant contents (some username)
      encoding = (assembleHandler noOp querUserSql jdbcTemplate).resultFor contents
        ⟨username, .empty⟩ (some []) := by
    unfold grant
    simp only [hstrategy]
    rfl
  rw [hgrant, resultFor, metaDataOf]
  split
  · rfl
  · rfl

/-- A blank name ends the attempt. -/
theorem attempt_assembled_of_blank_username (husername : isBlank contents.username = true) :
    (assembleHandler noOp querUserSql jdbcTemplate).attempt () contents
      = .error (.accountNotFoundException "Username is null.") := by
  rw [attempt_eq_verdict]
  simp [verdict, resolveName, replaceText, husername, bind, Except.bind]

/-- With a name, a blank password ends the attempt before the lookup. -/
theorem attempt_assembled_of_blank_password (husername : isBlank contents.username = false)
    (hpassword : isBlank contents.password = true) :
    (assembleHandler noOp querUserSql jdbcTemplate).attempt () contents
      = .error (.failedLoginException (some "Password is null.")) := by
  rw [attempt_eq_verdict, verdict, resolveName_assembled husername]
  simp [encodePassword, replaceText, hpassword, bind, Except.bind]

/-- With both, the attempt is decided by the rows of the lookup of the name: one
row is compared with the password as typed, and any other number of rows ends the
attempt whatever is in them.  Only then does it matter whether the credential can be
serialized. -/
theorem attempt_assembled_of_rows (husername : isBlank contents.username = false)
    (hpassword : isBlank contents.password = false) {userList : List UserBaseInfoEntity}
    (hrows : jdbcTemplate.query querUserSql [contents.username] = .ok userList) :
    (assembleHandler noOp querUserSql jdbcTemplate).attempt () contents =
      match UserBaseInfoServiceImpl.singleUser userList with
      | .error e => .error e
      | .ok row =>
          if row.password = contents.password then
            if contents.isSerializable = true then
              .ok (assembledResult contents (contents.username.getD ""))
            else .error unableToSerialize
          else .error (.failedLoginException none) := by
  have hfound : UserBaseInfoServiceImpl.queryByUserName ⟨querUserSql, jdbcTemplate⟩
      contents.username = UserBaseInfoServiceImpl.singleUser userList :=
    UserBaseInfoServiceImpl.queryByUserName_of_rows hrows
  have hquery : (assembleHandler (ν := ν) noOp querUserSql jdbcTemplate).queryByUserName
      contents.username = UserBaseInfoServiceImpl.singleUser userList := hfound
  obtain ⟨username, hsome⟩ := exists_of_not_isBlank husername
  obtain ⟨password, htyped⟩ := exists_of_not_isBlank hpassword
  rw [attempt_eq_verdict, verdict, resolveName_assembled husername]
  simp only [bind, Except.bind, encodePassword_assembled hpassword, checkRow, hquery]
  cases UserBaseInfoServiceImpl.singleUser userList with
  | error e => rfl
  | ok row =>
    have hmatches : (assembleHandler (ν := ν) noOp querUserSql jdbcTemplate).matches
        contents.password row.password = .ok (decide (row.password = contents.password)) := by
      rw [htyped]
      exact noOp.matches_text password row.password
    simp only [hmatches]
    by_cases hequal : row.password = contents.password
    · simp only [hequal, decide_true, if_true]
      rw [hsome] at husername ⊢
      exact grant_assembled husername contents.password
    · simp [hequal]

/-! ## The decision -/

/-- The exact decision of the deployed handler, by what was submitted and by the
rows the query gives for the submitted name.  The ending is one value, so the six
statements exclude each other; the last but one is the only unchecked exception, of an
accepted password whose credential cannot be serialized. -/
theorem deployed_decision {handler : CustomAuthenticationHandler ν Unit}
    (hwired : customAuthenticationHandler noOp querUserSql jdbcTemplate = .ok handler)
    {lookup : JString → List UserBaseInfoEntity}
    (hlookup : ∀ name, jdbcTemplate.query querUserSql [name] = .ok (lookup name))
    (contents : CredentialValue ν) :
    let outcome := handler.attempt () contents
    let bothGiven := isBlank contents.username = false ∧ isBlank contents.password = false
    let passwordStored := ∃ row, lookup contents.username = [row] ∧
      row.password = contents.password
    (endingOf outcome = .accountNotFound ↔ isBlank contents.username = true) ∧
    (endingOf outcome = .failedLogin ↔ isBlank contents.username = false ∧
      (isBlank contents.password = true ∨
        ∃ row, lookup contents.username = [row] ∧ row.password ≠ contents.password)) ∧
    (endingOf outcome = .accountNotPresence ↔
      bothGiven ∧ lookup contents.username = []) ∧
    (endingOf outcome = .accountConfuse ↔
      bothGiven ∧ 2 ≤ (lookup contents.username).length) ∧
    (endingOf outcome = .success ↔
      bothGiven ∧ passwordStored ∧ contents.isSerializable = true) ∧
    (endingOf outcome = .unchecked ↔
      bothGiven ∧ passwordStored ∧ contents.isSerializable = false) ∧
    (endingOf outcome = .unchecked → outcome = .error unableToSerialize) ∧
    (∀ result, outcome = .ok result → some result.principal.id = contents.username) := by
  obtain ⟨_, rfl⟩ := customAuthenticationHandler_eq_ok_iff.mp hwired
  intro outcome bothGiven passwordStored
  cases husername : isBlank contents.username with
  | true =>
    have hend : outcome = .error (.accountNotFoundException "Username is null.") :=
      attempt_assembled_of_blank_username husername
    simp [hend, endingOf, bothGiven, husername]
  | false =>
    cases hpassword : isBlank contents.password with
    | true =>
      have hend : outcome = .error (.failedLoginException (some "Password is null.")) :=
        attempt_assembled_of_blank_password husername hpassword
      simp [hend, endingOf, bothGiven, hpassword]
    | false =>
      obtain ⟨username, hsome⟩ := exists_of_not_isBlank husername
      have hend : outcome = _ :=
        attempt_assembled_of_rows husername hpassword (hlookup contents.username)
      have hboth : bothGiven := ⟨husername, hpassword⟩
      match hrows : lookup contents.username with
      | [] =>
        rw [hrows] at hend
        have hend : outcome = .error .accountNotPresenceException := hend
        simp [hend, endingOf, hboth, passwordStored, hrows]
      | _ :: _ :: _ =>
        rw [hrows] at hend
        have hend : outcome = .error .accountConfuseException := hend
        simp [hend, endingOf, hboth, passwordStored, hrows]
      | [row] =>
        rw [hrows] at hend
        by_cases hequal : row.password = contents.password
        · have hstored : passwordStored := ⟨row, hrows, hequal⟩
          cases hserializable : contents.isSerializable with
          | true =>
            have hend : outcome = .ok (assembledResult contents (contents.username.getD "")) := by
              simpa [UserBaseInfoServiceImpl.singleUser, hequal, hserializable] using hend
            simp [hend, endingOf, hboth, hequal, hstored, assembledResult, hsome]
          | false =>
            have hend : outcome = .error unableToSerialize := by
              simpa [UserBaseInfoServiceImpl.singleUser, hequal, hserializable] using hend
            simp [hend, endingOf_unableToSerialize, hboth, hequal, hstored]
        · have hend : outcome = .error (.failedLoginException none) := by
            simpa [UserBaseInfoServiceImpl.singleUser, hequal] using hend
          simp [hend, endingOf, hboth, hequal, passwordStored, hrows]

end Wired

/-- An encoder that does what is documented of `NoOpPasswordEncoder`. -/
def plainTextEncoder : NoOpPasswordEncoder where
  encode _ rawPassword :=
    match rawPassword with
    | some text => .ok (some text)
    | none => .error (.nullPointerException none)
  «matches» rawPassword encodedPassword :=
    match rawPassword with
    | some text => .ok (decide (encodedPassword = some text))
    | none => .error (.nullPointerException none)
  encode_text _ := rfl
  matches_text _ _ := rfl

/-- One user, known under every name. -/
def onlyAlice : JdbcTemplate :=
  ⟨fun _ _ => .ok [⟨some "1", some "alice", some "secret", some true, none⟩]⟩

/-- The deployed handler over that lookup. -/
def aliceHandler : CustomAuthenticationHandler Unit Unit :=
  assembleHandler plainTextEncoder (some "select * from user where name = ?") onlyAlice

/-- The credential a user submits with a name and a password. -/
def submitted (username password : String) : CredentialValue Unit :=
  ⟨some username, some password, none, none, none, some .empty⟩

theorem deployed_decision_alice :
    endingOf (aliceHandler.attempt () (submitted "alice" "secret")) = .success := by
  have hwired : customAuthenticationHandler plainTextEncoder
      (some "select * from user where name = ?") onlyAlice = .ok aliceHandler := rfl
  have hdecision := deployed_decision hwired (fun _ => rfl) (submitted "alice" "secret")
  obtain ⟨_, _, _, _, hsuccess, _⟩ := hdecision
  exact hsuccess.mpr ⟨⟨by decide, by decide⟩, ⟨_, rfl, rfl⟩, by decide⟩

/-- That credential with an object in a custom field that cannot be serialized. -/
def submittedWithObject : CredentialValue Unit :=
  { submitted "alice" "secret" with
    customFields := some (Keyed.empty.put ("k", ⟨(), false⟩)) }

/-- The password is the stored one, and the attempt ends in an unchecked exception. -/
theorem submittedWithObject_not_accepted :
    onlyAlice.query (some "select * from user where name = ?") [submittedWithObject.username] =
        .ok [⟨some "1", some "alice", submittedWithObject.password, some true, none⟩] ∧
      isBlank submittedWithObject.username = false ∧
      isBlank submittedWithObject.password = false ∧
      aliceHandler.attempt () submittedWithObject = .error unableToSerialize ∧
      endingOf (aliceHandler.attempt () submittedWithObject) = .unchecked := by
  refine ⟨rfl, by decide, by decide, rfl, rfl⟩

end LemonCas.Authentication
