import LemonCas.Authentication.DeployedTransaction
import LemonCas.Authentication.Identity
set_option autoImplicit false

/-!
# Authentication: logins one after the other

The manager of a deployed plan serves one login after the other on one store, and a login
that fails does not end the run.  What a login has to be is said here in terms of the
submission alone: the credential can be serialized, the service lets it through, the
custom handler is tried, and the one row the query gives for the typed name has the typed
password.  The main theorem says
that in every run every login is accepted exactly when it is such a submission.
-/

namespace LemonCas.Authentication

open LemonCas.Foundation
open LemonCas.Java
open LemonCas.Credential
open LemonCas.Service
open CustomAuthenticationHandler

variable {ν : Type}

/-! ## What has to be submitted -/

namespace Deployment

/-- A transaction with the credential of the login form. -/
def loginTransaction {κ : Type} (service : Option (Option RegisteredService)) (credential : κ) :
    AuthenticationTransaction κ :=
  ⟨service, [credential]⟩

/-- The query gives one row for the typed name, and the row has the typed password. -/
structure Known (d : Deployment ν) (contents : CredentialValue ν) : Prop where
  username : isBlank contents.username = false
  password : isBlank contents.password = false
  row : ∃ row, d.jdbcTemplate.query d.querUserSql [contents.username] = .ok [row] ∧
    row.password = contents.password

/-- The credential can be serialized, the service lets the login through, the custom
handler is tried, and the user is known by what was typed. -/
structure Accepts (d : Deployment ν) (service : Option (Option RegisteredService))
    (contents : CredentialValue ν) : Prop where
  serializable : contents.isSerializable = true
  allowed : ¬(loginTransaction service contents).AccessRefused
  tried : d.TriesCustom (loginTransaction service contents)
  known : d.Known contents

/-- The authentication of an accepted login: the principal is the typed name, and the
custom handler is the only one that succeeded. -/
def authenticationOf (contents : CredentialValue ν) : Authentication ν :=
  ⟨[⟨contents.getId, customCredential, contents⟩],
    some ⟨contents.username.getD "", .empty⟩,
    Keyed.empty.put (customHandlerName, assembledResult contents (contents.username.getD "")),
    .empty⟩

variable {d : Deployment ν}

/-- The handler compares texts. -/
theorem matches_handler (password : String) (stored : JString) :
    d.handler.matches (some password) stored = .ok (decide (stored = some password)) :=
  d.noOp.matches_text password stored

/-- The handler's stages are passed by the typed name and password as they are. -/
theorem verifiedAgainst_iff {contents : CredentialValue ν} {name encoding : JString}
    {row : UserBaseInfoEntity} :
    d.handler.VerifiedAgainst () contents name encoding row ↔
      isBlank contents.username = false ∧ isBlank contents.password = false ∧
        name = contents.username ∧ encoding = contents.password ∧
        d.jdbcTemplate.query d.querUserSql [contents.username] = .ok [row] ∧
        row.password = contents.password := by
  constructor
  · intro hverified
    obtain ⟨hresolved, hencoded, hfound, haccepted⟩ := hverified
    obtain ⟨husername, htransform, _⟩ := resolveName_eq_ok_iff.mp hresolved
    obtain ⟨hpassword, _, _⟩ := encodePassword_eq_ok_iff.mp hencoded
    have hname : name = contents.username := (Except.ok.inj htransform).symm
    have hencoding : encoding = contents.password :=
      Except.ok.inj (hencoded.symm.trans (encodePassword_assembled hpassword))
    subst hname
    subst hencoding
    obtain ⟨password, htyped⟩ := exists_of_not_isBlank hpassword
    refine ⟨husername, hpassword, rfl, rfl, ?_, ?_⟩
    · exact UserBaseInfoServiceImpl.queryByUserName_eq_ok_iff.mp hfound
    · rw [htyped, matches_handler] at haccepted
      rw [htyped]
      exact of_decide_eq_true (Except.ok.inj haccepted)
  · intro h
    obtain ⟨husername, hpassword, rfl, rfl, hrow, hequal⟩ := h
    obtain ⟨password, htyped⟩ := exists_of_not_isBlank hpassword
    refine ⟨resolveName_assembled husername, encodePassword_assembled hpassword, ?_, ?_⟩
    · exact UserBaseInfoServiceImpl.queryByUserName_eq_ok_iff.mpr hrow
    · rw [htyped] at hequal ⊢
      rw [matches_handler, decide_eq_true hequal]

/-- The handler accepts exactly who is known by a credential that can be serialized, and
then there is one result. -/
theorem attempt_eq_ok_iff {contents : CredentialValue ν} {result : HandlerResult ν} :
    d.handler.attempt () contents = .ok result ↔
      contents.isSerializable = true ∧ d.Known contents ∧
        result = assembledResult contents (contents.username.getD "") := by
  have hgrant : isBlank contents.username = false → contents.isSerializable = true →
      d.handler.grant contents contents.username contents.password =
        .ok (assembledResult contents (contents.username.getD "")) := by
    intro husername hserializable
    obtain ⟨username, hsome⟩ := exists_of_not_isBlank husername
    rw [hsome] at husername ⊢
    exact (grant_assembled husername contents.password).trans (if_pos hserializable)
  rw [attempt_eq_verdict, verdict_eq_ok_iff]
  constructor
  · intro h
    obtain ⟨name, encoding, row, hverified, hresult⟩ := h
    have hserializable := serializable_of_grant hresult
    obtain ⟨husername, hpassword, rfl, rfl, hrow, hequal⟩ := verifiedAgainst_iff.mp hverified
    rw [hgrant husername hserializable] at hresult
    exact ⟨hserializable, ⟨husername, hpassword, row, hrow, hequal⟩,
      (Except.ok.inj hresult).symm⟩
  · intro h
    obtain ⟨hserializable, ⟨husername, hpassword, row, hrow, hequal⟩, rfl⟩ := h
    exact ⟨_, _, row, verifiedAgainst_iff.mpr ⟨husername, hpassword, rfl, rfl, hrow, hequal⟩,
      hgrant husername hserializable⟩

/-! ## How a login ends -/

/-- What the handler throws at a submission, and why. -/
inductive Rejection (d : Deployment ν) (contents : CredentialValue ν) : Throwable → Prop where
  | blankUsername (husername : isBlank contents.username = true) :
      Rejection d contents (.accountNotFoundException "Username is null.")
  | blankPassword (husername : isBlank contents.username = false)
      (hpassword : isBlank contents.password = true) :
      Rejection d contents (.failedLoginException (some "Password is null."))
  | queryFailed (husername : isBlank contents.username = false)
      (hpassword : isBlank contents.password = false) {e : Throwable}
      (hquery : d.jdbcTemplate.query d.querUserSql [contents.username] = .error e) :
      Rejection d contents e
  | noRow (husername : isBlank contents.username = false)
      (hpassword : isBlank contents.password = false)
      (hquery : d.jdbcTemplate.query d.querUserSql [contents.username] = .ok []) :
      Rejection d contents .accountNotPresenceException
  | severalRows (husername : isBlank contents.username = false)
      (hpassword : isBlank contents.password = false) {first second : UserBaseInfoEntity}
      {rest : List UserBaseInfoEntity}
      (hquery : d.jdbcTemplate.query d.querUserSql [contents.username] =
        .ok (first :: second :: rest)) :
      Rejection d contents .accountConfuseException
  | wrongPassword (husername : isBlank contents.username = false)
      (hpassword : isBlank contents.password = false) {row : UserBaseInfoEntity}
      (hquery : d.jdbcTemplate.query d.querUserSql [contents.username] = .ok [row])
      (hdiffers : row.password ≠ contents.password) :
      Rejection d contents (.failedLoginException none)
  | notSerializable (hbroken : contents.isSerializable = false) (hknown : d.Known contents) :
      Rejection d contents unableToSerialize

/-- A failing query ends the attempt with what it threw. -/
theorem attempt_of_query_error {contents : CredentialValue ν}
    (husername : isBlank contents.username = false)
    (hpassword : isBlank contents.password = false) {e : Throwable}
    (hquery : d.jdbcTemplate.query d.querUserSql [contents.username] = .error e) :
    d.handler.attempt () contents = .error e := by
  have hrows : UserBaseInfoServiceImpl.rows ⟨d.querUserSql, d.jdbcTemplate⟩ contents.username =
      .error e := hquery
  have hfound : d.handler.queryByUserName contents.username = .error e := by
    have hservice : d.handler.queryByUserName contents.username =
        UserBaseInfoServiceImpl.queryByUserName ⟨d.querUserSql, d.jdbcTemplate⟩
          contents.username := rfl
    rw [hservice, UserBaseInfoServiceImpl.queryByUserName, hrows]
    rfl
  have hname : d.handler.resolveName contents.username = .ok contents.username :=
    resolveName_assembled husername
  have hencoding : d.handler.encodePassword () contents.password = .ok contents.password :=
    encodePassword_assembled hpassword
  rw [attempt_eq_verdict, verdict]
  simp only [bind, Except.bind, hname, hencoding, checkRow, hfound]

/-- Every submission is known and gets its result, or is rejected for one reason. -/
theorem attempt_cases (d : Deployment ν) (contents : CredentialValue ν) :
    d.handler.attempt () contents =
        .ok (assembledResult contents (contents.username.getD "")) ∧
        contents.isSerializable = true ∧ d.Known contents ∨
      ∃ e, d.handler.attempt () contents = .error e ∧ d.Rejection contents e := by
  cases husername : isBlank contents.username with
  | true =>
    exact Or.inr ⟨_, attempt_assembled_of_blank_username husername, .blankUsername husername⟩
  | false =>
    cases hpassword : isBlank contents.password with
    | true =>
      exact Or.inr ⟨_, attempt_assembled_of_blank_password husername hpassword,
        .blankPassword husername hpassword⟩
    | false =>
      match hquery : d.jdbcTemplate.query d.querUserSql [contents.username] with
      | .error e =>
        exact Or.inr ⟨e, attempt_of_query_error husername hpassword hquery,
          .queryFailed husername hpassword hquery⟩
      | .ok [] =>
        exact Or.inr ⟨_, attempt_assembled_of_rows husername hpassword hquery,
          .noRow husername hpassword hquery⟩
      | .ok (_ :: _ :: _) =>
        exact Or.inr ⟨_, attempt_assembled_of_rows husername hpassword hquery,
          .severalRows husername hpassword hquery⟩
      | .ok [row] =>
        by_cases hequal : row.password = contents.password
        · have hknown : d.Known contents := ⟨husername, hpassword, row, hquery, hequal⟩
          cases hserializable : contents.isSerializable with
          | true =>
            exact Or.inl ⟨attempt_eq_ok_iff.mpr ⟨hserializable, hknown, rfl⟩, rfl, hknown⟩
          | false =>
            have hrow : d.handler.attempt () contents = _ :=
              attempt_assembled_of_rows husername hpassword hquery
            have hend : d.handler.attempt () contents = .error unableToSerialize := by
              simpa [UserBaseInfoServiceImpl.singleUser, hequal, hserializable] using hrow
            exact Or.inr ⟨_, hend, .notSerializable hserializable hknown⟩
        · have hrow : d.handler.attempt () contents = _ :=
            attempt_assembled_of_rows husername hpassword hquery
          have hend : d.handler.attempt () contents = .error (.failedLoginException none) := by
            simpa [UserBaseInfoServiceImpl.singleUser, hequal] using hrow
          exact Or.inr ⟨_, hend, .wrongPassword husername hpassword hquery hequal⟩

/-- What an allowed login that the handler rejects ends in. -/
theorem verdict_of_rejection (d : Deployment ν) (clock : ℕ → ℕ)
    {service : Option (Option RegisteredService)} {contents : CredentialValue ν}
    (hserializable : contents.isSerializable = true)
    (haccess : ¬(loginTransaction service contents).AccessRefused)
    (htries : d.TriesCustom (loginTransaction service contents)) {e : Throwable}
    (hend : d.handler.attempt () contents = .error e) :
    d.manager.verdict clock (loginTransaction service contents) =
      .error (.authentication
        (.ofOutcomes (Keyed.empty.put (customHandlerName, e)) .empty)) := by
  have hone : (loginTransaction service contents).credentials = [contents] := rfl
  rw [(d.verdict_of_login clock hone hserializable).2.1 haccess htries, hend]
  rfl

/-- A login ends in an authentication exactly when its submission is accepted, and it is
the one of the submission. -/
theorem verdict_eq_ok_iff_accepts (d : Deployment ν) (clock : ℕ → ℕ)
    (service : Option (Option RegisteredService)) (contents : CredentialValue ν)
    (authentication : Authentication ν) :
    d.manager.verdict clock (loginTransaction service contents) = .ok authentication ↔
      d.Accepts service contents ∧ authentication = authenticationOf contents := by
  have hone : (loginTransaction service contents).credentials = [contents] := rfl
  cases hserializable : contents.isSerializable with
  | false =>
    rw [d.verdict_of_not_serializable clock hone hserializable]
    refine iff_of_false (fun h => by cases h) fun h => ?_
    exact Bool.false_ne_true (hserializable.symm.trans h.1.serializable)
  | true =>
    obtain ⟨hrefused, htried, huntried⟩ := d.verdict_of_login clock hone hserializable
    by_cases haccess : (loginTransaction service contents).AccessRefused
    · rw [hrefused haccess]
      refine iff_of_false (fun h => by cases h) fun h => h.1.allowed haccess
    · by_cases htries : d.TriesCustom (loginTransaction service contents)
      · rw [htried haccess htries]
        cases houtcome : d.handler.attempt () contents with
        | ok result =>
          obtain ⟨_, hknown, rfl⟩ := attempt_eq_ok_iff.mp houtcome
          constructor
          · intro hok
            exact ⟨⟨hserializable, haccess, htries, hknown⟩, (Except.ok.inj hok).symm⟩
          · intro h
            rw [h.2]
            rfl
        | error e =>
          refine iff_of_false (fun h => by cases h) fun h => ?_
          have haccepted := attempt_eq_ok_iff.mpr ⟨hserializable, h.1.known, rfl⟩
          rw [houtcome] at haccepted
          cases haccepted
      · rw [huntried haccess htries]
        exact iff_of_false (fun h => by cases h) fun h => htries h.1.tried

end Deployment

/-! ## Runs of logins -/

/-- A login at a store: the service it is for, the credential object the form filled, and
what the form filled it with. -/
structure Login (s : Store ν) where
  clock : ℕ → ℕ
  service : Option (Option RegisteredService)
  credential : Ref (CustomCredential ν)
  contents : CredentialValue ν
  filled : s.deref credential = some contents

namespace Login

variable {s : Store ν}

/-- The transaction of a login. -/
def transaction (login : Login s) : AuthenticationTransaction (Ref (CustomCredential ν)) :=
  Deployment.loginTransaction login.service login.credential

variable (login : Login s) {s' : Store ν}

theorem liveIn (hkept : s.Extends s') : login.transaction.LiveIn s' := by
  intro credential hmem
  cases List.mem_singleton.mp hmem
  exact ⟨login.contents, hkept.deref login.filled⟩

theorem contents_transaction (hkept : s.Extends s') :
    login.transaction.contents s' =
      Deployment.loginTransaction login.service login.contents := by
  have hderef := hkept.deref login.filled
  simp only [transaction, Deployment.loginTransaction, AuthenticationTransaction.contents,
    List.filterMap_cons_some hderef, List.filterMap_nil]

end Login

namespace Deployment

section Runs

variable (d : Deployment ν) {s : Store ν}

/-- Serve the logins of a list, one after the other. -/
def runLogins (logins : List (Login s)) :
    List (Login s × Except (TransactionFailure ν) (Authentication ν)) × Store ν :=
  Program.runAll (fun login : Login s =>
    d.manager.authenticate login.clock login.transaction) logins s

/-- How a login ends, by its submission. -/
def outcomeOf (login : Login s) : Except (TransactionFailure ν) (Authentication ν) :=
  d.manager.verdict login.clock (loginTransaction login.service login.contents)

/-- A login served anywhere in a run ends as its submission says and keeps every object
there was at the start of the run. -/
theorem authenticate_ensures (login : Login s) {reached : Store ν} (hreached : s.Extends reached) :
    (d.manager.authenticate login.clock login.transaction).Ensures reached fun outcome s' =>
      outcome = d.outcomeOf login ∧ s.Extends s' := by
  have hrefines := d.manager.authenticate_refines login.clock d.decidesByContents
    (login.liveIn hreached)
  apply hrefines.mono
  intro outcome s' h
  obtain ⟨houtcome, hkept⟩ := h
  refine ⟨?_, hreached.trans hkept⟩
  rw [houtcome, login.contents_transaction hreached]
  rfl

theorem runLogins_spec (logins : List (Login s)) :
    (d.runLogins logins).1 = logins.map (fun login => (login, d.outcomeOf login)) ∧
      s.Extends (d.runLogins logins).2 :=
  Program.runAll_of_invariant
    (fun login _ hreached => d.authenticate_ensures login hreached) logins (.refl s)

/-- In every run of logins, however many have failed or gone through before, a login ends
in an authentication exactly when its own submission is accepted; the authentication is
that of the typed name, and no credential object changes. -/
theorem logins_decided_by_submission (logins : List (Login s)) :
    (d.runLogins logins).1.map Prod.fst = logins ∧
    (∀ login outcome, (login, outcome) ∈ (d.runLogins logins).1 →
      ∀ authentication, outcome = .ok authentication ↔
        d.Accepts login.service login.contents ∧
          authentication = authenticationOf login.contents) ∧
    s.Extends (d.runLogins logins).2 := by
  obtain ⟨htranscript, hkept⟩ := d.runLogins_spec logins
  refine ⟨?_, ?_, hkept⟩
  · rw [htranscript, List.map_map]
    exact List.map_id logins
  · intro login outcome hmem authentication
    rw [htranscript] at hmem
    obtain ⟨_, _, hpair⟩ := List.mem_map.mp hmem
    cases hpair
    exact d.verdict_eq_ok_iff_accepts login.clock login.service login.contents authentication

end Runs

end Deployment

end LemonCas.Authentication
