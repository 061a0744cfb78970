import LemonCas.Credential.Value
import LemonCas.Service.UserBaseInfoService
set_option autoImplicit false

/-!
# Authentication: `CustomAuthenticationHandler`

The handler copies the credential it is given, rewrites name and password of the
copy, looks the name up, checks the password against the row found, and builds
the result.  It is written here as the source has it, as a method on the object
store that may throw at every step.  What it is plugged together from (encoder,
name transformer, user service, password policy, principal factory) is a field
each; the setters of the source allow null for most of them, and a null
collaborator is a `NullPointerException` where it is first used.

An encoder may be salted.  The salt it draws is an argument of the attempt, so an
attempt is a function of the store, and a statement about all salts is a
statement about everything the encoder may do.
-/

namespace LemonCas.Authentication

open LemonCas.Foundation
open LemonCas.Java
open LemonCas.Credential
open LemonCas.Service

/-! ## Collaborators -/

/-- `org.springframework.security.crypto.password.PasswordEncoder`; the first
argument of `encode` is the salt it draws. -/
structure PasswordEncoder (σ : Type) where
  encode : σ → JString → Except Throwable JString
  «matches» : JString → JString → Except Throwable Bool

/-- `org.springframework.security.crypto.password.NoOpPasswordEncoder`, by what is
documented of it: it draws no salt, encodes a text as itself and compares texts. -/
structure NoOpPasswordEncoder extends PasswordEncoder Unit where
  encode_text : ∀ text, toPasswordEncoder.encode () (some text) = .ok (some text)
  matches_text : ∀ text encodedPassword,
    toPasswordEncoder.matches (some text) encodedPassword =
      .ok (decide (encodedPassword = some text))

/-- `org.apereo.cas.authentication.handler.PrincipalNameTransformer`. -/
structure PrincipalNameTransformer where
  transform : JString → Except Throwable JString

/-- `org.apereo.cas.authentication.principal.Principal`. -/
structure Principal (ν : Type) where
  id : String
  attributes : Keyed (Prod.fst : String × List ν → String)

/-- `org.apereo.cas.authentication.principal.PrincipalFactory`: it makes a
principal with exactly the id it is given. -/
structure PrincipalFactory (ν : Type) where
  make : String → Principal ν
  make_id : ∀ id, (make id).id = id

/-- `org.apereo.cas.authentication.MessageDescriptor`. -/
structure MessageDescriptor where
  code : String
  defaultMessage : String
  deriving DecidableEq, Repr

/-- `org.apereo.cas.authentication.support.password.PasswordPolicyContext`. -/
structure PasswordPolicyContext where
  alwaysDisplayPasswordExpirationWarning : Bool
  passwordWarningNumberOfDays : Int
  loginFailures : Int
  deriving DecidableEq, Repr

/-- `org.apereo.cas.authentication.AuthenticationPasswordPolicyHandlingStrategy`;
the list it returns may be null. -/
structure AuthenticationPasswordPolicyHandlingStrategy (ν : Type) where
  handle : Principal ν → Option PasswordPolicyContext →
    Except Throwable (Option (List MessageDescriptor))

/-- What a `credentialSelectionPredicate` can ask of a credential. -/
structure CredentialView where
  javaClass : JavaClass
  id : JString

/-! ## The handler -/

/-- `com.lemon.cas.authentication.CustomAuthenticationHandler`, with the fields it
inherits from `AbstractAuthenticationHandler`. -/
structure CustomAuthenticationHandler (ν σ : Type) where
  name : String
  principalFactory : PrincipalFactory ν
  order : Int
  credentialSelectionPredicate : Option (CredentialView → Bool)
  passwordPolicyHandlingStrategy : Option (AuthenticationPasswordPolicyHandlingStrategy ν)
  passwordEncoder : Option (PasswordEncoder σ)
  principalNameTransformer : Option PrincipalNameTransformer
  passwordPolicyConfiguration : Option PasswordPolicyContext
  userBaseInfoService : Option UserBaseInfoService

/-- `org.apereo.cas.authentication.metadata.BasicCredentialMetaData`: the id, the
class and a serialized copy of a credential. -/
structure BasicCredentialMetaData (ν : Type) where
  id : JString
  credentialClass : JavaClass
  credentialInstance : CredentialValue ν

/-- `org.apereo.cas.authentication.DefaultAuthenticationHandlerExecutionResult`. -/
structure HandlerResult (ν : Type) where
  handlerName : String
  credentialMetaData : BasicCredentialMetaData ν
  principal : Principal ν
  warnings : List MessageDescriptor

variable {ν σ α : Type}

/-- Using a null reference throws. -/
def nonNull : Option α → Except Throwable α
  | some a => .ok a
  | none => .error (.nullPointerException none)

/-- `PrincipalFactory.createPrincipal`: a principal has an id. -/
def PrincipalFactory.createPrincipal (factory : PrincipalFactory ν) :
    JString → Except Throwable (Principal ν)
  | some id => .ok (factory.make id)
  | none => .error (.nullPointerException (some "id is marked non-null but is null"))

/-- What the constructor of the metadata makes of a failed serialization. -/
def unableToSerialize : Throwable :=
  .illegalArgumentException
    ("Unable to accept/serialize credential class com.lemon.cas.credential.CustomCredential " ++
      "to build credential metadata instance.")

/-- The metadata of a credential with the given contents. -/
def metaDataOf (contents : CredentialValue ν) : Except Throwable (BasicCredentialMetaData ν) :=
  if contents.isSerializable = true then .ok ⟨contents.getId, customCredential, contents⟩
  else .error unableToSerialize

/-- `new BasicCredentialMetaData(credential)`. -/
def basicCredentialMetaData (credential : Ref (CustomCredential ν)) :
    Method ν (BasicCredentialMetaData ν) := do
  let snapshot ← Program.getOrThrow (fun s => s.deref credential) (.nullPointerException none)
  Program.ofExcept (metaDataOf snapshot)

namespace CustomAuthenticationHandler

/-- `createHandlerResult(credential, principal, warnings)`, inherited. -/
def createHandlerResult (handler : CustomAuthenticationHandler ν σ)
    (credential : Ref (CustomCredential ν)) (principal : Principal ν) :
    Option (List MessageDescriptor) → Method ν (HandlerResult ν)
  | none => throw (.nullPointerException (some "warnings is marked non-null but is null"))
  | some warnings => do
      let metaData ← basicCredentialMetaData credential
      return ⟨handler.name, metaData, principal, warnings⟩

/-- `this.principalNameTransformer.transform`. -/
def transform (handler : CustomAuthenticationHandler ν σ) (username : JString) :
    Except Throwable JString := do
  let transformer ← nonNull handler.principalNameTransformer
  transformer.transform username

/-- `this.passwordEncoder.encode`. -/
def encode (handler : CustomAuthenticationHandler ν σ) (salt : σ) (password : JString) :
    Except Throwable JString := do
  let encoder ← nonNull handler.passwordEncoder
  encoder.encode salt password

/-- The common body of the two `transform` methods: a field that must not be blank
is replaced by what a collaborator makes of it, which must not be blank either. -/
def replaceField (getter : Method ν JString) (setter : JString → Method ν Unit)
    (replacement : JString → Except Throwable JString) (blank blankReplacement : Throwable) :
    Method ν Unit := do
  let text ← getter
  Program.throwIf (isBlank text) blank
  let transformed ← Program.ofExcept (replacement text)
  Program.throwIf (isBlank transformed) blankReplacement
  setter transformed

/-- `CustomAuthenticationHandler.transformUsername`. -/
def transformUsername (handler : CustomAuthenticationHandler ν σ)
    (userPass : Ref (CustomCredential ν)) : Method ν Unit :=
  replaceField (getUsername userPass) (setUsername userPass) handler.transform
    (.accountNotFoundException "Username is null.")
    (.accountNotFoundException "Transformed username is null.")

/-- `CustomAuthenticationHandler.transformPassword`. -/
def transformPassword (handler : CustomAuthenticationHandler ν σ) (salt : σ)
    (userPass : Ref (CustomCredential ν)) : Method ν Unit :=
  replaceField (getPassword userPass) (setPassword userPass) (handler.encode salt)
    (.failedLoginException (some "Password is null."))
    (.accountNotFoundException "Encoded password is null.")

/-- `CustomAuthenticationHandler.matches`. -/
def «matches» (handler : CustomAuthenticationHandler ν σ)
    (rawPassword encodedPassword : JString) : Except Throwable Bool := do
  let encoder ← nonNull handler.passwordEncoder
  encoder.matches rawPassword encodedPassword

/-- `this.userBaseInfoService.queryByUserName`. -/
def queryByUserName (handler : CustomAuthenticationHandler ν σ) (userName : JString) :
    Except Throwable UserBaseInfoEntity := do
  let service ← nonNull handler.userBaseInfoService
  service.queryByUserName userName

/-- The middle of `doAuthentication`: the lookup of the transformed name, and the
check of the transformed password against the row found. -/
def checkPassword (handler : CustomAuthenticationHandler ν σ)
    (userPass : Ref (CustomCredential ν)) : Method ν Unit := do
  let userBaseInfoEntity ←
    Program.ofExcept (handler.queryByUserName (← getUsername userPass))
  -- the copy's password has been replaced by its encoding before this is reached
  let accepted ←
    Program.ofExcept (handler.matches (← getPassword userPass) userBaseInfoEntity.password)
  Program.throwIf (!accepted) (.failedLoginException none)

/-- `strategy != null && StringUtils.isNotBlank(username)`, with the strategy when
there is one to consult. -/
def strategyFor (handler : CustomAuthenticationHandler ν σ) (username : JString) :
    Option (AuthenticationPasswordPolicyHandlingStrategy ν) :=
  if isNotBlank username then handler.passwordPolicyHandlingStrategy else none

/-- The end of `doAuthentication`, once the password was accepted.  With a strategy
the principal is the transformed name and the result records the credential that
was submitted; without one it is the other way round. -/
def concludeAuthentication (handler : CustomAuthenticationHandler ν σ)
    (originalUserPass userPass : Ref (CustomCredential ν)) : Method ν (HandlerResult ν) := do
  let username ← getUsername userPass
  match handler.strategyFor username with
  | some strategy =>
      let principal ← Program.ofExcept (handler.principalFactory.createPrincipal username)
      let messageList ←
        Program.ofExcept (strategy.handle principal handler.passwordPolicyConfiguration)
      handler.createHandlerResult originalUserPass principal messageList
  | none =>
      -- the source prints the credential first, whatever the log level: custom fields whose
      -- `toString` throws are left out
      let principal ←
        Program.ofExcept
          (handler.principalFactory.createPrincipal (← getUsername originalUserPass))
      -- the two-argument overload passes an empty list of warnings on
      handler.createHandlerResult userPass principal (some [])

/-- `CustomAuthenticationHandler.doAuthentication`. -/
def doAuthentication (handler : CustomAuthenticationHandler ν σ) (salt : σ)
    (credential : Ref (CustomCredential ν)) : Method ν (HandlerResult ν) := do
  let userPass ← newCustomCredential
  copyProperties credential userPass
  handler.transformUsername userPass
  handler.transformPassword salt userPass
  handler.checkPassword userPass
  handler.concludeAuthentication credential userPass

/-- `supports(Class)`. -/
def supports (_handler : CustomAuthenticationHandler ν σ) (clazz : JavaClass) : Bool :=
  customCredential.isAssignableFrom clazz

/-- `supports(Credential)`. -/
def supportsCredential (handler : CustomAuthenticationHandler ν σ)
    (credential : CredentialView) : Bool :=
  if !customCredential.isAssignableFrom credential.javaClass then false
  else
    match handler.credentialSelectionPredicate with
    | none => true
    | some predicate => predicate credential

/-! ## Construction -/

/-- The initial strategy of the field: no warnings. -/
def noWarnings : AuthenticationPasswordPolicyHandlingStrategy ν :=
  ⟨fun _ _ => .ok (some [])⟩

/-- The initial transformer of the field: the name as submitted. -/
def identityTransformer : PrincipalNameTransformer := ⟨fun formUserId => .ok formUserId⟩

/-- `org.apereo.cas.authentication.principal.DefaultPrincipalFactory`. -/
def defaultPrincipalFactory : PrincipalFactory ν where
  make id := ⟨id, .empty⟩
  make_id _ := rfl

/-- The constructor: the arguments it passes on, and the initial values of the
fields.  A credential selection predicate accepts everything until one is set.  The
initial encoder is `NoOpPasswordEncoder.getInstance()`. -/
def newHandler (noOp : NoOpPasswordEncoder) (name : JString)
    (principalFactory : PrincipalFactory ν) (order : Int) :
    CustomAuthenticationHandler ν Unit where
  name := if isNotBlank name then name.getD "" else "CustomAuthenticationHandler"
  principalFactory := principalFactory
  order := order
  credentialSelectionPredicate := some fun _ => true
  passwordPolicyHandlingStrategy := some noWarnings
  passwordEncoder := some noOp.toPasswordEncoder
  principalNameTransformer := some identityTransformer
  passwordPolicyConfiguration := none
  userBaseInfoService := none

end CustomAuthenticationHandler

end LemonCas.Authentication
