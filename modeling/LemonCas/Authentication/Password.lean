import LemonCas.Authentication.Deployed
import LemonCas.Foundation.Encoding
set_option autoImplicit false

/-!
# Authentication: which password is compared

`matches` is documented to take the password as typed and an encoding to compare
it with.  `doAuthentication` calls it after `transformPassword` has overwritten
the copy's password, so what it passes is an encoding of the password.  Where the
encoding is the password, as with the encoder the handler starts out with, the typed
password is verified.  With an encoder that accepts a secret against its own encodings
only, and a password that shares no encoding with its encoding, a right password is
verified in no other case, and a wrong one is accepted when what is stored is the
encoding of its encoding.
-/

namespace LemonCas.Authentication

open LemonCas.Foundation
open LemonCas.Java
open LemonCas.Credential
open LemonCas.Service
open CustomAuthenticationHandler

variable {ν σ : Type}

/-! ## Lawful encoders -/

/-- The contract of a password encoder: a password that is not blank has an
encoding that is not blank, and is matched by each of its encodings. -/
structure PasswordEncoder.Lawful (E : PasswordEncoder σ) : Prop where
  encode_not_blank : ∀ salt raw, isBlank raw = false →
    ∃ encoding, E.encode salt raw = .ok encoding ∧ isBlank encoding = false
  matches_encode : ∀ salt raw encoding, E.encode salt raw = .ok encoding →
    E.matches raw encoding = .ok true

/-- A password encoder as an encoder of secrets. -/
def PasswordEncoder.toEncoder (E : PasswordEncoder σ) : Encoder σ JString where
  encodes salt raw encoding := E.encode salt raw = .ok encoding
  accepts raw encoding := E.matches raw encoding = .ok true

theorem PasswordEncoder.Lawful.toEncoder {E : PasswordEncoder σ} (hlawful : E.Lawful) :
    E.toEncoder.Lawful := hlawful.matches_encode

/-! ## The verification of a password -/

/-- The setting of a login whose decision is left to the encoder: name and password
are given, the name is transformed to one that is not blank, and the lookup of
that name gives one row. -/
structure ReachesMatch (handler : CustomAuthenticationHandler ν σ) (E : PasswordEncoder σ)
    (service : UserBaseInfoServiceImpl) (contents : CredentialValue ν) (name : JString)
    (row : UserBaseInfoEntity) : Prop where
  encoder : handler.passwordEncoder = some E
  userService : handler.userBaseInfoService = some service.toUserBaseInfoService
  policy : handler.PolicyAnswers
  username : isBlank contents.username = false
  password : isBlank contents.password = false
  transformed : handler.transform contents.username = .ok name
  transformed_not_blank : isBlank name = false
  oneRow : service.rows name = .ok [row]

/-- The attempt decides by the password as typed, and accepts it against any of
its encodings. -/
def VerifiesTypedPassword (handler : CustomAuthenticationHandler ν σ) (E : PasswordEncoder σ)
    (salt : σ) (contents : CredentialValue ν) (row : UserBaseInfoEntity) : Prop :=
  (handler.Succeeds salt contents ↔ E.matches contents.password row.password = .ok true) ∧
  (∀ salt', E.encode salt' contents.password = .ok row.password →
    handler.Succeeds salt contents)

section Verification

variable {handler : CustomAuthenticationHandler ν σ} {E : PasswordEncoder σ}
  {service : UserBaseInfoServiceImpl} {contents : CredentialValue ν} {name : JString}
  {row : UserBaseInfoEntity}

theorem ReachesMatch.encode (h : ReachesMatch handler E service contents name row) (salt : σ)
    (password : JString) : handler.encode salt password = E.encode salt password := by
  simp [CustomAuthenticationHandler.encode, h.encoder, nonNull, bind, Except.bind]

theorem ReachesMatch.matches (h : ReachesMatch handler E service contents name row)
    (rawPassword encodedPassword : JString) :
    handler.matches rawPassword encodedPassword = E.matches rawPassword encodedPassword := by
  simp [CustomAuthenticationHandler.matches, h.encoder, nonNull, bind, Except.bind]

theorem ReachesMatch.queryByUserName
    (h : ReachesMatch handler E service contents name row) :
    handler.queryByUserName name = .ok row := by
  have hfound : service.queryByUserName name = .ok row :=
    UserBaseInfoServiceImpl.queryByUserName_eq_ok_iff.mpr h.oneRow
  simp only [CustomAuthenticationHandler.queryByUserName, h.userService, nonNull, bind,
    Except.bind]
  exact hfound

/-- In that setting the attempt succeeds exactly when the credential can be serialized
and the encoder accepts the encoding it drew against the row's password. -/
theorem ReachesMatch.succeeds_iff (h : ReachesMatch handler E service contents name row)
    {salt : σ} {encoding : JString} (hencoding : E.encode salt contents.password = .ok encoding)
    (hnotBlank : isBlank encoding = false) :
    handler.Succeeds salt contents ↔
      contents.isSerializable = true ∧ E.matches encoding row.password = .ok true := by
  have hname : handler.resolveName contents.username = .ok name :=
    resolveName_eq_ok_iff.mpr ⟨h.username, h.transformed, h.transformed_not_blank⟩
  have hencoded : handler.encodePassword salt contents.password = .ok encoding :=
    encodePassword_eq_ok_iff.mpr
      ⟨h.password, (h.encode salt contents.password).trans hencoding, hnotBlank⟩
  rw [CustomAuthenticationHandler.succeeds_iff h.policy]
  constructor
  · intro hsucceeds
    obtain ⟨hserializable, name', encoding', row', hverified⟩ := hsucceeds
    obtain ⟨rfl, rfl, rfl⟩ := hverified.unique hname hencoded h.queryByUserName
    have haccepted := hverified.accepted
    rw [h.matches] at haccepted
    exact ⟨hserializable, haccepted⟩
  · intro hstages
    obtain ⟨hserializable, haccepted⟩ := hstages
    exact ⟨hserializable, name, encoding, row, hname, hencoded, h.queryByUserName,
      (h.matches _ _).trans haccepted⟩

/-- Where the encoding drawn is the password, the password is verified. -/
theorem ReachesMatch.verifiesTypedPassword (h : ReachesMatch handler E service contents name row)
    (hserializable : contents.isSerializable = true) {salt : σ}
    (hencoding : E.encode salt contents.password = .ok contents.password)
    (hmatches : ∀ salt', E.encode salt' contents.password = .ok row.password →
      E.matches contents.password row.password = .ok true) :
    VerifiesTypedPassword handler E salt contents row := by
  have hsucceeds := h.succeeds_iff hencoding h.password
  constructor
  · rw [hsucceeds]
    exact and_iff_right hserializable
  · intro salt' hstored
    exact hsucceeds.mpr ⟨hserializable, hmatches salt' hstored⟩

/-- The typed password is verified when encoding leaves it as it is.  With an exact
encoder, and a password that shares no encoding with its own encoding, the stored
password decides in the other cases: an encoding of the typed one is never accepted,
and a password that encodes neither the typed one nor its encoding is rejected, as it
should be. -/
theorem verifiesTypedPassword_iff (h : ReachesMatch handler E service contents name row)
    (hlawful : E.Lawful) {salt : σ} {encoding : JString}
    (hencoding : E.encode salt contents.password = .ok encoding) :
    (contents.isSerializable = true → encoding = contents.password →
      VerifiesTypedPassword handler E salt contents row) ∧
    (E.toEncoder.Exact → E.toEncoder.Apart contents.password encoding →
      (VerifiesTypedPassword handler E salt contents row ↔
        (contents.isSerializable = true ∧ encoding = contents.password) ∨
        (¬ E.toEncoder.IsEncoding contents.password row.password ∧
          (contents.isSerializable = true →
            ¬ E.toEncoder.IsEncoding encoding row.password)))) := by
  have hnotBlank : isBlank encoding = false := by
    obtain ⟨drawn, hdrawn, hgiven⟩ :=
      hlawful.encode_not_blank salt contents.password h.password
    rw [hencoding] at hdrawn
    cases hdrawn
    exact hgiven
  have hsucceeds := h.succeeds_iff hencoding hnotBlank
  have henough : contents.isSerializable = true → encoding = contents.password →
      VerifiesTypedPassword handler E salt contents row := by
    intro hserializable hequal
    rw [hequal] at hencoding
    exact h.verifiesTypedPassword hserializable hencoding
      (fun salt' => hlawful.matches_encode salt' contents.password row.password)
  refine ⟨henough, ?_⟩
  intro hexact hapart
  have haccepts : ∀ presented, E.matches presented row.password = .ok true ↔
      E.toEncoder.IsEncoding presented row.password := by
    intro presented
    exact Encoder.accepts_iff hlawful.toEncoder hexact
  constructor
  · intro hverifies
    by_cases hright : E.toEncoder.IsEncoding contents.password row.password
    · -- a right password is accepted only as the password of its own encoding
      obtain ⟨salt', hstored⟩ := hright
      obtain ⟨hserializable, haccepted⟩ := hsucceeds.mp (hverifies.2 salt' hstored)
      have hsame : contents.password = encoding :=
        Encoder.eq_of_accepts hexact hapart ⟨salt', hstored⟩ haccepted
      exact .inl ⟨hserializable, hsame.symm⟩
    · refine .inr ⟨hright, ?_⟩
      intro hserializable hdouble
      have haccepted := hsucceeds.mpr ⟨hserializable, (haccepts encoding).mpr hdouble⟩
      exact hright ((haccepts contents.password).mp (hverifies.1.mp haccepted))
  · intro hcases
    rcases hcases with ⟨hserializable, hequal⟩ | ⟨hwrong, hrejected⟩
    · exact henough hserializable hequal
    · have hfails : ¬ handler.Succeeds salt contents := by
        intro hsuccess
        obtain ⟨hserializable, haccepted⟩ := hsucceeds.mp hsuccess
        exact hrejected hserializable ((haccepts encoding).mp haccepted)
      constructor
      · rw [haccepts contents.password]
        exact iff_of_false hfails hwrong
      · intro salt' hstored
        exact absurd ⟨salt', hstored⟩ hwrong

/-! ### An encoder that marks its encodings

The least an encoder can do to a password is enough: with the right password
stored, the attempt compares a marked password against its own mark. -/

/-- An encoder that puts a mark in front of a password, and matches the password
with its marked form. -/
def markingEncoder : PasswordEncoder Unit where
  encode _ rawPassword :=
    match rawPassword with
    | some text => .ok (some ("h:" ++ text))
    | none => .error (.nullPointerException none)
  «matches» rawPassword encodedPassword :=
    match rawPassword with
    | some text => .ok (decide (encodedPassword = some ("h:" ++ text)))
    | none => .error (.nullPointerException none)

theorem markingEncoder_lawful : markingEncoder.Lawful where
  encode_not_blank _ raw hraw := by
    obtain ⟨text, rfl⟩ := exists_of_not_isBlank hraw
    refine ⟨some ("h:" ++ text), rfl, ?_⟩
    have hmark : isWhitespace 'h' = false := by decide
    simp [isBlank, String.toList_append, hmark]
  matches_encode _ raw encoding hencode := by
    cases raw with
    | none => cases hencode
    | some text =>
      cases hencode
      simp [markingEncoder]

theorem markingEncoder_exact : markingEncoder.toEncoder.Exact := by
  intro raw encoding haccepts
  cases raw with
  | none => cases haccepts
  | some text =>
    have hmarked : encoding = some ("h:" ++ text) :=
      of_decide_eq_true (Except.ok.inj haccepts)
    rw [hmarked]
    exact ⟨(), rfl⟩

/-- A text has one marked form. -/
theorem markingEncoder_isEncoding {text : String} {encoding : JString}
    (hencoding : markingEncoder.toEncoder.IsEncoding (some text) encoding) :
    encoding = some ("h:" ++ text) := by
  obtain ⟨_, hmarked⟩ := hencoding
  exact (Except.ok.inj hmarked).symm

theorem markingEncoder_apart :
    markingEncoder.toEncoder.Apart (some "secret") (some "h:secret") := by
  intro encoding hplain hmarked
  have hequal := (markingEncoder_isEncoding hplain).symm.trans (markingEncoder_isEncoding hmarked)
  exact absurd hequal (by decide)

/-- A user whose stored password is the marked form of `secret`. -/
def markedRow : UserBaseInfoEntity := ⟨some "1", some "alice", some "h:secret", some true, none⟩

def markedService : UserBaseInfoServiceImpl :=
  ⟨some "select * from user where name = ?", ⟨fun _ _ => .ok [markedRow]⟩⟩

/-- The deployed handler with the marking encoder set. -/
def markingHandler : CustomAuthenticationHandler Unit Unit :=
  { assembleHandler plainTextEncoder markedService.querUserSql markedService.jdbcTemplate with
    passwordEncoder := some markingEncoder }

theorem markingHandler_reachesMatch :
    ReachesMatch markingHandler markingEncoder markedService (submitted "alice" "secret")
      (some "alice") markedRow where
  encoder := rfl
  userService := rfl
  policy := policyAnswers_noWarnings rfl
  username := by decide
  password := by decide
  transformed := rfl
  transformed_not_blank := by decide
  oneRow := rfl

theorem markingHandler_verifies_iff :
    VerifiesTypedPassword markingHandler markingEncoder () (submitted "alice" "secret")
        markedRow ↔
      ((submitted "alice" "secret").isSerializable = true ∧ some "h:secret" = some "secret") ∨
      (¬ markingEncoder.toEncoder.IsEncoding (some "secret") (some "h:secret") ∧
        ((submitted "alice" "secret").isSerializable = true →
          ¬ markingEncoder.toEncoder.IsEncoding (some "h:secret") (some "h:secret"))) :=
  (verifiesTypedPassword_iff markingHandler_reachesMatch markingEncoder_lawful rfl).2
    markingEncoder_exact markingEncoder_apart

/-- The marked password is not matched by the mark, so the right password is
rejected although the encoder is lawful. -/
theorem markingHandler_rejects_typed_password :
    markingEncoder.Lawful ∧
      ReachesMatch markingHandler markingEncoder markedService (submitted "alice" "secret")
        (some "alice") markedRow ∧
      (submitted "alice" "secret").isSerializable = true ∧
      ¬ VerifiesTypedPassword markingHandler markingEncoder () (submitted "alice" "secret")
        markedRow := by
  refine ⟨markingEncoder_lawful, markingHandler_reachesMatch, by decide, ?_⟩
  intro hverifies
  have hstored : markingEncoder.encode () (submitted "alice" "secret").password
      = .ok markedRow.password := rfl
  have hsucceeds := hverifies.2 () hstored
  rw [markingHandler_reachesMatch.succeeds_iff hstored (by decide)] at hsucceeds
  exact absurd hsucceeds.2 (by decide)

/-! ### Encoders that verify

Exactness is what makes the encodings decide.  The contract says nothing of an encoder's
answers for what encodes nothing, so every lawful encoder has the encodings of a lawful
one with which each typed password is verified, whatever encoding does to it. -/

/-- The encoder with the same encodings that accepts everything. -/
def PasswordEncoder.acceptingAll (E : PasswordEncoder σ) : PasswordEncoder σ where
  encode := E.encode
  «matches» _ _ := .ok true

theorem PasswordEncoder.Lawful.acceptingAll (hlawful : E.Lawful) : E.acceptingAll.Lawful where
  encode_not_blank := hlawful.encode_not_blank
  matches_encode _ _ _ _ := rfl

theorem verifiesTypedPassword_acceptingAll
    (h : ReachesMatch handler E.acceptingAll service contents name row) (hlawful : E.Lawful)
    (hserializable : contents.isSerializable = true) (salt : σ) :
    VerifiesTypedPassword handler E.acceptingAll salt contents row := by
  obtain ⟨encoding, hencoding, hnotBlank⟩ :=
    hlawful.acceptingAll.encode_not_blank salt contents.password h.password
  have hsuccess : handler.Succeeds salt contents :=
    (h.succeeds_iff hencoding hnotBlank).mpr ⟨hserializable, rfl⟩
  exact ⟨iff_of_true hsuccess rfl, fun _ _ => hsuccess⟩

/-- With the encoder the handler starts out with, which encodes a text as itself, the
typed password of a credential that can be serialized is verified. -/
theorem verifiesTypedPassword_noOp {noOp : NoOpPasswordEncoder}
    {initial : CustomAuthenticationHandler ν Unit}
    (h : ReachesMatch initial noOp.toPasswordEncoder service contents name row)
    (hserializable : contents.isSerializable = true) :
    VerifiesTypedPassword initial noOp.toPasswordEncoder () contents row := by
  obtain ⟨password, htyped⟩ := exists_of_not_isBlank h.password
  have hencoding : noOp.encode () contents.password = .ok contents.password := by
    rw [htyped]
    exact noOp.encode_text password
  refine h.verifiesTypedPassword hserializable hencoding ?_
  intro salt' hstored
  have hsame : contents.password = row.password := Except.ok.inj (hencoding.symm.trans hstored)
  rw [← hsame, htyped, noOp.matches_text, decide_eq_true rfl]

end Verification

end LemonCas.Authentication
