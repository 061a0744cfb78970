import LemonCas.Credential.CustomCredential
set_option autoImplicit false

/-!
# Credential: what an object holds

`CredentialValue` is a credential with the entries of its map in place of the
reference to it: what a caller sees through all the getters, and what CAS
serializes into the credential metadata when it can.  `Store.deref` reads it off the store.
`Store.Extends` is the frame relation of the login methods, and the lemmas here
say that it keeps every value that could be read before.
-/

namespace LemonCas.Credential

open LemonCas.Foundation
open LemonCas.Java

variable {ν : Type}

/-- The contents of a credential object, its custom fields included. -/
structure CredentialValue (ν : Type) where
  username : JString
  password : JString
  email : JString
  telephone : JString
  source : JString
  customFields : Option (CustomFields ν)
  deriving DecidableEq

namespace CredentialValue

/-- `CustomCredential.getId`. -/
def getId (v : CredentialValue ν) : JString := v.username

/-- `SerializationUtils.serialize` gets through the credential: texts and the map can
always be written, the values of the custom fields need not be. -/
def isSerializable (v : CredentialValue ν) : Bool :=
  match v.customFields with
  | none => true
  | some fields => fields.entries.all fun field => field.2.isSerializable

/-- The fields of an object whose map is at the given reference. -/
def toObject (v : CredentialValue ν) (customFields : Option (Ref (CustomFields ν))) :
    CustomCredential ν :=
  ⟨v.username, v.password, v.email, v.telephone, v.source, customFields⟩

end CredentialValue

/-- Fill in the entries of the map an object refers to. -/
def CustomCredential.toValue (object : CustomCredential ν)
    (customFields : Option (CustomFields ν)) : CredentialValue ν :=
  ⟨object.username, object.password, object.email, object.telephone, object.source,
    customFields⟩

namespace Store

/-- The value of an object; none when its map is not in the store. -/
def resolve (s : Store ν) (object : CustomCredential ν) : Option (CredentialValue ν) :=
  match object.customFields with
  | none => some (object.toValue none)
  | some reference => (s.maps.read reference).map fun entries => object.toValue (some entries)

/-- The value of the credential at a reference. -/
def deref (s : Store ν) (credential : Ref (CustomCredential ν)) :
    Option (CredentialValue ν) :=
  (s.credentials.read credential).bind s.resolve

/-- Every object of the first store is in the second with the same contents. -/
structure Extends (s s' : Store ν) : Prop where
  credentials : s.credentials.Extends s'.credentials
  maps : s.maps.Extends s'.maps

theorem Extends.refl (s : Store ν) : s.Extends s := ⟨.refl _, .refl _⟩

theorem Extends.trans {s₁ s₂ s₃ : Store ν} (h₁₂ : s₁.Extends s₂) (h₂₃ : s₂.Extends s₃) :
    s₁.Extends s₃ :=
  ⟨h₁₂.credentials.trans h₂₃.credentials, h₁₂.maps.trans h₂₃.maps⟩

theorem Extends.resolve {s s' : Store ν} (h : s.Extends s') {object : CustomCredential ν}
    {v : CredentialValue ν} (hv : s.resolve object = some v) : s'.resolve object = some v := by
  unfold Store.resolve at hv ⊢
  cases hfields : object.customFields with
  | none => simpa [hfields] using hv
  | some reference =>
    simp only [hfields, Option.map_eq_some_iff] at hv ⊢
    obtain ⟨entries, hread, hvalue⟩ := hv
    exact ⟨entries, h.maps.read hread, hvalue⟩

/-- An object's value has the object's fields. -/
theorem toValue_of_resolve {s : Store ν} {object : CustomCredential ν} {v : CredentialValue ν}
    (hv : s.resolve object = some v) : object.toValue v.customFields = v := by
  unfold Store.resolve at hv
  cases hfields : object.customFields with
  | none =>
    simp only [hfields, Option.some.injEq] at hv
    subst hv
    rfl
  | some reference =>
    simp only [hfields, Option.map_eq_some_iff] at hv
    obtain ⟨entries, _, hvalue⟩ := hv
    subst hvalue
    rfl

/-- The value of an object whose name and password were replaced. -/
theorem resolve_replace {s : Store ν} {object : CustomCredential ν} {v : CredentialValue ν}
    (hv : s.resolve object = some v) (username password : JString) :
    s.resolve { object with username, password } = some { v with username, password } := by
  unfold Store.resolve at hv ⊢
  cases hfields : object.customFields with
  | none =>
    simp only [hfields, Option.some.injEq] at hv ⊢
    subst hv
    rfl
  | some reference =>
    simp only [hfields, Option.map_eq_some_iff] at hv ⊢
    obtain ⟨entries, hread, hvalue⟩ := hv
    refine ⟨entries, hread, ?_⟩
    subst hvalue
    rfl

/-- An extension keeps the value of every credential. -/
theorem Extends.deref {s s' : Store ν} (h : s.Extends s')
    {credential : Ref (CustomCredential ν)} {v : CredentialValue ν}
    (hv : s.deref credential = some v) : s'.deref credential = some v := by
  obtain ⟨object, hread, hresolve⟩ := Option.bind_eq_some_iff.mp hv
  exact Option.bind_eq_some_iff.mpr
    ⟨object, h.credentials.read hread, h.resolve hresolve⟩

/-- Writing a credential created since `s` keeps every object of `s`. -/
theorem Extends.writeCredential {s s' : Store ν} (h : s.Extends s')
    {credential : Ref (CustomCredential ν)} (hfresh : s.credentials.Fresh credential)
    (object : CustomCredential ν) : s.Extends (s'.writeCredential credential object) :=
  ⟨h.credentials.write hfresh object, h.maps⟩

theorem read_writeCredential {s : Store ν} {credential : Ref (CustomCredential ν)}
    {before : CustomCredential ν} (h : s.credentials.read credential = some before)
    (object : CustomCredential ν) :
    (s.writeCredential credential object).credentials.read credential = some object :=
  Heap.read_write h object

end Store

/-! ## A fresh object -/

/-- A store that holds one credential with the given contents. -/
def freshStore (v : CredentialValue ν) : Store ν :=
  match v.customFields with
  | none => ⟨⟨[v.toObject none]⟩, .empty⟩
  | some entries => ⟨⟨[v.toObject (some ⟨0⟩)]⟩, ⟨[entries]⟩⟩

/-- The reference of that credential. -/
def freshCredential : Ref (CustomCredential ν) := ⟨0⟩

theorem deref_freshStore (v : CredentialValue ν) :
    (freshStore v).deref freshCredential = some v := by
  obtain ⟨username, password, email, telephone, source, customFields⟩ := v
  cases customFields <;> rfl

/-! ## Object creation -/

/-- `new CustomCredential()` hands out a reference that pointed nowhere, and keeps
every object of the store. -/
theorem exec_newCustomCredential (s : Store ν) :
    ∃ credential s' object, (newCustomCredential (ν := ν)).exec s = (.ok credential, s') ∧
      s.Extends s' ∧ s.credentials.Fresh credential ∧
      s'.credentials.read credential = some object := by
  let maps := s.maps.alloc .empty
  let blank : CustomCredential ν := ⟨none, none, none, none, none, some maps.1⟩
  let credentials := s.credentials.alloc blank
  refine ⟨credentials.1, ⟨credentials.2, maps.2⟩, blank, rfl, ?_, ?_, ?_⟩
  · exact ⟨Heap.extends_alloc _ _, Heap.extends_alloc _ _⟩
  · exact Heap.fresh_alloc _ _
  · exact Heap.read_alloc _ _

end LemonCas.Credential
