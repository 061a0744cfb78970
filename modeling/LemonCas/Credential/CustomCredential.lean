import LemonCas.Foundation.Heap
import LemonCas.Foundation.Keyed
import LemonCas.Foundation.Program
import LemonCas.Java.BeanClass
import LemonCas.Java.Text
set_option autoImplicit false

/-!
# Credential: `CustomCredential` objects

`com.lemon.cas.credential.CustomCredential` is a mutable bean: six fields with a
Lombok getter and setter each, and a read-only `id`.  A credential is shared by
reference, its `customFields` map is a further shared object, and
`BeanUtils.copyProperties` copies the reference of that map, so the model keeps
both in an explicit store.  A custom field holds any object; `ν` is the type of
what the objects contain.
-/

namespace LemonCas.Credential

open LemonCas.Foundation
open LemonCas.Java

/-- The object a custom field holds: what is in it, and whether
`ObjectOutputStream.writeObject` gets through it. -/
structure FieldValue (ν : Type) where
  content : ν
  isSerializable : Bool
  deriving DecidableEq, Repr

/-- The entries of a `customFields` map, a `LinkedHashMap<String, Object>`. -/
abbrev CustomFields (ν : Type) : Type := Keyed (Prod.fst : String × FieldValue ν → String)

/-- The fields of a `CustomCredential` object.  `customFields` is a reference. -/
structure CustomCredential (ν : Type) where
  username : JString
  password : JString
  email : JString
  telephone : JString
  source : JString
  customFields : Option (Ref (CustomFields ν))
  deriving DecidableEq

/-- The objects a login attempt can reach. -/
structure Store (ν : Type) where
  credentials : Heap (CustomCredential ν)
  maps : Heap (CustomFields ν)
  deriving DecidableEq

/-- A method that works on the object store and may throw. -/
abbrev Method (ν α : Type) : Type := Program (Store ν) Throwable α

variable {ν α : Type}

/-! ## Bean properties -/

/-- The bean properties of `CustomCredential`. -/
inductive Property where
  | id
  | username
  | password
  | email
  | telephone
  | source
  | customFields
  deriving DecidableEq, Repr

namespace Property

def all : List Property :=
  [id, username, password, email, telephone, source, customFields]

def name : Property → String
  | id => "id"
  | username => "username"
  | password => "password"
  | email => "email"
  | telephone => "telephone"
  | source => "source"
  | customFields => "customFields"

/-- `getId` has no setter beside it; every other property has both accessors. -/
def hasSetter : Property → Bool
  | id => false
  | _ => true

def kind : Property → PropertyKind
  | customFields => .map
  | _ => .text

def toBeanProperty (p : Property) : BeanProperty := ⟨p.name, p.kind, p.hasSetter⟩

/-- Pass the value the getter of `source` returns to the setter of `target`. -/
def transfer (p : Property) (source target : CustomCredential ν) : CustomCredential ν :=
  match p with
  | .id => target
  | .username => { target with username := source.username }
  | .password => { target with password := source.password }
  | .email => { target with email := source.email }
  | .telephone => { target with telephone := source.telephone }
  | .source => { target with source := source.source }
  | .customFields => { target with customFields := source.customFields }

end Property

/-- `org.apereo.cas.authentication.credential.UsernamePasswordCredential`. -/
def usernamePasswordCredential : JavaClass :=
  .root "UsernamePasswordCredential"
    [⟨"id", .text, false⟩, ⟨"username", .text, true⟩, ⟨"password", .text, true⟩,
      ⟨"source", .text, true⟩, ⟨"customFields", .map, true⟩]

/-- `org.apereo.cas.authentication.credential.RememberMeUsernamePasswordCredential`. -/
def rememberMeUsernamePasswordCredential : JavaClass :=
  .extending usernamePasswordCredential "RememberMeUsernamePasswordCredential"
    [⟨"rememberMe", .flag, true⟩]

/-- `com.lemon.cas.credential.CustomCredential`. -/
def customCredential : JavaClass :=
  .extending usernamePasswordCredential "CustomCredential"
    (Property.all.map Property.toBeanProperty)

/-! ## Objects and accessors -/

/-- Follow a reference to a credential; a null reference throws. -/
def readObject (credential : Ref (CustomCredential ν)) : Method ν (CustomCredential ν) :=
  Program.getOrThrow (fun s => s.credentials.read credential) (.nullPointerException none)

/-- The store with other contents for one credential. -/
def Store.writeCredential (s : Store ν) (credential : Ref (CustomCredential ν))
    (object : CustomCredential ν) : Store ν :=
  { s with credentials := s.credentials.write credential object }

/-- A getter. -/
def getField (credential : Ref (CustomCredential ν)) (field : CustomCredential ν → α) :
    Method ν α := do
  let object ← readObject credential
  return field object

/-- A setter. -/
def setField (credential : Ref (CustomCredential ν))
    (assign : CustomCredential ν → CustomCredential ν) : Method ν Unit := do
  let object ← readObject credential
  Program.update fun s => ((), s.writeCredential credential (assign object))

def getUsername (credential : Ref (CustomCredential ν)) : Method ν JString :=
  getField credential (·.username)

def setUsername (credential : Ref (CustomCredential ν)) (username : JString) :
    Method ν Unit :=
  setField credential fun object => { object with username := username }

def getPassword (credential : Ref (CustomCredential ν)) : Method ν JString :=
  getField credential (·.password)

def setPassword (credential : Ref (CustomCredential ν)) (password : JString) :
    Method ν Unit :=
  setField credential fun object => { object with password := password }

/-- `new CustomCredential()`: every field null, except the map the field
initializer of `customFields` creates. -/
def newCustomCredential : Method ν (Ref (CustomCredential ν)) := do
  let customFields ← Program.update fun s : Store ν =>
    ((s.maps.alloc .empty).1, { s with maps := (s.maps.alloc .empty).2 })
  let blank : CustomCredential ν := ⟨none, none, none, none, none, some customFields⟩
  Program.update fun s =>
    ((s.credentials.alloc blank).1,
      { s with credentials := (s.credentials.alloc blank).2 })

/-- `BeanUtils.copyProperties(source, target)`: every property with a getter and a
setter is copied, one after the other; `customFields` by reference. -/
def copyProperties (source target : Ref (CustomCredential ν)) : Method ν Unit := do
  let from_ ← readObject source
  setField target fun object =>
    (Property.all.filter Property.hasSetter).foldl (fun t p => p.transfer from_ t) object

/-- The copy loop leaves nothing of the target: every field has a setter. -/
theorem foldl_transfer (source target : CustomCredential ν) :
    (Property.all.filter Property.hasSetter).foldl (fun t p => p.transfer source t) target
      = source := rfl

theorem exec_readObject {s : Store ν} {credential : Ref (CustomCredential ν)}
    {object : CustomCredential ν} (h : s.credentials.read credential = some object) :
    (readObject credential).exec s = (.ok object, s) :=
  Program.exec_getOrThrow_of_some (f := fun s : Store ν => s.credentials.read credential) h

theorem exec_getField {s : Store ν} {credential : Ref (CustomCredential ν)}
    {object : CustomCredential ν} (h : s.credentials.read credential = some object)
    (field : CustomCredential ν → α) :
    (getField credential field).exec s = (.ok (field object), s) := by
  rw [getField, Program.exec_bind_of_ok (exec_readObject h), Program.exec_pure]

theorem exec_getUsername {s : Store ν} {credential : Ref (CustomCredential ν)}
    {object : CustomCredential ν} (h : s.credentials.read credential = some object) :
    (getUsername credential).exec s = (.ok object.username, s) :=
  exec_getField h _

theorem exec_getPassword {s : Store ν} {credential : Ref (CustomCredential ν)}
    {object : CustomCredential ν} (h : s.credentials.read credential = some object) :
    (getPassword credential).exec s = (.ok object.password, s) :=
  exec_getField h _

theorem exec_setField {s : Store ν} {credential : Ref (CustomCredential ν)}
    {object : CustomCredential ν} (h : s.credentials.read credential = some object)
    (assign : CustomCredential ν → CustomCredential ν) :
    (setField credential assign).exec s =
      (.ok (), s.writeCredential credential (assign object)) := by
  rw [setField, Program.exec_bind_of_ok (exec_readObject h), Program.exec_update]

theorem exec_setUsername {s : Store ν} {credential : Ref (CustomCredential ν)}
    {object : CustomCredential ν} (h : s.credentials.read credential = some object)
    (username : JString) :
    (setUsername credential username).exec s =
      (.ok (), s.writeCredential credential { object with username }) :=
  exec_setField h _

theorem exec_setPassword {s : Store ν} {credential : Ref (CustomCredential ν)}
    {object : CustomCredential ν} (h : s.credentials.read credential = some object)
    (password : JString) :
    (setPassword credential password).exec s =
      (.ok (), s.writeCredential credential { object with password }) :=
  exec_setField h _

/-- After `copyProperties` the target's fields are the source's. -/
theorem exec_copyProperties {s : Store ν} {source target : Ref (CustomCredential ν)}
    {from_ to_ : CustomCredential ν} (hsource : s.credentials.read source = some from_)
    (htarget : s.credentials.read target = some to_) :
    (copyProperties source target).exec s = (.ok (), s.writeCredential target from_) := by
  rw [copyProperties, Program.exec_bind_of_ok (exec_readObject hsource),
    exec_setField htarget, foldl_transfer]

end LemonCas.Credential
