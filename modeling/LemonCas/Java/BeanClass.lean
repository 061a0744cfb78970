import Mathlib.Data.List.Basic
set_option autoImplicit false

/-!
# Java: classes with bean properties

The handler accepts a credential by its class, and the login form binds request
parameters to bean properties of the class behind a flow variable.  Both need
only the chain of superclasses and the properties declared along it.  A property
path such as `customFields[phone]` names an entry of a map-valued property; it
exists on a class when its root does and is a map.
-/

namespace LemonCas.Java

/-- The type of a bean property, as far as binding to it depends on it. -/
inductive PropertyKind where
  | text
  | flag
  | map
  deriving DecidableEq, Repr

/-- A bean property; it can be bound to when it has a setter. -/
structure BeanProperty where
  name : String
  kind : PropertyKind
  writable : Bool
  deriving DecidableEq, Repr

/-- A class, by its chain of superclasses. -/
inductive JavaClass where
  | root (name : String) (declared : List BeanProperty)
  | extending (superclass : JavaClass) (name : String) (declared : List BeanProperty)
  deriving DecidableEq, Repr

namespace JavaClass

/-- `c.isAssignableFrom(d)`: `d` is `c` or one of its subclasses. -/
def isAssignableFrom (c : JavaClass) : JavaClass → Bool
  | .root name declared => decide (c = .root name declared)
  | .extending superclass name declared =>
      decide (c = .extending superclass name declared) || c.isAssignableFrom superclass

/-- The bean properties of a class, its own before the inherited ones. -/
def properties : JavaClass → List BeanProperty
  | .root _ declared => declared
  | .extending superclass _ declared => declared ++ superclass.properties

theorem isAssignableFrom_refl (c : JavaClass) : c.isAssignableFrom c = true := by
  cases c <;> simp [isAssignableFrom]

/-- A subclass has every property of its superclasses. -/
theorem mem_properties_of_isAssignableFrom {c d : JavaClass} {p : BeanProperty}
    (hcd : c.isAssignableFrom d = true) (hp : p ∈ c.properties) : p ∈ d.properties := by
  induction d with
  | root name declared =>
    simp only [isAssignableFrom, decide_eq_true_eq] at hcd
    exact hcd ▸ hp
  | extending superclass name declared ih =>
    simp only [isAssignableFrom, Bool.or_eq_true, decide_eq_true_eq] at hcd
    rcases hcd with rfl | hsuper
    · exact hp
    · exact List.mem_append_right _ (ih hsuper)

end JavaClass

/-! ## Property paths -/

/-- The property a path starts from. -/
def pathRoot (path : String) : String :=
  String.ofList (path.toList.takeWhile fun c => decide (c ≠ '['))

/-- The path goes on to an entry of its root. -/
def isIndexed (path : String) : Bool := path.toList.contains '['

/-- The path names a property of the class that can be bound to. -/
def JavaClass.Exposes (c : JavaClass) (path : String) : Prop :=
  ∃ p ∈ c.properties, p.name = pathRoot path ∧ p.writable = true ∧
    (isIndexed path = true → p.kind = .map)

instance (c : JavaClass) (path : String) : Decidable (c.Exposes path) :=
  inferInstanceAs (Decidable (∃ p ∈ c.properties, _))

/-- What can be bound to on a class can be bound to on its subclasses. -/
theorem JavaClass.Exposes.of_isAssignableFrom {c d : JavaClass} {path : String}
    (hexposes : c.Exposes path) (hcd : c.isAssignableFrom d = true) : d.Exposes path := by
  obtain ⟨p, hp, hname, hwritable, hkind⟩ := hexposes
  exact ⟨p, mem_properties_of_isAssignableFrom hcd hp, hname, hwritable, hkind⟩

/-- `String.format("customFields[%s]", field)`. -/
def customFieldPath (field : String) : String := "customFields[" ++ field ++ "]"

/-- Whatever the field is called, its path starts at `customFields`. -/
theorem pathRoot_customFieldPath (field : String) :
    pathRoot (customFieldPath field) = "customFields" := by
  have hlist : (customFieldPath field).toList =
      "customFields".toList ++ '[' :: (field.toList ++ [']']) := by
    simp [customFieldPath, String.toList_append]
  have hnoBracket : ("customFields".toList.all fun c => decide (c ≠ '[')) = true := by decide
  have hroot : ∀ c ∈ "customFields".toList, decide (c ≠ '[') = true :=
    List.all_eq_true.mp hnoBracket
  rw [pathRoot, hlist, List.takeWhile_append_of_pos hroot]
  simp

/-- A class with a writable map property `customFields` has every path into it. -/
theorem JavaClass.exposes_customFieldPath {c : JavaClass} {p : BeanProperty}
    (hp : p ∈ c.properties) (hname : p.name = "customFields") (hkind : p.kind = .map)
    (hwritable : p.writable = true) (field : String) : c.Exposes (customFieldPath field) :=
  ⟨p, hp, by rw [hname, pathRoot_customFieldPath], hwritable, fun _ => hkind⟩

end LemonCas.Java
