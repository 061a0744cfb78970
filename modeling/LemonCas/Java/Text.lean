import Mathlib.Data.List.Basic
set_option autoImplicit false

/-!
# Java: string references, blank strings and throwables

A `String` reference of the source may be null, and the handler tests for it with
`StringUtils.isBlank`; `JString` is such a reference.  `Throwable` lists what the
modelled methods throw, with the messages of the source, and leaves one
constructor for whatever a collaborator (an encoder, a transformer, a query, a
password policy) may throw through them.
-/

namespace LemonCas.Java

/-- A reference to a `String`; `none` is null. -/
abbrev JString : Type := Option String

/-- `Character.isWhitespace`: the space, line and paragraph separators that are
not non-breaking, and the ASCII controls the method lists. -/
def isWhitespace (c : Char) : Bool :=
  let n := c.toNat
  (0x09 ≤ n && n ≤ 0x0D) || (0x1C ≤ n && n ≤ 0x20) || n == 0x1680 ||
    (0x2000 ≤ n && n ≤ 0x200A && n != 0x2007) || n == 0x2028 || n == 0x2029 ||
    n == 0x205F || n == 0x3000

/-- `StringUtils.isBlank`: null, empty or whitespace only. -/
def isBlank : JString → Bool
  | none => true
  | some s => s.toList.all isWhitespace

/-- `StringUtils.isNotBlank`. -/
def isNotBlank (s : JString) : Bool := !isBlank s

@[simp] theorem isBlank_none : isBlank none = true := rfl

/-- A reference that is not blank is not null. -/
theorem exists_of_not_isBlank {s : JString} (h : isBlank s = false) :
    ∃ text : String, s = some text := by
  cases s with
  | none => exact absurd h (by simp)
  | some text => exact ⟨text, rfl⟩

/-- The letter `String.equalsIgnoreCase` takes a character for, where that is a letter
of the ASCII alphabet: a case variant, or one of the four characters outside the
alphabet with a case variant inside. -/
def foldCase (c : Char) : Char :=
  if c.toNat = 0x0130 ∨ c.toNat = 0x0131 then 'i'
  else if c.toNat = 0x017F then 's'
  else if c.toNat = 0x212A then 'k'
  else c.toLower

/-- A text up to `equalsIgnoreCase` with an ASCII text. -/
def caseKey (s : String) : String := String.ofList (s.toList.map foldCase)

/-- `String.equalsIgnoreCase`, for an ASCII argument. -/
def equalsIgnoreCase (s ascii : String) : Bool := decide (caseKey s = caseKey ascii)

@[simp] theorem equalsIgnoreCase_self (s : String) : equalsIgnoreCase s s = true := by
  simp [equalsIgnoreCase]

/-- What a modelled method can throw. -/
inductive Throwable where
  /-- `javax.security.auth.login.AccountNotFoundException` -/
  | accountNotFoundException (message : String)
  /-- `javax.security.auth.login.FailedLoginException` -/
  | failedLoginException (message : JString)
  /-- `com.lemon.cas.exception.auth.login.AccountNotPresenceException` -/
  | accountNotPresenceException
  /-- `com.lemon.cas.exception.auth.login.AccountConfuseException` -/
  | accountConfuseException
  /-- `NullPointerException` -/
  | nullPointerException (message : JString)
  /-- `IllegalArgumentException` -/
  | illegalArgumentException (message : String)
  /-- thrown by a collaborator the handler was given -/
  | raised (className : String) (message : JString)
  deriving DecidableEq, Repr

/-- The class of a throwable. -/
def Throwable.className : Throwable → String
  | .accountNotFoundException _ => "javax.security.auth.login.AccountNotFoundException"
  | .failedLoginException _ => "javax.security.auth.login.FailedLoginException"
  | .accountNotPresenceException => "com.lemon.cas.exception.auth.login.AccountNotPresenceException"
  | .accountConfuseException => "com.lemon.cas.exception.auth.login.AccountConfuseException"
  | .nullPointerException _ => "java.lang.NullPointerException"
  | .illegalArgumentException _ => "java.lang.IllegalArgumentException"
  | .raised className _ => className

/-- `Class.getSimpleName`, for a class that is not nested: what follows the last dot. -/
def simpleName (className : String) : String :=
  String.ofList (className.toList.reverse.takeWhile (· ≠ '.')).reverse

end LemonCas.Java
