import LemonCas.Foundation.Base64Url
import LemonCas.Foundation.Delimited
import LemonCas.Java.Text
import Mathlib.Data.BitVec
set_option autoImplicit false

/-!
# Ticket: how a ticket id is put together

`DefaultUniqueTicketIdGenerator` makes an id of four parts: the prefix of the kind of
ticket, a number, a random text, and the suffix of the generator.  The number comes
from a counter of the generator and is an argument here; so are the bytes the
generator is given by the source of randomness, of which it takes as many as its
maximal length says.  The random text may contain the dash that separates the parts,
so only the first two parts can be read back; the length of the rest is fixed by the
generator.
-/

namespace LemonCas.Ticket

open LemonCas.Foundation
open LemonCas.Java

/-- `org.apereo.cas.util.DefaultUniqueTicketIdGenerator`, apart from its counter. -/
structure UniqueTicketIdGenerator where
  maxLength : ℕ
  suffix : JString
  deriving DecidableEq, Repr

/-- `InetAddressUtils.getCasServerHostName` on a machine with the given name: the name
up to its first dot, unless the name starts with it. -/
def getCasServerHostName (localHostName : String) : String :=
  let index := localHostName.toList.idxOf '.'
  if 0 < index ∧ index < localHostName.toList.length then
    String.ofList (localHostName.toList.take index)
  else localHostName

namespace UniqueTicketIdGenerator

/-- `new DefaultUniqueTicketIdGenerator()`. -/
def newDefault : UniqueTicketIdGenerator := ⟨24, none⟩

/-- `HostNameBasedUniqueTicketIdGenerator.determineTicketSuffixByHostName`. -/
def determineTicketSuffixByHostName (localHostName : String) (suffix : JString) : JString :=
  if isNotBlank suffix then suffix else some (getCasServerHostName localHostName)

/-- `new HostNameBasedUniqueTicketIdGenerator(maxLength, suffix)`, on a machine with the
given name. -/
def newHostNameBased (localHostName : String) (maxLength : ℕ) (suffix : JString) :
    UniqueTicketIdGenerator :=
  ⟨maxLength, determineTicketSuffixByHostName localHostName suffix⟩

/-- `this.randomStringGenerator.getNewString().replace('_', '-')`. -/
def randomText (generator : UniqueTicketIdGenerator) (nextBytes : ℕ → UInt8) : List Char :=
  (Base64Url.encode ((List.range generator.maxLength).map nextBytes)).map
    fun c => if c = '_' then '-' else c

/-- `finalSuffix` of `getNewTicketId`. -/
def finalSuffix (generator : UniqueTicketIdGenerator) : String :=
  let suffix := generator.suffix.getD ""
  if suffix = "" then suffix else "-" ++ suffix

/-- `DefaultUniqueTicketIdGenerator.getNewTicketId`, when its counter gives `number`. -/
def getNewTicketId (generator : UniqueTicketIdGenerator) (ticketPrefix : String)
    (number : BitVec 64) (nextBytes : ℕ → UInt8) : String :=
  ticketPrefix ++ "-" ++ toString number.toInt ++ "-" ++
    String.ofList (generator.randomText nextBytes) ++ generator.finalSuffix

/-! ## The parts of an id -/

/-- Everything after the number and its dash. -/
def ending (generator : UniqueTicketIdGenerator) (nextBytes : ℕ → UInt8) : List Char :=
  generator.randomText nextBytes ++ generator.finalSuffix.toList

theorem toList_getNewTicketId (generator : UniqueTicketIdGenerator) (ticketPrefix : String)
    (number : BitVec 64) (nextBytes : ℕ → UInt8) :
    (generator.getNewTicketId ticketPrefix number nextBytes).toList =
      ticketPrefix.toList ++
        '-' :: ((toString number.toInt).toList ++ '-' :: generator.ending nextBytes) := by
  simp [getNewTicketId, ending, String.toList_append]

theorem length_randomText (generator : UniqueTicketIdGenerator) (nextBytes : ℕ → UInt8) :
    (generator.randomText nextBytes).length = (4 * generator.maxLength + 2) / 3 := by
  rw [randomText, List.length_map, Base64Url.length_encode, List.length_map, List.length_range]

/-- The length of the ending is a matter of the generator alone. -/
def endingLength (generator : UniqueTicketIdGenerator) : ℕ :=
  (4 * generator.maxLength + 2) / 3 + generator.finalSuffix.length

theorem length_ending (generator : UniqueTicketIdGenerator) (nextBytes : ℕ → UInt8) :
    (generator.ending nextBytes).length = generator.endingLength := by
  rw [ending, List.length_append, length_randomText, String.length_toList, endingLength]

/-- The text of a number below the sign bit is its decimal digits. -/
theorem toList_number {number : BitVec 64} (hnumber : number.toNat < 2 ^ 63) :
    (toString number.toInt).toList = Nat.toDigits 10 number.toNat := by
  have htext : toString number.toInt = Nat.repr number.toNat := by
    rw [BitVec.toInt_eq_toNat_of_lt (by omega)]
    rfl
  rw [htext, Nat.repr_eq_ofList_toDigits, String.toList_ofList]

/-- A number below the sign bit has no dash in its text. -/
theorem dash_not_mem_number {number : BitVec 64} (hnumber : number.toNat < 2 ^ 63) :
    '-' ∉ (toString number.toInt).toList := by
  rw [toList_number hnumber]
  intro hdash
  exact absurd (Nat.isDigit_of_mem_toDigits (by decide) (by decide) hdash) (by decide)

/-- Prefix, number and ending can be read back from an id whose number is below the
sign bit. -/
theorem getNewTicketId_inj {generator generator' : UniqueTicketIdGenerator}
    {ticketPrefix ticketPrefix' : String} {number number' : BitVec 64}
    {nextBytes nextBytes' : ℕ → UInt8} (hdash : '-' ∉ ticketPrefix.toList)
    (hdash' : '-' ∉ ticketPrefix'.toList) (hnumber : number.toNat < 2 ^ 63)
    (hnumber' : number'.toNat < 2 ^ 63)
    (heq : generator.getNewTicketId ticketPrefix number nextBytes =
      generator'.getNewTicketId ticketPrefix' number' nextBytes') :
    ticketPrefix = ticketPrefix' ∧ number = number' ∧
      generator.ending nextBytes = generator'.ending nextBytes' := by
  have htexts := congrArg String.toList heq
  rw [toList_getNewTicketId, toList_getNewTicketId] at htexts
  obtain ⟨hparts, hrest⟩ := append_mark_inj hdash hdash' htexts
  obtain ⟨hnumbers, hendings⟩ :=
    append_mark_inj (dash_not_mem_number hnumber) (dash_not_mem_number hnumber') hrest
  refine ⟨String.toList_injective hparts, ?_, hendings⟩
  rw [toList_number hnumber, toList_number hnumber'] at hnumbers
  have hsame := congrArg (fun digits => Nat.ofDigitChars 10 digits 0) hnumbers
  simp only [Nat.ofDigitChars_ten_toDigits] at hsame
  exact BitVec.eq_of_toNat_eq hsame

/-- The text of a number is made of digits and the dash. -/
theorem mem_alphabet_of_mem_number {number : ℤ} {c : Char} (hc : c ∈ (toString number).toList) :
    c ∈ Base64Url.alphabet := by
  have hdigits : ∀ n : ℕ, c ∈ n.repr.toList → c ∈ Base64Url.alphabet := by
    intro n hn
    rw [Nat.repr_eq_ofList_toDigits, String.toList_ofList] at hn
    exact Base64Url.mem_alphabet_of_isDigit
      (Nat.isDigit_of_mem_toDigits (by decide) (by decide) hn)
  cases number with
  | ofNat n => exact hdigits n hc
  | negSucc n =>
    have htext : toString (Int.negSucc n) = "-" ++ (n + 1).repr := rfl
    rw [htext, String.toList_append] at hc
    rcases List.mem_append.mp hc with hdash | hnumber
    · have hc : c = '-' := List.mem_singleton.mp hdash
      subst hc
      decide
    · exact hdigits (n + 1) hnumber

/-- The random text is made of the alphabet. -/
theorem mem_alphabet_of_mem_randomText {generator : UniqueTicketIdGenerator}
    {nextBytes : ℕ → UInt8} {c : Char} (hc : c ∈ generator.randomText nextBytes) :
    c ∈ Base64Url.alphabet := by
  obtain ⟨digit, hdigit, rfl⟩ := List.mem_map.mp hc
  split
  · decide
  · exact Base64Url.mem_alphabet_of_mem_encode hdigit

/-- The suffix a host-name based generator was configured with hides the name of the
machine. -/
theorem newHostNameBased_of_suffix {suffix : JString} (hsuffix : isBlank suffix = false)
    (localHostName : String) (maxLength : ℕ) :
    newHostNameBased localHostName maxLength suffix = ⟨maxLength, suffix⟩ := by
  simp [newHostNameBased, determineTicketSuffixByHostName, isNotBlank, hsuffix]

/-- Without one, the suffix is the name of the machine. -/
theorem newHostNameBased_of_blank {suffix : JString} (hsuffix : isBlank suffix = true)
    (localHostName : String) (maxLength : ℕ) :
    newHostNameBased localHostName maxLength suffix =
      ⟨maxLength, some (getCasServerHostName localHostName)⟩ := by
  simp [newHostNameBased, determineTicketSuffixByHostName, isNotBlank, hsuffix]

theorem finalSuffix_inj {maxLength maxLength' : ℕ} {suffix suffix' : String}
    (heq : finalSuffix ⟨maxLength, some suffix⟩ = finalSuffix ⟨maxLength', some suffix'⟩) :
    suffix = suffix' := by
  have hdash : ∀ text : String, "-" ++ text ≠ "" := by
    intro text hempty
    have := congrArg String.toList hempty
    simp [String.toList_append] at this
  simp only [finalSuffix, Option.getD_some] at heq
  split at heq <;> split at heq
  · rename_i h h'
    rw [h, h']
  · rename_i h h'
    exact absurd (heq.symm.trans h) (hdash suffix')
  · rename_i h h'
    exact absurd (heq.trans h') (hdash suffix)
  · have htexts := congrArg String.toList heq
    rw [String.toList_append, String.toList_append] at htexts
    exact String.toList_injective (List.append_cancel_left htexts)

/-- Endings of generators with one maximal length tell their suffixes apart. -/
theorem ending_inj {maxLength : ℕ} {suffix suffix' : String} {nextBytes nextBytes' : ℕ → UInt8}
    (heq : ending ⟨maxLength, some suffix⟩ nextBytes =
      ending ⟨maxLength, some suffix'⟩ nextBytes') : suffix = suffix' := by
  have hrandom : (randomText ⟨maxLength, some suffix⟩ nextBytes).length =
      (randomText ⟨maxLength, some suffix'⟩ nextBytes').length := by
    rw [length_randomText, length_randomText]
  obtain ⟨_, hsuffixes⟩ := List.append_inj heq hrandom
  exact finalSuffix_inj (String.toList_injective hsuffixes)

end UniqueTicketIdGenerator

end LemonCas.Ticket
