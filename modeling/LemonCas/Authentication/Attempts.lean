import LemonCas.Authentication.Deployed
set_option autoImplicit false

/-!
# Authentication: several attempts on one credential object

CAS hands the same credential object to every handler that supports it, and a
client may retry.  A run is a list of calls, by any handlers and with any salts,
made one after the other on one object; a call that throws does not end the run.
The frame of `doAuthentication` is the invariant of such a run.
-/

namespace LemonCas.Authentication

open LemonCas.Foundation
open LemonCas.Java
open LemonCas.Credential

variable {ν : Type}

/-- One call of `doAuthentication`: the handler it is made on, and the salt its
encoder draws. -/
structure LoginCall (ν : Type) where
  {Salt : Type}
  handler : CustomAuthenticationHandler ν Salt
  salt : Salt

namespace LoginCall

/-- Make the call on a credential. -/
def perform (credential : Ref (CustomCredential ν)) (call : LoginCall ν) :
    Method ν (HandlerResult ν) :=
  call.handler.doAuthentication call.salt credential

/-- What the call gives on a fresh object with the given contents. -/
def outcomeOn (contents : CredentialValue ν) (call : LoginCall ν) :
    Except Throwable (HandlerResult ν) :=
  call.handler.attempt call.salt contents

end LoginCall

/-- The calls of a list, one after the other on the same credential. -/
def runCalls (credential : Ref (CustomCredential ν)) (calls : List (LoginCall ν))
    (s : Store ν) : List (LoginCall ν × Except Throwable (HandlerResult ν)) × Store ν :=
  Program.runAll (LoginCall.perform credential) calls s

section Run

variable {s : Store ν} {credential : Ref (CustomCredential ν)} {contents : CredentialValue ν}

/-- One call, made anywhere in a run, keeps every object there was at the start of
the run and ends as it does on a fresh object. -/
theorem perform_ensures (hderef : s.deref credential = some contents) (call : LoginCall ν)
    {s₁ : Store ν} (hreached : s.Extends s₁) :
    (call.perform credential).Ensures s₁ fun outcome s₂ =>
      outcome = call.outcomeOn contents ∧ s.Extends s₂ := by
  have hrefines := call.handler.doAuthentication_refines call.salt (hreached.deref hderef)
  apply hrefines.mono
  intro outcome s₂ h
  obtain ⟨hverdict, hkept⟩ := h
  refine ⟨?_, hreached.trans hkept⟩
  rw [hverdict]
  exact (call.handler.attempt_eq_verdict call.salt contents).symm

/-- A run keeps every object there was, and each of its calls ends as it does on
a fresh object. -/
theorem runCalls_spec (hderef : s.deref credential = some contents)
    (calls : List (LoginCall ν)) :
    (runCalls credential calls s).1 =
        calls.map (fun call => (call, call.outcomeOn contents)) ∧
      s.Extends (runCalls credential calls s).2 :=
  Program.runAll_of_invariant (fun call _ hreached => perform_ensures hderef call hreached)
    calls (Store.Extends.refl s)

/-- Attempts on one object do not interfere: after every call the object and its
contents are what they were at the start, every call ends as it does on a fresh
object with the initial contents, and a run in another order has the same calls
end the same way. -/
theorem attempts_do_not_interfere (hderef : s.deref credential = some contents)
    (calls : List (LoginCall ν)) :
    (∀ k, let reached := (runCalls credential (calls.take k) s).2
      reached.deref credential = some contents ∧
        reached.credentials.read credential = s.credentials.read credential) ∧
    (runCalls credential calls s).1 =
      calls.map (fun call => (call, call.outcomeOn contents)) ∧
    (∀ reordered, calls.Perm reordered →
      (runCalls credential calls s).1.Perm (runCalls credential reordered s).1) := by
  refine ⟨?_, (runCalls_spec hderef calls).1, ?_⟩
  · intro k reached
    have hkept : s.Extends reached := (runCalls_spec hderef (calls.take k)).2
    obtain ⟨object, hread, _⟩ := Option.bind_eq_some_iff.mp hderef
    refine ⟨hkept.deref hderef, ?_⟩
    rw [hread]
    exact hkept.credentials.read hread
  · intro reordered hperm
    rw [(runCalls_spec hderef calls).1, (runCalls_spec hderef reordered).1]
    exact hperm.map _

end Run

/-- A failing and a succeeding handler, tried one after the other. -/
def failThenSucceed : List (LoginCall Unit) :=
  [⟨assembleHandler plainTextEncoder (some "select * from user where name = ?")
      ⟨fun _ _ => .ok []⟩, ()⟩,
    ⟨aliceHandler, ()⟩]

theorem failThenSucceed_do_not_interfere :
    let contents := submitted "alice" "secret"
    (runCalls freshCredential failThenSucceed (freshStore contents)).1 =
      failThenSucceed.map (fun call => (call, call.outcomeOn contents)) :=
  (attempts_do_not_interfere (deref_freshStore _) failThenSucceed).2.1

end LemonCas.Authentication
