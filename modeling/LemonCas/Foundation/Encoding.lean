import Mathlib.Logic.Basic
set_option autoImplicit false

/-!
# Foundation: salted encoders of secrets

An encoder turns a secret into something that may be stored, under a salt, and
later decides whether a presented secret is the one behind a stored encoding.
The two are relations here, so an encoder that is undefined on some secrets is
covered.  An encoder with finitely many encodings has collisions, so what is asked
of one is asked of the two secrets at hand: `Apart` says that these two share no
encoding.
-/

namespace LemonCas.Foundation

/-- Encoding under a salt, and the check of a secret against an encoding. -/
structure Encoder (σ ρ : Type) where
  /-- Under the salt, the secret is encoded as the last argument. -/
  encodes : σ → ρ → ρ → Prop
  /-- The secret is accepted against the encoding. -/
  accepts : ρ → ρ → Prop

namespace Encoder

variable {σ ρ : Type}

/-- Under some salt, the secret is encoded so. -/
def IsEncoding (E : Encoder σ ρ) (r e : ρ) : Prop := ∃ s, E.encodes s r e

/-- Every secret is accepted against every encoding of it. -/
def Lawful (E : Encoder σ ρ) : Prop := ∀ s r e, E.encodes s r e → E.accepts r e

/-- A secret is accepted only against its own encodings. -/
def Exact (E : Encoder σ ρ) : Prop := ∀ r e, E.accepts r e → E.IsEncoding r e

/-- Two secrets share no encoding, unless they are the same. -/
def Apart (E : Encoder σ ρ) (r q : ρ) : Prop :=
  ∀ e, E.IsEncoding r e → E.IsEncoding q e → r = q

/-- A lawful exact encoder accepts a secret against its encodings and nothing else. -/
theorem accepts_iff {E : Encoder σ ρ} (hlawful : E.Lawful) (hexact : E.Exact) {r e : ρ} :
    E.accepts r e ↔ E.IsEncoding r e := by
  constructor
  · intro haccepts
    exact hexact r e haccepts
  · intro hencoding
    obtain ⟨s, hs⟩ := hencoding
    exact hlawful s r e hs

/-- With an exact encoder, a secret that is accepted against an encoding of a secret
it stands apart from is that secret. -/
theorem eq_of_accepts {E : Encoder σ ρ} (hexact : E.Exact) {r q e : ρ} (hapart : E.Apart r q)
    (hencoding : E.IsEncoding r e) (haccepts : E.accepts q e) : r = q :=
  hapart e hencoding (hexact q e haccepts)

end Encoder

end LemonCas.Foundation
