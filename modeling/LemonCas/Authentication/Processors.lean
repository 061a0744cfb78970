import LemonCas.Authentication.AuthenticationManager
set_option autoImplicit false

/-!
# Authentication: the two processors

The repository registers a pre-processor that agrees to every transaction and a
post-processor that leaves the builder alone.  They are sorted in among those of the
plan, wherever their order numbers put them, and have no effect there: a transaction runs
as it does without them, whatever else is registered.
-/

namespace LemonCas.Authentication

open LemonCas.Foundation
open LemonCas.Credential

variable {ν : Type}

/-! ## Processors without effect -/

section Loops

variable {transaction : AuthenticationTransaction (CredentialValue ν)}

/-- A pre-processor that agrees does not change what the loop comes to. -/
theorem runPreProcessors_insert {processor : AuthenticationPreProcessor ν}
    (hagrees : processor.process transaction = .ok true)
    (before after : List (AuthenticationPreProcessor ν)) :
    runPreProcessors transaction (before ++ processor :: after) =
      runPreProcessors transaction (before ++ after) := by
  induction before with
  | nil =>
    rw [List.nil_append, List.nil_append, runPreProcessors, hagrees]
    rfl
  | cons first rest ih =>
    rw [List.cons_append, List.cons_append, runPreProcessors, runPreProcessors, ih]

/-- A post-processor that changes nothing does not change what the loop comes to. -/
theorem runPostProcessors_insert {processor : AuthenticationPostProcessor ν}
    (hsame : ∀ builder, processor.process builder transaction = .ok builder)
    (before after : List (AuthenticationPostProcessor ν)) (builder : Authentication ν) :
    runPostProcessors transaction (before ++ processor :: after) builder =
      runPostProcessors transaction (before ++ after) builder := by
  induction before generalizing builder with
  | nil =>
    rw [List.nil_append, List.nil_append, runPostProcessors, hsame]
    rfl
  | cons first rest ih =>
    rw [List.cons_append, List.cons_append, runPostProcessors, runPostProcessors]
    congr 1
    funext processed
    exact ih processed

end Loops

namespace AuthenticationEventExecutionPlan

variable (plan : AuthenticationEventExecutionPlan ν)
  (transaction : AuthenticationTransaction (CredentialValue ν))

theorem invokeAuthenticationPreProcessors_register (processor : AuthenticationPreProcessor ν)
    (hagrees : processor.process transaction = .ok true) :
    (plan.registerAuthenticationPreProcessor processor).invokeAuthenticationPreProcessors
        transaction = plan.invokeAuthenticationPreProcessors transaction := by
  obtain ⟨before, after, hwithout, hwith⟩ :=
    exists_sortByOrder_concat (fun processor : AuthenticationPreProcessor ν => processor.order)
      plan.preProcessors processor
  unfold invokeAuthenticationPreProcessors registerAuthenticationPreProcessor
  simp only [hwithout, hwith, List.filter_append, List.filter_cons]
  split
  · exact runPreProcessors_insert hagrees _ _
  · rfl

theorem invokeAuthenticationPostProcessors_register (processor : AuthenticationPostProcessor ν)
    (hsame : ∀ builder, processor.process builder transaction = .ok builder)
    (builder : Authentication ν) :
    (plan.registerAuthenticationPostProcessor processor).invokeAuthenticationPostProcessors
        builder transaction = plan.invokeAuthenticationPostProcessors builder transaction := by
  obtain ⟨before, after, hwithout, hwith⟩ :=
    exists_sortByOrder_concat (fun processor : AuthenticationPostProcessor ν => processor.order)
      plan.postProcessors processor
  unfold invokeAuthenticationPostProcessors registerAuthenticationPostProcessor
  simp only [hwithout, hwith, List.filter_append, List.filter_cons]
  split
  · exact runPostProcessors_insert hsame _ _ builder
  · rfl

end AuthenticationEventExecutionPlan

namespace AuthenticationManager

section Loops

variable (plan : AuthenticationEventExecutionPlan ν)
  (preProcessors : List (AuthenticationPreProcessor ν))
  (postProcessors : List (AuthenticationPostProcessor ν)) (fatal : Bool) (clock : ℕ → ℕ)
  (transaction : AuthenticationTransaction (Ref (CustomCredential ν)))

theorem tryHandlers_processors (handlers : List (RegisteredHandler ν))
    (credential : Ref (CustomCredential ν)) (l : List (RegisteredHandler ν))
    (s : TransactionState ν) :
    (AuthenticationManager.mk { plan with preProcessors, postProcessors } fatal).tryHandlers
        clock transaction handlers credential l s =
      (AuthenticationManager.mk plan fatal).tryHandlers clock transaction handlers credential
        l s := by
  induction l generalizing s with
  | nil => rfl
  | cons handler rest ih =>
    unfold tryHandlers
    simp only [ih]
    rfl

theorem tryCredentials_processors (handlers : List (RegisteredHandler ν))
    (credentials : List (Ref (CustomCredential ν))) (s : TransactionState ν) :
    (AuthenticationManager.mk { plan with preProcessors, postProcessors } fatal).tryCredentials
        clock transaction handlers credentials s =
      (AuthenticationManager.mk plan fatal).tryCredentials clock transaction handlers
        credentials s := by
  induction credentials generalizing s with
  | nil => rfl
  | cons credential rest ih => rw [tryCredentials, tryCredentials, ih, tryHandlers_processors]

/-- The processors take no part in `authenticateInternal`. -/
theorem authenticateInternal_processors :
    (AuthenticationManager.mk { plan with preProcessors, postProcessors }
        fatal).authenticateInternal clock transaction =
      (AuthenticationManager.mk plan fatal).authenticateInternal clock transaction := by
  funext s
  unfold authenticateInternal
  simp only [tryCredentials_processors]
  rfl

end Loops

/-- Whatever else a plan has, and wherever the order numbers put the two processors, the
processors of the repository change no run of any transaction from any store. -/
theorem processors_without_effect (plan : AuthenticationEventExecutionPlan ν) (identity : ℕ)
    (handler : CustomAuthenticationHandler ν Unit) (fatal : Bool) (clock : ℕ → ℕ)
    (transaction : AuthenticationTransaction (Ref (CustomCredential ν))) :
    (AuthenticationManager.mk (plan.withCustomHandler identity handler) fatal).authenticate clock
        transaction =
      (AuthenticationManager.mk (plan.registerAuthenticationHandler
        (handler.toAuthenticationHandler identity fun _ => ())) fatal).authenticate clock
          transaction := by
  have hpre : ∀ contents,
      (plan.withCustomHandler identity handler).invokeAuthenticationPreProcessors contents =
        (plan.registerAuthenticationHandler (handler.toAuthenticationHandler identity
          fun _ => ())).invokeAuthenticationPreProcessors contents := fun contents =>
    AuthenticationEventExecutionPlan.invokeAuthenticationPreProcessors_register _ contents
      customAuthenticationPreProcessor rfl
  have hpost : ∀ builder contents,
      (plan.withCustomHandler identity handler).invokeAuthenticationPostProcessors builder
          contents =
        (plan.registerAuthenticationHandler (handler.toAuthenticationHandler identity
          fun _ => ())).invokeAuthenticationPostProcessors builder contents :=
    fun builder contents =>
      AuthenticationEventExecutionPlan.invokeAuthenticationPostProcessors_register _ contents
        customAuthenticationPostProcessor (fun _ => rfl) builder
  have hinternal := authenticateInternal_processors
    (plan.registerAuthenticationHandler (handler.toAuthenticationHandler identity fun _ => ()))
    (plan.preProcessors ++ [customAuthenticationPreProcessor])
    (plan.postProcessors ++ [customAuthenticationPostProcessor]) fatal clock transaction
  unfold authenticate
  simp only [hpre, hpost]
  rw [← hinternal]
  rfl

end AuthenticationManager

end LemonCas.Authentication
