import ChannelGateway.Host.App
import Mathlib.Data.List.Forall2
/-!
# Applications in lockstep

Two applications whose stages leave the same request and decide alike are run side by side.  Their
errors need not be the same, as long as the answers that the applications make of them are related:
then so are the answers to every request.
-/

namespace ChannelGateway

/-- Decisions that are the same, or errors that are related. -/
inductive OutcomesAgree (R : PipelineError → PipelineError → Prop) :
    Except PipelineError Flow → Except PipelineError Flow → Prop where
  | flow (flow : Flow) : OutcomesAgree R (.ok flow) (.ok flow)
  | error {e e' : PipelineError} (related : R e e') : OutcomesAgree R (.error e) (.error e')

/-- Steps that leave the same request and agree in their outcomes, whatever they report. -/
structure Step.Agrees (R : PipelineError → PipelineError → Prop) (a b : Step) : Prop where
  outcome : OutcomesAgree R a.outcome b.outcome
  request : a.request = b.request

def Stage.Agrees (R : PipelineError → PipelineError → Prop) (a b : Stage) : Prop :=
  ∀ request, (a.run request).Agrees R (b.run request)

/-- Layers under one pattern whose pipelines agree on every request. -/
structure Layer.Agrees (R : PipelineError → PipelineError → Prop) (a b : Layer) : Prop where
  pattern : a.pattern = b.pattern
  pipeline : ∀ request, (a.pipeline.run request).Agrees R (b.pipeline.run request)

section

variable {R : PipelineError → PipelineError → Prop}

theorem OutcomesAgree.of_eq (hR : ∀ e, R e e) {first second : Except PipelineError Flow}
    (h : first = second) : OutcomesAgree R first second := by
  subst h
  cases first with
  | ok flow => exact .flow flow
  | error e => exact .error (hR e)

theorem Pipeline.runFrom_agrees {as bs : List Stage} (h : List.Forall₂ (Stage.Agrees R) as bs)
    (index : Nat) (request : Request) :
    (runFrom index as request).Agrees R (runFrom index bs request) := by
  induction h generalizing index request with
  | nil => exact ⟨.flow .continue, rfl⟩
  | @cons a b as bs hstage _ ih =>
      obtain ⟨houtcome, hrequest⟩ := hstage request
      rw [runFrom, runFrom]
      generalize a.run request = first at houtcome hrequest ⊢
      generalize b.run request = second at houtcome hrequest ⊢
      obtain ⟨outcome, after, events⟩ := first
      obtain ⟨outcome', after', events'⟩ := second
      dsimp only at houtcome hrequest ⊢
      subst hrequest
      cases houtcome with
      | error related => exact ⟨.error related, rfl⟩
      | flow flow =>
          cases flow with
          | respond response => exact ⟨.flow (.respond response), rfl⟩
          | «continue» => exact ⟨(ih (index + 1) after).outcome, (ih (index + 1) after).request⟩

/-- Layers that agree give related answers and leave the same request, if the applications make
related answers of related errors. -/
theorem App.dispatchLayers_of_agrees {a b : App} {S : Response → Response → Prop} (hS : ∀ r, S r r)
    (hproblem : ∀ route path {e e'}, R e e' →
      S (a.problemOf route path e).1.toResponse (b.problemOf route path e').1.toResponse)
    {as bs : List Layer} (h : List.Forall₂ (Layer.Agrees R) as bs) (matched : Bool)
    (request : Request) :
    S (a.dispatchLayers matched as request).response
      (b.dispatchLayers matched bs request).response ∧
      (a.dispatchLayers matched as request).request =
        (b.dispatchLayers matched bs request).request := by
  induction h generalizing matched request with
  | nil => exact ⟨hS _, rfl⟩
  | @cons first second as bs hlayer _ ih =>
      rw [dispatchLayers, dispatchLayers, hlayer.pattern]
      cases second.pattern.matchPath? request.path.toList with
      | none => exact ih matched request
      | some params =>
          obtain ⟨houtcome, hrequest⟩ := hlayer.pipeline { request with params }
          dsimp only
          generalize first.pipeline.run { request with params } = step at houtcome hrequest ⊢
          generalize second.pipeline.run { request with params } = step' at houtcome hrequest ⊢
          obtain ⟨outcome, after, events⟩ := step
          obtain ⟨outcome', after', events'⟩ := step'
          dsimp only at houtcome hrequest ⊢
          subst hrequest
          cases houtcome with
          | error related => exact ⟨hproblem _ _ related, rfl⟩
          | flow flow =>
              cases flow with
              | respond response => exact ⟨hS response, rfl⟩
              | «continue» => exact ih true after

end

/-- Outside development a problem has one further field, so there is nothing to arrange. -/
theorem Problem.arranged_ofValidation (arrangement : Arrangement) (failure : ValidationFailure)
    (path : String) :
    (ofValidation failure path false).arranged arrangement = ofValidation failure path false := by
  have horder : arrangement.order [("target", .string failure.part.name)] =
      [("target", .string failure.part.name)] := List.perm_singleton.1 (arrangement.perm _)
  simp only [arranged, ofValidation, Bool.false_eq_true, if_false, horder]

end ChannelGateway
