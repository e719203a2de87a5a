import ChannelGateway.Pipeline.Validation
import ChannelGateway.Proofs.Json.Fields
/-!
# Runs of pipelines

A run through one part of a pipeline and then the next is a run through both.  A part that does not
continue decides the run alone, so what comes behind it has no influence.
-/

namespace ChannelGateway

namespace Step

/-- A step after which something else happens: its events come first. -/
def after (events : List Event) (step : Step) : Step :=
  { step with events := events ++ step.events }

@[simp] theorem outcome_after (events : List Event) (step : Step) :
    (after events step).outcome = step.outcome := rfl

@[simp] theorem request_after (events : List Event) (step : Step) :
    (after events step).request = step.request := rfl

theorem after_after (first second : List Event) (step : Step) :
    after first (after second step) = after (first ++ second) step := by
  rw [after, after, after, List.append_assoc]

end Step

namespace Pipeline

theorem runFrom_cons_continue {index : Nat} {stage : Stage} {rest : List Stage} {request : Request}
    (h : (stage.run request).outcome = .ok .continue) :
    runFrom index (stage :: rest) request =
      ((runFrom (index + 1) rest (stage.run request).request).after
        ((stage.run request).events ++
          [.stageContinued index (stage.run request).request.path])) := by
  rw [runFrom]
  simp only [h, Step.after, List.append_assoc, List.singleton_append]

theorem runFrom_cons_of_ne {index : Nat} {stage : Stage} {rest : List Stage} {request : Request}
    (h : (stage.run request).outcome ≠ .ok .continue) :
    runFrom index (stage :: rest) request = stage.run request := by
  rw [runFrom]
  split
  · next hcontinue => exact absurd hcontinue h
  · rfl

/-- Where the stages in front continue, a run goes on with the request that they leave. -/
theorem runFrom_append_continue {front : List Stage} {index : Nat} {request : Request}
    (h : (runFrom index front request).outcome = .ok .continue) (back : List Stage) :
    runFrom index (front ++ back) request =
      (runFrom (index + front.length) back (runFrom index front request).request).after
        (runFrom index front request).events := by
  induction front generalizing index request with
  | nil => rfl
  | cons stage rest ih =>
      by_cases hstage : (stage.run request).outcome = .ok .continue
      · rw [runFrom_cons_continue hstage, Step.outcome_after] at h
        have hlength : index + (stage :: rest).length = index + 1 + rest.length := by
          rw [List.length_cons]
          omega
        rw [List.cons_append, runFrom_cons_continue hstage, runFrom_cons_continue hstage, ih h,
          Step.after_after, hlength]
        rfl
      · rw [runFrom_cons_of_ne hstage] at h
        exact absurd h hstage

theorem runFrom_append_of_ne {front : List Stage} {index : Nat} {request : Request}
    (h : (runFrom index front request).outcome ≠ .ok .continue) (back : List Stage) :
    runFrom index (front ++ back) request = runFrom index front request := by
  induction front generalizing index request with
  | nil => exact absurd rfl h
  | cons stage rest ih =>
      by_cases hstage : (stage.run request).outcome = .ok .continue
      · rw [runFrom_cons_continue hstage, Step.outcome_after] at h
        rw [List.cons_append, runFrom_cons_continue hstage, runFrom_cons_continue hstage, ih h]
      · rw [List.cons_append, runFrom_cons_of_ne hstage, runFrom_cons_of_ne hstage]

end Pipeline

end ChannelGateway
