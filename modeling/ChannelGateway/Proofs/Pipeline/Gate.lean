import ChannelGateway.Proofs.Lists.Search
import ChannelGateway.Proofs.Pipeline.Run
import ChannelGateway.Proofs.Registration.Steps
/-!
# The validation gate of a route

The first three stages of a compiled route check the parameters, the headers and the body.  A
request gets past them if and only if all three parts fit their schemas; what was checked is then
left in its context.  Otherwise the first part that does not fit decides the run, and what comes
behind its check has no influence.
-/

namespace ChannelGateway

theorem RequestPart.contextKey_injective : Function.Injective RequestPart.contextKey := by
  intro a b h
  cases a <;> cases b <;> first | rfl | exact absurd h (by decide)

namespace Stage

variable {part : RequestPart} {validator : Validator} {request : Request}

theorem check_run_of_nil
    (h : validator.compiled.mismatches (validator.prepare (part.data request)) = []) :
    (check part validator).run request =
      ⟨.ok .continue,
        request.publish part.contextKey (validator.prepare (part.data request)), []⟩ := by
  simp only [check, Validator.validate, h]

theorem check_run_of_cons {first : Schema.Mismatch} {rest : List Schema.Mismatch}
    (h : validator.compiled.mismatches (validator.prepare (part.data request)) = first :: rest) :
    (check part validator).run request =
      ⟨.error (.validation ⟨part, first.violation⟩), request,
        [.requestRejected part request.path (rest.length + 1)]⟩ := by
  simp only [check, Validator.validate, h]
  rfl

end Stage

namespace RouteCompiler

/-- What a route checks of a request: the parameters, without what is left of the path, and the
headers are coerced, and the body is as it was received. -/
def candidate (spec : RouteSpec) (request : Request) : RequestPart → Json
  | .params =>
    Coercion.coerce spec.parametersSchema
      (.object (Fields.erase RoutePattern.remainderKey request.params))
  | .headers => Coercion.coerce (SchemaIds.strip spec.headerSchema) (.object request.headers)
  | .body => request.body

theorem prepare_validatorOf (spec : RouteSpec) (compiled : RequestPart → Schema.CompiledSchema)
    (part : RequestPart) (request : Request) :
    (validatorOf spec compiled part).prepare (part.data request) = candidate spec request part := by
  cases part <;> rfl

/-- A part of a request fits its schema. -/
def Fits (spec : RouteSpec) (compiled : RequestPart → Schema.CompiledSchema) (request : Request)
    (part : RequestPart) : Prop :=
  (compiled part).mismatches (candidate spec request part) = []

structure Leaves (spec : RouteSpec) (parts : List RequestPart)
    (request after : Request) : Prop where
  method : after.method = request.method
  path : after.path = request.path
  params : after.params = request.params
  headers : after.headers = request.headers
  body : after.body = request.body
  accepted : ∀ part ∈ parts, after.context.lookup part.contextKey =
    some (candidate spec request part)
  kept : ∀ key, (∀ part ∈ parts, key ≠ part.contextKey) →
    after.context.lookup key = request.context.lookup key

namespace Leaves

variable {spec : RouteSpec} {parts : List RequestPart} {request after : Request}

theorem nil (spec : RouteSpec) (request : Request) : Leaves spec [] request request :=
  ⟨rfl, rfl, rfl, rfl, rfl, by simp, fun _ _ => rfl⟩

theorem candidate_eq (h : Leaves spec parts request after) (part : RequestPart) :
    candidate spec after part = candidate spec request part := by
  cases part with
  | params => rw [candidate, candidate, h.params]
  | headers => rw [candidate, candidate, h.headers]
  | body => rw [candidate, candidate, h.body]

theorem publish (h : Leaves spec parts request after) (part : RequestPart) :
    Leaves spec (parts ++ [part]) request
      (after.publish part.contextKey (candidate spec request part)) := by
  refine ⟨h.method, h.path, h.params, h.headers, h.body, ?_, ?_⟩
  · intro other hother
    rw [Request.publish, Fields.lookup_insert]
    by_cases hpart : other = part
    · rw [hpart, if_pos rfl]
    · rw [if_neg fun heq => hpart (RequestPart.contextKey_injective heq)]
      rw [List.mem_append, List.mem_singleton] at hother
      exact h.accepted other (hother.resolve_right hpart)
  · intro key hkey
    rw [Request.publish, Fields.lookup_insert, if_neg (hkey part (by simp))]
    exact h.kept key fun other hother => hkey other (by simp [hother])

end Leaves

section Checks

variable {spec : RouteSpec} {compiled : RequestPart → Schema.CompiledSchema}
  {request current : Request} {passed : List RequestPart}

theorem check_run_pass {part : RequestPart} (hcurrent : Leaves spec passed request current)
    (hpart : Fits spec compiled request part) :
    (Stage.check part (validatorOf spec compiled part)).run current =
      ⟨.ok .continue, current.publish part.contextKey (candidate spec request part), []⟩ := by
  have hprepare := prepare_validatorOf spec compiled part current
  rw [hcurrent.candidate_eq] at hprepare
  rw [Stage.check_run_of_nil (by rw [hprepare]; exact hpart), hprepare]

theorem check_run_reject {part : RequestPart} {first : Schema.Mismatch}
    {rest : List Schema.Mismatch} (hcurrent : Leaves spec passed request current)
    (hpart : (compiled part).mismatches (candidate spec request part) = first :: rest) :
    (Stage.check part (validatorOf spec compiled part)).run current =
      ⟨.error (.validation ⟨part, first.violation⟩), current,
        [.requestRejected part current.path (rest.length + 1)]⟩ := by
  have hprepare := prepare_validatorOf spec compiled part current
  rw [hcurrent.candidate_eq] at hprepare
  exact Stage.check_run_of_cons (by rw [hprepare]; exact hpart)

theorem check_continues_iff {part : RequestPart} :
    ((Stage.check part (validatorOf spec compiled part)).run request).outcome = .ok .continue ↔
      Fits spec compiled request part := by
  cases hmismatches : (compiled part).mismatches (candidate spec request part) with
  | nil => exact iff_of_true (by rw [check_run_pass (.nil spec request) hmismatches]) hmismatches
  | cons first rest =>
      have hrun := check_run_reject (.nil spec request) hmismatches
      refine iff_of_false (fun h => ?_) fun hfits => ?_
      · rw [hrun] at h
        cases h
      · rw [Fits, hmismatches] at hfits
        cases hfits

end Checks

end RouteCompiler

open RouteCompiler

end ChannelGateway
