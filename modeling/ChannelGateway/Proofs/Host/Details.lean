import ChannelGateway.Proofs.Host.Lockstep
/-!
# Details of failures

Outside development an answer does not depend on the messages of handlers' errors, nor on the
places in the data where violations were found.  Two applications that differ in nothing else are
kept in lockstep, and of errors that differ in nothing else they make one problem.
-/

namespace ChannelGateway

/-- Violations of one constraint with one message, wherever in the data they were found. -/
structure Violation.SameConstraint (a b : Violation) : Prop where
  schemaPath : a.schemaPath = b.schemaPath
  message : a.message = b.message

inductive PipelineError.SameButDetails : PipelineError → PipelineError → Prop where
  | validation (part : RequestPart) {a b : Violation} (violation : a.SameConstraint b) :
    SameButDetails (.validation ⟨part, a⟩) (.validation ⟨part, b⟩)
  | handler (message other : String) : SameButDetails (.handler message) (.handler other)

structure Layer.SameButDetails (a b : Layer) : Prop where
  pattern : a.pattern = b.pattern
  stages :
    List.Forall₂ (Stage.Agrees PipelineError.SameButDetails) a.pipeline.stages b.pipeline.stages

theorem Layer.SameButDetails.agrees {a b : Layer} (h : a.SameButDetails b) :
    a.Agrees PipelineError.SameButDetails b :=
  ⟨h.pattern, fun request => Pipeline.runFrom_agrees h.stages 0 request⟩

theorem ValidationFailure.message_eq {part : RequestPart} {a b : Violation}
    (h : a.SameConstraint b) :
    message ⟨part, a⟩ = message ⟨part, b⟩ := by
  rw [message, message, h.schemaPath, h.message]

/-- Outside development, one problem is made of errors that are the same but for details. -/
theorem App.problemOf_of_sameButDetails {a b : App} (ha : a.devMode = false)
    (hb : b.devMode = false) (route path : String) {e e' : PipelineError}
    (h : e.SameButDetails e') :
    (a.problemOf route path e).1 = (b.problemOf route path e').1 := by
  cases h with
  | handler message other =>
      simp only [problemOf, Problem.ofHandler, ha, hb, Bool.false_eq_true, if_false]
  | validation part violation =>
      simp only [problemOf, ha, hb, Problem.arranged_ofValidation]
      simp only [Problem.ofValidation, Bool.false_eq_true, if_false,
        ValidationFailure.message_eq violation]

/-- Outside development the details of failures stay inside.  Applications whose layers are the
same but for the details of their errors give the same answer to every request, and they leave
the same request. -/
theorem details_stay_inside {a b : App} (ha : a.devMode = false) (hb : b.devMode = false)
    (h : List.Forall₂ Layer.SameButDetails a.layers b.layers) (request : Request) :
    (a.dispatch request).response = (b.dispatch request).response ∧
      (a.dispatch request).request = (b.dispatch request).request := by
  have hlayers : List.Forall₂ (Layer.Agrees PipelineError.SameButDetails) a.layers b.layers :=
    h.imp fun _ _ hlayer => hlayer.agrees
  exact App.dispatchLayers_of_agrees (fun _ => rfl)
    (fun route path _ _ he =>
      congrArg Problem.toResponse (App.problemOf_of_sameButDetails ha hb route path he))
    hlayers false request

def bodyStage (place : String) : Stage :=
  .ofDecision fun request =>
    if request.body = .null then .error (.validation ⟨.body, "#/type", place, "no lamp"⟩)
    else .ok .continue

/-- An application of two layers, the second of which fails for every request: a violation is
found, or else the handler gives up with a message. -/
def failingApp (place message : String) (devMode : Bool) : App :=
  (App.empty devMode).mount "/" [.record "seen"]
    |>.mount "/lamps/:id" [bodyStage place, .fail (.handler message)]

/-- What the handler or the data hold is not in any answer, though it is in answers in
development. -/
theorem details_stay_inside_of_failing :
    let disk := failingApp "/lamp" "disk full"
    let socket := failingApp "/0/lamp" "socket closed"
    let request (body : Json) : Request := ⟨"POST", "/lamps/7", [], [], body, []⟩
    List.Forall₂ Layer.SameButDetails (disk false).layers (socket false).layers ∧
    (∀ request, ((disk false).dispatch request).response =
      ((socket false).dispatch request).response) ∧
    ((disk true).dispatch (request .null)).response ≠
      ((socket true).dispatch (request .null)).response ∧
    ((disk true).dispatch (request (.bool true))).response ≠
      ((socket true).dispatch (request (.bool true))).response := by
  intro disk socket request
  have hbody :
      Stage.Agrees PipelineError.SameButDetails (bodyStage "/lamp") (bodyStage "/0/lamp") := by
    intro request
    refine ⟨?_, rfl⟩
    simp only [bodyStage, Stage.ofDecision]
    split
    · exact .error (.validation .body ⟨rfl, rfl⟩)
    · exact .flow .continue
  have hhandler : Stage.Agrees PipelineError.SameButDetails (.fail (.handler "disk full"))
      (.fail (.handler "socket closed")) := fun _ => ⟨.error (.handler _ _), rfl⟩
  have hrecord : Stage.Agrees PipelineError.SameButDetails (.record "seen") (.record "seen") :=
    fun _ => ⟨.flow .continue, rfl⟩
  have hlayers : List.Forall₂ Layer.SameButDetails (disk false).layers (socket false).layers :=
    .cons ⟨rfl, .cons hrecord .nil⟩ (.cons ⟨rfl, .cons hbody (.cons hhandler .nil)⟩ .nil)
  refine ⟨hlayers, fun request => (details_stay_inside rfl rfl hlayers request).1, ?_, ?_⟩
  · decide +kernel
  · decide +kernel

end ChannelGateway
