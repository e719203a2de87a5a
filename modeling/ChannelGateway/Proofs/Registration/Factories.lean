import ChannelGateway.Host.Session
import ChannelGateway.Proofs.Registration.Atomic
import Mathlib.Data.List.Count
/-!
# Calls of factories

A factory is called where the handler of a route is bound: once for every route whose
operation resolves to it, in the order of the routes, up to the first route that fails.
Requests call no factories.
-/

namespace ChannelGateway

namespace RouteCompiler

/-- The factory to which the operation of a route resolves: the export of the operation's name in
the controller that it refers to, if this export is a factory. -/
def factoryOf? (c : RouteCompiler) (spec : RouteSpec) : Option FactoryCall :=
  let operationId := spec.operationId.getD ""
  let module := ModuleKey.ofReference c.options.controllers (spec.controller.getD "")
  if operationId = "" then none
  else match (c.controllers.lookup module).bind (·.lookup operationId) with
    | some (.handler (.factory _)) => some ⟨module, operationId⟩
    | _ => none

/-- The routes whose handlers are bound when some are compiled in order.  A route that fails ends
the compilation; its own handler is bound if its schemas are not what fails. -/
def Bound (c : RouteCompiler) (specs bound : List RouteSpec) : Prop :=
  if c.options.requireController then
    ((∀ spec ∈ specs, c.routeError? spec = none) ∧ bound = specs) ∨
    ∃ before failing after, specs = before ++ failing :: after ∧
      (∀ spec ∈ before, c.routeError? spec = none) ∧
      (((∃ part, c.stepError? failing (.schema part) ≠ none) ∧ bound = before) ∨
        ((∀ part, c.stepError? failing (.schema part) = none) ∧
          c.stepError? failing .handler ≠ none ∧ bound = before ++ [failing]))
  else bound = []

section Calls

variable {c : RouteCompiler} {spec : RouteSpec}

theorem Resolver.factoryCalls_bind (resolver : Resolver) (operationId : String)
    (controller : Option String) : (resolver.bind operationId controller).factoryCalls =
      (resolver.resolve operationId controller).factoryCalls := by
  rw [Resolver.bind]
  split
  · rfl
  · split <;> rfl

/-- Binding a handler calls the factory to which the operation resolves, and no other. -/
theorem factoryCalls_bindHandler (c : RouteCompiler) (spec : RouteSpec) :
    (c.bindHandler spec).factoryCalls = (c.factoryOf? spec).toList := by
  rw [bindHandler, Resolver.factoryCalls_bind, Resolver.resolve, factoryOf?, resolver]
  by_cases hid : spec.operationId.getD "" = ""
  · rw [if_pos hid, if_pos hid]
    rfl
  · rw [if_neg hid, if_neg hid]
    simp only
    cases hmodule : c.controllers.lookup
        (ModuleKey.ofReference c.options.controllers (spec.controller.getD "")) with
    | none => rfl
    | some exports =>
        simp only [Option.bind_some]
        cases hexport : exports.lookup (spec.operationId.getD "") with
        | none => rfl
        | some found =>
            cases found with
            | value v => rfl
            | handler h => cases h <;> rfl

theorem exists_export_of_factoryOf? {call : FactoryCall} (h : c.factoryOf? spec = some call) :
    ∃ exports product, c.controllers.lookup call.module = some exports ∧
      exports.lookup call.operationId = some (.handler (.factory product)) := by
  rw [factoryOf?] at h
  split at h
  · cases h
  · split at h
    · next product hexport =>
        cases h
        obtain ⟨exports, hexports, hproduct⟩ := Option.bind_eq_some_iff.1 hexport
        exact ⟨exports, product, hexports, hproduct⟩
    · cases h

theorem factoryCalls_of_suppressed (h : c.options.requireController = false) (spec : RouteSpec) :
    (c.compileRoute spec).trace.factoryCalls = [] := by
  rw [compileRoute]
  split
  · rfl
  · rw [h]
    rfl

theorem factoryCalls_of_schema_error {part : RequestPart}
    (h : c.stepError? spec (.schema part) ≠ none) :
    (c.compileRoute spec).trace.factoryCalls = [] := by
  rcases exists_compiles_or_error c spec with ⟨compiled, hcompiled⟩ | ⟨e, -, hstages⟩
  · exact absurd (stepError?_schema_of_ok (hcompiled part)) h
  · rw [compileRoute, hstages]
    rfl

/-- A route whose schemas are compiled calls its factory, whether or not its handler is found. -/
theorem factoryCalls_of_schemas (hrequired : c.options.requireController = true)
    (h : ∀ part, c.stepError? spec (.schema part) = none) :
    (c.compileRoute spec).trace.factoryCalls = (c.factoryOf? spec).toList := by
  obtain ⟨compiled, hcompiled⟩ :=
    Classical.skolem.1 fun part => exists_compiled_of_stepError? (h part)
  have hcalls := factoryCalls_bindHandler c spec
  rw [bindHandler] at hcalls
  rw [compileRoute, validationStages_of_compiles hcompiled]
  simp only [hrequired, Bool.not_true, Bool.false_eq_true, if_false]
  split <;> exact hcalls

theorem routeError?_eq_none_iff :
    c.routeError? spec = none ↔ ∀ step, c.stepError? spec step = none := by
  rw [routeError?, List.findSome?_eq_none_iff]
  exact ⟨fun h step => h step step.mem_order, fun h step _ => h step⟩

theorem schemas_of_routeError? (h : c.routeError? spec = none) (part : RequestPart) :
    c.stepError? spec (.schema part) = none :=
  routeError?_eq_none_iff.1 h (.schema part)

theorem handler_fails (herror : c.routeError? spec ≠ none)
    (h : ∀ part, c.stepError? spec (.schema part) = none) : c.stepError? spec .handler ≠ none := by
  intro hhandler
  apply herror
  rw [routeError?_eq_none_iff]
  intro step
  cases step with
  | schema part => exact h part
  | handler => exact hhandler

end Calls

theorem filterMap_cons_append {α β : Type} (f : α → Option β) (a : α) (rest : List α) :
    (a :: rest).filterMap f = (f a).toList ++ rest.filterMap f := by
  rw [List.filterMap_cons]
  cases f a <;> rfl

section Compilation

variable {c : RouteCompiler}

theorem factoryCalls_compileRoutes_of_suppressed (h : c.options.requireController = false)
    (specs : List RouteSpec) : (c.compileRoutes specs).trace.factoryCalls = [] := by
  induction specs with
  | nil => rfl
  | cons spec rest ih =>
      have hfirst := factoryCalls_of_suppressed h spec
      rw [compileRoutes]
      split
      · exact hfirst
      · exact List.append_eq_nil_iff.2 ⟨hfirst, ih⟩

/-- A route that is compiled is bound in front of those that are bound behind it. -/
theorem Bound.cons (hrequired : c.options.requireController = true) {spec : RouteSpec}
    (hspec : c.routeError? spec = none) {rest bound : List RouteSpec} (h : c.Bound rest bound) :
    c.Bound (spec :: rest) (spec :: bound) := by
  rw [Bound, if_pos hrequired] at h ⊢
  rcases h with ⟨hrest, rfl⟩ | ⟨before, failing, after, rfl, hbefore, hfails⟩
  · exact Or.inl ⟨List.forall_mem_cons.2 ⟨hspec, hrest⟩, rfl⟩
  · refine Or.inr ⟨spec :: before, failing, after, rfl, List.forall_mem_cons.2 ⟨hspec, hbefore⟩, ?_⟩
    rcases hfails with ⟨hschema, rfl⟩ | ⟨hschemas, hhandler, rfl⟩
    · exact Or.inl ⟨hschema, rfl⟩
    · exact Or.inr ⟨hschemas, hhandler, rfl⟩

theorem exists_bound (c : RouteCompiler) (specs : List RouteSpec) :
    ∃ bound, c.Bound specs bound ∧
      (c.compileRoutes specs).trace.factoryCalls = bound.filterMap c.factoryOf? := by
  cases hrequired : c.options.requireController with
  | false =>
      refine ⟨[], ?_, factoryCalls_compileRoutes_of_suppressed hrequired specs⟩
      rw [Bound, if_neg (by simp [hrequired])]
  | true =>
      induction specs with
      | nil =>
          refine ⟨[], ?_, rfl⟩
          rw [Bound, if_pos hrequired]
          exact Or.inl ⟨by simp, rfl⟩
      | cons spec rest ih =>
          rw [compileRoutes]
          cases houtcome : (c.compileRoute spec).outcome with
          | error e =>
              have hfails : c.routeError? spec ≠ none := by
                rw [compileRoute_eq_error_iff.1 houtcome]
                exact Option.some_ne_none e
              by_cases hschemas : ∀ part, c.stepError? spec (.schema part) = none
              · refine ⟨[spec], ?_, ?_⟩
                · rw [Bound, if_pos hrequired]
                  exact Or.inr ⟨[], spec, rest, rfl, by simp,
                    Or.inr ⟨hschemas, handler_fails hfails hschemas, rfl⟩⟩
                · rw [filterMap_cons_append, List.filterMap_nil, List.append_nil]
                  exact factoryCalls_of_schemas hrequired hschemas
              · obtain ⟨part, hpart⟩ := not_forall.1 hschemas
                refine ⟨[], ?_, factoryCalls_of_schema_error hpart⟩
                rw [Bound, if_pos hrequired]
                exact Or.inr ⟨[], spec, rest, rfl, by simp, Or.inl ⟨⟨part, hpart⟩, rfl⟩⟩
          | ok route =>
              have hspec := routeError?_of_ok houtcome
              obtain ⟨bound, hbound, hcalls⟩ := ih
              have hfirst := factoryCalls_of_schemas hrequired (schemas_of_routeError? hspec)
              refine ⟨spec :: bound, hbound.cons hrequired hspec, ?_⟩
              have happend :
                ((c.compileRoute spec).trace ++ (c.compileRoutes rest).trace).factoryCalls =
                  (c.compileRoute spec).trace.factoryCalls ++
                    (c.compileRoutes rest).trace.factoryCalls := rfl
              rw [happend, hfirst, hcalls, filterMap_cons_append]

end Compilation

theorem registerDocument_isOk_iff {H : Type} [Host H] (c : RouteCompiler) (host : H)
    (document : Document) : (∃ report, (c.registerDocument host document).outcome = .ok report) ↔
      ∀ spec ∈ RouteSpec.ofDocument document c.options.tag, c.routeError? spec = none := by
  rw [registerDocument, ← List.findSome?_eq_none_iff]
  cases houtcome : (c.compileRoutes (RouteSpec.ofDocument document c.options.tag)).outcome with
  | error e =>
      rw [compileRoutes_eq_error_iff.1 houtcome]
      simp only [reduceCtorEq, exists_false]
  | ok routes =>
      simp only [Except.ok.injEq, exists_eq', true_iff]
      cases hfirst : (RouteSpec.ofDocument document c.options.tag).findSome? c.routeError? with
      | none => rfl
      | some e =>
          rw [compileRoutes_eq_error_iff.2 hfirst] at houtcome
          cases houtcome

theorem factoryCalls_registerDocument {H : Type} [Host H] (c : RouteCompiler) (host : H)
    (document : Document) : (c.registerDocument host document).trace.factoryCalls =
      (c.compileRoutes (RouteSpec.ofDocument document c.options.tag)).trace.factoryCalls := by
  rw [registerDocument]
  dsimp only
  split <;> rfl

end RouteCompiler

namespace Session

def dispatchAll (s : Session) (requests : List Request) : Session :=
  requests.foldl (fun s request => (s.dispatch request).2) s

theorem factoryCalls_dispatchAll (s : Session) (requests : List Request) :
    (s.dispatchAll requests).factoryCalls = s.factoryCalls := by
  unfold dispatchAll
  induction requests generalizing s with
  | nil => rfl
  | cons request rest ih => exact ih (s.dispatch request).2

end Session

open RouteCompiler

/-- Factories run at registration only, once for every route whose handler is bound.  These are all
routes of the document if it is registered.  Otherwise they are the routes before the first one
that fails, and that one too if its schemas do not fail; and there are none where no handlers are
asked for.  A factory is called as often as the operations of these routes resolve to it.  Only
what controllers export is called, so not what a factory makes, even if that is another factory;
and no requests call factories afterwards. -/
theorem factories_called_at_registration {H : Type} [Host H] (c : RouteCompiler) (host : H)
    (document : Document) :
    let specs := RouteSpec.ofDocument document c.options.tag
    let result := c.registerDocument host document
    ((∃ report, result.outcome = .ok report) ↔ ∀ spec ∈ specs, c.routeError? spec = none) ∧
    ∃ bound, c.Bound specs bound ∧
      result.trace.factoryCalls = bound.filterMap c.factoryOf? ∧
      (∀ call, result.trace.factoryCalls.count call =
        bound.countP fun spec => c.factoryOf? spec = some call) ∧
      (∀ call ∈ result.trace.factoryCalls, ∃ exports product,
        c.controllers.lookup call.module = some exports ∧
        exports.lookup call.operationId = some (.handler (.factory product))) ∧
      ∀ (session : Session) (source : DocumentSource) (requests : List Request),
        Document.ofSource source = .ok document →
        ((session.register c source).2.dispatchAll requests).factoryCalls =
          session.factoryCalls ++ bound.filterMap c.factoryOf? := by
  intro specs result
  obtain ⟨bound, hbound, hcalls⟩ := c.exists_bound specs
  have hresult : result.trace.factoryCalls = bound.filterMap c.factoryOf? := by
    rw [factoryCalls_registerDocument, hcalls]
  refine ⟨registerDocument_isOk_iff c host document, bound, hbound, hresult, fun call => ?_,
    fun call hcall => ?_, fun session source requests hsource => ?_⟩
  · rw [hresult, List.count_filterMap]
    apply List.countP_congr
    intro spec _
    rw [beq_iff_eq, decide_eq_true_eq]
  · rw [hresult] at hcall
    obtain ⟨spec, -, hspec⟩ := List.mem_filterMap.1 hcall
    exact exists_export_of_factoryOf? hspec
  · rw [Session.factoryCalls_dispatchAll, Session.register, register, hsource]
    exact congrArg _ ((factoryCalls_registerDocument c session.app document).trans hcalls)

end ChannelGateway
