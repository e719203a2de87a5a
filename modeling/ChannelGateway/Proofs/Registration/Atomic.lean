import ChannelGateway.Proofs.Registration.Steps
/-!
# Atomic registration

A document is registered as a whole or not at all.  Where it is not, the first channel that fails,
and its first step that fails, tell why.
-/

namespace ChannelGateway

namespace RouteCompiler

variable {H : Type} [Host H]

structure Untouched (host : H) (e : RegistrationError) (result : RegistrationResult H) : Prop where
  outcome : result.outcome = .error e
  host : result.host = host
  silent : ∀ pattern channel operationId stages,
    Event.routeRegistered pattern channel operationId stages ∉ result.trace.events

structure Mounted (host : H) (routes : List CompiledRoute) (result : RegistrationResult H) :
    Prop where
  outcome : ∃ title version, result.outcome = .ok ⟨title, version, routes.map (·.entry)⟩
  host : result.host =
    routes.foldl (fun host route => Host.mount host route.entry.pattern route.stages) host

/-- The error of the first step that fails, in the first channel that has one among those whose
publish operation counts. -/
def FirstFailure (c : RouteCompiler) (document : Document) (e : RegistrationError) : Prop :=
  ∃ before channel after operation earlier step later,
    document.channels = before ++ channel :: after ∧
    channel.publish = some operation ∧ c.options.tag.all operation.hasTag ∧
    (∀ other ∈ before, ∀ published, other.publish = some published →
      c.options.tag.all published.hasTag → ∀ step,
        c.stepError? (RouteSpec.ofOperation other published) step = none) ∧
    CompileStep.order = earlier ++ step :: later ∧
    (∀ passed ∈ earlier, c.stepError? (RouteSpec.ofOperation channel operation) passed = none) ∧
    c.stepError? (RouteSpec.ofOperation channel operation) step = some e

theorem CompileStep.mem_order (step : CompileStep) : step ∈ order := by
  cases step with
  | schema part => exact List.mem_append_left _ (List.mem_map_of_mem part.mem_order)
  | handler => exact List.mem_append_right _ List.mem_cons_self

def routeOf? (tag : Option String) (channel : Channel) : Option RouteSpec :=
  (channel.publish.filter fun operation => tag.all operation.hasTag).map
    (RouteSpec.ofOperation channel)

theorem routeOf?_eq_some_iff {tag : Option String} {channel : Channel} {spec : RouteSpec} :
    routeOf? tag channel = some spec ↔
      ∃ operation, channel.publish = some operation ∧ tag.all operation.hasTag ∧
        RouteSpec.ofOperation channel operation = spec := by
  simp only [routeOf?, Option.map_eq_some_iff, Option.filter_eq_some_iff, and_assoc]

/-- An error of the routes of a document is the first failure of the document. -/
theorem firstFailure_of_findSome? {c : RouteCompiler} {document : Document} {e : RegistrationError}
    (h : (RouteSpec.ofDocument document c.options.tag).findSome? c.routeError? = some e) :
    FirstFailure c document e := by
  -- The routes leave out channels, so the first failing route is looked up among
  -- all channels again.
  have hchannels : document.channels.findSome? (fun channel =>
      (routeOf? c.options.tag channel).bind c.routeError?) = some e := by
    rw [RouteSpec.ofDocument, ← List.head?_filterMap, List.filterMap_filterMap,
      List.head?_filterMap] at h
    exact h
  obtain ⟨before, channel, after, hsplit, hchannel, hbefore⟩ :=
    List.findSome?_eq_some_iff.1 hchannels
  obtain ⟨spec, hspec, herror⟩ := Option.bind_eq_some_iff.1 hchannel
  obtain ⟨operation, hpublish, htag, rfl⟩ := routeOf?_eq_some_iff.1 hspec
  obtain ⟨earlier, step, later, horder, hstep, hearlier⟩ := List.findSome?_eq_some_iff.1 herror
  refine ⟨before, channel, after, operation, earlier, step, later, hsplit, hpublish,
    htag, ?_, horder, hearlier, hstep⟩
  intro other hother published hpublished hcounts failing
  have hnone := hbefore other hother
  rw [routeOf?_eq_some_iff.2 ⟨published, hpublished, hcounts, rfl⟩, Option.bind_some, routeError?,
    List.findSome?_eq_none_iff] at hnone
  exact hnone failing failing.mem_order

/-- A document is registered as a whole, or its first failure leaves everything as it was. -/
theorem registerDocument_mounted_or_untouched (c : RouteCompiler) (host : H) (document : Document) :
    (∃ routes, (c.compileRoutes (RouteSpec.ofDocument document c.options.tag)).outcome =
      .ok routes ∧
      Mounted host routes (c.registerDocument host document)) ∨
    ∃ e, Untouched host e (c.registerDocument host document) ∧ FirstFailure c document e := by
  cases houtcome : (c.compileRoutes (RouteSpec.ofDocument document c.options.tag)).outcome with
  | ok routes =>
      left
      refine ⟨routes, rfl, ⟨document.title, document.apiVersion, ?_⟩, ?_⟩
      · simp only [registerDocument, houtcome]
      · simp only [registerDocument, houtcome]
  | error e =>
      right
      refine ⟨e, ⟨?_, ?_, ?_⟩, firstFailure_of_findSome? (compileRoutes_eq_error_iff.1 houtcome)⟩
      · simp only [registerDocument, houtcome]
      · simp only [registerDocument, houtcome]
      · intro pattern channel operationId stages h
        simp only [registerDocument, houtcome] at h
        obtain ⟨_, _, heq⟩ := mem_events_compileRoutes h
        cases heq

end RouteCompiler

open RouteCompiler

/-- Registration is atomic.  The document of a source, and a document that is at hand, is
registered with all of its routes, or not at all: then the host is as it was and no route is
reported as registered.  If the source has a document, the error is that of the first step that
fails in its first channel that has one. -/
theorem register_atomic {H : Type} [Host H] (c : RouteCompiler) (host : H) :
    (∀ document,
      (∃ routes, (c.compileRoutes (RouteSpec.ofDocument document c.options.tag)).outcome =
        .ok routes ∧
        Mounted host routes (c.registerDocument host document)) ∨
      ∃ e, Untouched host e (c.registerDocument host document) ∧ FirstFailure c document e) ∧
    ∀ source,
      (∃ e, Document.ofSource source = .error e ∧
        Untouched host (.document e) (c.register host source)) ∨
      ∃ document, Document.ofSource source = .ok document ∧
        ((∃ routes,
          (c.compileRoutes (RouteSpec.ofDocument document c.options.tag)).outcome = .ok routes ∧
            Mounted host routes (c.register host source)) ∨
        ∃ e, Untouched host e (c.register host source) ∧ FirstFailure c document e) := by
  refine ⟨registerDocument_mounted_or_untouched c host, fun source => ?_⟩
  cases hsource : Document.ofSource source with
  | error e =>
      left
      refine ⟨e, rfl, ?_, ?_, ?_⟩
      · rw [register, hsource]
      · rw [register, hsource]
      · intro pattern channel operationId stages h
        rw [register, hsource] at h
        cases h
  | ok document =>
      right
      have hregister : c.register host source = c.registerDocument host document := by
        rw [register, hsource]
      rw [hregister]
      exact ⟨document, rfl, registerDocument_mounted_or_untouched c host document⟩

end ChannelGateway
