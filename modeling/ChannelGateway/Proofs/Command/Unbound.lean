import ChannelGateway.Command.Check
import ChannelGateway.Proofs.Controller.Lookup
import ChannelGateway.Proofs.Document.Grammar
import ChannelGateway.Proofs.Document.Inlining
import ChannelGateway.Proofs.Registration.Atomic
/-!
# Operations that cannot be bound

A publish operation without an identifier cannot be bound to a handler, and a check of its
document warns about it.  An operation whose identifier is empty cannot be bound either, but there
is no warning.
-/

namespace ChannelGateway

namespace FileCheck

def unbound (warnings : List Finding) : List Finding :=
  warnings.filter fun finding => finding.code = "E1021"

def Warns (file : String) (channel : Channel) : Prop := unbound (channelWarnings file channel) ≠ []

theorem unbound_append (first second : List Finding) :
    unbound (first ++ second) = unbound first ++ unbound second := List.filter_append ..

@[simp] theorem unbound_extensionWarnings (extensions : Fields) (location : String) :
    unbound (extensionWarnings extensions location) = [] := by
  rw [unbound, List.filter_eq_nil_iff]
  intro finding hfinding
  obtain ⟨key, -, rfl⟩ := List.mem_map.1 hfinding
  simp

theorem unbound_channelWarnings {channel : Channel} {operation : Operation}
    (h : channel.publish = some operation) (file : String) :
    unbound (channelWarnings file channel) =
      if operation.operationId = none then
        [unboundWarning channel (file ++ ":" ++ channel.name ++ " publish")]
      else [] := by
  simp only [channelWarnings, h, unbound_append, unbound_extensionWarnings, List.append_nil,
    Option.isNone_iff_eq_none]
  split <;> rfl

theorem warns_iff {channel : Channel} {operation : Operation} (h : channel.publish = some operation)
    (file : String) : Warns file channel ↔ operation.operationId = none := by
  rw [Warns, unbound_channelWarnings h]
  split <;> simp [*]

theorem unbound_documentWarnings (file : String) (document : Document) :
    unbound (documentWarnings file document) =
      document.channels.flatMap fun channel => unbound (channelWarnings file channel) := by
  rw [documentWarnings, unbound_append, unbound_extensionWarnings, List.nil_append, unbound,
    List.filter_flatMap]
  rfl

end FileCheck

/-! ## Binding without an identifier -/

theorem Resolver.resolve_eq_missing_iff {resolver : Resolver} {operationId : String}
    {controller : Option String} :
    (resolver.resolve operationId controller).outcome = .error .missingOperationId ↔
      operationId = "" := by
  rw [resolve]
  split
  · next hid => exact iff_of_true rfl hid
  · next hid =>
      refine iff_of_false ?_ hid
      dsimp only
      split
      · exact fun h => by cases h
      · split
        · rw [Handler.resolve_eq_error_iff]
          exact fun h => by cases h.1
        · exact fun h => by cases h
        · exact fun h => by cases h

theorem getD_eq_empty_iff {operationId : Option String} :
    operationId.getD "" = "" ↔ operationId = none ∨ operationId = some "" := by
  cases operationId <;> simp

namespace RouteCompiler

variable {c : RouteCompiler} {spec : RouteSpec}

theorem bindHandler_eq_missing_iff :
    (c.bindHandler spec).outcome = .error .missingOperationId ↔
      c.options.stubMiddleware = false ∧ spec.operationId.getD "" = "" := by
  have hmissing : (c.resolver.resolve (spec.operationId.getD "") spec.controller).outcome =
      .error .missingOperationId ↔ spec.operationId.getD "" = "" := Resolver.resolve_eq_missing_iff
  rw [bindHandler, Resolver.bind, ← hmissing]
  cases houtcome : (c.resolver.resolve (spec.operationId.getD "") spec.controller).outcome with
  | ok stages => simp
  | error reason =>
      have hstubs : c.resolver.stubs = c.options.stubMiddleware := rfl
      cases h : c.options.stubMiddleware <;> simp [hstubs, h]

theorem stepError?_eq_missing_iff {step : CompileStep} {name : String} :
    c.stepError? spec step = some (.handler name .missingOperationId) ↔
      step = .handler ∧ spec.channel = name ∧ c.options.requireController = true ∧
        c.options.stubMiddleware = false ∧ spec.operationId.getD "" = "" := by
  cases step with
  | schema part =>
      rw [stepError?]
      split <;> simp
  | handler =>
      rw [stepError?, ← bindHandler_eq_missing_iff]
      cases c.options.requireController with
      | false => simp
      | true => cases (c.bindHandler spec).outcome <;> simp

/-- A registration that fails for a missing identifier has a channel whose operation has none, or
an empty one. -/
theorem exists_missing_of_registerDocument {H : Type} [Host H] {host : H} {document : Document}
    {name : String}
    (h : (c.registerDocument host document).outcome = .error (.handler name .missingOperationId)) :
    ∃ channel ∈ document.channels, ∃ operation, channel.publish = some operation ∧
      channel.name = name ∧
      c.options.tag.all operation.hasTag ∧ c.options.stubMiddleware = false ∧
      operation.operationId.getD "" = "" := by
  rcases registerDocument_mounted_or_untouched c host document with
    ⟨routes, -, ⟨title, version, houtcome⟩, -⟩ | ⟨e, huntouched, hfirst⟩
  · rw [houtcome] at h
    cases h
  · rw [huntouched.outcome] at h
    cases h
    obtain ⟨before, channel, after, operation, _, step, _, hchannels, hpublish, htag, -, -,
      -, hstep⟩ :=
      hfirst
    obtain ⟨-, hname, -, hstubs, hid⟩ := stepError?_eq_missing_iff.1 hstep
    refine ⟨channel, ?_, operation, hpublish, hname, htag, hstubs, hid⟩
    rw [hchannels]
    exact List.mem_append_right _ List.mem_cons_self

end RouteCompiler

/-! ## Documents -/

namespace Document

/-- The identifier that a description states for the publish operation of a channel; anything else
than a string states none. -/
def StatesPublishId (root : Json) (name : String) (operationId : Option String) : Prop :=
  ∃ entries entry value, root.get? "channels" = some (.object entries) ∧ entry ∈ entries ∧
    entry.1 = name ∧ resolveReferences root entry.2 = .ok value ∧
    operationId = ((value.get? "publish").bind (·.get? "operationId")).bind Json.string?

theorem statesPublishId_of_ofJson {root : Json} {document : Document}
    (h : ofJson root = .ok document) {channel : Channel} (hmem : channel ∈ document.channels)
    {operation : Operation} (hpublish : channel.publish = some operation) :
    StatesPublishId root channel.name operation.operationId := by
  obtain ⟨entries, entry, read, hentries, hentry, ⟨fields, hresolved, hread⟩, n, m, rfl⟩ :=
    exists_reads_of_mem_channels h hmem
  have hid := operationId_readOperation hread.publish
  have hannotated : (annotateOperation read.publish n).1 = some operation := hpublish
  refine ⟨entries, entry, _, hentries, hentry, hread.name_eq.symm, hresolved, ?_⟩
  cases hdeclared : read.publish with
  | none =>
      rw [hdeclared] at hannotated
      cases hannotated
  | some declared =>
      rw [hdeclared] at hannotated hid
      cases hannotated
      exact hid

end Document

open FileCheck RouteCompiler in
/-- A check warns about the publish operations for which no identifier was stated, in order.
These cannot be bound to a handler, whatever the controllers, and those whose identifier is
empty cannot be either.  So the warnings are right about an operation exactly if its identifier
is not empty, and a registration only fails for a missing identifier where there is a warning or
an empty identifier. -/
theorem warned_iff_missing_unless_empty {root : Json} {document : Document}
    (h : Document.ofJson root = .ok document) (file : String) :
    unbound (documentWarnings file document) =
      (document.channels.flatMap fun channel => unbound (channelWarnings file channel)) ∧
    (∀ channel ∈ document.channels, ∀ operation, channel.publish = some operation →
      Document.StatesPublishId root channel.name operation.operationId ∧
      unbound (channelWarnings file channel) =
        (if operation.operationId = none then
          [unboundWarning channel (file ++ ":" ++ channel.name ++ " publish")]
        else []) ∧
      (∀ resolver : Resolver,
        let missing :=
          (resolver.resolve (operation.operationId.getD "") operation.controller).outcome =
          .error .missingOperationId
        (missing ↔ Warns file channel ∨ operation.operationId = some "") ∧
        ((Warns file channel ↔ missing) ↔ operation.operationId ≠ some "")) ∧
      ∀ c : RouteCompiler,
        c.stepError? (RouteSpec.ofOperation channel operation) .handler =
            some (.handler channel.name .missingOperationId) ↔
          c.options.requireController = true ∧ c.options.stubMiddleware = false ∧
            (Warns file channel ∨ operation.operationId = some "")) ∧
    ∀ {H : Type} [Host H] (c : RouteCompiler) (host : H) (name : String),
      (c.registerDocument host document).outcome = .error (.handler name .missingOperationId) →
        ∃ channel ∈ document.channels, ∃ operation, channel.publish = some operation ∧
          channel.name = name ∧ c.options.tag.all operation.hasTag ∧
          c.options.stubMiddleware = false ∧
          (Warns file channel ∨ operation.operationId = some "") := by
  refine ⟨unbound_documentWarnings file document, fun channel hchannel operation hpublish => ?_,
    fun c host name hfails => ?_⟩
  · have hwarns := warns_iff hpublish file
    have hempty : operation.operationId.getD "" = "" ↔
        Warns file channel ∨ operation.operationId = some "" := by
      rw [hwarns, getD_eq_empty_iff]
    refine ⟨Document.statesPublishId_of_ofJson h hchannel hpublish,
      unbound_channelWarnings hpublish file, fun resolver => ?_, fun c => ?_⟩
    · intro missing
      have hmissing : missing ↔ Warns file channel ∨ operation.operationId = some "" :=
        Resolver.resolve_eq_missing_iff.trans hempty
      refine ⟨hmissing, ?_⟩
      rw [hmissing, hwarns]
      cases operation.operationId <;> simp
    · rw [stepError?_eq_missing_iff, ← hempty]
      simp [RouteSpec.ofOperation]
  · obtain ⟨channel, hchannel, operation, hpublish, hname, htag, hstubs, hid⟩ :=
      exists_missing_of_registerDocument hfails
    refine ⟨channel, hchannel, operation, hpublish, hname, htag, hstubs, ?_⟩
    rwa [warns_iff hpublish, ← getD_eq_empty_iff]

def pingDescription (operation : Fields) : Json :=
  Document.describing [("ping", .object [("publish", .object operation)])] []

def pingChannel (operationId : Option String) : Channel :=
  { name := "ping"
    description := none
    parameters := []
    publish := some ⟨operationId, none, [], none, Document.emptyMessage, []⟩
    subscribe := none }

theorem exists_document_pingDescription (stated : Fields) (operationId : Option String)
    (hresolved : resolveReferences (pingDescription stated)
      (.object [("publish", .object stated)]) =
      .ok (.object [("publish", .object stated)]))
    (hread : Document.readChannel "ping" (.object [("publish", .object stated)]) =
      pure (some (pingChannel operationId))) :
    ∃ document channel operation, Document.ofJson (pingDescription stated) = .ok document ∧
      document.channels = [channel] ∧ channel.name = "ping" ∧ channel.publish = some operation ∧
      operation.operationId = operationId := by
  have hids : (Document.checkOperationIds []
      (Document.operationIds [pingChannel operationId])).issues = [] := by
    cases operationId <;> rfl
  obtain ⟨document, hdocument, hchannels⟩ := Document.ofJson_describing_one hresolved hread hids
  let published := Document.annotateOperation (pingChannel operationId).publish 0
  exact ⟨document, { pingChannel operationId with publish := published.1 }, _, hdocument,
    hchannels, rfl, rfl, rfl⟩

open FileCheck in
/-- Without an identifier there is a warning. -/
theorem warned_iff_missing_unless_empty_ping : ∃ document channel,
    Document.ofJson (pingDescription []) = .ok document ∧ document.channels = [channel] ∧
    unbound (documentWarnings "api.yaml" document) =
      [unboundWarning channel "api.yaml:ping publish"] ∧
    ∃ operation, channel.publish = some operation ∧ ∀ resolver : Resolver,
      (resolver.resolve (operation.operationId.getD "") operation.controller).outcome =
        .error .missingOperationId := by
  obtain ⟨document, channel, operation, hdocument, hchannels, hname, hpublish, hid⟩ :=
    exists_document_pingDescription [] none (Reference.resolveReferences_self rfl)
      (Document.readChannel_eq_pure rfl (by decide +kernel)
        (Document.readOperation_eq_pure rfl rfl (by decide)) rfl)
  obtain ⟨hwarnings, hoperations, -⟩ := warned_iff_missing_unless_empty hdocument "api.yaml"
  obtain ⟨-, hwarning, hmissing, -⟩ := hoperations channel (by simp [hchannels]) operation hpublish
  rw [if_pos hid, hname] at hwarning
  refine ⟨document, channel, hdocument, hchannels, ?_, operation, hpublish, fun resolver => ?_⟩
  · rw [hwarnings, hchannels, List.flatMap_singleton, hwarning]
    rfl
  · refine (hmissing resolver).1.2 (Or.inl ?_)
    rw [Warns, hwarning]
    exact List.cons_ne_nil _ _

open FileCheck RouteCompiler in
/-- An empty identifier is found missing when the operation is bound, but there is no warning. -/
theorem empty_id_not_warned : ∃ document channel operation,
    Document.ofJson (pingDescription [("operationId", .string "")]) = .ok document ∧
    document.channels = [channel] ∧ channel.publish = some operation ∧
    (∀ file, unbound (documentWarnings file document) = []) ∧
    (∀ resolver : Resolver,
      (resolver.resolve (operation.operationId.getD "") operation.controller).outcome =
        .error .missingOperationId) ∧
    ∀ c : RouteCompiler, c.options.requireController = true → c.options.stubMiddleware = false →
      c.stepError? (RouteSpec.ofOperation channel operation) .handler =
        some (.handler channel.name .missingOperationId) := by
  obtain ⟨document, channel, operation, hdocument, hchannels, -, hpublish, hid⟩ :=
    exists_document_pingDescription [("operationId", .string "")] (some "")
      (Reference.resolveReferences_self rfl)
      (Document.readChannel_eq_pure rfl (by decide +kernel)
        (Document.readOperation_eq_pure rfl rfl (by decide)) rfl)
  have hempty : operation.operationId.getD "" = "" := getD_eq_empty_iff.2 (Or.inr hid)
  refine ⟨document, channel, operation, hdocument, hchannels, hpublish, fun file => ?_,
    fun resolver => ?_, fun c hrequired hstubs => ?_⟩
  · rw [unbound_documentWarnings, hchannels, List.flatMap_singleton,
      unbound_channelWarnings hpublish, if_neg (by simp [hid])]
  · exact Resolver.resolve_eq_missing_iff.2 hempty
  · exact stepError?_eq_missing_iff.2 ⟨rfl, rfl, hrequired, hstubs, hempty⟩

end ChannelGateway
