import ChannelGateway.Proofs.Document.Inlining
import ChannelGateway.Proofs.Document.Serialization
import ChannelGateway.Proofs.Registration.Mounting
import ChannelGateway.Proofs.Schema.Compiled
/-!
# Registering serialized documents

A document that was serialized and read back is registered as the document itself is, unless a
published message has a header schema that is null.  Such a document is refused, but the null is
lost in its serialized form.
-/

namespace ChannelGateway

open RouteSpec RouteCompiler

theorem headerSchemaOf_readBack_iff {m : Message} :
    headerSchemaOf m.readBack = headerSchemaOf m ↔ m.headers ≠ some .null := by
  constructor
  · intro h hnull
    rw [headerSchemaOf, headerSchemaOf, Message.readBack, hnull] at h
    cases h
  · intro h
    rw [Message.readBack_eq_self_iff.2 h]

/-- The route of a published operation is built from what is read back if the header schema is. -/
theorem ofOperation_readBack_iff {channel : Channel} {operation : Operation} :
    ofOperation channel.readBack operation.readBack = ofOperation channel operation ↔
      operation.message.headers ≠ some .null := by
  rw [← headerSchemaOf_readBack_iff]
  constructor
  · intro h
    exact congrArg RouteSpec.headerSchema h
  · intro h
    rw [ofOperation, Operation.readBack, h]
    rfl

theorem published_readBack (document : Document) :
    document.readBack.published =
      document.published.map fun published => (published.1.readBack, published.2.readBack) := by
  rw [Document.published, Document.published, Document.readBack, List.map_flatMap, List.flatMap_map]
  congr 1
  funext channel
  cases hpublish : channel.publish with
  | none => simp [Channel.readBack, hpublish]
  | some operation => simp [Channel.readBack, hpublish]

/-- A document has the routes of what is read back, unless the header schema of a published message
that counts is null. -/
theorem ofDocument_readBack_iff {document : Document} {tag : Option String} :
    ofDocument document.readBack tag = ofDocument document tag ↔
      ∀ published ∈ document.published, tag.all published.2.hasTag = true →
        published.2.message.headers ≠ some .null := by
  -- reading back keeps the tags, so the same operations count
  have hsame : ((fun published : Channel × Operation => tag.all published.2.hasTag) ∘
      fun published : Channel × Operation => (published.1.readBack, published.2.readBack)) =
      fun published => tag.all published.2.hasTag := rfl
  rw [ofDocument_eq_map, ofDocument_eq_map, published_readBack, List.filter_map,
    List.map_map, hsame, List.map_inj_left]
  simp only [Function.comp_apply, ofOperation_readBack_iff, List.mem_filter, and_imp]

theorem Schema.not_ofJson_null (formats : Bool) (compiled : CompiledSchema) :
    CompiledSchema.ofJson .null formats ≠ .ok compiled := by
  intro h
  obtain ⟨draft, registry, uri, -, -, hread⟩ := exists_resource_of_ofJson h
  obtain ⟨n, hn⟩ := exists_readingDepth_eq registry
  rw [CompiledSchema.ofResource, hn] at hread
  cases hread

theorem RouteCompiler.registerDocument_congr (c : RouteCompiler) {H : Type} [Host H] (host : H)
    {a b : Document} (htitle : a.title = b.title) (hversion : a.apiVersion = b.apiVersion)
    (hroutes : ofDocument a c.options.tag = ofDocument b c.options.tag) :
    c.registerDocument host a = c.registerDocument host b := by
  rw [registerDocument, registerDocument, htitle, hversion, hroutes]

/-- A document is refused if the header schema of a published message that counts is null. -/
theorem RouteCompiler.registerDocument_of_null_headers (c : RouteCompiler) {H : Type}
    [Host H] (host : H) {document : Document} {published : Channel × Operation}
    (hpublished : published ∈ document.published)
    (hcounts : c.options.tag.all published.2.hasTag = true)
    (hnull : published.2.message.headers = some .null) :
    ∃ e, (c.registerDocument host document).outcome = .error e := by
  rw [registerDocument]
  cases hroutes : (c.compileRoutes (ofDocument document c.options.tag)).outcome with
  | error e => exact ⟨e, rfl⟩
  | ok routes =>
      exfalso
      have hspec : ofOperation published.1 published.2 ∈ ofDocument document c.options.tag := by
        rw [ofDocument_eq_map]
        exact List.mem_map.2 ⟨published, List.mem_filter.2 ⟨hpublished, hcounts⟩, rfl⟩
      obtain ⟨route, -, hroute⟩ := exists_right_of_forall₂ (compileRoutes_eq_ok_iff.1 hroutes) hspec
      obtain ⟨compiled, _, _, hcompiled, -, -⟩ := compileRoute_eq_ok_iff.1 hroute
      have hheaders := hcompiled .headers
      rw [compilePart, partSchema, ofOperation, headerSchemaOf, hnull] at hheaders
      exact Schema.not_ofJson_null _ _ hheaders

/-- The serialized form of an accepted document is read back.  It is read back as it was if and
only if no message has a header schema that is null, and the routes are the same if and only if no
published message that counts has one.  Then the serialized document is registered as the value
that it was read from, and otherwise that value is refused. -/
theorem serialized_document_restored {root : Json} {document : Document}
    (h : Document.ofJson root = .ok document) :
    ∃ restored, Document.ofSerialized? document.toJson = some restored ∧
      (restored = document ↔ ∀ channel ∈ document.channels, ∀ operation ∈ channel.operations,
        operation.message.headers ≠ some .null) ∧
      ∀ tag, (ofDocument restored tag = ofDocument document tag ↔
          ∀ published ∈ document.published, tag.all published.2.hasTag = true →
            published.2.message.headers ≠ some .null) ∧
        ∀ (c : RouteCompiler) {H : Type} [Host H] (host : H), c.options.tag = tag →
          (ofDocument restored tag = ofDocument document tag →
            c.register host (.document restored) = c.register host (.value root)) ∧
          (ofDocument restored tag ≠ ofDocument document tag →
            ∃ e, (c.register host (.value root)).outcome = .error e) := by
  refine ⟨document.readBack, Document.ofSerialized?_of_ofJson h, Document.readBack_eq_self_iff,
    fun tag => ⟨ofDocument_readBack_iff, ?_⟩⟩
  intro c H _ host htag
  have hvalue : c.register host (.value root) = c.registerDocument host document := by
    simp only [register, Document.ofSource, h]
  rw [hvalue]
  subst htag
  constructor
  · intro hroutes
    exact c.registerDocument_congr host rfl rfl hroutes
  · intro hroutes
    rw [Ne, ofDocument_readBack_iff] at hroutes
    push Not at hroutes
    obtain ⟨published, hpublished, hcounts, hnull⟩ := hroutes
    exact c.registerDocument_of_null_headers host hpublished hcounts hnull

def alarmValue (headers : Json) : Json :=
  .object [("publish", .object [("message", .object [("headers", headers)])])]

def alarmDescription (headers : Json) : Json :=
  Document.describing [("alarm", alarmValue headers)] []

def alarmChannel (payload headers : Json) : Channel :=
  ⟨"alarm", none, [],
    some ⟨none, none, [], none, ⟨none, none, payload, .object [], some headers⟩, []⟩, none⟩

theorem exists_document_alarm {headers : Json}
    (hresolved : resolveReferences (alarmDescription headers) (alarmValue headers) =
      .ok (alarmValue headers))
    (hannotated : ∀ n, SchemaIds.annotate headers n = (headers, n)) :
    ∃ document payload, Document.ofJson (alarmDescription headers) = .ok document ∧
      document.channels = [alarmChannel payload headers] := by
  have hread : Document.readChannel "alarm" (alarmValue headers) =
      pure (some (alarmChannel (.object []) headers)) :=
    Document.readChannel_eq_pure rfl (by decide +kernel)
      (Document.readOperation_eq_pure rfl rfl (by simp only [List.forall_mem_singleton]; decide))
        rfl
  obtain ⟨document, hdocument, hchannels⟩ := Document.ofJson_describing_one hresolved hread rfl
  refine ⟨document, (SchemaIds.annotate (.object []) 0).1, hdocument, ?_⟩
  rw [hchannels]
  simp only [Document.annotateChannels, Document.annotateOperation, alarmChannel,
    Document.annotateMessage, hannotated]

/-- A header schema that admits everything is kept. -/
theorem serialized_document_restored_alarm : ∃ document,
    Document.ofJson (alarmDescription (.bool true)) = .ok document ∧
    Document.ofSerialized? document.toJson = some document ∧
    ∀ (c : RouteCompiler) {H : Type} [Host H] (host : H),
      c.register host (.document document) =
        c.register host (.value (alarmDescription (.bool true))) := by
  have hresolved : resolveReferences (alarmDescription (.bool true)) (alarmValue (.bool true)) =
      .ok (alarmValue (.bool true)) := by
    apply Reference.resolveReferences_self
    rfl
  obtain ⟨document, payload, hdocument, hchannels⟩ :=
    exists_document_alarm hresolved fun _ => by cbv
  obtain ⟨restored, hrestored, hsame, hregisters⟩ := serialized_document_restored hdocument
  have hkept : ∀ channel ∈ document.channels, ∀ operation ∈ channel.operations,
      operation.message.headers ≠ some .null := by
    rw [hchannels]
    simp [alarmChannel, Channel.operations]
  rw [hsame.2 hkept] at hrestored hregisters
  exact ⟨document, hdocument, hrestored, fun c _ _ host => ((hregisters _).2 c host rfl).1 rfl⟩

/-- A header schema that is null is lost: the serialized document has a route, for which the header
schema is the one of messages without any, and the document itself is refused. -/
theorem null_headers_not_restored : ∃ document restored,
    Document.ofJson (alarmDescription .null) = .ok document ∧
    Document.ofSerialized? document.toJson = some restored ∧ restored ≠ document ∧
    (ofDocument document none).map RouteSpec.headerSchema = [.null] ∧
    (ofDocument restored none).map RouteSpec.headerSchema = [.object [("type", .string "object")]] ∧
    ∀ (c : RouteCompiler) {H : Type} [Host H] (host : H), c.options.tag = none →
      ∃ e, (c.register host (.value (alarmDescription .null))).outcome = .error e := by
  have hresolved : resolveReferences (alarmDescription .null) (alarmValue .null) =
      .ok (alarmValue .null) := by
    apply Reference.resolveReferences_self
    rfl
  obtain ⟨document, payload, hdocument, hchannels⟩ :=
    exists_document_alarm hresolved fun _ => by cbv
  obtain ⟨restored, hrestored, hsame, hregisters⟩ := serialized_document_restored hdocument
  have hread : restored = document.readBack :=
    Option.some.inj (hrestored.symm.trans (Document.ofSerialized?_of_ofJson hdocument))
  have hroutes : (ofDocument document none).map RouteSpec.headerSchema = [.null] := by
    rw [ofDocument_eq_map, Document.published, hchannels]
    rfl
  have hrestoredRoutes : (ofDocument restored none).map RouteSpec.headerSchema =
      [.object [("type", .string "object")]] := by
    rw [hread, ofDocument_eq_map, Document.published, Document.readBack, hchannels]
    rfl
  have hne : ofDocument restored none ≠ ofDocument document none := by
    intro heq
    rw [heq, hroutes] at hrestoredRoutes
    cases hrestoredRoutes
  refine ⟨document, restored, hdocument, hrestored, ?_, hroutes, hrestoredRoutes, ?_⟩
  · rintro rfl
    exact hne rfl
  · intro c H _ host htag
    exact ((hregisters none).2 c host htag).2 hne

end ChannelGateway
