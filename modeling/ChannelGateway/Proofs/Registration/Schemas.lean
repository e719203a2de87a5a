import ChannelGateway.Proofs.Document.Acceptance
import ChannelGateway.Proofs.Document.Identifiers
import ChannelGateway.Proofs.Document.Inlining
import ChannelGateway.Proofs.Registration.Mounting
/-!
# Schemas of routes

The message schemas of a route are those that its channel states for the publish operation,
references resolved.  The identifiers that the schemas of a document get are not among what a route
is built from, wherever their count stands.
-/

namespace ChannelGateway

open Document RouteSpec

/-! ## Routes without identifiers -/

theorem originalPayload_annotateMessage (message : Message) (n : Nat) :
    (annotateMessage message n).1.originalPayload = message.originalPayload := by
  unfold annotateMessage
  cases message.headers <;> rfl

theorem headerSchemaOf_annotateMessage (message : Message) (n : Nat) :
    headerSchemaOf (annotateMessage message n).1 = headerSchemaOf message := by
  unfold annotateMessage headerSchemaOf
  cases message.headers with
  | none => rfl
  | some headers => exact SchemaIds.strip_annotate headers _

/-- A route is built from the same whether or not the schemas of its message have identifiers. -/
theorem ofOperation_annotate {channel annotated : Channel} (hname : annotated.name = channel.name)
    (hparameters : annotated.parameters = channel.parameters) (operation : Operation) (n : Nat) :
    ofOperation annotated { operation with message := (annotateMessage operation.message n).1 } =
      ofOperation channel operation := by
  unfold ofOperation
  rw [hname, hparameters, originalPayload_annotateMessage, headerSchemaOf_annotateMessage]

def RouteSpec.ofChannel? (tag : Option String) (channel : Channel) : Option RouteSpec :=
  (channel.publish.filter fun operation => tag.all operation.hasTag).map (ofOperation channel)

theorem Document.Annotates.ofChannel?_eq {channel annotated : Channel}
    (h : Annotates channel annotated) (tag : Option String) :
    ofChannel? tag annotated = ofChannel? tag channel := by
  obtain ⟨n, m, rfl⟩ := h
  unfold ofChannel?
  cases hpublish : channel.publish with
  | none => rfl
  | some operation =>
      have hkept : tag.all ({ operation with
          message := (annotateMessage operation.message n).1 } : Operation).hasTag =
          tag.all operation.hasTag := rfl
      simp only [annotateOperation, Option.filter_some, hkept]
      by_cases hcounts : tag.all operation.hasTag = true
      · rw [if_pos hcounts, if_pos hcounts, Option.map_some, Option.map_some]
        exact congrArg some (ofOperation_annotate rfl rfl operation n)
      · rw [if_neg hcounts, if_neg hcounts, Option.map_none, Option.map_none]

theorem filterMap_ofChannel?_of_annotates {channels annotated : List Channel}
    (h : List.Forall₂ Annotates channels annotated) (tag : Option String) :
    annotated.filterMap (ofChannel? tag) = channels.filterMap (ofChannel? tag) := by
  induction h with
  | nil => rfl
  | cons hfirst _ ih => rw [List.filterMap_cons, List.filterMap_cons, hfirst.ofChannel?_eq tag, ih]

/-- Documents have the same routes if they differ only in the identifiers of their schemas. -/
theorem ofDocument_of_annotates {channels : List Channel} {a b : Document}
    (ha : List.Forall₂ Annotates channels a.channels)
    (hb : List.Forall₂ Annotates channels b.channels) (tag : Option String) :
    ofDocument a tag = ofDocument b tag :=
  (filterMap_ofChannel?_of_annotates ha tag).trans (filterMap_ofChannel?_of_annotates hb tag).symm

/-! ## Stated schemas -/

/-- The schemas of a route are those that the value of a channel states for its publish operation.
The identifiers are left out of the schema of the headers, and nothing else is. -/
structure HasStatedSchemas (resolved : Json) (spec : RouteSpec) : Prop where
  payload : spec.payloadSchema =
    (["publish", "message", "payload"].foldlM Json.get? resolved).getD (.object [])
  headers : ∀ headers, ["publish", "message", "headers"].foldlM Json.get? resolved = some headers →
    SchemaIds.Omits (fun _ => True) headers spec.headerSchema ∧ SchemaIds.Free spec.headerSchema
  noHeaders : ["publish", "message", "headers"].foldlM Json.get? resolved = none →
    spec.headerSchema = .object [("type", .string "object")]
  /-- Nothing more is removed when the schemas are compiled. -/
  compiled : ∀ part, part.effectiveSchema (RouteCompiler.partSchema spec part) =
    RouteCompiler.partSchema spec part

theorem strip_headerSchemaOf (message : Message) :
    SchemaIds.strip (headerSchemaOf message) = headerSchemaOf message := by
  unfold headerSchemaOf
  cases message.headers with
  | none => rfl
  | some headers =>
      have hfree := SchemaIds.free_strip headers
      exact SchemaIds.strip_eq_iff.2 ⟨.refl _, hfree⟩

theorem Document.ReadsFields.hasStatedSchemas {name : String} {fields : Fields} {channel : Channel}
    (h : ReadsFields name fields channel) {operation : Operation}
    (hpublish : channel.publish = some operation) :
    HasStatedSchemas (.object fields) (ofOperation channel operation) := by
  obtain ⟨described, hdescribed, hmessage, -⟩ := readOperation_eq_some (hpublish ▸ h.publish)
  have hpath (key : String) : ["publish", "message", key].foldlM Json.get? (.object fields) =
      (described.lookup "message").bind fun message => message.get? key := by
    simp [Json.get?, hdescribed]
  have hcompiled (part : RequestPart) :
      part.effectiveSchema (RouteCompiler.partSchema (ofOperation channel operation) part) =
        RouteCompiler.partSchema (ofOperation channel operation) part := by
    cases part with
    | headers => exact strip_headerSchemaOf operation.message
    | params => rfl
    | body => rfl
  rcases readMessage_eq_pure.1 hmessage with ⟨hnone, hempty⟩ | ⟨spelled, hsome, -, hspelled⟩
  · refine ⟨?_, ?_, ?_, hcompiled⟩
    · rw [hpath, hnone, ofOperation, hempty]
      rfl
    · intro headers hheaders
      rw [hpath, hnone] at hheaders
      cases hheaders
    · intro _
      rw [ofOperation, hempty]
      rfl
  · have hlookup (key : String) : ["publish", "message", key].foldlM Json.get? (.object fields) =
        spelled.lookup key := by
      rw [hpath, hsome]
      rfl
    refine ⟨?_, ?_, ?_, hcompiled⟩
    · rw [hlookup, ofOperation, hspelled]
      rfl
    · intro headers hheaders
      rw [hlookup] at hheaders
      apply SchemaIds.strip_eq_iff.1
      rw [ofOperation, hspelled, headerSchemaOf, messageOf, hheaders]
    · intro hheaders
      rw [hlookup] at hheaders
      rw [ofOperation, hspelled, headerSchemaOf, messageOf, hheaders]

def StatesSchemas (root : Json) (entry : String × Json) (channel : Channel) : Prop :=
  channel.name = entry.1 ∧ ∃ resolved, resolveReferences root entry.2 = .ok resolved ∧
    ∀ operation, channel.publish = some operation →
      HasStatedSchemas resolved (ofOperation channel operation)

theorem Document.ReadsChannel.statesSchemas {root : Json} {entry : String × Json}
    {channel annotated : Channel} (h : ReadsChannel root entry channel)
    (hannotates : Annotates channel annotated) : StatesSchemas root entry annotated := by
  obtain ⟨fields, hresolved, hread⟩ := h
  obtain ⟨n, m, rfl⟩ := hannotates
  refine ⟨hread.name_eq, .object fields, hresolved, fun operation hpublish => ?_⟩
  cases hdeclared : channel.publish with
  | none => simp [hdeclared, annotateOperation] at hpublish
  | some declared =>
      have hsame : { declared with message := (annotateMessage declared.message n).1 } =
          operation := by
        simpa [hdeclared, annotateOperation] using hpublish
      have hstated := hread.hasStatedSchemas hdeclared
      rw [← hsame, ofOperation_annotate rfl rfl declared n]
      exact hstated

/-- Every route of an accepted document has the schemas that its channel states, and no identifier
has an influence on them. -/
theorem routes_have_stated_schemas {root : Json} {document : Document}
    (h : ofJson root = .ok document) (tag : Option String) :
    (∃ entries, root.get? "channels" = some (.object entries) ∧
      List.Forall₂ (StatesSchemas root) entries document.channels) ∧
    ofDocument document tag =
      ((document.published.filter fun published => tag.all published.2.hasTag).map fun published =>
        ofOperation published.1 published.2) ∧
    (∀ channels (other : Document), List.Forall₂ Annotates channels document.channels →
      List.Forall₂ Annotates channels other.channels →
      ofDocument other tag = ofDocument document tag) ∧
    ∀ schema n, SchemaIds.strip (SchemaIds.annotate schema n).1 = SchemaIds.strip schema := by
  obtain ⟨entries, channels, hentries, hreads, hannotates⟩ := exists_entries_of_ofJson h
  have hstates : List.Forall₂ (StatesSchemas root) entries document.channels := by
    refine (forall₂_comp hreads hannotates).imp ?_
    rintro entry annotated ⟨channel, hread, hannotated⟩
    exact hread.statesSchemas hannotated
  exact ⟨⟨entries, hentries, hstates⟩, ofDocument_eq_map document tag,
    fun _ _ hdocument hother =>
      ofDocument_of_annotates hother hdocument tag, SchemaIds.strip_annotate⟩

def lightFields : Fields :=
  [("publish", .object
    [("message", .object
      [("payload", .object [("type", .string "object"), (SchemaIds.key, .string "own")]),
        ("headers", .object [("properties", .object
          [("trace", .object [(SchemaIds.key, .string "own"), ("type", .string "string")])])])])])]

def lightOperation : Operation :=
  ⟨none, none, [], none, messageOf
    [("payload", .object [("type", .string "object"), (SchemaIds.key, .string "own")]),
      ("headers", .object [("properties", .object
        [("trace", .object [(SchemaIds.key, .string "own"), ("type", .string "string")])])])], []⟩

/-- The key stays in the payload, which has no other identifiers, and is removed from
the headers. -/
theorem routes_have_stated_schemas_light : ∃ document spec,
    ofJson (describing [("light", .object lightFields)] []) = .ok document ∧
    ofDocument document none = [spec] ∧
    spec.payloadSchema = .object [("type", .string "object"), (SchemaIds.key, .string "own")] ∧
    spec.headerSchema =
      .object [("properties", .object [("trace", .object [("type", .string "string")])])] := by
  have hresolved : resolveReferences (describing [("light", .object lightFields)] [])
      (.object lightFields) = .ok (.object lightFields) := by
    apply Reference.resolveReferences_self
    rfl
  have hread : readChannel "light" (.object lightFields) =
      pure (some ⟨"light", none, [], some lightOperation, none⟩) :=
    readChannel_eq_pure rfl (by decide +kernel) (readOperation_eq_pure rfl rfl (by decide)) rfl
  obtain ⟨document, hdocument, hchannels⟩ := ofJson_describing_one hresolved hread rfl
  obtain ⟨⟨entries, ⟨⟩, hstates⟩, hroutes, -⟩ := routes_have_stated_schemas hdocument none
  rw [hchannels] at hstates
  obtain ⟨-, resolved, hvalue, hstated⟩ := (List.forall₂_cons.1 hstates).1
  have hsame : resolved = .object lightFields := Except.ok.inj (hvalue.symm.trans hresolved)
  have hlight := hstated _ rfl
  rw [hsame] at hlight
  refine ⟨document, _, hdocument, ?_, hlight.payload, ?_⟩
  · rw [hroutes, Document.published, hchannels]
    rfl
  · rw [← SchemaIds.strip_eq_iff.2 (hlight.headers _ rfl)]
    rfl

end ChannelGateway
