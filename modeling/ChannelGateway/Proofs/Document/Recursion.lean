import ChannelGateway.Proofs.Document.Acceptance
import ChannelGateway.Proofs.Document.Annotation
import ChannelGateway.Proofs.Document.Selection
/-!
# Recursive message schemas

The schemas of the messages of an accepted document are self-contained if their sources keep
their references.  Where the identifiers of a document are distinct, they are self-contained in
no other case.
-/

namespace ChannelGateway

open Json Reference

structure Message.SelfContained (message : Message) : Prop where
  payload : message.originalPayload.SelfContained
  headers : ∀ headers, message.headers = some headers → headers.SelfContained

def Operation.SelfContained (operation : Option Operation) : Prop :=
  ∀ described, operation = some described → described.message.SelfContained

structure Channel.SelfContained (channel : Channel) : Prop where
  publish : Operation.SelfContained channel.publish
  subscribe : Operation.SelfContained channel.subscribe

namespace Document

def SelfContained (document : Document) : Prop :=
  ∀ channel ∈ document.channels, channel.SelfContained

/-! ## Schemas in resolved channels -/

def schemaKeys : List String := ["payload", "headers"]

def HoldsSelfContained (value : Json) (keys : List String) : Prop :=
  ∀ last ∈ schemaKeys, ∀ schema, (keys ++ [last]).foldlM get? value = some schema →
    schema.SelfContained

theorem holdsSelfContained_nil {value : Json} :
    HoldsSelfContained value [] ↔
      ∀ last ∈ schemaKeys, ∀ schema, value.get? last = some schema → schema.SelfContained := by
  simp [HoldsSelfContained]

theorem holdsSelfContained_cons {value : Json} {key : String} {rest : List String} :
    HoldsSelfContained value (key :: rest) ↔
      ∀ inner, value.get? key = some inner → HoldsSelfContained inner rest := by
  constructor
  · intro h inner hinner last hlast schema hschema
    apply h last hlast schema
    rw [List.cons_append, List.foldlM_cons, hinner]
    exact hschema
  · intro h last hlast schema hschema
    rw [List.cons_append, List.foldlM_cons] at hschema
    obtain ⟨inner, hinner, hschema⟩ := Option.bind_eq_some_iff.1 hschema
    exact h inner hinner last hlast schema hschema

theorem selfContained_messageOf {fields : Fields} :
    (messageOf fields).SelfContained ↔ HoldsSelfContained (.object fields) [] := by
  rw [holdsSelfContained_nil]
  constructor
  · rintro ⟨hpayload, hheaders⟩ last hlast schema (hschema : fields.lookup last = some schema)
    rcases List.mem_pair.1 hlast with rfl | rfl
    · rw [messageOf, hschema] at hpayload
      exact hpayload
    · exact hheaders schema hschema
  · intro h
    refine ⟨?_, fun headers hheaders => h "headers" (by decide) headers hheaders⟩
    rw [messageOf]
    cases hpayload : fields.lookup "payload" with
    | none => exact selfContained_empty
    | some payload => exact h "payload" (by decide) payload hpayload

theorem selfContained_readMessage {location : Location} {operation : Fields} {message : Message}
    (h : readMessage location operation = pure message) :
    message.SelfContained ↔ HoldsSelfContained (.object operation) ["message"] := by
  rw [holdsSelfContained_cons]
  rcases readMessage_eq_pure.1 h with ⟨hlookup, rfl⟩ | ⟨fields, hlookup, -, rfl⟩
  · constructor
    · rintro - inner (hinner : operation.lookup "message" = some inner)
      rw [hlookup] at hinner
      cases hinner
    · rintro -
      exact ⟨selfContained_empty, fun headers hheaders => by cases hheaders⟩
  · rw [selfContained_messageOf]
    constructor
    · rintro hself inner (hinner : operation.lookup "message" = some inner)
      rw [hlookup] at hinner
      cases hinner
      exact hself
    · intro hself
      exact hself _ hlookup

theorem selfContained_readOperation {location : Location} {channel : Fields} {kind : String}
    {operation : Option Operation}
    (h : readOperation location (channel.lookup kind) = pure operation) :
    Operation.SelfContained operation ↔ HoldsSelfContained (.object channel) [kind, "message"] := by
  rw [holdsSelfContained_cons]
  cases operation with
  | none =>
      constructor
      · rintro - inner (hinner : channel.lookup kind = some inner)
        rw [hinner] at h
        cases inner with
        | object fields =>
            have hsome := readOperation_isSome h
            cases hsome
        | _ => cases (Checked.eq_pure_iff.1 h).2
      · rintro - described hdescribed
        cases hdescribed
  | some operation =>
      obtain ⟨fields, hlookup, hmessage, -⟩ := readOperation_eq_some h
      constructor
      · rintro hself inner (hinner : channel.lookup kind = some inner)
        rw [hlookup] at hinner
        cases hinner
        exact (selfContained_readMessage hmessage).1 (hself operation rfl)
      · rintro hself _ ⟨⟩
        exact (selfContained_readMessage hmessage).2 (hself _ hlookup)

def operationKeys : List String := ["publish", "subscribe"]

theorem ReadsFields.selfContained {name : String} {fields : Fields} {channel : Channel}
    (h : ReadsFields name fields channel) :
    channel.SelfContained ↔
      ∀ kind ∈ operationKeys, HoldsSelfContained (.object fields) [kind, "message"] := by
  constructor
  · rintro ⟨hpublish, hsubscribe⟩ kind hkind
    rcases List.mem_pair.1 hkind with rfl | rfl
    · exact (selfContained_readOperation h.publish).1 hpublish
    · exact (selfContained_readOperation h.subscribe).1 hsubscribe
  · intro hself
    exact ⟨(selfContained_readOperation h.publish).2 (hself _ (by decide)),
      (selfContained_readOperation h.subscribe).2 (hself _ (by decide))⟩

/-! ## Identifiers leave schemas self-contained -/

theorem selfContained_annotateMessage (message : Message) (n : Nat) :
    (annotateMessage message n).1.SelfContained ↔ message.SelfContained := by
  obtain ⟨name, contentType, payload, original, _ | headers⟩ := message
  · constructor
    · rintro ⟨hpayload, hheaders⟩
      exact ⟨hpayload, hheaders⟩
    · rintro ⟨hpayload, hheaders⟩
      exact ⟨hpayload, hheaders⟩
  · constructor
    · rintro ⟨hpayload, hheaders⟩
      refine ⟨hpayload, ?_⟩
      rintro _ ⟨⟩
      exact (SchemaIds.selfContained_annotate headers _).1 (hheaders _ rfl)
    · rintro ⟨hpayload, hheaders⟩
      refine ⟨hpayload, ?_⟩
      rintro _ ⟨⟩
      exact (SchemaIds.selfContained_annotate headers _).2 (hheaders _ rfl)

theorem selfContained_annotateOperation (operation : Option Operation) (n : Nat) :
    Operation.SelfContained (annotateOperation operation n).1 ↔
      Operation.SelfContained operation := by
  cases operation with
  | none => rfl
  | some described =>
      constructor
      · rintro hself _ ⟨⟩
        exact (selfContained_annotateMessage described.message n).1 (hself _ rfl)
      · rintro hself _ ⟨⟩
        exact (selfContained_annotateMessage described.message n).2 (hself _ rfl)

theorem Annotates.selfContained {channel annotated : Channel} (h : Annotates channel annotated) :
    annotated.SelfContained ↔ channel.SelfContained := by
  obtain ⟨n, m, rfl⟩ := h
  constructor
  · rintro ⟨hpublish, hsubscribe⟩
    exact ⟨(selfContained_annotateOperation _ n).1 hpublish,
      (selfContained_annotateOperation _ m).1 hsubscribe⟩
  · rintro ⟨hpublish, hsubscribe⟩
    exact ⟨(selfContained_annotateOperation _ n).2 hpublish,
      (selfContained_annotateOperation _ m).2 hsubscribe⟩

/-! ## Sources of schemas -/

/-- The source of a message schema of a channel, with the references that are followed on the
way to it. -/
def IsSchemaSource (root channel : Json) (stack : List String) (schema : Json) : Prop :=
  ∃ kind ∈ operationKeys, ∃ last ∈ schemaKeys,
    Leads root [] channel [kind, "message", last] stack schema

def SourcesKeepReferences (root : Json) : Prop :=
  ∀ entries, root.get? "channels" = some (.object entries) → ∀ entry ∈ entries, ∀ stack schema,
    IsSchemaSource root entry.2 stack schema → KeepsReferences root stack schema

theorem plain_of_path {kind last : String} (hkind : kind ∈ operationKeys)
    (hlast : last ∈ schemaKeys) :
    ∀ key ∈ [kind, "message", last], key ≠ referenceKey ∧ key ≠ identifierKey := by
  rcases List.mem_pair.1 hkind with rfl | rfl <;> rcases List.mem_pair.1 hlast with rfl | rfl <;>
    decide

section Channels

variable {root : Json} {entry : String × Json} {channel : Channel}

theorem ReadsChannel.selfContained (h : ReadsChannel root entry channel)
    (hkeeps : ∀ stack schema, IsSchemaSource root entry.2 stack schema →
      KeepsReferences root stack schema) : channel.SelfContained := by
  obtain ⟨fields, hresolved, hread⟩ := h
  obtain ⟨result, hresult, hfields⟩ := resolveReferences_eq_ok.1 hresolved
  rw [hread.selfContained]
  intro kind hkind last hlast copy hcopy
  rw [← hfields] at hcopy
  obtain ⟨stack, schema, inner, hleads, hinner, rfl⟩ :=
    hresult.leads hcopy (plain_of_path hkind hlast)
  exact (hkeeps stack schema ⟨kind, hkind, last, hlast, hleads⟩).selfContained hinner

theorem ReadsChannel.keepsReferences (h : ReadsChannel root entry channel)
    (hdistinct : Distinct root) (hentry : Occurs root entry.2) (hself : channel.SelfContained)
    {stack : List String} {schema : Json} (hschema : IsSchemaSource root entry.2 stack schema) :
    KeepsReferences root stack schema := by
  obtain ⟨fields, hresolved, hread⟩ := h
  obtain ⟨result, hresult, hfields⟩ := resolveReferences_eq_ok.1 hresolved
  obtain ⟨kind, hkind, last, hlast, hleads⟩ := hschema
  have hplain : ∀ key ∈ [kind, "message", last], key ≠ identifierKey :=
    fun key hkey => (plain_of_path hkind hlast key hkey).2
  obtain ⟨inner, hinner, hcopy⟩ := hleads.inlines hplain hresult
  rw [hfields] at hcopy
  apply keepsReferences_of_selfContained hdistinct (hleads.occurs hentry) hinner
  exact hread.selfContained.1 hself kind hkind last hlast _ hcopy

end Channels

theorem occurs_entry {root : Json} {entries : Fields} {entry : String × Json}
    (hentries : root.get? "channels" = some (.object entries)) (hentry : entry ∈ entries) :
    Occurs root entry.2 := by
  have hchannels : Occurs root (.object entries) := by
    unfold get? at hentries
    split at hentries
    · exact .field (Fields.mem_of_lookup hentries) (.refl _)
    · cases hentries
  exact hchannels.trans (.field hentry (.refl _))

/-! ## Documents without aliases -/

/-- No reference of a document points at another reference, and every value under a reference key
is a text. -/
structure Direct (root : Json) : Prop where
  unaliased : ∀ r fields, IsReference root r → target? root r = some (.object fields) →
    reference? fields = none
  spelled : ∀ fields, Occurs root (.object fields) → reference? fields = none →
    fields.lookup referenceKey = none

/-- Without aliases, a copy is stamped for no other reference than the one that it replaces. -/
theorem Direct.reference_of_stamps {root : Json} (h : Direct root) {stack : List String}
    {value : Json} {r : String} (hvalue : Occurs root value) (hr : Stamps root stack value r) :
    ∃ fields, value = .object fields ∧ reference? fields = some r := by
  cases value with
  | object fields =>
      cases href : reference? fields with
      | none => exact absurd hr (not_stamps_of_none href)
      | some q =>
          obtain ⟨-, target, htarget, ⟨rfl, -⟩ | hbehind⟩ := hr.cases href
          · exact ⟨fields, rfl, href⟩
          · exfalso
            cases target with
            | object inner =>
                have hnone := h.unaliased q inner ⟨fields, hvalue, href⟩ htarget
                exact not_stamps_of_none hnone hbehind
            | _ => exact not_stamps_of_not_object (by simp) hbehind
  | _ => exact absurd hr (not_stamps_of_not_object (by simp))

theorem Direct.consistent {root : Json} (h : Direct root) {stack : List String} {value : Json}
    (hvalue : Occurs root value) : Consistent root stack value := by
  constructor
  · intro stack' value' hreaches r r' hr hr'
    obtain ⟨fields, rfl, href⟩ := h.reference_of_stamps (hreaches.occurs hvalue) hr
    obtain ⟨fields', heq, href'⟩ := h.reference_of_stamps (hreaches.occurs hvalue) hr'
    cases heq
    rw [Option.some.inj (href.symm.trans href')]
  · intro stack' fields hreaches href held hheld
    rw [h.spelled fields (hreaches.occurs hvalue) href] at hheld
    cases hheld

theorem Direct.sourcesKeepReferences {root : Json} (h : Direct root)
    (hplace : ∀ entries, root.get? "channels" = some (.object entries) → ∀ entry ∈ entries,
      ∀ stack schema, IsSchemaSource root entry.2 stack schema → stack = []) :
    SourcesKeepReferences root := by
  intro entries hentries entry hentry stack schema hschema
  obtain rfl := hplace entries hentries entry hentry stack schema hschema
  obtain ⟨kind, -, last, -, hleads⟩ := hschema
  exact ⟨h.consistent (hleads.occurs (occurs_entry hentries hentry)), by simp⟩

/-! ## Accepted documents -/

/-- The message schemas of an accepted document are self-contained if their sources keep their
references, and only then if the identifiers of the document are distinct. -/
theorem selfContained_of_sourcesKeepReferences {root : Json} {document : Document}
    (h : ofJson root = .ok document) :
    (SourcesKeepReferences root → document.SelfContained) ∧
      (Distinct root → document.SelfContained → SourcesKeepReferences root) := by
  obtain ⟨entries, channels, hentries, hreads, hannotates⟩ := exists_entries_of_ofJson h
  constructor
  · intro hkeeps annotated hannotated
    obtain ⟨channel, hchannel, hannotates⟩ := exists_left_of_forall₂ hannotates hannotated
    obtain ⟨entry, hentry, hread⟩ := exists_left_of_forall₂ hreads hchannel
    rw [hannotates.selfContained]
    exact hread.selfContained (hkeeps entries hentries entry hentry)
  · intro hdistinct hself entries' hentries' entry hentry stack schema hschema
    rw [hentries] at hentries'
    cases hentries'
    obtain ⟨channel, hchannel, hread⟩ := exists_right_of_forall₂ hreads hentry
    obtain ⟨annotated, hannotated, hannotates⟩ := exists_right_of_forall₂ hannotates hchannel
    have hchannelself := hannotates.selfContained.1 (hself annotated hannotated)
    exact hread.keepsReferences hdistinct (occurs_entry hentries hentry) hchannelself hschema

def referring (r : String) : Json := .object [(referenceKey, .string r)]

def schemaChannel : Json :=
  .object
    [("publish", .object [("message", .object [("payload", referring "#/components/schemas/a")])])]

def schemaDescription (schemas : Fields) : Json :=
  describing [("c", schemaChannel)] [("schemas", .object schemas)]

def operationOfSchema (schema : Json) : Operation :=
  ⟨none, none, [], none, ⟨none, none, schema, schema, none⟩, []⟩

theorem exists_document_schemaDescription {schemas : Fields} {result : Resolved}
    (h : Inlines (schemaDescription schemas) [] (referring "#/components/schemas/a") result) :
    ∃ document channel, ofJson (schemaDescription schemas) = .ok document ∧
      document.channels = [channel] ∧ channel.publish =
        (annotateOperation (some (operationOfSchema result.value)) 0).1 := by
  have hresolved : resolveReferences (schemaDescription schemas) schemaChannel = .ok (.object
      [("publish", .object [("message", .object [("payload", result.value)])])]) := by
    have hmessage := h.single "payload" rfl
    have hoperation := hmessage.single "message" rfl
    exact resolveReferences_eq_ok.2 ⟨_, hoperation.single "publish" rfl, rfl⟩
  have hread (schema : Json) : readChannel "c" (.object
      [("publish", .object [("message", .object [("payload", schema)])])]) =
        pure (some ⟨"c", none, [], some (operationOfSchema schema), none⟩) :=
    readChannel_eq_pure rfl (by decide +kernel)
      (readOperation_eq_pure rfl rfl (by simp only [List.forall_mem_singleton]; decide)) rfl
  obtain ⟨document, hdocument, hchannels⟩ := ofJson_describing_one hresolved (hread _) rfl
  exact ⟨document, _, hdocument, hchannels, rfl⟩

def treeSchemas : Fields :=
  [("a", .object [("properties", .object [("child", referring "#/components/schemas/a")])])]

theorem target?_tree : target? (schemaDescription treeSchemas) "#/components/schemas/a" =
    some (.object [("properties", .object [("child", referring "#/components/schemas/a")])]) := by
  decide +kernel

theorem inlines_tree :
    Inlines (schemaDescription treeSchemas) [] (referring "#/components/schemas/a")
    ⟨.object [("properties", .object [("child", referring (identifier "#/components/schemas/a"))]),
      (identifierKey, .string (identifier "#/components/schemas/a"))], []⟩ := by
  have hchild : Inlines (schemaDescription treeSchemas) ["#/components/schemas/a"]
      (referring "#/components/schemas/a")
      ⟨referring (identifier "#/components/schemas/a"), ["#/components/schemas/a"]⟩ :=
    .retained rfl (by decide)
  have htree := (hchild.single "child" rfl).single "properties" rfl
  exact .inlined rfl (by decide) target?_tree htree rfl

theorem occurs_tree {fields : Fields}
    (h : Occurs (schemaDescription treeSchemas) (.object fields)) :
    (fields = [(referenceKey, .string "#/components/schemas/a")] ∨
      fields.lookup referenceKey = none) ∧
      fields.lookup identifierKey = none := by
  simp only [schemaDescription, describing, describingFields, treeSchemas, schemaChannel, referring,
    occurs_object, occurs_string, List.mem_cons, List.not_mem_nil, or_false, exists_eq_or_imp,
    exists_eq_left, Json.object.injEq, reduceCtorEq, false_or, or_assoc] at h
  rcases h with rfl | rfl | rfl | rfl | rfl | rfl | rfl | rfl | rfl | rfl | rfl | rfl
  all_goals decide

theorem mem_texts_tree {s : String} (h : Occurs (schemaDescription treeSchemas) (.string s)) :
    s ∈ ["2.6.0", "Gateway", "1", "#/components/schemas/a"] := by
  simp only [schemaDescription, describing, describingFields, treeSchemas, schemaChannel, referring,
    occurs_object, occurs_string, List.mem_cons, List.not_mem_nil, or_false, exists_eq_or_imp,
    exists_eq_left, Json.string.injEq, reduceCtorEq, false_or, or_assoc, or_self] at h ⊢
  exact h

theorem isReference_tree {r : String} (h : IsReference (schemaDescription treeSchemas) r) :
    r = "#/components/schemas/a" := by
  obtain ⟨fields, hoccurs, href⟩ := h
  rcases (occurs_tree hoccurs).1 with rfl | hnone
  · cases href
    rfl
  · rw [reference?, hnone] at href
    cases href

theorem direct_tree : Direct (schemaDescription treeSchemas) := by
  constructor
  · intro r fields hr htarget
    rw [isReference_tree hr, target?_tree] at htarget
    cases htarget
    rfl
  · intro fields hoccurs href
    rcases (occurs_tree hoccurs).1 with rfl | hnone
    · cases href
    · exact hnone

theorem distinct_tree : Distinct (schemaDescription treeSchemas) := by
  constructor
  · intro fields hoccurs
    exact (occurs_tree hoccurs).2
  · intro r r' hr hr' _
    rw [isReference_tree hr, isReference_tree hr']
  · intro s r hoccurs hr
    rw [isReference_tree hr]
    have hnot : identifier "#/components/schemas/a" ∉
        ["2.6.0", "Gateway", "1", "#/components/schemas/a"] := by
      decide
    exact (ne_of_mem_of_not_mem (mem_texts_tree hoccurs) hnot).symm

theorem sourcesKeepReferences_tree : SourcesKeepReferences (schemaDescription treeSchemas) := by
  apply direct_tree.sourcesKeepReferences
  rintro _ ⟨⟩ _ hentry stack schema ⟨kind, hkind, last, -, hleads⟩
  cases List.mem_singleton.1 hentry
  rcases hleads with _ | ⟨hoperation, _ | ⟨hmessage, _ | ⟨hschema, _ | _⟩⟩⟩
  obtain ⟨rfl, hdescribed⟩ := hoperation.of_object rfl
  rcases List.mem_pair.1 hkind with rfl | rfl
  · cases hdescribed
    obtain ⟨rfl, hcarried⟩ := hmessage.of_object rfl
    cases hcarried
    exact (hschema.of_object rfl).1
  · cases hdescribed

/-- The schema that refers to itself is self-contained in a document with distinct identifiers. -/
theorem selfContained_tree : ∃ document channel operation,
    ofJson (schemaDescription treeSchemas) = .ok document ∧ channel ∈ document.channels ∧
    channel.publish = some operation ∧
    operation.message.originalPayload =
      .object [("properties", .object [("child", referring (identifier "#/components/schemas/a"))]),
        (identifierKey, .string (identifier "#/components/schemas/a"))] ∧
    document.SelfContained ∧ Distinct (schemaDescription treeSchemas) := by
  obtain ⟨document, channel, hdocument, hchannels, hpublish⟩ :=
    exists_document_schemaDescription inlines_tree
  obtain ⟨hkept, -⟩ := selfContained_of_sourcesKeepReferences hdocument
  refine ⟨document, channel, _, hdocument, ?_, hpublish, rfl, hkept sourcesKeepReferences_tree,
    distinct_tree⟩
  rw [hchannels]
  exact List.mem_singleton.2 rfl

/-- Under `a` an alias of a schema that refers to itself by both names. -/
def aliasSchemas : Fields :=
  [("a", referring "#/components/schemas/b"),
    ("b", .object [("properties", .object [("left", referring "#/components/schemas/a"),
      ("right", referring "#/components/schemas/b")])])]

def aliasProperties : Fields :=
  [("left", referring (identifier "#/components/schemas/a")),
    ("right", referring (identifier "#/components/schemas/b"))]

theorem inlines_alias :
    Inlines (schemaDescription aliasSchemas) [] (referring "#/components/schemas/a")
    ⟨.object [("properties", .object aliasProperties),
      (identifierKey, .string (identifier "#/components/schemas/a"))], []⟩ := by
  have htarget : target? (schemaDescription aliasSchemas) "#/components/schemas/a" =
      some (referring "#/components/schemas/b") := by
    decide +kernel
  have htarget' : target? (schemaDescription aliasSchemas) "#/components/schemas/b" =
      some (.object [("properties", .object [("left", referring "#/components/schemas/a"),
        ("right", referring "#/components/schemas/b")])]) := by
    decide +kernel
  have hleft : Inlines (schemaDescription aliasSchemas)
      ["#/components/schemas/b", "#/components/schemas/a"] (referring "#/components/schemas/a")
      ⟨referring (identifier "#/components/schemas/a"), ["#/components/schemas/a"]⟩ :=
    .retained rfl (by decide)
  have hright : Inlines (schemaDescription aliasSchemas)
      ["#/components/schemas/b", "#/components/schemas/a"] (referring "#/components/schemas/b")
      ⟨referring (identifier "#/components/schemas/b"), ["#/components/schemas/b"]⟩ :=
    .retained rfl (by decide)
  have hproperties := hleft.pair hright (by simp [referring]) "left" "right" rfl
  have hinner : Inlines (schemaDescription aliasSchemas) ["#/components/schemas/a"]
      (referring "#/components/schemas/b")
      ⟨.object [("properties", .object aliasProperties),
        (identifierKey, .string (identifier "#/components/schemas/b"))],
          ["#/components/schemas/a"]⟩ :=
    .inlined rfl (by decide) htarget' (hproperties.single "properties" rfl) rfl
  exact .inlined rfl (by decide) htarget hinner rfl

/-- The copy of the alias keeps one identifier, the outer one, so a reference in it dangles. -/
theorem not_selfContained_alias : ∃ document,
    ofJson (schemaDescription aliasSchemas) = .ok document ∧ ¬ document.SelfContained := by
  obtain ⟨document, channel, hdocument, hchannels, hpublish⟩ :=
    exists_document_schemaDescription inlines_alias
  refine ⟨document, hdocument, fun hself => ?_⟩
  have hchannel := hself channel (by rw [hchannels]; exact List.mem_singleton.2 rfl)
  have hpayload := (hchannel.publish _ hpublish).payload
  have hproperties : Dangles (.object aliasProperties) (identifier "#/components/schemas/b") :=
    .field (List.mem_cons_of_mem _ List.mem_cons_self) (.reference rfl)
      (by rw [identifier?]; decide)
  have hdangles : Dangles (.object [("properties", .object aliasProperties),
      (identifierKey, .string (identifier "#/components/schemas/a"))])
      (identifier "#/components/schemas/b") :=
    .field List.mem_cons_self hproperties (by rw [identifier?]; decide)
  exact selfContained_iff.1 hpayload _ hdangles

end Document

end ChannelGateway
