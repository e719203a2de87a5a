import ChannelGateway.Proofs.Document.Acceptance
import ChannelGateway.Proofs.Route.Address
/-!
# The grammar of documents

What a value has to look like to be read as a document, stated level by level: the places of
parameters in an address, operations, channels and the root.  The reader notes nothing at a level
if and only if the value there has the stated form.
-/

namespace ChannelGateway

/-! ## Places of parameters -/

namespace Address

/-- The places of an address, each with the name between its braces.  A place starts at the first
opening brace and ends at the closing brace after it; a brace that is never closed starts none. -/
inductive Places : List Char → List (List Char) → Prop
  | unopened {text : List Char} : '\x7b' ∉ text → Places text []
  | unclosed {before after : List Char} : '\x7b' ∉ before → '\x7d' ∉ after →
      Places (before ++ '\x7b' :: after) []
  | place {before name after : List Char} {names : List (List Char)} : '\x7b' ∉ before →
      '\x7d' ∉ name → Places after names →
      Places (before ++ '\x7b' :: (name ++ '\x7d' :: after)) (name :: names)

theorem cut?_append {c : Char} {before : List Char} (h : c ∉ before) (after : List Char) :
    cut? c (before ++ c :: after) = some (before, after) := by
  induction before with
  | nil => simp [cut?]
  | cons d rest ih =>
      rw [List.mem_cons, not_or] at h
      rw [List.cons_append, cut?, if_neg (Ne.symm h.1), ih h.2]
      rfl

theorem not_mem_of_cut? {c : Char} {text before after : List Char}
    (h : cut? c text = some (before, after)) : c ∉ before := by
  induction text generalizing before with
  | nil => cases h
  | cons d rest ih =>
      rw [cut?] at h
      split at h
      · cases h
        exact List.not_mem_nil
      · next hd =>
          obtain ⟨⟨b, a⟩, hcut, heq⟩ := Option.map_eq_some_iff.1 h
          cases heq
          rw [List.mem_cons, not_or]
          exact ⟨Ne.symm hd, ih hcut⟩

theorem placeholders_append {before : List Char} (h : '\x7b' ∉ before) (rest : List Char) :
    placeholders (before ++ rest) = placeholders rest := by
  induction before with
  | nil => rfl
  | cons c before ih =>
      rw [List.mem_cons, not_or] at h
      rw [List.cons_append, placeholders_cons (Ne.symm h.1), ih h.2]

theorem Places.cons {c : Char} {text : List Char} {names : List (List Char)} (hc : c ≠ '\x7b')
    (h : Places text names) : Places (c :: text) names := by
  have hbefore {before : List Char} (hopen : '\x7b' ∉ before) : '\x7b' ∉ c :: before := by
    rw [List.mem_cons, not_or]
    exact ⟨hc.symm, hopen⟩
  cases h with
  | unopened hopen => exact .unopened (hbefore hopen)
  | unclosed hopen hclose => exact .unclosed (hbefore hopen) hclose
  | place hopen hclose hrest => exact .place (hbefore hopen) hclose hrest

theorem places_placeholders (address : List Char) : Places address (placeholders address) := by
  match address with
  | [] =>
      rw [placeholders]
      exact .unopened List.not_mem_nil
  | c :: rest =>
      by_cases hopen : c = '\x7b'
      · subst hopen
        cases hcut : cut? '\x7d' rest with
        | none =>
            have hplaces : Places ([] ++ '\x7b' :: rest) [] :=
              .unclosed List.not_mem_nil (cut?_eq_none hcut)
            rw [placeholders_unclosed hcut]
            exact hplaces
        | some parts =>
            obtain ⟨name, after⟩ := parts
            have hplaces :
                Places ([] ++ '\x7b' :: (name ++ '\x7d' :: after)) (name :: placeholders after) :=
              .place List.not_mem_nil (not_mem_of_cut? hcut) (places_placeholders after)
            rw [placeholders_closed hcut, cut?_eq_some hcut]
            exact hplaces
      · rw [placeholders_cons hopen]
        exact (places_placeholders rest).cons hopen
termination_by address.length
decreasing_by
  · exact Nat.lt_succ_of_lt (length_lt_of_cut? hcut)
  · exact Nat.lt_succ_self _

theorem places_iff {address : List Char} {names : List (List Char)} :
    Places address names ↔ placeholders address = names := by
  constructor
  · intro h
    induction h with
    | unopened hopen =>
        have hempty := placeholders_append hopen []
        rw [List.append_nil] at hempty
        rw [hempty, placeholders]
    | unclosed hopen hclose =>
        rw [placeholders_append hopen]
        cases hcut : cut? '\x7d' _ with
        | none => exact placeholders_unclosed hcut
        | some parts => exact absurd (by rw [cut?_eq_some hcut]; simp) hclose
    | place hopen hclose _ ih =>
        rw [placeholders_append hopen, placeholders_closed (cut?_append hclose _), ih]
  · rintro rfl
    exact places_placeholders address

end Address

theorem Checked.filterMap_value_forList {α β : Type} {read : α → Checked (Option β)} {f : α → β}
    {as : List α} (h : ∀ a ∈ as, (read a).value = some (f a)) :
    (Checked.forList read as).value.filterMap id = as.map f := by
  rw [Checked.value_forList, List.filterMap_map, ← List.filterMap_eq_map]
  exact List.filterMap_congr h

namespace Document

theorem bind_string?_eq_some {value : Option Json} {s : String} :
    value.bind Json.string? = some s ↔ value = some (.string s) := by
  cases value with
  | none => simp
  | some j => cases j <;> simp [Json.string?]

/-! ## Operations -/

def IsTagList (j : Json) : Prop :=
  ∃ tags, j = .array tags ∧ ∀ tag ∈ tags, ∃ name, tag.get? "name" = some (.string name)

def IsMessage (j : Json) : Prop := ∃ fields, j = .object fields ∧ fields.lookup "oneOf" = none

structure HasOperationForm (fields : Fields) : Prop where
  tags : ∀ tags ∈ fields.lookup "tags", IsTagList tags
  controller : ∀ controller ∈ fields.lookup "x-asyncgate-controller", ∃ s, controller = .string s
  message : ∀ message ∈ fields.lookup "message", IsMessage message

def IsOperation (j : Json) : Prop := ∃ fields, j = .object fields ∧ HasOperationForm fields

theorem issues_readTags {location : Location} {operation : Fields} :
    (readTags location operation).issues = [] ↔
      ∀ tags ∈ operation.lookup "tags", IsTagList tags := by
  unfold readTags
  split
  · next h => simp [h]
  · next tags h =>
      simp only [h, Checked.issues_bind, Checked.issues_forList, Checked.issues_pure,
        List.append_nil, List.flatMap_eq_nil_iff, Option.mem_def, Option.some.injEq,
        forall_eq', IsTagList, Json.array.injEq, exists_eq_left']
      refine forall₂_congr fun tag _ => ?_
      simp only [← bind_string?_eq_some]
      cases (tag.get? "name").bind Json.string? <;> simp
  · next value hne h =>
      simp only [h, Checked.issues_wrong, List.cons_ne_nil, Option.mem_def, Option.some.injEq,
        forall_eq', false_iff]
      rintro ⟨tags, rfl, -⟩
      exact hne tags rfl

theorem issues_readController {location : Location} {operation : Fields} :
    (readController location operation).issues = [] ↔
      ∀ controller ∈ operation.lookup "x-asyncgate-controller", ∃ s, controller = .string s := by
  unfold readController controllerKey
  split
  · next h => simp [h]
  · next s h => simp [h]
  · next value hne h =>
      simp only [h, Checked.issues_wrong, List.cons_ne_nil, Option.mem_def, Option.some.injEq,
        forall_eq', false_iff]
      rintro ⟨s, rfl⟩
      exact hne s rfl

theorem issues_readMessage {location : Location} {operation : Fields} :
    (readMessage location operation).issues = [] ↔
      ∀ message ∈ operation.lookup "message", IsMessage message := by
  constructor
  · intro h message hmessage
    have hpure : readMessage location operation = pure (readMessage location operation).value :=
      Checked.eq_pure_iff.2 ⟨rfl, h⟩
    rcases readMessage_eq_pure.1 hpure with ⟨hnone, -⟩ | ⟨fields, hsome, hone, -⟩
    · rw [hnone] at hmessage
      cases hmessage
    · rw [hsome] at hmessage
      cases hmessage
      exact ⟨fields, rfl, hone⟩
  · intro h
    cases hlookup : operation.lookup "message" with
    | none => exact (Checked.eq_pure_iff.1 (readMessage_eq_pure.2 (Or.inl ⟨hlookup, rfl⟩))).2
    | some message =>
        obtain ⟨fields, rfl, hone⟩ := h message hlookup
        exact (Checked.eq_pure_iff.1
          (readMessage_eq_pure.2 (Or.inr ⟨fields, hlookup, hone, rfl⟩))).2

theorem issues_readOperation {location : Location} {value : Option Json} :
    (readOperation location value).issues = [] ↔ ∀ operation ∈ value, IsOperation operation := by
  unfold readOperation
  split
  · simp
  · next fields =>
      simp only [Checked.issues_bind, Checked.issues_pure, List.append_nil, List.append_eq_nil_iff,
        issues_readTags, issues_readController, issues_readMessage, Option.mem_def,
        Option.some.injEq, forall_eq', IsOperation, Json.object.injEq, exists_eq_left']
      constructor
      · rintro ⟨htags, hcontroller, hmessage⟩
        exact ⟨htags, hcontroller, hmessage⟩
      · rintro ⟨htags, hcontroller, hmessage⟩
        exact ⟨htags, hcontroller, hmessage⟩
  · next value hne =>
      simp only [Checked.issues_wrong, List.cons_ne_nil, Option.mem_def,
        Option.some.injEq, forall_eq', false_iff]
      rintro ⟨fields, rfl, -⟩
      exact hne fields rfl

/-- The operation id that a value states under a key is the one that is read from there. -/
theorem operationId_readOperation {location : Location} {value : Option Json}
    {operation : Option Operation} (h : readOperation location value = pure operation) :
    operation.bind (·.operationId) = (value.bind (·.get? "operationId")).bind Json.string? := by
  obtain ⟨hvalue, hissues⟩ := Checked.eq_pure_iff.1 h
  subst hvalue
  unfold readOperation at hissues ⊢
  split
  · rfl
  · rfl
  · simp at hissues

/-! ## Channels -/

def declaredParameters (channel : Fields) : Fields :=
  ((channel.lookup "parameters").bind Json.fields?).getD []

def parameterOf (field : String × Json) : Parameter :=
  { name := field.1
    description := (field.2.get? "description").bind Json.string?
    schema := (field.2.get? "schema").getD (.object [])
    location := (field.2.get? "location").bind Json.string? }

def IsParameterMap (j : Json) : Prop :=
  ∃ declared, j = .object declared ∧ ∀ field ∈ declared, ∃ fields, field.2 = .object fields

structure HasChannelForm (name : String) (fields : Fields) : Prop where
  parameters : ∀ parameters ∈ fields.lookup "parameters", IsParameterMap parameters
  /-- The declared names are those that the address has places for. -/
  names : ∃ names, Address.Places name.toList names ∧
    ∀ parameter, parameter ∈ Fields.keys (declaredParameters fields) ↔ parameter.toList ∈ names
  publish : ∀ operation ∈ fields.lookup "publish", IsOperation operation
  subscribe : ∀ operation ∈ fields.lookup "subscribe", IsOperation operation

def IsChannel (name : String) (j : Json) : Prop :=
  ∃ fields, j = .object fields ∧ HasChannelForm name fields

theorem readParameters_eq_pure {location : Location} {channel : Fields}
    {parameters : List Parameter} :
    readParameters location channel = pure parameters ↔
      (∀ declared ∈ channel.lookup "parameters", IsParameterMap declared) ∧
        parameters = (declaredParameters channel).map parameterOf := by
  rw [Checked.eq_pure_iff]
  unfold readParameters declaredParameters
  split
  · next h => simp [h, eq_comm]
  · next declared h =>
      simp only [h, Checked.value_bind, Checked.value_pure, Checked.issues_bind,
        Checked.issues_forList, Checked.issues_pure, List.append_nil, List.flatMap_eq_nil_iff,
        Option.mem_def, Option.some.injEq, forall_eq', IsParameterMap, Json.object.injEq,
        exists_eq_left', Option.bind_some, Json.fields?, Option.getD_some]
      constructor
      · rintro ⟨hvalue, hissues⟩
        have hobjects (field : String × Json) (hfield : field ∈ declared) :
            ∃ fields, field.2 = .object fields := by
          have hread := hissues field hfield
          cases hobject : field.2 with
          | object fields => exact ⟨fields, rfl⟩
          | _ => simp [hobject] at hread
        refine ⟨hobjects,
          hvalue.symm.trans (Checked.filterMap_value_forList fun field hfield => ?_)⟩
        obtain ⟨fields, hfields⟩ := hobjects field hfield
        simp [parameterOf, hfields, Fields.string?, Json.get?]
      · rintro ⟨hobjects, rfl⟩
        refine ⟨Checked.filterMap_value_forList fun field hfield => ?_, fun field hfield => ?_⟩
        · obtain ⟨fields, hfields⟩ := hobjects field hfield
          simp [parameterOf, hfields, Fields.string?, Json.get?]
        · obtain ⟨fields, hfields⟩ := hobjects field hfield
          simp [hfields]
  · next value hne h =>
      simp only [h, Checked.issues_wrong, List.cons_ne_nil, and_false, Option.mem_def,
        Option.some.injEq, forall_eq', false_iff, not_and]
      rintro ⟨declared, rfl, -⟩
      exact absurd rfl (hne declared)

theorem keys_map_parameterOf (fields : Fields) :
    (fields.map parameterOf).map (·.name) = Fields.keys fields := by
  rw [List.map_map]
  rfl

theorem mem_parameterNames {address parameter : String} :
    parameter ∈ Address.parameterNames address ↔
      parameter.toList ∈ Address.placeholders address.toList := by
  rw [Address.parameterNames, List.mem_map]
  constructor
  · rintro ⟨name, hname, rfl⟩
    rw [String.toList_ofList]
    exact hname
  · intro h
    exact ⟨_, h, String.ofList_toList⟩

theorem ReadsFields.hasChannelForm {name : String} {fields : Fields} {channel : Channel}
    (h : ReadsFields name fields channel) : HasChannelForm name fields := by
  obtain ⟨hparameters, hdeclared⟩ := readParameters_eq_pure.1 h.parameters
  refine ⟨hparameters, ⟨_, Address.places_placeholders _, fun parameter => ?_⟩, ?_, ?_⟩
  · have haddress := h.address parameter
    rw [hdeclared, keys_map_parameterOf, mem_parameterNames] at haddress
    exact haddress
  · exact issues_readOperation.1 (Checked.eq_pure_iff.1 h.publish).2
  · exact issues_readOperation.1 (Checked.eq_pure_iff.1 h.subscribe).2

theorem HasChannelForm.exists_readsFields {name : String} {fields : Fields}
    (h : HasChannelForm name fields) : ∃ channel, ReadsFields name fields channel := by
  obtain ⟨hparameters, ⟨names, hplaces, hnames⟩, hpublish, hsubscribe⟩ := h
  have haddress (parameter : String) :
      parameter ∈ ((declaredParameters fields).map parameterOf).map (·.name) ↔
        parameter ∈ Address.parameterNames name := by
    rw [keys_map_parameterOf, mem_parameterNames, Address.places_iff.1 hplaces]
    exact hnames parameter
  have hread (kind : String) (hkind : ∀ operation ∈ fields.lookup kind, IsOperation operation) :
      ∃ operation,
        readOperation (channelLocation name ++ [kind]) (fields.lookup kind) = pure operation :=
    ⟨_, Checked.eq_pure_iff.2 ⟨rfl, issues_readOperation.2 hkind⟩⟩
  obtain ⟨published, hpublished⟩ := hread "publish" hpublish
  obtain ⟨subscribed, hsubscribed⟩ := hread "subscribe" hsubscribe
  exact ⟨⟨name, _, _, published, subscribed⟩, rfl, readParameters_eq_pure.2 ⟨hparameters, rfl⟩,
    haddress, hpublished, hsubscribed, rfl⟩

def statedIds (value : Json) : List String :=
  ["publish", "subscribe"].filterMap fun kind =>
    ((value.get? kind).bind (·.get? "operationId")).bind Json.string?

theorem ReadsFields.operationIds_eq {name : String} {fields : Fields} {channel : Channel}
    (h : ReadsFields name fields channel) :
    (operationIds [channel]).map Prod.fst = statedIds (.object fields) := by
  have hpublish := operationId_readOperation h.publish
  have hsubscribe := operationId_readOperation h.subscribe
  have hfst (id : Option String) (location : Location) :
      (id.map fun id => (id, location)).map Prod.fst = id := by
    cases id <;> rfl
  rw [operationIds, List.flatMap_cons, List.flatMap_nil, List.append_nil,
    List.map_filterMap, statedIds]
  simp only [List.filterMap_cons, List.filterMap_nil, hfst, hpublish, hsubscribe, Json.get?]

/-! ## Documents -/

def entryIds (root : Json) (entry : String × Json) : List String :=
  match resolveReferences root entry.2 with
  | .ok value => statedIds value
  | .error _ => []

/-- The parts of a document have the right form.  The references of its channels are resolved in
`root`. -/
structure HasDocumentForm (root : Json) (fields : Fields) : Prop where
  version : ∃ version, fields.lookup "asyncapi" = some (.string version) ∧
    "2.".toList <+: version.toList
  keys : ∀ key ∈ Fields.keys fields, key ∈ rootKeys ∨ "x-".toList <+: key.toList
  info : ∃ info, fields.lookup "info" = some (.object info) ∧
    (∃ title, info.lookup "title" = some (.string title)) ∧
    ∃ version, info.lookup "version" = some (.string version)
  channels : ∃ entries, fields.lookup "channels" = some (.object entries) ∧
    (∀ entry ∈ entries, ∃ value, resolveReferences root entry.2 = .ok value ∧
      IsChannel entry.1 value) ∧
    (entries.flatMap (entryIds root)).Nodup

def IsDocument (root : Json) : Prop := ∃ fields, root = .object fields ∧ HasDocumentForm root fields

theorem readVersion_eq_ok {fields : Fields} {version : String} :
    readVersion fields = .ok version ↔
      fields.lookup "asyncapi" = some (.string version) ∧ "2.".toList <+: version.toList := by
  unfold readVersion
  split
  · next found h =>
      rw [h, Option.some.injEq, Json.string.injEq, ← List.isPrefixOf_iff_prefix]
      split
      · next hprefix =>
          rw [Except.ok.injEq]
          constructor
          · rintro rfl
            exact ⟨rfl, hprefix⟩
          · exact And.left
      · next hprefix =>
          simp only [reduceCtorEq, false_iff, not_and]
          rintro rfl
          exact hprefix
  · next value hne h =>
      simp only [h, reduceCtorEq, Option.some.injEq, false_iff, not_and]
      rintro rfl
      exact absurd rfl (hne version)
  · next h =>
      rw [h]
      split <;> simp

theorem issues_checkRootKeys {fields : Fields} : (checkRootKeys fields).issues = [] ↔
    ∀ key ∈ Fields.keys fields, key ∈ rootKeys ∨ "x-".toList <+: key.toList := by
  have hfield (key : String) :
      (if rootKeys.contains key || "x-".toList.isPrefixOf key.toList then pure ()
        else Checked.wrong [] (.unknownRootProperty key) ()).issues = [] ↔
      key ∈ rootKeys ∨ "x-".toList <+: key.toList := by
    rw [← List.isPrefixOf_iff_prefix, ← List.contains_iff_mem, ← Bool.or_eq_true]
    split
    · next h => exact iff_of_true rfl h
    · next h => exact iff_of_false (by simp) h
  simp only [checkRootKeys, Checked.issues_bind, Checked.issues_forList, Checked.issues_pure,
    List.append_nil, List.flatMap_eq_nil_iff, hfield, Fields.keys, List.forall_mem_map]

theorem issues_readRequired {fields : Fields} {key : String} {location : Location}
    {cause : IssueCause} :
    (readRequired fields key location cause).issues = [] ↔
      ∃ s, fields.lookup key = some (.string s) := by
  simp only [← bind_string?_eq_some]
  unfold readRequired Fields.string?
  cases (fields.lookup key).bind Json.string? <;> simp

theorem issues_readInfo {fields : Fields} : (readInfo fields).issues = [] ↔
    ∃ info, fields.lookup "info" = some (.object info) ∧
      (∃ title, info.lookup "title" = some (.string title)) ∧
      ∃ version, info.lookup "version" = some (.string version) := by
  have hinfo (info : Fields) : (fields.lookup "info").bind Json.fields? = some info ↔
      fields.lookup "info" = some (.object info) := by
    cases fields.lookup "info" with
    | none => simp
    | some value => cases value <;> simp [Json.fields?]
  simp only [← hinfo]
  unfold readInfo
  split
  · next h => simp [h]
  · next info h =>
      simp only [h, Checked.issues_bind, issues_readRequired, Checked.issues_pure, List.append_nil,
        List.append_eq_nil_iff, Option.some.injEq, exists_eq_left']

/-- No operation id is noted if and only if no two are equal and none was seen before. -/
theorem issues_checkOperationIds {seen ids : List (String × Location)} :
    (checkOperationIds seen ids).issues = [] ↔
      (ids.map Prod.fst).Nodup ∧ ∀ id ∈ ids.map Prod.fst, seen.lookup id = none := by
  -- The ids that were seen grow along the list, and a new one must not come again further down.
  induction ids generalizing seen with
  | nil => simp [checkOperationIds]
  | cons first rest ih =>
      obtain ⟨id, location⟩ := first
      rw [checkOperationIds, List.map_cons, List.nodup_cons, List.forall_mem_cons]
      split
      · next found h => simp [h]
      · next h =>
          have hlookup (other : String) : (seen ++ [(id, location)]).lookup other = none ↔
              seen.lookup other = none ∧ other ≠ id := by
            rw [List.lookup_append, Option.or_eq_none_iff]
            by_cases hother : other = id
            · simp [hother]
            · have hne : (other == id) = false := by simpa using hother
              simp [hother, List.lookup_cons, hne]
          simp only [ih, hlookup, h, true_and]
          constructor
          · rintro ⟨hnodup, hseen⟩
            exact ⟨⟨fun hmem => (hseen id hmem).2 rfl, hnodup⟩,
              fun other hmem => (hseen other hmem).1⟩
          · rintro ⟨⟨hnot, hnodup⟩, hseen⟩
            exact ⟨hnodup, fun other hmem => ⟨hseen other hmem, ne_of_mem_of_not_mem hmem hnot⟩⟩

theorem operationIds_cons (channel : Channel) (rest : List Channel) :
    operationIds (channel :: rest) = operationIds [channel] ++ operationIds rest := by
  simp only [operationIds, List.flatMap_cons, List.flatMap_nil, List.append_nil]

theorem operationIds_of_reads {root : Json} {entries : List (String × Json)}
    {channels : List Channel} (h : List.Forall₂ (ReadsChannel root) entries channels) :
    (operationIds channels).map Prod.fst = entries.flatMap (entryIds root) := by
  induction h with
  | nil => rfl
  | @cons entry channel _ _ hfirst _ ih =>
      obtain ⟨fields, hresolved, hread⟩ := hfirst
      have hentry : entryIds root entry = statedIds (.object fields) := by
        rw [entryIds, hresolved]
      rw [operationIds_cons, List.map_append, hread.operationIds_eq, ih, List.flatMap_cons, hentry]

theorem exists_readsChannel_iff {root : Json} {entry : String × Json} :
    (∃ channel, ReadsChannel root entry channel) ↔
      ∃ value, resolveReferences root entry.2 = .ok value ∧ IsChannel entry.1 value := by
  constructor
  · rintro ⟨channel, fields, hresolved, hread⟩
    exact ⟨_, hresolved, fields, rfl, hread.hasChannelForm⟩
  · rintro ⟨_, hresolved, fields, rfl, hform⟩
    obtain ⟨channel, hread⟩ := hform.exists_readsFields
    exact ⟨channel, fields, hresolved, hread⟩

theorem readsRoot_iff {root : Json} {fields : Fields} :
    (∃ version channels, ReadsRoot root fields version channels) ↔ HasDocumentForm root fields := by
  constructor
  · rintro ⟨version, channels, hversion, hkeys, hinfo, ⟨entries, hentries, hreads⟩, hids⟩
    have hnodup := (issues_checkOperationIds.1 hids).1
    rw [operationIds_of_reads hreads] at hnodup
    refine ⟨⟨version, readVersion_eq_ok.1 hversion⟩, issues_checkRootKeys.1 hkeys,
      issues_readInfo.1 hinfo, entries, hentries, fun entry hentry => ?_, hnodup⟩
    obtain ⟨channel, -, hread⟩ := exists_right_of_forall₂ hreads hentry
    exact exists_readsChannel_iff.1 ⟨channel, hread⟩
  · rintro ⟨⟨version, hversion⟩, hkeys, hinfo, entries, hentries, hchannels, hnodup⟩
    obtain ⟨channels, hreads⟩ :=
      exists_forall₂ fun entry hentry => exists_readsChannel_iff.2 (hchannels entry hentry)
    rw [← operationIds_of_reads hreads] at hnodup
    exact ⟨version, channels, readVersion_eq_ok.2 hversion, issues_checkRootKeys.2 hkeys,
      issues_readInfo.2 hinfo, ⟨entries, hentries, hreads⟩,
      issues_checkOperationIds.2 ⟨hnodup, fun _ _ => rfl⟩⟩

def KeepsDeclaration (root : Json) (entry : String × Json) (channel : Channel) : Prop :=
  channel.name = entry.1 ∧ ∃ fields, resolveReferences root entry.2 = .ok (.object fields) ∧
    channel.parameters = (declaredParameters fields).map parameterOf

theorem ReadsChannel.keepsDeclaration {root : Json} {entry : String × Json}
    {channel annotated : Channel} (h : ReadsChannel root entry channel)
    (hannotates : Annotates channel annotated) :
    KeepsDeclaration root entry annotated := by
  obtain ⟨fields, hresolved, hread⟩ := h
  obtain ⟨n, m, rfl⟩ := hannotates
  exact ⟨hread.name_eq, fields, hresolved, (readParameters_eq_pure.1 hread.parameters).2⟩

/-- A value is read as a document if and only if it has the form of one.  The channels of the
document are then those of the value, in order. -/
theorem ofJson_accepts_iff (root : Json) :
    ((∃ document, ofJson root = .ok document) ↔ IsDocument root) ∧
    ∀ document, ofJson root = .ok document → ∃ entries,
      root.get? "channels" = some (.object entries) ∧
      List.Forall₂ (KeepsDeclaration root) entries document.channels := by
  refine ⟨⟨?_, ?_⟩, fun document h => ?_⟩
  · rintro ⟨document, h⟩
    obtain ⟨fields, version, channels, hroot, hreads, -⟩ := ofJson_eq_ok.1 h
    exact ⟨fields, hroot, readsRoot_iff.1 ⟨version, channels, hreads⟩⟩
  · rintro ⟨fields, hroot, hform⟩
    obtain ⟨version, channels, hreads⟩ := readsRoot_iff.2 hform
    exact ⟨_, ofJson_eq_ok.2 ⟨fields, version, channels, hroot, hreads, rfl⟩⟩
  · obtain ⟨entries, channels, hentries, hreads, hannotates⟩ := exists_entries_of_ofJson h
    refine ⟨entries, hentries, (forall₂_comp hreads hannotates).imp ?_⟩
    rintro entry annotated ⟨channel, hread, hannotated⟩
    exact hread.keepsDeclaration hannotated

end Document

end ChannelGateway
