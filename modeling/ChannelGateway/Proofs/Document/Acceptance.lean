import ChannelGateway.Document.Reader
import ChannelGateway.Proofs.Lists.Related
/-!
# Documents that are read without issues

A document is read if and only if every check of its parts notes nothing.  This module takes the
reading apart into the checks of the root, of its channels and of their operations, so that what is
known of an accepted document can be looked up part by part.
-/

namespace ChannelGateway

namespace Checked

@[simp] theorem value_wrong {α : Type} (location : Location) (cause : IssueCause) (a : α) :
    (wrong location cause a).value = a := rfl

@[simp] theorem issues_wrong {α : Type} (location : Location) (cause : IssueCause) (a : α) :
    (wrong location cause a).issues = [⟨location, cause⟩] := rfl

@[simp] theorem value_forList {α β : Type} (read : α → Checked β) (xs : List α) :
    (forList read xs).value = xs.map fun x => (read x).value := by
  induction xs with
  | nil => rfl
  | cons x xs ih => simp [forList, ih]

@[simp] theorem issues_forList {α β : Type} (read : α → Checked β) (xs : List α) :
    (forList read xs).issues = xs.flatMap fun x => (read x).issues := by
  induction xs with
  | nil => rfl
  | cons x xs ih => simp [forList, ih]

theorem eq_pure_iff {α : Type} {x : Checked α} {a : α} :
    x = pure a ↔ x.value = a ∧ x.issues = [] := by
  constructor
  · rintro rfl
    exact ⟨rfl, rfl⟩
  · rintro ⟨rfl, hissues⟩
    cases x
    cases hissues
    rfl

end Checked

namespace Document

/-! ## The parts of a channel -/

theorem issues_checkAddress {location : Location} {name : String} {parameters : List Parameter} :
    (checkAddress location name parameters).issues = [] ↔
      ∀ placeholder, placeholder ∈ parameters.map (·.name) ↔
        placeholder ∈ Address.parameterNames name := by
  have hused (placeholder : String) :
      (if parameters.any (·.name = placeholder) then pure ()
        else Checked.wrong location (.undeclaredParameter placeholder) ()).issues = [] ↔
      placeholder ∈ parameters.map (·.name) := by
    split
    · next h => simpa using h
    · next h => simpa using h
  have hdeclared (parameter : Parameter) :
      (if (Address.parameterNames name).contains parameter.name then pure ()
        else Checked.wrong (location ++ ["parameters", parameter.name])
          (.unusedParameter parameter.name) ()).issues = [] ↔
      parameter.name ∈ Address.parameterNames name := by
    split
    · next h => simpa using h
    · next h => simpa using h
  simp only [checkAddress, Checked.issues_bind, Checked.issues_forList, Checked.issues_pure,
    List.append_nil, List.append_eq_nil_iff, List.flatMap_eq_nil_iff, hused, hdeclared]
  constructor
  · rintro ⟨hplaceholders, hparameters⟩ placeholder
    constructor
    · intro h
      obtain ⟨parameter, hparameter, rfl⟩ := List.mem_map.1 h
      exact hparameters parameter hparameter
    · exact hplaceholders placeholder
  · intro h
    exact ⟨fun placeholder => (h placeholder).2,
      fun parameter hparameter => (h parameter.name).1 (List.mem_map_of_mem hparameter)⟩

/-- The channel of a name whose resolved fields were read without issues. -/
structure ReadsFields (name : String) (fields : Fields) (channel : Channel) : Prop where
  name_eq : channel.name = name
  parameters : readParameters (channelLocation name) fields = pure channel.parameters
  address : ∀ placeholder, placeholder ∈ channel.parameters.map (·.name) ↔
    placeholder ∈ Address.parameterNames name
  publish : readOperation (channelLocation name ++ ["publish"]) (fields.lookup "publish") =
    pure channel.publish
  subscribe : readOperation (channelLocation name ++ ["subscribe"]) (fields.lookup "subscribe") =
    pure channel.subscribe
  description : channel.description = Fields.string? fields "description"

theorem readChannel_eq_some {name : String} {resolved : Json} {channel : Channel} :
    readChannel name resolved = pure (some channel) ↔
      ∃ fields, resolved = .object fields ∧ ReadsFields name fields channel := by
  constructor
  · intro h
    obtain ⟨hvalue, hissues⟩ := Checked.eq_pure_iff.1 h
    unfold readChannel at hvalue hissues
    split at hvalue
    · next fields =>
        simp only [Checked.issues_bind, Checked.issues_pure, List.append_nil,
          List.append_eq_nil_iff, issues_checkAddress] at hissues
        simp only [Checked.value_bind, Checked.value_pure, Option.some.injEq] at hvalue
        obtain ⟨hparameters, haddress, hpublish, hsubscribe⟩ := hissues
        subst hvalue
        exact ⟨fields, rfl, rfl, Checked.eq_pure_iff.2 ⟨rfl, hparameters⟩, haddress,
          Checked.eq_pure_iff.2 ⟨rfl, hpublish⟩, Checked.eq_pure_iff.2 ⟨rfl, hsubscribe⟩, rfl⟩
    · simp at hvalue
  · rintro ⟨fields, rfl, hread⟩
    obtain ⟨rfl, hparameters, haddress, hpublish, hsubscribe, hdescription⟩ := hread
    apply Checked.eq_pure_iff.2
    simp only [readChannel, hparameters, hpublish, hsubscribe, Checked.value_bind,
      Checked.value_pure, Checked.issues_bind, Checked.issues_pure, List.append_nil,
      issues_checkAddress.2 haddress, ← hdescription, and_self]

theorem readChannel_isSome {name : String} {resolved : Json}
    (h : (readChannel name resolved).issues = []) :
    ∃ channel, readChannel name resolved = pure (some channel) := by
  unfold readChannel at h ⊢
  split at h
  · exact ⟨_, Checked.eq_pure_iff.2 ⟨rfl, h⟩⟩
  · simp at h

/-- The message of an operation that was read without issues: the declared one, which is no choice,
or the empty one. -/
theorem readMessage_eq_pure {location : Location} {operation : Fields} {message : Message} :
    readMessage location operation = pure message ↔
      (operation.lookup "message" = none ∧ message = emptyMessage) ∨
        ∃ fields, operation.lookup "message" = some (.object fields) ∧
          fields.lookup "oneOf" = none ∧ message = messageOf fields := by
  rw [Checked.eq_pure_iff]
  unfold readMessage
  split
  · next h =>
      simp only [h, Checked.value_pure, Checked.issues_pure, and_true, true_and, reduceCtorEq,
        false_and, exists_const, or_false]
      exact eq_comm
  · next fields h =>
      simp only [h, reduceCtorEq, false_and, false_or, Option.some.injEq, Json.object.injEq,
        exists_eq_left', Fields.contains, Option.isSome_iff_ne_none]
      by_cases hone : fields.lookup "oneOf" = none
      · simp only [hone, ne_eq, not_true_eq_false, if_false, Checked.value_pure,
          Checked.issues_pure, and_true, true_and]
        exact eq_comm
      · simp [hone]
  · next value hne h =>
      simp only [Checked.issues_wrong, List.cons_ne_nil, and_false, false_iff, h, reduceCtorEq,
        false_and, false_or, Option.some.injEq, not_exists]
      intro fields hfields
      exact hne fields hfields.1

theorem readOperation_eq_pure {location : Location} {fields : Fields} {tags : List String}
    {message : Message} (htags : readTags location fields = pure tags)
    (hmessage : readMessage location fields = pure message)
    (hplain : ∀ field ∈ fields, isGatewayExtension field.1 = false) :
    readOperation location (some (.object fields)) =
      pure (some ⟨fields.string? "operationId", fields.string? "summary", tags, none,
        message, []⟩) := by
  have hextensions : extensionsOf fields = [] := by
    rw [extensionsOf, List.filter_eq_nil_iff.2 fun field hfield => by simp [hplain field hfield]]
    exact List.mergeSort_nil
  have hcontroller : readController location fields = pure none := by
    have hnone : fields.lookup controllerKey = none :=
      List.lookup_eq_none_iff.2 fun field hfield => by
        rw [bne_iff_ne]
        intro hkey
        have hfalse := hplain field hfield
        rw [← hkey] at hfalse
        exact absurd hfalse (by decide)
    rw [readController, hnone]
  simp only [readOperation, htags, hmessage, hcontroller, hextensions]
  rfl

/-- A channel without parameters, under an address without placeholders, is read
operation by operation. -/
theorem readChannel_eq_pure {name : String} {fields : Fields} {publish subscribe : Option Operation}
    (hparameters : fields.lookup "parameters" = none) (haddress : Address.parameterNames name = [])
    (hpublish : readOperation (channelLocation name ++ ["publish"]) (fields.lookup "publish") =
      pure publish)
    (hsubscribe : readOperation (channelLocation name ++ ["subscribe"])
      (fields.lookup "subscribe") =
      pure subscribe) :
    readChannel name (.object fields) =
      pure (some ⟨name, fields.string? "description", [], publish, subscribe⟩) := by
  refine readChannel_eq_some.2 ⟨fields, rfl, rfl, ?_, fun placeholder => ?_, hpublish,
    hsubscribe, rfl⟩
  · rw [readParameters, hparameters]
  · rw [haddress]
    rfl

theorem readOperation_eq_some {location : Location} {value : Option Json} {operation : Operation}
    (h : readOperation location value = pure (some operation)) :
    ∃ fields, value = some (.object fields) ∧
      readMessage location fields = pure operation.message ∧
      operation.operationId = Fields.string? fields "operationId" := by
  obtain ⟨hvalue, hissues⟩ := Checked.eq_pure_iff.1 h
  unfold readOperation at hvalue hissues
  split at hvalue
  · simp at hvalue
  · next fields =>
      simp only [Checked.issues_bind, Checked.issues_pure, List.append_nil,
        List.append_eq_nil_iff] at hissues
      simp only [Checked.value_bind, Checked.value_pure, Option.some.injEq] at hvalue
      subst hvalue
      exact ⟨fields, rfl, Checked.eq_pure_iff.2 ⟨rfl, hissues.2.2⟩, rfl⟩
  · simp at hvalue

theorem readOperation_isSome {location : Location} {fields : Fields} {operation : Option Operation}
    (h : readOperation location (some (.object fields)) = pure operation) : operation.isSome := by
  have hvalue := (Checked.eq_pure_iff.1 h).1
  rw [← hvalue]
  rfl

/-! ## The channels of a document -/

def ReadsChannel (root : Json) (entry : String × Json) (channel : Channel) : Prop :=
  ∃ fields, resolveReferences root entry.2 = .ok (.object fields) ∧
    ReadsFields entry.1 fields channel

theorem readChannels_eq_ok {root : Json} {entries : List (String × Json)}
    {channels : List Channel} :
    readChannels root entries = .ok (pure channels) ↔
      List.Forall₂ (ReadsChannel root) entries channels := by
  induction entries generalizing channels with
  | nil =>
      rw [List.forall₂_nil_left_iff]
      constructor
      · intro h
        exact ((Checked.eq_pure_iff.1 (Except.ok.inj h)).1).symm
      · rintro rfl
        rfl
  | cons entry rest ih =>
      obtain ⟨name, value⟩ := entry
      rw [List.forall₂_cons_left_iff]
      constructor
      · intro h
        rw [readChannels] at h
        cases hresolved : resolveReferences root value with
        | error e =>
            cases e with
            | unresolved r => simp [hresolved] at h
            | circular r =>
                simp only [hresolved] at h
                split at h
                · cases h
                · have hissues := (Checked.eq_pure_iff.1 (Except.ok.inj h)).2
                  simp at hissues
        | ok resolved =>
            simp only [hresolved] at h
            cases hothers : readChannels root rest with
            | error e => simp [hothers] at h
            | ok others =>
                simp only [hothers, Except.ok.injEq] at h
                obtain ⟨hvalue, hissues⟩ := Checked.eq_pure_iff.1 h
                simp only [Checked.issues_bind, Checked.issues_pure, List.append_nil,
                  List.append_eq_nil_iff] at hissues
                obtain ⟨channel, hchannel⟩ := readChannel_isSome hissues.1
                have hrest : others = pure others.value := Checked.eq_pure_iff.2 ⟨rfl, hissues.2⟩
                obtain ⟨fields, rfl, hread⟩ := readChannel_eq_some.1 hchannel
                refine ⟨channel, others.value, ⟨fields, hresolved, hread⟩, ?_, ?_⟩
                · exact ih.1 (by rw [hothers, ← hrest])
                · rw [← hvalue]
                  simp [hchannel]
      · rintro ⟨channel, others, ⟨fields, hresolved, hread⟩, hothers, rfl⟩
        have hchannel := readChannel_eq_some.2 ⟨fields, rfl, hread⟩
        rw [readChannels]
        simp only [hresolved, hchannel, ih.2 hothers]
        rfl

def assemble (fields : Fields) (version : String) (channels : List Channel) : Document :=
  { filename := none
    version := version
    title := (readInfo fields).value.1
    apiVersion := (readInfo fields).value.2
    defaultContentType := fields.string? "defaultContentType"
    channels := (annotateChannels channels 0).1
    extensions := extensionsOf fields }

structure ReadsRoot (root : Json) (fields : Fields) (version : String) (channels : List Channel) :
    Prop where
  version : readVersion fields = .ok version
  rootKeys : (checkRootKeys fields).issues = []
  info : (readInfo fields).issues = []
  entries : ∃ entries, fields.lookup "channels" = some (.object entries) ∧
    List.Forall₂ (ReadsChannel root) entries channels
  distinctIds : (checkOperationIds [] (operationIds channels)).issues = []

theorem readChannelsOf_eq_ok {root : Json} {fields : Fields} {channels : List Channel} :
    readChannelsOf root fields = .ok (pure channels) ↔
      ∃ entries, fields.lookup "channels" = some (.object entries) ∧
        List.Forall₂ (ReadsChannel root) entries channels := by
  unfold readChannelsOf
  split
  · next entries h =>
      simp only [h, Option.some.injEq, Json.object.injEq, exists_eq_left']
      exact readChannels_eq_ok
  · next hne h =>
      constructor
      · intro heq
        have := (Checked.eq_pure_iff.1 (Except.ok.inj heq)).2
        simp at this
      · rintro ⟨entries, hentries, -⟩
        exact absurd (Option.some.inj (h ▸ hentries)) (hne entries)
  · next h =>
      constructor
      · intro heq
        have := (Checked.eq_pure_iff.1 (Except.ok.inj heq)).2
        simp at this
      · rintro ⟨entries, hentries, -⟩
        simp [h] at hentries

/-- A value is read into a document if and only if nothing is wrong with any part of it. -/
theorem ofJson_eq_ok {root : Json} {document : Document} :
    ofJson root = .ok document ↔
      ∃ fields version channels, root = .object fields ∧ ReadsRoot root fields version channels ∧
        assemble fields version channels = document := by
  constructor
  · intro h
    unfold ofJson at h
    split at h
    · next fields =>
        split at h
        · cases h
        · next version hversion =>
            split at h
            · cases h
            · next checked hchecked =>
                split at h
                · next hempty =>
                    have hdocument := Except.ok.inj h
                    unfold readObject at hchecked
                    split at hchecked
                    · cases hchecked
                    · next channels hchannels =>
                        have hchecked := Except.ok.inj hchecked
                        subst hchecked
                        simp only [List.isEmpty_iff, Checked.issues_bind, Checked.issues_pure,
                          List.append_nil, List.append_eq_nil_iff] at hempty
                        obtain ⟨hkeys, hinfo, hissues, hids⟩ := hempty
                        have hpure : channels = pure channels.value :=
                          Checked.eq_pure_iff.2 ⟨rfl, hissues⟩
                        exact ⟨fields, version, channels.value, rfl,
                          ⟨hversion, hkeys, hinfo,
                            readChannelsOf_eq_ok.1 (by rw [hchannels, ← hpure]), hids⟩, hdocument⟩
                · cases h
    · cases h
  · rintro ⟨fields, version, channels, rfl, hread, rfl⟩
    have hchannels := readChannelsOf_eq_ok.2 hread.entries
    simp only [ofJson, readObject, hread.version, hchannels, Checked.issues_bind,
      Checked.issues_pure, Checked.value_bind, Checked.value_pure, hread.rootKeys, hread.info,
      hread.distinctIds, List.append_nil, List.isEmpty_nil, if_true]
    rfl

/-! ## Identifiers of schemas -/

def Annotates (channel annotated : Channel) : Prop :=
  ∃ n m, annotated =
    { channel with
      publish := (annotateOperation channel.publish n).1
      subscribe := (annotateOperation channel.subscribe m).1 }

theorem annotateChannels_forall₂ (channels : List Channel) (n : Nat) :
    List.Forall₂ Annotates channels (annotateChannels channels n).1 := by
  induction channels generalizing n with
  | nil => exact .nil
  | cons channel rest ih => exact .cons ⟨n, _, rfl⟩ (ih _)

theorem exists_entries_of_ofJson {root : Json} {document : Document}
    (h : ofJson root = .ok document) :
    ∃ entries channels, root.get? "channels" = some (.object entries) ∧
      List.Forall₂ (ReadsChannel root) entries channels ∧
      List.Forall₂ Annotates channels document.channels := by
  obtain ⟨fields, version, channels, rfl, hread, rfl⟩ := ofJson_eq_ok.1 h
  obtain ⟨entries, hentries, hforall⟩ := hread.entries
  exact ⟨entries, channels, hentries, hforall, annotateChannels_forall₂ channels 0⟩

/-- Every channel of a document was read from an entry of the value that the document was read from,
and then its schemas were given identifiers. -/
theorem exists_reads_of_mem_channels {root : Json} {document : Document}
    (h : ofJson root = .ok document) {annotated : Channel} (hmem : annotated ∈ document.channels) :
    ∃ entries entry channel, (root.get? "channels") = some (.object entries) ∧ entry ∈ entries ∧
      ReadsChannel root entry channel ∧ Annotates channel annotated := by
  obtain ⟨entries, channels, hentries, hreads, hannotates⟩ := exists_entries_of_ofJson h
  obtain ⟨channel, hchannel, hannotated⟩ := exists_left_of_forall₂ hannotates hmem
  obtain ⟨entry, hentry, hread⟩ := exists_left_of_forall₂ hreads hchannel
  exact ⟨entries, entry, channel, hentries, hentry, hread, hannotated⟩

/-! ## Descriptions of nothing but channels -/

def describingFields (channels components : Fields) : Fields :=
  [("asyncapi", .string "2.6.0"),
    ("info", .object [("title", .string "Gateway"), ("version", .string "1")]),
    ("channels", .object channels),
    ("components", .object components)]

def describing (channels components : Fields) : Json :=
  .object (describingFields channels components)

theorem ofJson_describing {channels components : Fields} {read : List Channel}
    (hread : List.Forall₂ (ReadsChannel (describing channels components)) channels read)
    (hids : (checkOperationIds [] (operationIds read)).issues = []) :
    ∃ document, ofJson (describing channels components) = .ok document ∧
      document.channels = (annotateChannels read 0).1 := by
  refine ⟨_, ofJson_eq_ok.2 ⟨_, "2.6.0", read, rfl, ?_, rfl⟩, rfl⟩
  have hversion : readVersion (describingFields channels components) = .ok "2.6.0" := rfl
  have hkeys : (checkRootKeys (describingFields channels components)).issues = [] := rfl
  exact ⟨hversion, hkeys, rfl, ⟨channels, rfl, hread⟩, hids⟩

theorem ofJson_describing_one {name : String} {value : Json} {components fields : Fields}
    {channel : Channel}
    (hresolved : resolveReferences (describing [(name, value)] components) value =
      .ok (.object fields))
    (hread : readChannel name (.object fields) = pure (some channel))
    (hids : (checkOperationIds [] (operationIds [channel])).issues = []) :
    ∃ document, ofJson (describing [(name, value)] components) = .ok document ∧
      document.channels = (annotateChannels [channel] 0).1 := by
  apply ofJson_describing _ hids
  obtain ⟨_, heq, hfields⟩ := readChannel_eq_some.1 hread
  cases heq
  exact .cons ⟨fields, hresolved, hfields⟩ .nil

end Document

end ChannelGateway
