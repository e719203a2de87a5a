import ChannelGateway.Proofs.Document.Acceptance
import ChannelGateway.Proofs.Document.Inlining
import ChannelGateway.Proofs.Document.Subschemas
import Mathlib.Data.List.Count
/-!
# Numbered schemas

The identifiers of an annotated schema can be read off in the order of its objects, each before its
subschemas.  Those without an `$id` are numbered without a gap, within one schema as well as
through all message schemas of a document, and no other object has an identifier.
-/

namespace ChannelGateway

namespace SchemaIds

open Json

/-! ## Numbers -/

/-- Objects are identified one after the other, counting on from one number to another: an object
with an `$id` carries it, and any other the next number. -/
inductive Numbered : List Fields → Nat → Nat → Prop
  | nil (n : Nat) : Numbered [] n n
  | stated {fields : Fields} {rest : List Fields} {id : String} {n m : Nat} :
      identifier? fields = some id → fields.lookup key = some (.string id) → Numbered rest n m →
        Numbered (fields :: rest) n m
  | counted {fields : Fields} {rest : List Fields} {n m : Nat} :
      identifier? fields = none → fields.lookup key = some (.string (anonymousId (n + 1))) →
        Numbered rest (n + 1) m → Numbered (fields :: rest) n m

theorem Numbered.append {front back : List Fields} {n m k : Nat} (h : Numbered front n m)
    (h' : Numbered back m k) : Numbered (front ++ back) n k := by
  induction h with
  | nil => exact h'
  | stated hid hkey _ ih => exact .stated hid hkey (ih h')
  | counted hid hkey _ ih => exact .counted hid hkey (ih h')

theorem numbered_annotateItems {items : List Json}
    (h : ∀ item ∈ items, ∀ n, Numbered (schemasOf (annotate item n).1) n (annotate item n).2)
    (n : Nat) :
    Numbered ((annotateItems items n).1.flatMap schemasOf) n (annotateItems items n).2 := by
  induction items generalizing n with
  | nil =>
      rw [annotateItems]
      exact .nil n
  | cons item rest ih =>
      obtain ⟨hitem, hrest⟩ := List.forall_mem_cons.1 h
      rw [annotateItems_cons, List.flatMap_cons]
      exact (hitem n).append (ih hrest _)

/-- An object without the reserved key is given the identifier that it states, or the
next number. -/
theorem identify_of_not_mem {fields : Fields} (h : key ∉ Fields.keys fields) (n : Nat) :
    (∃ id, identifier? fields = some id ∧
        identify fields n = (Fields.insert key (.string id) fields, n)) ∨
      identifier? fields = none ∧
        identify fields n = (Fields.insert key (.string (anonymousId (n + 1))) fields, n + 1) := by
  have hcontains : ¬ Fields.contains fields key = true := by
    simp [Fields.contains, Fields.lookup_eq_none_of_not_mem h]
  unfold identify
  rw [if_neg hcontains]
  split
  · next id hid => exact Or.inl ⟨id, hid, rfl⟩
  · next hid => exact Or.inr ⟨hid, rfl⟩

theorem Annotated.numbered {fields annotated : Fields} {rest : List Fields} {n m k : Nat}
    (h : Annotated fields n annotated m) (hfree : key ∉ Fields.keys fields)
    (hrest : Numbered rest (identify fields n).2 k) : Numbered (annotated :: rest) n k := by
  have hown {id : String} (heq : (identify fields n).1 = Fields.insert key (.string id) fields) :
      identifier? annotated = identifier? fields ∧ annotated.lookup key = some (.string id) := by
    rw [identifier?, h.own identifierKey (by decide), h.own key (by decide), heq,
      Fields.lookup_insert_of_ne (by decide), Fields.lookup_insert_self]
    exact ⟨rfl, rfl⟩
  rcases identify_of_not_mem hfree n with ⟨id, hid, heq⟩ | ⟨hid, heq⟩
  · obtain ⟨hsame, hkey⟩ := hown (congrArg Prod.fst heq)
    rw [heq] at hrest
    exact .stated (hsame.trans hid) hkey hrest
  · obtain ⟨hsame, hkey⟩ := hown (congrArg Prod.fst heq)
    rw [heq] at hrest
    exact .counted (hsame.trans hid) hkey hrest

theorem numbered_annotate {schema : Json} (h : Free schema) (n : Nat) :
    Numbered (schemasOf (annotate schema n).1) n (annotate schema n).2 := by
  induction schema using schemasOf.induct generalizing n with
  | case1 fields ih =>
      obtain ⟨annotated, m, hannotate, hannotated⟩ := exists_annotated fields n
      have hsubschemas := numbered_annotateItems
        (fun child hchild => ih ⟨child, hchild⟩ (h.of_mem_subschemas hchild)) (identify fields n).2
      rw [hannotated.subschemas] at hsubschemas
      rw [hannotate, schemasOf_object]
      exact hannotated.numbered (h _ _ (.self fields)) hsubschemas
  | case2 schema hne =>
      rw [annotate, schemasOf]
      · exact .nil n
      · exact hne
      · exact hne

/-! ## No other object carries an identifier -/

/-- Every object in a value that has the reserved key is one of the given ones. -/
def KeyedOnly (objects : List Fields) (value : Json) : Prop :=
  ∀ above fields, Inside value above fields → key ∈ Fields.keys fields → fields ∈ objects

theorem Free.keyedOnly {value : Json} (h : Free value) (objects : List Fields) :
    KeyedOnly objects value :=
  fun above fields hinside hkey => absurd hkey (h above fields hinside)

theorem KeyedOnly.mono {objects others : List Fields} {value : Json} (h : KeyedOnly objects value)
    (hsub : objects ⊆ others) : KeyedOnly others value :=
  fun above fields hinside hkey => hsub (h above fields hinside hkey)

theorem keyedOnly_array {objects : List Fields} {items : List Json}
    (h : ∀ item ∈ items, KeyedOnly objects item) : KeyedOnly objects (.array items) := by
  intro above fields hinside hkey
  cases hinside with
  | item hmem hinner => exact h _ hmem above fields hinner hkey

theorem keyedOnly_object {objects : List Fields} {fields : Fields}
    (hown : key ∈ Fields.keys fields → fields ∈ objects)
    (h : ∀ field ∈ fields, KeyedOnly objects field.2) : KeyedOnly objects (.object fields) := by
  intro above inner hinside hkey
  cases hinside with
  | self => exact hown hkey
  | field hmem hinner => exact h _ hmem _ inner hinner hkey

/-- The value of a keyword has identifiers in its subschemas only, if each of these has. -/
theorem keyedOnly_annotateAt {position : Position} {child : Json} (hfree : Free child)
    (h : ∀ item ∈ held position child, ∀ n,
      KeyedOnly (schemasOf (annotate item n).1) (annotate item n).1) (n : Nat) :
    KeyedOnly ((held position (annotateAt position child n).1).flatMap schemasOf)
      (annotateAt position child n).1 := by
  -- Whatever is held was annotated as an element of the list of what was held before.
  have hitem (value : Json) (hvalue : value ∈ held position (annotateAt position child n).1) :
      KeyedOnly ((held position (annotateAt position child n).1).flatMap schemasOf) value := by
    have hmem : value ∈ (annotateItems (held position child) n).1 := by
      rw [annotateItems_held]
      exact hvalue
    obtain ⟨item, hitem, k, rfl⟩ := exists_of_mem_annotateItems hmem
    exact (h item hitem k).mono fun fields hfields => List.mem_flatMap.2 ⟨_, hvalue, hfields⟩
  cases position with
  | named =>
      cases child with
      | object children =>
          rw [annotateAt] at hitem ⊢
          refine keyedOnly_object (fun hkey => ?_) fun field hfield =>
            hitem field.2 (List.mem_map_of_mem hfield)
          rw [keys_annotateFields] at hkey
          exact absurd hkey (hfree _ _ (.self children))
      | _ =>
          rw [annotateAt]
          · exact hfree.keyedOnly _
          all_goals simp
  | listed =>
      cases child with
      | array children =>
          rw [annotateAt] at hitem ⊢
          exact keyedOnly_array hitem
      | _ =>
          rw [annotateAt]
          · exact hfree.keyedOnly _
          all_goals simp
  | single =>
      cases child with
      | array children =>
          rw [annotateAt] at hitem ⊢
          exact keyedOnly_array hitem
      | object fields =>
          obtain ⟨annotated, m, hannotate, -⟩ := exists_annotated fields n
          apply hitem
          rw [annotateAt, hannotate, held]
          · exact List.mem_singleton_self _
          all_goals simp
      | _ =>
          rw [annotateAt, annotate]
          · exact hfree.keyedOnly _
          all_goals simp

theorem Free.of_mem_identify {fields : Fields} (h : Free (.object fields))
    {field : String × Json} {n : Nat} (hfield : field ∈ (identify fields n).1) : Free field.2 := by
  have hinsert {id : String} (hmem : field ∈ Fields.insert key (.string id) fields) :
      Free field.2 := by
    rcases Fields.mem_insert hmem with rfl | hfield
    · intro above inner hinside
      cases hinside
    · exact h.of_field hfield
  rcases identify_of_not_mem (h _ _ (.self fields)) n with ⟨id, -, heq⟩ | ⟨-, heq⟩
  · exact hinsert (heq ▸ hfield)
  · exact hinsert (heq ▸ hfield)

theorem keyedOnly_annotate {schema : Json} (h : Free schema) (n : Nat) :
    KeyedOnly (schemasOf (annotate schema n).1) (annotate schema n).1 := by
  induction schema using schemasOf.induct generalizing n with
  | case1 fields ih =>
      obtain ⟨annotated, m, hannotate, hannotated⟩ := exists_annotated fields n
      rw [hannotate, schemasOf_object]
      refine keyedOnly_object (fun _ => List.mem_cons_self) fun field hfield => ?_
      rcases hannotated.written field hfield with hbefore |
        ⟨hlookup, position, child, k, hposition, hchild, heq⟩
      · exact (h.of_mem_identify hbefore).keyedOnly _
      · have hitems : ∀ item ∈ held position child, ∀ n,
            KeyedOnly (schemasOf (annotate item n).1) (annotate item n).1 := by
          intro item hitem
          have hmem := mem_subschemas hposition hchild hitem
          exact ih ⟨item, hmem⟩ (h.of_mem_subschemas hmem)
        have hvalue := keyedOnly_annotateAt (h.of_field (Fields.mem_of_lookup hchild)) hitems k
        rw [← heq] at hvalue
        refine hvalue.mono fun inner hinner => List.mem_cons_of_mem _ ?_
        obtain ⟨item, hitem, hinner⟩ := List.mem_flatMap.1 hinner
        exact List.mem_flatMap.2 ⟨item, mem_subschemas hposition hlookup hitem, hinner⟩
  | case2 schema hne =>
      rw [annotate]
      · exact h.keyedOnly _
      · exact hne

/-! ## Numbers in their order -/

def anonymous (objects : List Fields) : List Fields :=
  objects.filter fun fields => (identifier? fields).isNone

theorem anonymousId_injective : Function.Injective anonymousId := by
  intro n m h
  have hfront : "<anonymous-schema-" ++ toString n = "<anonymous-schema-" ++ toString m :=
    (String.append_left_inj ">").1 h
  have hnumber : toString n = toString m := (String.append_right_inj "<anonymous-schema-").1 hfront
  rw [Nat.toString_eq_ofList_toDigits, Nat.toString_eq_ofList_toDigits,
    String.ofList_inj] at hnumber
  rw [← Nat.ofDigitChars_ten_toDigits (n := n), hnumber, Nat.ofDigitChars_ten_toDigits]

section Numbered

variable {objects : List Fields} {n m : Nat}

theorem Numbered.lookup_of_identifier? (h : Numbered objects n m) :
    ∀ fields ∈ objects, ∀ id, identifier? fields = some id →
    fields.lookup key = some (.string id) := by
  induction h with
  | nil => simp
  | stated hid hkey _ ih =>
      refine List.forall_mem_cons.2 ⟨fun other hother => ?_, ih⟩
      rw [hkey, Option.some.inj (hid.symm.trans hother)]
  | counted hid _ _ ih =>
      refine List.forall_mem_cons.2 ⟨fun other hother => ?_, ih⟩
      rw [hid] at hother
      cases hother

theorem Numbered.lookups_anonymous (h : Numbered objects n m) :
    (anonymous objects).map (·.lookup key) =
      (List.range' (n + 1) (anonymous objects).length).map fun k =>
        some (.string (anonymousId k)) := by
  induction h with
  | nil => rfl
  | @stated fields rest id n m hid _ _ ih =>
      have hskip : anonymous (fields :: rest) = anonymous rest := by simp [anonymous, hid]
      rw [hskip, ih]
  | @counted fields rest n m hid hkey _ ih =>
      have hcount : anonymous (fields :: rest) = fields :: anonymous rest := by
        simp [anonymous, hid]
      rw [hcount, List.map_cons, ih, hkey, List.length_cons, List.range'_succ, List.map_cons]

/-- Every number up to the last one is used once, and no other number is used. -/
theorem Numbered.count_anonymous (h : Numbered objects 0 m) (k : Nat) :
    ((anonymous objects).map (·.lookup key)).count (some (.string (anonymousId k))) =
      if 1 ≤ k ∧ k ≤ (anonymous objects).length then 1 else 0 := by
  have hinjective : Function.Injective fun k => some (Json.string (anonymousId k)) := by
    intro a b hab
    exact anonymousId_injective (Json.string.inj (Option.some.inj hab))
  have hnodup : (List.range' 1 (anonymous objects).length).Nodup := List.nodup_range' 1
  have hmem : k ∈ List.range' 1 (anonymous objects).length ↔
      1 ≤ k ∧ k ≤ (anonymous objects).length := by
    rw [List.mem_range'_1]
    omega
  rw [h.lookups_anonymous, Nat.zero_add, List.count_map_of_injective _ _ hinjective, hnodup.count]
  simp only [hmem]

end Numbered

structure Identified (schemas : List Json) (n m : Nat) : Prop where
  numbered : Numbered (schemas.flatMap schemasOf) n m
  keyedOnly : ∀ schema ∈ schemas, KeyedOnly (schemasOf schema) schema

theorem Identified.nil (n : Nat) : Identified [] n n := ⟨.nil n, by simp⟩

theorem Identified.append {front back : List Json} {n m k : Nat} (h : Identified front n m)
    (h' : Identified back m k) : Identified (front ++ back) n k := by
  refine ⟨?_, List.forall_mem_append.2 ⟨h.keyedOnly, h'.keyedOnly⟩⟩
  rw [List.flatMap_append]
  exact h.numbered.append h'.numbered

theorem identified_annotate {schema : Json} (h : Free schema) (n : Nat) :
    Identified [(annotate schema n).1] n (annotate schema n).2 := by
  refine ⟨?_, fun other hother => ?_⟩
  · rw [List.flatMap_singleton]
    exact numbered_annotate h n
  · rw [List.mem_singleton.1 hother]
    exact keyedOnly_annotate h n

end SchemaIds

/-! ## Message schemas -/

def Message.schemas (message : Message) : List Json := message.payload :: message.headers.toList

def Operation.messageSchemas (operation : Option Operation) : List Json :=
  operation.toList.flatMap (·.message.schemas)

def Channel.messageSchemas (channel : Channel) : List Json :=
  Operation.messageSchemas channel.publish ++ Operation.messageSchemas channel.subscribe

def Document.messageSchemas (document : Document) : List Json :=
  document.channels.flatMap (·.messageSchemas)

/-- All schemas of a document, each before its subschemas. -/
def Document.allSchemas (document : Document) : List Fields :=
  document.messageSchemas.flatMap SchemaIds.schemasOf

namespace Document

open Json SchemaIds

/-- No schema of the message has the reserved key before it is annotated. -/
def FreeMessage (message : Message) : Prop :=
  Free message.originalPayload ∧ ∀ headers ∈ message.headers, Free headers

def FreeChannel (channel : Channel) : Prop :=
  (∀ operation ∈ channel.publish, FreeMessage operation.message) ∧
    ∀ operation ∈ channel.subscribe, FreeMessage operation.message

theorem free_empty : Free (.object []) := by
  intro above fields hinside
  cases hinside with
  | self => simp
  | field hmem => cases hmem

theorem freeMessage_messageOf {fields : Fields} (h : Free (.object fields)) :
    FreeMessage (messageOf fields) := by
  have hvalue {name : String} {value : Json} (hlookup : fields.lookup name = some value) :
      Free value :=
    h.of_field (Fields.mem_of_lookup hlookup)
  refine ⟨?_, fun headers hheaders => hvalue hheaders⟩
  rw [messageOf]
  cases hpayload : fields.lookup "payload" with
  | none => exact free_empty
  | some payload => exact hvalue hpayload

theorem freeMessage_of_readOperation {location : Location} {fields : Fields} {kind : String}
    (h : Free (.object fields)) {read : Option Operation}
    (hread : readOperation location (fields.lookup kind) = pure read) :
    ∀ operation ∈ read, FreeMessage operation.message := by
  rintro operation rfl
  obtain ⟨inner, hinner, hmessage, -⟩ := readOperation_eq_some hread
  have hfree : Free (.object inner) := h.of_field (Fields.mem_of_lookup hinner)
  rcases readMessage_eq_pure.1 hmessage with ⟨-, hempty⟩ | ⟨spelled, hspelled, -, heq⟩
  · rw [hempty]
    exact ⟨free_empty, by simp [emptyMessage]⟩
  · rw [heq]
    exact freeMessage_messageOf (hfree.of_field (Fields.mem_of_lookup hspelled))

theorem ReadsFields.freeChannel {name : String} {fields : Fields} {channel : Channel}
    (h : ReadsFields name fields channel) (hfree : Free (.object fields)) : FreeChannel channel :=
  ⟨freeMessage_of_readOperation hfree h.publish, freeMessage_of_readOperation hfree h.subscribe⟩

theorem identified_annotateMessage {message : Message} (h : FreeMessage message) (n : Nat) :
    Identified (annotateMessage message n).1.schemas n (annotateMessage message n).2 := by
  have hpayload := identified_annotate h.1 n
  rw [annotateMessage]
  cases hheaders : message.headers with
  | none => simpa [Message.schemas, hheaders] using hpayload
  | some headers => exact hpayload.append (identified_annotate (h.2 headers hheaders) _)

theorem identified_annotateOperation {operation : Option Operation}
    (h : ∀ inner ∈ operation, FreeMessage inner.message) (n : Nat) :
    Identified (Operation.messageSchemas (annotateOperation operation n).1) n
      (annotateOperation operation n).2 := by
  cases operation with
  | none => exact .nil n
  | some inner =>
      rw [annotateOperation, Operation.messageSchemas, Option.toList_some, List.flatMap_singleton]
      exact identified_annotateMessage (h inner rfl) n

theorem identified_annotateChannels {channels : List Channel}
    (h : ∀ channel ∈ channels, FreeChannel channel) (n : Nat) :
    Identified ((annotateChannels channels n).1.flatMap (·.messageSchemas)) n
      (annotateChannels channels n).2 := by
  induction channels generalizing n with
  | nil => exact .nil n
  | cons channel rest ih =>
      obtain ⟨⟨hpublish, hsubscribe⟩, hrest⟩ := List.forall_mem_cons.1 h
      rw [annotateChannels, List.flatMap_cons]
      have hfirst :=
        (identified_annotateOperation hpublish n).append (identified_annotateOperation hsubscribe _)
      exact hfirst.append (ih hrest _)

/-- The schemas of an accepted document whose channels do not have the reserved key already are
numbered without a gap: in their order, those without an `$id` carry the numbers from 1 to their
count, so each of these numbers is used once and no other one is.  A schema with an `$id` carries
it and takes no number.  Nothing else in the message schemas has the reserved key. -/
theorem schemas_numbered_in_order {root : Json} {document : Document}
    (h : ofJson root = .ok document)
    (hfree : ∀ entries, root.get? "channels" = some (.object entries) → ∀ entry ∈ entries, ∀ value,
      resolveReferences root entry.2 = .ok value → Free value) :
    (anonymous document.allSchemas).map (·.lookup key) =
        (List.range' 1 (anonymous document.allSchemas).length).map
          (fun k => some (.string (anonymousId k))) ∧
      (∀ k, ((anonymous document.allSchemas).map (·.lookup key)).count
        (some (.string (anonymousId k))) =
        if 1 ≤ k ∧ k ≤ (anonymous document.allSchemas).length then 1 else 0) ∧
      (∀ schema ∈ document.allSchemas, ∀ id, identifier? schema = some id →
        schema.lookup key = some (.string id)) ∧
      ∀ schema ∈ document.messageSchemas, ∀ above fields, Inside schema above fields →
        key ∈ Fields.keys fields → fields ∈ schemasOf schema := by
  obtain ⟨fields, version, channels, rfl, hread, rfl⟩ := ofJson_eq_ok.1 h
  obtain ⟨entries, hentries, hreads⟩ := hread.entries
  have hchannels : ∀ channel ∈ channels, FreeChannel channel := by
    intro channel hchannel
    obtain ⟨entry, hentry, inner, hresolved, hfields⟩ := exists_left_of_forall₂ hreads hchannel
    exact hfields.freeChannel (hfree entries hentries entry hentry _ hresolved)
  have hidentified := identified_annotateChannels hchannels 0
  exact ⟨hidentified.numbered.lookups_anonymous, hidentified.numbered.count_anonymous,
    hidentified.numbered.lookup_of_identifier?, hidentified.keyedOnly⟩

def lampMessage : Fields :=
  [("payload", .object
    [("allOf", .array [.object []]),
      ("properties", .object
        [("name", .object [("type", .string "string")]),
          ("tag", .object
            [("$id", .string "tag"),
              ("items", .array [.object [], .object [("not", .object [])]])])])]),
    ("headers", .object [("properties", .object [("trace", .object [])])])]

def lampFields : Fields :=
  [("publish", .object [("message", .object lampMessage)]), ("subscribe", .object [])]

def meterFields : Fields :=
  [("subscribe", .object [("message", .object [("payload", .object [("$id", .string "meter")])])])]

def operationOf (message : Message) : Operation := ⟨none, none, [], none, message, []⟩

def lampDescription : Json :=
  describing [("lamps", .object lampFields), ("meters", .object meterFields)] []

/-- Eleven schemas in all, two of them with an `$id`. -/
theorem schemas_numbered_in_order_lamps : ∃ document, ofJson lampDescription = .ok document ∧
    (∀ entries, lampDescription.get? "channels" = some (.object entries) →
      ∀ entry ∈ entries, ∀ value, resolveReferences lampDescription entry.2 = .ok value →
      Free value) ∧
    document.allSchemas.length = 11 ∧
    (anonymous document.allSchemas).map (·.lookup key) =
      (List.range' 1 9).map fun k => some (.string (anonymousId k)) := by
  have hresolved {fields : Fields} (h : (Json.object fields).references = []) :
      resolveReferences lampDescription (.object fields) = .ok (.object fields) :=
    Reference.resolveReferences_self h
  have hlamps : readChannel "lamps" (.object lampFields) = pure (some ⟨"lamps", none, [],
      some (operationOf (messageOf lampMessage)), some (operationOf emptyMessage)⟩) :=
    readChannel_eq_pure rfl (by decide +kernel) (readOperation_eq_pure rfl rfl (by decide))
      (readOperation_eq_pure rfl rfl (by decide))
  have hmeters : readChannel "meters" (.object meterFields) = pure (some ⟨"meters", none, [], none,
      some (operationOf (messageOf [("payload", .object [("$id", .string "meter")])]))⟩) :=
    readChannel_eq_pure rfl (by decide +kernel) rfl (readOperation_eq_pure rfl rfl (by decide))
  obtain ⟨_, ⟨⟩, hreadLamps⟩ := readChannel_eq_some.1 hlamps
  obtain ⟨_, ⟨⟩, hreadMeters⟩ := readChannel_eq_some.1 hmeters
  obtain ⟨document, hdocument, hchannels⟩ := ofJson_describing
    (.cons ⟨_, hresolved rfl, hreadLamps⟩ (.cons ⟨_, hresolved rfl, hreadMeters⟩ .nil)) rfl
  have hfree {fields : Fields} (hreferences : (Json.object fields).references = [])
      (hstrip : strip (.object fields) = .object fields) {value : Json}
      (hvalue : resolveReferences lampDescription (.object fields) = .ok value) : Free value := by
    have hsame : Json.object fields = value :=
      Except.ok.inj ((hresolved hreferences).symm.trans hvalue)
    rw [← hsame]
    exact (strip_eq_iff.1 hstrip).2
  have hentries : ∀ entries, lampDescription.get? "channels" = some (.object entries) →
      ∀ entry ∈ entries, ∀ value, resolveReferences lampDescription entry.2 = .ok value →
        Free value := by
    intro entries hentries entry hentry value hvalue
    have hchannels : lampDescription.get? "channels" =
        some (.object [("lamps", .object lampFields), ("meters", .object meterFields)]) := rfl
    rw [← Json.object.inj (Option.some.inj (hchannels.symm.trans hentries))] at hentry
    rcases List.mem_pair.1 hentry with heq | heq
    · rw [heq] at hvalue
      exact hfree rfl rfl hvalue
    · rw [heq] at hvalue
      exact hfree rfl rfl hvalue
  have hall : document.allSchemas.length = 11 ∧ (anonymous document.allSchemas).length = 9 := by
    rw [allSchemas, messageSchemas, hchannels]
    simp [annotateChannels, annotateOperation, annotateMessage, annotate,
      annotatePositions, annotateAt, annotateItems, annotateFields, identify, positions,
      List.lookup_cons, List.lookup_nil, Fields.contains, Fields.insert, SchemaIds.key, string?,
      operationOf, messageOf, emptyMessage, lampMessage, Fields.string?, Channel.messageSchemas,
      Operation.messageSchemas, Message.schemas, schemasOf_object, subschemas, subschemasAt, held]
    rfl
  have hnumbered := (schemas_numbered_in_order hdocument hentries).1
  rw [hall.2] at hnumbered
  exact ⟨document, hdocument, hentries, hall.1, hnumbered⟩

end Document

end ChannelGateway
