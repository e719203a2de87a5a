import ChannelGateway.Document.Source
import ChannelGateway.Proofs.Document.Acceptance
/-!
# Reading serialized documents back

What is absent in a document is written as null, and a null is read as absent.  A header schema is
any JSON value, so one that is null itself is lost in the serialized form; everything else of an
accepted document is read back as it was.
-/

namespace ChannelGateway

namespace Serialized

/-! ## Fields, one after the other -/

variable {α : Type} {read : Json → Option α} {key : String} {value : Json} {rest : Fields}

theorem required?_cons_self : required? read ((key, value) :: rest) key = read value := by
  simp only [required?, List.lookup_cons_self, Option.bind_some]

theorem required?_cons_of_ne {other : String} (hne : other ≠ key) :
    required? read ((other, value) :: rest) key = required? read rest key := by
  have hkey : (key == other) = false := beq_false_of_ne (Ne.symm hne)
  simp only [required?, List.lookup_cons, hkey]

theorem optional?_cons_of_ne {other : String} (hne : other ≠ key) :
    optional? read ((other, value) :: rest) key = optional? read rest key := by
  have hkey : (key == other) = false := beq_false_of_ne (Ne.symm hne)
  simp only [optional?, List.lookup_cons, hkey]

theorem optional?_cons_null : optional? read ((key, .null) :: rest) key = some none := by
  simp only [optional?, List.lookup_cons_self]

theorem optional?_cons_self (hnull : value ≠ .null) :
    optional? read ((key, value) :: rest) key = (read value).map some := by
  unfold optional?
  rw [List.lookup_cons_self]
  split
  · next hnone => cases hnone
  · next hsome => exact absurd (Option.some.inj hsome) hnull
  · next hsome => rw [Option.some.inj hsome]

theorem optional?_cons_ofOption {write : α → Json} {restore : α → α} {optional : Option α}
    (hread : ∀ a ∈ optional, read (write a) = some (restore a)) (hnull : ∀ a, write a ≠ .null) :
    optional? read ((key, ofOption write optional) :: rest) key = some (optional.map restore) := by
  cases optional with
  | none => exact optional?_cons_null
  | some a =>
    rw [ofOption, optional?_cons_self (hnull a), hread a rfl, Option.map_some, Option.map_some]

theorem optional?_cons_string (text : Option String) :
    optional? Json.string? ((key, Json.ofString? text) :: rest) key = some text := by
  cases text with
  | none => exact optional?_cons_null
  | some text => exact optional?_cons_self Json.noConfusion

theorem list?_map {write : α → Json} {restore : α → α} {values : List α}
    (hread : ∀ a ∈ values, read (write a) = some (restore a)) :
    list? read (.array (values.map write)) = some (values.map restore) := by
  simp only [list?, Json.items?, Option.bind_some]
  induction values with
  | nil => rfl
  | cons a rest ih =>
      obtain ⟨hfirst, hrest⟩ := List.forall_mem_cons.1 hread
      rw [List.map_cons, List.mapM_cons, hfirst, ih hrest]
      rfl

end Serialized

theorem Fields.sorted_sorted (fields : Fields) : fields.sorted.sorted = fields.sorted := by
  apply List.mergeSort_of_pairwise
  apply List.pairwise_mergeSort
  · intro a b c hab hbc
    rw [decide_eq_true_eq] at hab hbc ⊢
    exact String.le_trans hab hbc
  · intro a b
    rw [Bool.or_eq_true, decide_eq_true_eq, decide_eq_true_eq]
    exact String.le_total a.1 b.1

/-! ## What is read back -/

open Serialized

/-- The message that is read back: a header schema that is null is absent. -/
def Message.readBack (m : Message) : Message := { m with headers := m.headers.filter (· ≠ .null) }

def Operation.readBack (o : Operation) : Operation := { o with message := o.message.readBack }

def Channel.readBack (c : Channel) : Channel :=
  { c with
    publish := c.publish.map Operation.readBack, subscribe := c.subscribe.map Operation.readBack }

def Document.readBack (d : Document) : Document :=
  { d with channels := d.channels.map Channel.readBack }

def Channel.operations (c : Channel) : List Operation := c.publish.toList ++ c.subscribe.toList

theorem Parameter.ofJson?_toJson (p : Parameter) : ofJson? p.toJson = some p := by
  simp [toJson, ofJson?, Json.fields?, required?_cons_self, optional?_cons_of_ne,
    optional?_cons_string, Json.string?, List.lookup_cons]

theorem Message.ofJson?_toJson (m : Message) : ofJson? m.toJson = some m.readBack := by
  have hheaders : optional? some [("headers", m.headers.getD .null)] "headers" =
      some (m.headers.filter (· ≠ .null)) := by
    cases m.headers with
    | none => exact optional?_cons_null
    | some headers =>
        by_cases hnull : headers = .null
        · rw [hnull]
          exact optional?_cons_null
        · rw [Option.getD_some, optional?_cons_self hnull, Option.filter_some,
            if_pos (decide_eq_true hnull), Option.map_some]
  simp [toJson, ofJson?, Json.fields?, optional?_cons_of_ne, optional?_cons_string,
    List.lookup_cons, hheaders, readBack]

theorem Operation.ofJson?_toJson {o : Operation} (hsorted : o.extensions.sorted = o.extensions) :
    ofJson? o.toJson = some o.readBack := by
  have htags : list? Json.string? (.array (o.tags.map .string)) = some o.tags := by
    have hread : ∀ tag ∈ o.tags, Json.string? (.string tag) = some (id tag) := fun _ _ => rfl
    rw [list?_map hread, List.map_id]
  simp [toJson, ofJson?, Json.fields?, required?_cons_of_ne, required?_cons_self,
    optional?_cons_of_ne, optional?_cons_string, htags, Message.ofJson?_toJson, hsorted, readBack]

theorem Channel.ofJson?_toJson {c : Channel}
    (hsorted : ∀ o ∈ c.operations, o.extensions.sorted = o.extensions) :
    ofJson? c.toJson = some c.readBack := by
  have hoperation (operation : Option Operation) (hkept : ∀ o ∈ operation, o ∈ c.operations)
      (key : String) (rest : Fields) :
      optional? Operation.ofJson? ((key, ofOption Operation.toJson operation) :: rest) key =
        some (operation.map Operation.readBack) := by
    apply optional?_cons_ofOption
    · exact fun o ho => Operation.ofJson?_toJson (hsorted o (hkept o ho))
    · exact fun _ => Json.noConfusion
  have hpublish := hoperation c.publish fun o ho => List.mem_append_left _ (Option.mem_toList.2 ho)
  have hsubscribe :=
    hoperation c.subscribe fun o ho => List.mem_append_right _ (Option.mem_toList.2 ho)
  have hparameters : list? Parameter.ofJson? (.array (c.parameters.map Parameter.toJson)) =
      some c.parameters := by
    have hread : ∀ p ∈ c.parameters, Parameter.ofJson? p.toJson = some (id p) :=
      fun p _ => p.ofJson?_toJson
    rw [list?_map hread, List.map_id]
  simp [toJson, ofJson?, Json.fields?, required?_cons_of_ne, required?_cons_self,
    optional?_cons_of_ne, optional?_cons_string, Json.string?, hpublish, hsubscribe,
    hparameters, readBack]

theorem Document.ofSerialized?_toJson {d : Document} (hsorted : d.extensions.sorted = d.extensions)
    (hoperations : ∀ c ∈ d.channels, ∀ o ∈ c.operations, o.extensions.sorted = o.extensions) :
    ofSerialized? d.toJson = some d.readBack := by
  have hchannels : list? Channel.ofJson? (.array (d.channels.map Channel.toJson)) =
      some (d.channels.map Channel.readBack) :=
    list?_map fun c hc => Channel.ofJson?_toJson (hoperations c hc)
  simp [toJson, ofSerialized?, Json.fields?, required?_cons_of_ne, required?_cons_self,
    optional?_cons_of_ne, optional?_cons_string, Json.string?, hchannels, hsorted, readBack]

/-! ## What is lost -/

theorem Message.readBack_eq_self_iff {m : Message} : m.readBack = m ↔ m.headers ≠ some .null := by
  obtain ⟨name, contentType, payload, originalPayload, headers⟩ := m
  simp only [readBack, mk.injEq, true_and]
  cases headers with
  | none => simp
  | some headers =>
      by_cases hnull : headers = .null
      · simp [hnull]
      · simp [Option.filter_some, hnull]

theorem Operation.readBack_eq_self_iff {o : Operation} :
    o.readBack = o ↔ o.message.headers ≠ some .null := by
  rw [← Message.readBack_eq_self_iff]
  constructor
  · intro h
    exact congrArg Operation.message h
  · intro h
    rw [readBack, h]

theorem Channel.readBack_eq_self_iff {c : Channel} :
    c.readBack = c ↔ ∀ o ∈ c.operations, o.message.headers ≠ some .null := by
  have hoperation (operation : Option Operation) :
      operation.map Operation.readBack = operation ↔
        ∀ o ∈ operation.toList, o.message.headers ≠ some .null := by
    cases operation with
    | none => simp
    | some o => simp [Operation.readBack_eq_self_iff]
  simp only [operations, List.forall_mem_append, ← hoperation]
  constructor
  · intro h
    exact ⟨congrArg Channel.publish h, congrArg Channel.subscribe h⟩
  · rintro ⟨hpublish, hsubscribe⟩
    rw [readBack, hpublish, hsubscribe]

theorem Document.readBack_eq_self_iff {d : Document} :
    d.readBack = d ↔ ∀ c ∈ d.channels, ∀ o ∈ c.operations, o.message.headers ≠ some .null := by
  have hchannels : d.readBack = d ↔ d.channels.map Channel.readBack = d.channels.map id := by
    rw [List.map_id]
    constructor
    · intro h
      exact congrArg Document.channels h
    · intro h
      rw [readBack, h]
  rw [hchannels, List.map_inj_left]
  simp only [id, Channel.readBack_eq_self_iff]

namespace Document

/-! ## Accepted documents -/

theorem extensions_of_readOperation {location : Location} {value : Option Json}
    {operation : Operation} (h : readOperation location value = pure (some operation)) :
    operation.extensions.sorted = operation.extensions := by
  have hvalue := (Checked.eq_pure_iff.1 h).1
  unfold readOperation at hvalue
  split at hvalue
  · simp at hvalue
  · next fields =>
      simp only [Checked.value_bind, Checked.value_pure, Option.some.injEq] at hvalue
      rw [← hvalue]
      exact Fields.sorted_sorted _
  · simp at hvalue

theorem extensions_of_mem_annotateOperation {location : Location} {value : Option Json}
    {operation : Option Operation} (h : readOperation location value = pure operation) {n : Nat}
    {annotated : Operation} (hannotated : annotated ∈ (annotateOperation operation n).1) :
    annotated.extensions.sorted = annotated.extensions := by
  cases operation with
  | none => cases hannotated
  | some operation =>
      have hsorted := extensions_of_readOperation h
      cases hannotated
      exact hsorted

theorem extensions_of_ofJson {root : Json} {document : Document} (h : ofJson root = .ok document) :
    document.extensions.sorted = document.extensions ∧
      ∀ c ∈ document.channels, ∀ o ∈ c.operations, o.extensions.sorted = o.extensions := by
  constructor
  · obtain ⟨fields, version, channels, -, -, rfl⟩ := ofJson_eq_ok.1 h
    exact Fields.sorted_sorted _
  · intro c hc o ho
    obtain ⟨_, _, channel, -, -, ⟨fields, -, hread⟩, n, m, rfl⟩ := exists_reads_of_mem_channels h hc
    rcases List.mem_append.1 ho with ho | ho
    · exact extensions_of_mem_annotateOperation hread.publish (Option.mem_toList.1 ho)
    · exact extensions_of_mem_annotateOperation hread.subscribe (Option.mem_toList.1 ho)

/-- The serialized form of an accepted document is read, and what is read back lacks nothing but
header schemas that are null. -/
theorem ofSerialized?_of_ofJson {root : Json} {document : Document}
    (h : ofJson root = .ok document) :
    ofSerialized? document.toJson = some document.readBack := by
  obtain ⟨hsorted, hoperations⟩ := extensions_of_ofJson h
  exact ofSerialized?_toJson hsorted hoperations

end Document

end ChannelGateway
