import ChannelGateway.Proofs.Document.Identifiers
import ChannelGateway.Proofs.Json.Occurrence
/-!
# Subschemas

The keywords of a schema hold its subschemas, some under names, some in arrays.  Annotating a
schema identifies the schema itself and then annotates these, in the order of the keywords, as the
elements of one list.
-/

namespace ChannelGateway

namespace SchemaIds

open Json

/-! ## Subschemas -/

def held : Position → Json → List Json
  | .named, .object children => children.map Prod.snd
  | .single, .array children => children
  | .single, child => [child]
  | .listed, .array children => children
  | _, _ => []

/-- The subschemas of an object under some keywords, in the order of these. -/
def subschemasAt (keywords : List (String × Position)) (fields : Fields) : List Json :=
  keywords.flatMap fun keyword => (fields.lookup keyword.1).toList.flatMap (held keyword.2)

def subschemas (fields : Fields) : List Json := subschemasAt positions fields

theorem occurs_of_mem_held {position : Position} {value child : Json}
    (h : child ∈ held position value) :
    Occurs value child := by
  unfold held at h
  split at h
  · obtain ⟨field, hfield, rfl⟩ := List.mem_map.1 h
    exact .field hfield (.refl _)
  · exact .item h (.refl _)
  · rw [List.mem_singleton.1 h]
    exact .refl _
  · exact .item h (.refl _)
  · cases h

theorem occurs_of_mem_subschemas {fields : Fields} {child : Json} (h : child ∈ subschemas fields) :
    ∃ field ∈ fields, Occurs field.2 child := by
  obtain ⟨keyword, -, h⟩ := List.mem_flatMap.1 h
  obtain ⟨value, hvalue, hchild⟩ := List.mem_flatMap.1 h
  exact ⟨(keyword.1, value), Fields.mem_of_lookup (Option.mem_toList.1 hvalue),
    occurs_of_mem_held hchild⟩

theorem mem_subschemas {name : String} {position : Position} {fields : Fields} {value child : Json}
    (hposition : (name, position) ∈ positions) (hvalue : fields.lookup name = some value)
    (hchild : child ∈ held position value) : child ∈ subschemas fields :=
  List.mem_flatMap.2 ⟨_, hposition, List.mem_flatMap.2 ⟨value, Option.mem_toList.2 hvalue, hchild⟩⟩

theorem size_lt_of_mem_subschemas {fields : Fields} {child : Json} (h : child ∈ subschemas fields) :
    child.size < (Json.object fields).size := by
  obtain ⟨⟨name, value⟩, hfield, hchild⟩ := occurs_of_mem_subschemas h
  have hle : child.size ≤ value.size := hchild.size_le
  have hvalue := size_le_sizeFields hfield
  rw [size]
  omega

/-- The objects that are schemas in a value: the value itself and then, one after the other, its
subschemas with theirs. -/
def schemasOf (schema : Json) : List Fields :=
  match schema with
  | .object fields => fields :: (subschemas fields).attach.flatMap fun child => schemasOf child.1
  | _ => []
termination_by schema.size
decreasing_by exact size_lt_of_mem_subschemas child.2

theorem schemasOf_object (fields : Fields) :
    schemasOf (.object fields) = fields :: (subschemas fields).flatMap schemasOf := by
  rw [schemasOf, List.flatMap_subtype]
  · rw [List.unattach_attach]
  · exact fun _ _ => rfl

theorem Free.of_occurs {whole part : Json} (h : Free whole) (hpart : Occurs whole part) :
    Free part := by
  induction hpart with
  | refl => exact h
  | item hmem _ ih => exact ih (h.of_item hmem)
  | field hmem _ ih => exact ih (h.of_field hmem)

theorem Free.of_mem_subschemas {fields : Fields} (h : Free (.object fields)) {child : Json}
    (hchild : child ∈ subschemas fields) : Free child := by
  obtain ⟨⟨name, value⟩, hfield, hoccurs⟩ := occurs_of_mem_subschemas hchild
  exact (h.of_field hfield).of_occurs hoccurs

/-! ## Annotating the subschemas of an object in order -/

theorem annotateItems_cons (item : Json) (rest : List Json) (n : Nat) :
    annotateItems (item :: rest) n =
      ((annotate item n).1 :: (annotateItems rest (annotate item n).2).1,
        (annotateItems rest (annotate item n).2).2) := by
  rw [annotateItems]

theorem annotateItems_append (front back : List Json) (n : Nat) :
    annotateItems (front ++ back) n =
      ((annotateItems front n).1 ++ (annotateItems back (annotateItems front n).2).1,
        (annotateItems back (annotateItems front n).2).2) := by
  induction front generalizing n with
  | nil => rw [List.nil_append, annotateItems, List.nil_append]
  | cons item rest ih =>
      rw [List.cons_append, annotateItems_cons, ih, annotateItems_cons, List.cons_append]

theorem exists_of_mem_annotateItems {items : List Json} {value : Json} {n : Nat}
    (h : value ∈ (annotateItems items n).1) : ∃ item ∈ items, ∃ k, value = (annotate item k).1 := by
  induction items generalizing n with
  | nil => simp [annotateItems] at h
  | cons item rest ih =>
      rw [annotateItems_cons] at h
      rcases List.mem_cons.1 h with rfl | hrest
      · exact ⟨item, List.mem_cons_self, n, rfl⟩
      · obtain ⟨other, hother, k, hvalue⟩ := ih hrest
        exact ⟨other, List.mem_cons_of_mem _ hother, k, hvalue⟩

theorem annotateItems_map_snd (fields : Fields) (n : Nat) :
    annotateItems (fields.map Prod.snd) n =
      ((annotateFields fields n).1.map Prod.snd, (annotateFields fields n).2) := by
  induction fields generalizing n with
  | nil => rw [annotateFields, List.map_nil, annotateItems]
  | cons field rest ih => rw [List.map_cons, annotateItems_cons, ih, annotateFields, List.map_cons]

theorem keys_annotateFields (fields : Fields) (n : Nat) :
    Fields.keys (annotateFields fields n).1 = Fields.keys fields := by
  induction fields generalizing n with
  | nil => rw [annotateFields]
  | cons field rest ih => rw [annotateFields, Fields.keys_cons, ih, Fields.keys_cons]

theorem annotateItems_held (position : Position) (child : Json) (n : Nat) :
    annotateItems (held position child) n =
      (held position (annotateAt position child n).1, (annotateAt position child n).2) := by
  cases position with
  | named =>
      cases child with
      | object children =>
          rw [annotateAt]
          exact annotateItems_map_snd children n
      | _ => simp [annotateAt, held, annotateItems]
  | listed => cases child <;> simp [annotateAt, held, annotateItems]
  | single =>
      cases child <;> simp [annotateAt, held, annotateItems, annotate]

section Positions

variable {keywords : List (String × Position)} {fields result : Fields}

theorem lookup_annotatePositions_of_not_mem {name : String} (h : name ∉ keywords.map Prod.fst)
    (n : Nat) :
    (annotatePositions keywords fields result n).1.lookup name = result.lookup name := by
  induction keywords generalizing result n with
  | nil => rw [annotatePositions]
  | cons keyword rest ih =>
      rw [List.map_cons, List.mem_cons, not_or] at h
      rw [annotatePositions]
      split
      · exact ih h.2 n
      · rw [ih h.2, Fields.lookup_insert_of_ne h.1]

/-- What stands in an annotated object is a field that was there before, or an annotated value. -/
theorem mem_annotatePositions (hkeywords : (keywords.map Prod.fst).Nodup)
    {field : String × Json} {n : Nat} (h : field ∈ (annotatePositions keywords fields result n).1) :
    field ∈ result ∨ (annotatePositions keywords fields result n).1.lookup field.1 = some field.2 ∧
      ∃ position child k, (field.1, position) ∈ keywords ∧ fields.lookup field.1 = some child ∧
        field.2 = (annotateAt position child k).1 := by
  induction keywords generalizing result n with
  | nil =>
      rw [annotatePositions] at h
      exact Or.inl h
  | cons keyword rest ih =>
      obtain ⟨name, position⟩ := keyword
      rw [List.map_cons] at hkeywords
      obtain ⟨hname, hrest⟩ := List.nodup_cons.1 hkeywords
      rw [annotatePositions] at h ⊢
      split at h
      · rcases ih hrest h with hbefore | ⟨hlookup, kind, child, k, hmem, hfound⟩
        · exact Or.inl hbefore
        · exact Or.inr ⟨hlookup, kind, child, k, List.mem_cons_of_mem _ hmem, hfound⟩
      · next child hchild =>
          rcases ih hrest h with hwritten | ⟨hlookup, kind, child, k, hmem, hfound⟩
          · rcases Fields.mem_insert hwritten with rfl | hbefore
            · refine Or.inr ⟨?_, position, child, n, List.mem_cons_self, hchild, rfl⟩
              rw [lookup_annotatePositions_of_not_mem hname, Fields.lookup_insert_self]
            · exact Or.inl hbefore
          · exact Or.inr ⟨hlookup, kind, child, k, List.mem_cons_of_mem _ hmem, hfound⟩

/-- No keyword is annotated twice, so each of them is read where nothing has been written yet. -/
theorem annotateItems_subschemasAt (hkeywords : (keywords.map Prod.fst).Nodup)
    (hresult : ∀ name ∈ keywords.map Prod.fst, result.lookup name = fields.lookup name) (n : Nat) :
    annotateItems (subschemasAt keywords fields) n =
      (subschemasAt keywords (annotatePositions keywords fields result n).1,
        (annotatePositions keywords fields result n).2) := by
  induction keywords generalizing result n with
  | nil =>
    rw [annotatePositions, subschemasAt, List.flatMap_nil, annotateItems, subschemasAt,
      List.flatMap_nil]
  | cons keyword rest ih =>
      obtain ⟨name, position⟩ := keyword
      rw [List.map_cons] at hkeywords hresult
      obtain ⟨hname, hrest⟩ := List.nodup_cons.1 hkeywords
      obtain ⟨hfirst, hothers⟩ := List.forall_mem_cons.1 hresult
      rw [annotatePositions]
      have hcons (own : Fields) : subschemasAt ((name, position) :: rest) own =
          (own.lookup name).toList.flatMap (held position) ++ subschemasAt rest own :=
            List.flatMap_cons
      rw [hcons, hcons]
      split
      · next hnone =>
          rw [lookup_annotatePositions_of_not_mem hname, hfirst, hnone]
          exact ih hrest hothers n
      · next child hchild =>
          have hwritten : ∀ other ∈ rest.map Prod.fst,
              (Fields.insert name (annotateAt position child n).1 result).lookup other =
                fields.lookup other := by
            intro other hother
            rw [Fields.lookup_insert_of_ne (ne_of_mem_of_not_mem hother hname)]
            exact hothers other hother
          rw [lookup_annotatePositions_of_not_mem hname, Fields.lookup_insert_self, hchild,
            Option.toList_some, Option.toList_some, List.flatMap_singleton, List.flatMap_singleton,
            annotateItems_append, annotateItems_held, ih hrest hwritten]

end Positions

/-- What becomes of an object whose annotation counts on from `n`, and the last number
that is used. -/
structure Annotated (fields : Fields) (n : Nat) (annotated : Fields) (m : Nat) : Prop where
  /-- Its subschemas are annotated one after the other. -/
  subschemas : annotateItems (subschemas fields) (identify fields n).2 = (subschemas annotated, m)
  /-- It keeps its other fields, and its own identifier. -/
  own : ∀ name ∉ positions.map Prod.fst, annotated.lookup name = (identify fields n).1.lookup name
  written : ∀ field ∈ annotated, field ∈ (identify fields n).1 ∨
    annotated.lookup field.1 = some field.2 ∧ ∃ position child k, (field.1, position) ∈ positions ∧
      fields.lookup field.1 = some child ∧ field.2 = (annotateAt position child k).1

theorem exists_annotated (fields : Fields) (n : Nat) :
    ∃ annotated m, annotate (.object fields) n = (.object annotated, m) ∧
      Annotated fields n annotated m := by
  have hdistinct : (positions.map Prod.fst).Nodup := by decide
  refine ⟨_, _, by rw [annotate], ?_, fun name hname => lookup_annotatePositions_of_not_mem hname _,
    fun field hfield => mem_annotatePositions hdistinct hfield⟩
  apply annotateItems_subschemasAt hdistinct
  intro name hname
  have hne : name ≠ key := by
    rintro rfl
    exact absurd hname (by decide)
  unfold identify
  split
  · rfl
  · split
    · exact Fields.lookup_insert_of_ne hne _ _
    · exact Fields.lookup_insert_of_ne hne _ _

end SchemaIds

end ChannelGateway
