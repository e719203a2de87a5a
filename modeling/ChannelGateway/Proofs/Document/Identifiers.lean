import ChannelGateway.Document.SchemaIds
import ChannelGateway.Proofs.Document.Enclosure
/-!
# Leaving out identifiers

The identifiers that schemas get are fields of one reserved key.  An annotated schema differs from
the schema by such fields only, and so does a schema from what is left of it once they are
removed.  Both are instances of one relation, from which it follows that removing the identifiers
undoes an annotation.
-/

namespace ChannelGateway.SchemaIds

open Json

/-- The second value is the first one without some fields of the reserved key, at any depth.  The
values of these fields are of the kind `p`. -/
inductive Omits (p : Json → Prop) : Json → Json → Prop
  | refl (value : Json) : Omits p value value
  | item {a b : Json} {as bs : List Json} : Omits p a b → Omits p (.array as) (.array bs) →
      Omits p (.array (a :: as)) (.array (b :: bs))
  | field {name : String} {a b : Json} {as bs : Fields} : Omits p a b →
      Omits p (.object as) (.object bs) →
        Omits p (.object ((name, a) :: as)) (.object ((name, b) :: bs))
  | identifier {value : Json} {as bs : Fields} : p value → Omits p (.object as) (.object bs) →
      Omits p (.object ((key, value) :: as)) (.object bs)

/-- No object inside a value has the reserved key. -/
def Free (j : Json) : Prop := ∀ above fields, Inside j above fields → key ∉ Fields.keys fields

/-! ## Removing the reserved key -/

theorem stripItems_eq_map (items : List Json) : stripItems items = items.map strip := by
  induction items with
  | nil => rfl
  | cons item rest ih => rw [stripItems, ih, List.map_cons]

theorem stripFields_eq_map (fields : Fields) :
    stripFields fields =
      (fields.filter fun field => field.1 ≠ key).map fun field => (field.1, strip field.2) := by
  induction fields with
  | nil => rfl
  | cons field rest ih =>
      obtain ⟨name, value⟩ := field
      by_cases hname : name = key
      · simp [stripFields, hname, ih]
      · simp [stripFields, hname, ih]

theorem Omits.strip_eq {p : Json → Prop} {a b : Json} (h : Omits p a b) : strip a = strip b := by
  induction h with
  | refl => rfl
  | item _ _ ha has =>
      have has := Json.array.inj has
      rw [strip, strip, stripItems, stripItems, ha, has]
  | @field name _ _ _ _ _ _ ha has =>
      have has := Json.object.inj has
      rw [strip, strip, stripFields, stripFields, ha, has]
  | identifier _ _ has =>
      have has := Json.object.inj has
      rw [strip, strip, stripFields, if_pos rfl, has]

mutual

theorem omits_strip (value : Json) : Omits (fun _ => True) value (strip value) := by
  match value with
  | .array items =>
      rw [strip]
      exact omits_stripItems items
  | .object fields =>
      rw [strip]
      exact omits_stripFields fields
  | .null | .bool _ | .number _ | .string _ => exact .refl _

theorem omits_stripItems (items : List Json) :
    Omits (fun _ => True) (.array items) (.array (stripItems items)) := by
  match items with
  | [] => exact .refl _
  | item :: rest => exact .item (omits_strip item) (omits_stripItems rest)

theorem omits_stripFields (fields : List (String × Json)) :
    Omits (fun _ => True) (.object fields) (.object (stripFields fields)) := by
  match fields with
  | [] => exact .refl _
  | (name, value) :: rest =>
      rw [stripFields]
      split
      · next hname =>
          subst hname
          exact .identifier trivial (omits_stripFields rest)
      · exact .field (omits_strip value) (omits_stripFields rest)

end

theorem not_mem_keys_stripFields (fields : Fields) : key ∉ Fields.keys (stripFields fields) := by
  intro hmem
  rw [stripFields_eq_map, Fields.keys, List.map_map] at hmem
  obtain ⟨field, hfield, hname⟩ := List.mem_map.1 hmem
  have hne : field.1 ≠ key := by simpa using (List.mem_filter.1 hfield).2
  exact hne hname

theorem free_strip (value : Json) : Free (strip value) := by
  intro above fields hinside
  -- On the way to the inner object every value is what was left of another one.
  generalize hstripped : strip value = stripped at hinside
  induction hinside generalizing value with
  | self fields =>
      cases value with
      | object inner =>
          have hfields : stripFields inner = fields := by simpa [strip] using hstripped
          rw [← hfields]
          exact not_mem_keys_stripFields inner
      | _ => simp [strip] at hstripped
  | @field fields name part above inner hmem _ ih =>
      cases value with
      | object inner =>
          have hfields : stripFields inner = fields := by simpa [strip] using hstripped
          rw [← hfields, stripFields_eq_map] at hmem
          obtain ⟨field, -, heq⟩ := List.mem_map.1 hmem
          exact ih field.2 (congrArg Prod.snd heq)
      | _ => simp [strip] at hstripped
  | @item items part above inner hmem _ ih =>
      cases value with
      | array inner =>
          have hitems : stripItems inner = items := by simpa [strip] using hstripped
          rw [← hitems, stripItems_eq_map] at hmem
          obtain ⟨item, -, heq⟩ := List.mem_map.1 hmem
          exact ih item heq
      | _ => simp [strip] at hstripped

namespace Free

variable {item value : Json} {rest : List Json} {name : String} {fields : Fields}

theorem of_field (h : Free (.object fields)) (hmem : (name, value) ∈ fields) : Free value :=
  fun _ _ hinside => h _ _ (.field hmem hinside)

theorem of_item (h : Free (.array rest)) (hmem : value ∈ rest) : Free value :=
  fun _ _ hinside => h _ _ (.item hmem hinside)

theorem of_cons_item (h : Free (.array (item :: rest))) : Free (.array rest) := by
  intro above fields hinside
  cases hinside with
  | item hmem hinside => exact h _ _ (.item (List.mem_cons_of_mem _ hmem) hinside)

theorem of_cons_field (h : Free (.object ((name, value) :: fields))) : Free (.object fields) := by
  intro above inner hinside
  cases hinside with
  | self => exact fun hmem => h _ _ (.self _) (List.mem_cons_of_mem _ hmem)
  | field hmem hinside => exact h _ _ (.field (List.mem_cons_of_mem _ hmem) hinside)

theorem eq_of_omits {p : Json → Prop} {a b : Json} (hfree : Free a) (h : Omits p a b) : a = b := by
  induction h with
  | refl => rfl
  | item _ _ ha has =>
      have has := Json.array.inj (has hfree.of_cons_item)
      rw [ha (hfree.of_item List.mem_cons_self), has]
  | field _ _ ha has =>
      have has := Json.object.inj (has hfree.of_cons_field)
      rw [ha (hfree.of_field List.mem_cons_self), has]
  | identifier => exact absurd List.mem_cons_self (hfree _ _ (.self _))

end Free

/-- What is left of a value is the value without fields of the reserved key, none of
which is left. -/
theorem strip_eq_iff {a b : Json} : strip a = b ↔ Omits (fun _ => True) a b ∧ Free b := by
  constructor
  · rintro rfl
    exact ⟨omits_strip a, free_strip a⟩
  · rintro ⟨homits, hfree⟩
    rw [homits.strip_eq]
    exact (hfree.eq_of_omits (omits_strip b)).symm

/-! ## Annotated schemas -/

def IsText (j : Json) : Prop := ∃ s, j = .string s

theorem omits_append (fields : Fields) (id : String) :
    Omits IsText (.object (fields ++ [(key, .string id)])) (.object fields) := by
  induction fields with
  | nil => exact .identifier ⟨id, rfl⟩ (.refl _)
  | cons field rest ih => exact .field (.refl _) ih

theorem omits_identify (fields : Fields) (n : Nat) :
    Omits IsText (.object (identify fields n).1) (.object fields) := by
  unfold identify
  split
  · exact .refl _
  · next hcontains =>
      have hnone : fields.lookup key = none := by
        rw [Fields.contains] at hcontains
        exact Option.not_isSome_iff_eq_none.1 hcontains
      split
      · rw [Fields.insert_of_lookup_none hnone]
        exact omits_append fields _
      · rw [Fields.insert_of_lookup_none hnone]
        exact omits_append fields _

theorem Omits.insert_self {p : Json → Prop} {fields : Fields} {name : String} {old new : Json}
    (hold : fields.lookup name = some old) (hnew : Omits p new old) :
    Omits p (.object (Fields.insert name new fields)) (.object fields) := by
  induction fields with
  | nil => cases hold
  | cons field rest ih =>
      obtain ⟨first, value⟩ := field
      by_cases hname : first = name
      · subst hname
        have hvalue : value = old := by simpa [List.lookup_cons] using hold
        rw [Fields.insert, if_pos rfl, hvalue]
        exact .field hnew (.refl _)
      · have hne : (name == first) = false := by simpa using Ne.symm hname
        rw [List.lookup_cons, hne] at hold
        rw [Fields.insert, if_neg hname]
        exact .field (.refl _) (ih hold)

/-- The relation is kept by writing a value over one that is left of it. -/
theorem Omits.insert {p : Json → Prop} {result fields : Fields} {name : String} {old new : Json}
    (h : Omits p (.object result) (.object fields)) (hname : name ≠ key)
    (hold : fields.lookup name = some old) (hnew : Omits p new old) :
    Omits p (.object (Fields.insert name new result)) (.object fields) := by
  generalize hresult : Json.object result = whole at h
  generalize hfields : Json.object fields = left at h
  induction h generalizing result fields with
  | refl =>
      obtain rfl := Json.object.inj (hresult.trans hfields.symm)
      rw [← hresult]
      exact .insert_self hold hnew
  | item => cases hresult
  | @field first a b as bs ha has _ ih =>
      cases hresult
      cases hfields
      by_cases hfirst : first = name
      · subst hfirst
        have hvalue : b = old := by simpa [List.lookup_cons] using hold
        rw [Fields.insert, if_pos rfl, hvalue]
        exact .field hnew has
      · have hne : (name == first) = false := by simpa using Ne.symm hfirst
        rw [List.lookup_cons, hne] at hold
        rw [Fields.insert, if_neg hfirst]
        exact .field ha (ih hold rfl rfl)
  | identifier hvalue _ ih =>
      cases hresult
      rw [Fields.insert, if_neg hname.symm]
      exact .identifier hvalue (ih hold rfl hfields)

mutual

theorem omits_annotate (schema : Json) (n : Nat) : Omits IsText (annotate schema n).1 schema := by
  match schema with
  | .object fields =>
      rw [annotate]
      exact omits_annotatePositions positions fields _ _ (by decide) (omits_identify fields n)
  | .null | .bool _ | .number _ | .string _ | .array _ =>
      rw [annotate]
      · exact .refl _
      · simp
termination_by (sizeOf schema, 0)

theorem omits_annotatePositions (keywords : List (String × Position))
    (fields result : Fields) (n : Nat) (hkeywords : ∀ keyword ∈ keywords, keyword.1 ≠ key)
    (hresult : Omits IsText (.object result) (.object fields)) :
    Omits IsText (.object (annotatePositions keywords fields result n).1) (.object fields) := by
  match keywords with
  | [] =>
      rw [annotatePositions]
      exact hresult
  | (keyword, position) :: rest =>
      obtain ⟨hkeyword, hrest⟩ := List.forall_mem_cons.1 hkeywords
      rw [annotatePositions]
      split
      · exact omits_annotatePositions rest fields result n hrest hresult
      · next child hchild =>
          have hnew : Omits IsText (annotateAt position child n).1 child :=
            omits_annotateAt position child n
          -- The later keywords are read from `fields`, which this write leaves as it is.
          exact omits_annotatePositions rest fields _ _ hrest (hresult.insert hkeyword hchild hnew)
termination_by (sizeOf fields, keywords.length + 2)
decreasing_by
  · exact Prod.Lex.right _ (by simp)
  · exact Prod.Lex.left _ _ (Fields.sizeOf_lt_of_lookup ‹_›)
  · exact Prod.Lex.right _ (by simp)

theorem omits_annotateAt (position : Position) (child : Json) (n : Nat) :
    Omits IsText (annotateAt position child n).1 child := by
  match position, child with
  | .named, .object children =>
      rw [annotateAt]
      exact omits_annotateFields children n
  | .single, .array children | .listed, .array children =>
      rw [annotateAt]
      exact omits_annotateItems children n
  | .single, .object children =>
      rw [annotateAt]
      · exact omits_annotate (.object children) n
      · simp
  | .single, .null | .single, .bool _ | .single, .number _ | .single, .string _ =>
      simpa [annotateAt, annotate] using Omits.refl _
  | .named, .null | .named, .bool _ | .named, .number _ | .named, .string _ | .named, .array _
  | .listed, .null | .listed, .bool _ | .listed, .number _ | .listed, .string _
  | .listed, .object _ =>
      simpa [annotateAt] using Omits.refl _
termination_by (sizeOf child, 1)

theorem omits_annotateItems (items : List Json) (n : Nat) :
    Omits IsText (.array (annotateItems items n).1) (.array items) := by
  match items with
  | [] =>
      rw [annotateItems]
      exact .refl _
  | item :: rest =>
      rw [annotateItems]
      exact .item (omits_annotate item n) (omits_annotateItems rest _)
termination_by (sizeOf items, 0)

theorem omits_annotateFields (fields : Fields) (n : Nat) :
    Omits IsText (.object (annotateFields fields n).1) (.object fields) := by
  match fields with
  | [] =>
      rw [annotateFields]
      exact .refl _
  | (name, value) :: rest =>
      rw [annotateFields]
      exact .field (omits_annotate value n) (omits_annotateFields rest _)
termination_by (sizeOf fields, 0)

end

/-- Removing the identifiers from an annotated schema leaves what it leaves of the schema itself. -/
theorem strip_annotate (schema : Json) (n : Nat) : strip (annotate schema n).1 = strip schema :=
  (omits_annotate schema n).strip_eq

end ChannelGateway.SchemaIds
