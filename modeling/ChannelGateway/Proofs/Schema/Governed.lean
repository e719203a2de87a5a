import ChannelGateway.Proofs.Json.Occurrence
import ChannelGateway.Proofs.Schema.Checking
import ChannelGateway.Proofs.Schema.Coercion
/-!
# What coercion and the check have in common

Coercion looks at five keywords, and applies the schemas inside them to parts of a value.  The
check applies the same schemas to the same parts, with three exceptions: properties that a pattern
takes, items that have leading schemas, and schemas whose keywords are void where they stand.
-/

namespace ChannelGateway.Coercion

open Schema

/-- A name matches one of the patterns of a schema. -/
def IsMatched (fields : Fields) (name : String) : Prop :=
  ∃ schemas source part regex, fields.lookup "patternProperties" = some (.object schemas) ∧
    (source, part) ∈ schemas ∧ Regex.ofPattern? source = some regex ∧ regex.isMatch name = .ok true

def leadingCount (fields : Fields) : Nat :=
  (((fields.lookup "prefixItems").bind Json.items?).getD []).length

/-- A schema inside an object schema that coercion and the check both apply to a part of a value. -/
inductive Governs (fields : Fields) : (value part child : Json) → Prop
  | branch {branches : List Json} {value part : Json} : fields.lookup "allOf" =
      some (.array branches) →
      part ∈ branches → Governs fields value part value
  | declared {members : Fields} {name : String} {part child : Json} : (name, child) ∈ members →
      property? fields name = some part → Governs fields (.object members) part child
  | rest {members part : Fields} {name : String} {child : Json} : (name, child) ∈ members →
      property? fields name = none → ¬IsMatched fields name →
      fields.lookup "additionalProperties" = some (.object part) →
      Governs fields (.object members) (.object part) child
  | item {items : List Json} {part : Fields} {item : Json} : fields.lookup "items" =
      some (.object part) →
      item ∈ items.drop (leadingCount fields) → Governs fields (.array items) (.object part) item
  | leading {items parts : List Json} {part item : Json} : fields.lookup "items" =
      some (.array parts) →
      (part, item) ∈ parts.zip items → Governs fields (.array items) part item

/-- A schema inside an object schema that coercion applies to a part of a value, and the
check does not. -/
inductive Misses (fields : Fields) : (value part child : Json) → Prop
  | matched {members part : Fields} {name : String} {child : Json} : (name, child) ∈ members →
      property? fields name = none → IsMatched fields name →
      fields.lookup "additionalProperties" = some (.object part) →
      Misses fields (.object members) (.object part) child
  | leading {items : List Json} {part : Fields} {item : Json} :
      fields.lookup "items" = some (.object part) → item ∈ items.take (leadingCount fields) →
      Misses fields (.array items) (.object part) item

/-- A schema inside a schema that is reached as the check reaches it, and that coercion then
applies to a part of the value to which the check does not. -/
inductive Overlooks (vocabularies : Bool) : (draft : Draft) → (schema value part child : Json) →
    Prop
  | void {draft : Draft} {fields : Fields} {value : Json} :
      ¬InForce vocabularies (insideDraft draft (.object fields)) fields →
      Overlooks vocabularies draft (.object fields) value (.object fields) value
  | missed {draft : Draft} {fields : Fields} {value part child : Json} :
      Misses fields value part child →
      Overlooks vocabularies draft (.object fields) value part child
  | inside {draft : Draft} {fields : Fields} {value part child part' child' : Json} :
      Governs fields value part child →
      Overlooks vocabularies (insideDraft draft (.object fields)) part child part' child' →
      Overlooks vocabularies draft (.object fields) value part' child'

/-- A governed part of a value occurs in it, and the schema that governs it in a keyword. -/
theorem Governs.occurs {fields : Fields} {value part child : Json}
    (h : Governs fields value part child) :
    value.Occurs child ∧ ∃ key written, (key, written) ∈ fields ∧ written.Occurs part := by
  cases h with
  | branch hlookup hpart =>
    exact ⟨.refl _, _, _, Fields.mem_of_lookup hlookup, .item hpart (.refl _)⟩
  | declared hmem hpart =>
      obtain ⟨schemas, hschemas, hname⟩ := Option.bind_eq_some_iff.1 hpart
      obtain ⟨written, hlookup, hfields⟩ := Option.bind_eq_some_iff.1 hschemas
      cases written <;> cases hfields
      exact ⟨.field hmem (.refl _), _, _, Fields.mem_of_lookup hlookup,
        .field (Fields.mem_of_lookup hname) (.refl _)⟩
  | rest hmem _ _ hlookup =>
      exact ⟨.field hmem (.refl _), _, _, Fields.mem_of_lookup hlookup, .refl _⟩
  | item hlookup hitem =>
      exact ⟨.item (List.mem_of_mem_drop hitem) (.refl _), _, _,
        Fields.mem_of_lookup hlookup, .refl _⟩
  | leading hlookup hpair =>
      obtain ⟨hpart, hitem⟩ := List.of_mem_zip hpair
      exact ⟨.item hitem (.refl _), _, _, Fields.mem_of_lookup hlookup, .item hpart (.refl _)⟩

theorem Governs.size_lt {fields : Fields} {value part child : Json}
    (h : Governs fields value part child) :
    part.size < (Json.object fields).size := by
  obtain ⟨-, key, written, hmem, hpart⟩ := h.occurs
  have hwritten := Json.size_le_sizeFields hmem
  have hsize := hpart.size_le
  rw [Json.size]
  omega

/-- A value stays as it is if it does by itself, and if all parts of it do at the schemas that
coercion applies to them. -/
theorem coerce_object_eq_self {fields : Fields} {value : Json}
    (hown : coerceScalar (declaredTypes (.object fields)) value = value)
    (hgoverned : ∀ part child, Governs fields value part child → coerce part child = child)
    (hmissed : ∀ part child, Misses fields value part child → coerce part child = child) :
    coerce (.object fields) value = value := by
  have hcombined : coerceCombined fields value = value :=
    coerceCombined_eq_self fun branches hlookup part hpart =>
      hgoverned part value (.branch hlookup hpart)
  rw [coerce_object, hown, hcombined]
  cases value with
  | object members =>
      refine coerceParts_object_eq_self fun name child hmem part hpart => ?_
      rcases Option.or_eq_some_iff.1 hpart with hdeclared | ⟨hnone, hrest⟩
      · exact hgoverned part child (.declared hmem hdeclared)
      · obtain ⟨hlookup, hobject⟩ := Option.filter_eq_some_iff.1 hrest
        cases part with
        | object rest =>
            by_cases hmatched : IsMatched fields name
            · exact hmissed _ child (.matched hmem hnone hmatched hlookup)
            · exact hgoverned _ child (.rest hmem hnone hmatched hlookup)
        | _ => cases hobject
  | array items =>
      refine coerceParts_array_eq_self (fun part hlookup item hitem => ?_)
        fun parts hlookup part item hpair =>
        hgoverned part item (.leading hlookup hpair)
      rw [← List.take_append_drop (leadingCount fields) items, List.mem_append] at hitem
      rcases hitem with hleading | hrest
      · exact hmissed _ item (.leading hlookup hleading)
      · exact hgoverned _ item (.item hlookup hrest)
  | _ => rfl

/-! ## The check, one level down -/

/-- A schema, where it stands, is read as a rule that a value fits. -/
def Fits (depth limit : Nat) (s : Surroundings) (schema value : Json) : Prop :=
  ∃ rule position, Reads depth s schema rule ∧ mismatchesTo limit rule position value = []

/-- The keywords of a schema are in force and read, and a value fits all of them. -/
structure FitsKeywords (depth limit : Nat) (s : Surroundings) (fields : Fields)
    (value : Json) : Prop where
  hasVocabularies : s.hasVocabularies = true
  keyword : ∀ key written, fields.lookup key = some written →
    ∃ own, Yields (readKeyword (readRuleTo depth) s fields key written) own ∧ ∀ keyword ∈ own,
      ∃ names items position, keyword.mismatches (mismatchesTo limit) names items position value =
        []

variable {depth limit : Nat} {s : Surroundings} {fields : Fields} {value : Json}

theorem Fits.keywords (h : Fits (depth + 1) (limit + 1) s (.object fields) value)
    (hforce : InForce s.vocabularies (insideDraft s.draft (.object fields)) fields) :
    ∃ inside : Surroundings, inside.draft = insideDraft s.draft (.object fields) ∧
      inside.vocabularies = s.vocabularies ∧ FitsKeywords depth limit inside fields value := by
  obtain ⟨rule, position, hreads, hfits⟩ := h
  obtain ⟨inside, keywords, hdraft, hvocabularies, hhas, rfl, hkeywords⟩ := hreads.keywords hforce
  refine ⟨inside, hdraft, hvocabularies, hhas, fun key written hlookup => ?_⟩
  obtain ⟨own, hown, hsub⟩ := hkeywords key written hlookup
  refine ⟨own, hown, fun keyword hkeyword => ?_⟩
  obtain ⟨names, items, hkeyword⟩ := fits_keyword hfits (hsub hkeyword)
  exact ⟨names, items, position, hkeyword⟩

theorem bind_lookup_eq_none {declared : Option (List (String × Rule))}
    {patterns : Option (List (String × Regex × Rule))} {rest : Option Rule}
    (h : ReadsClosed depth s fields declared patterns rest) {name : String}
    (hundeclared : property? fields name = none) : declared.bind (·.lookup name) = none := by
  cases hlookup : fields.lookup "properties" with
  | none => rw [h.undeclared hlookup, Option.bind_none]
  | some written =>
      obtain ⟨schemas, list, rfl, rfl, hlist⟩ := h.declared written hlookup
      rw [property?, hlookup] at hundeclared
      exact (lookup_of_readsNamed hlist name).1 hundeclared

theorem matching_eq_nil {declared : Option (List (String × Rule))}
    {patterns : Option (List (String × Regex × Rule))} {rest : Option Rule}
    (h : ReadsClosed depth s fields declared patterns rest) {name : String}
    (hunmatched : ¬IsMatched fields name) : matching (patterns.getD []) name = [] := by
  cases hlookup : fields.lookup "patternProperties" with
  | none =>
      rw [h.unmatched hlookup]
      rfl
  | some written =>
      obtain ⟨schemas, list, rfl, rfl, hlist⟩ := h.matched written hlookup
      refine List.filterMap_eq_nil_iff.2 fun ⟨source, regex, rule⟩ hpattern => ?_
      obtain ⟨⟨source', part⟩, hmem, heq, hregex⟩ := exists_left_of_forall₂ hlist hpattern
      refine if_neg fun hmatch =>
        hunmatched ⟨schemas, source', part, regex, hlookup, hmem, hregex, ?_⟩
      split at hmatch
      · assumption
      · cases hmatch

namespace FitsKeywords

theorem coerceScalar_eq_self (h : FitsKeywords depth limit s fields value) :
    coerceScalar (declaredTypes (.object fields)) value = value := by
  cases hlookup : fields.lookup "type" with
  | none =>
      have hnone : declaredTypes (.object fields) = [] := by
        simp [declaredTypes, Json.get?, hlookup]
      rw [hnone]
      rfl
  | some written =>
      obtain ⟨own, hown, hfits⟩ := h.keyword _ _ hlookup
      obtain ⟨types, htypes, rfl⟩ := yields_type h.hasVocabularies hown
      obtain ⟨names, items, position, hfits⟩ := hfits _ List.mem_cons_self
      obtain ⟨type, htype, haccepts⟩ := fits_type hfits
      have hget : (Json.object fields).get? "type" = some written := hlookup
      exact Coercion.coerceScalar_eq_self (name_mem_declaredTypes hget htypes htype)
        (hasType_of_accepts haccepts)

theorem branch (h : FitsKeywords depth limit s fields value) {branches : List Json}
    (hlookup : fields.lookup "allOf" = some (.array branches)) {part : Json}
    (hpart : part ∈ branches) :
    Fits depth limit s part value := by
  obtain ⟨own, hown, hfits⟩ := h.keyword _ _ hlookup
  obtain ⟨schemas, rules, hschemas, rfl, hrules⟩ := yields_allOf h.hasVocabularies hown
  cases hschemas
  obtain ⟨names, items, position, hfits⟩ := hfits _ List.mem_cons_self
  obtain ⟨rule, hrule, hreads⟩ := exists_right_of_forall₂ hrules hpart
  obtain ⟨inner, hinner⟩ := fits_allOf hfits hrule
  exact ⟨rule, inner, hreads, hinner⟩

theorem exists_closed {members : Fields} (h : FitsKeywords depth limit s fields (.object members))
    (hclosed : closesObjects fields = true) :
    ∃ declared patterns rest position, ReadsClosed depth s fields declared patterns rest ∧
      checkClosed (mismatchesTo limit) declared patterns rest position (.object members) members =
        [] := by
  obtain ⟨written, hlookup⟩ : ∃ written, fields.lookup "additionalProperties" = some written := by
    unfold closesObjects at hclosed
    split at hclosed
    · exact ⟨_, ‹_›⟩
    · exact ⟨_, ‹_›⟩
    · cases hclosed
  obtain ⟨own, hown, hfits⟩ := h.keyword _ _ hlookup
  obtain ⟨declared, patterns, rest, rfl, hreads⟩ :=
    yields_additionalProperties h.hasVocabularies hclosed hlookup hown
  obtain ⟨names, items, position, hfits⟩ := hfits _ List.mem_cons_self
  exact ⟨declared, patterns, rest, position, hreads, hfits⟩

theorem declared {members : Fields} (h : FitsKeywords depth limit s fields (.object members))
    {name : String} {part child : Json} (hmem : (name, child) ∈ members)
    (hchild : members.lookup name = some child) (hpart : property? fields name = some part) :
    Fits depth limit s part child := by
  obtain ⟨schemas, hschemas, hname⟩ := Option.bind_eq_some_iff.1 hpart
  obtain ⟨written, hlookup, hfields⟩ := Option.bind_eq_some_iff.1 hschemas
  -- beside a schema for further properties the declared ones are checked along with it
  cases hclosed : closesObjects fields with
  | true =>
      obtain ⟨declared, patterns, rest, position, hreads, hfits⟩ := h.exists_closed hclosed
      obtain ⟨schemas', list, rfl, rfl, hlist⟩ := hreads.declared written hlookup
      cases hfields
      obtain ⟨rule, hrule, hreads⟩ := (lookup_of_readsNamed hlist name).2 part hname
      obtain ⟨inner, hinner⟩ := (fits_closed hfits hmem).1 rule hrule
      exact ⟨rule, inner, hreads, hinner⟩
  | false =>
      obtain ⟨own, hown, hfits⟩ := h.keyword _ _ hlookup
      obtain ⟨schemas', list, rfl, rfl, hlist⟩ := yields_properties h.hasVocabularies hclosed hown
      cases hfields
      obtain ⟨names, items, position, hfits⟩ := hfits _ List.mem_cons_self
      obtain ⟨rule, hrule, hreads⟩ := (lookup_of_readsNamed hlist name).2 part hname
      obtain ⟨inner, hinner⟩ := fits_properties hfits (Fields.mem_of_lookup hrule) hchild
      exact ⟨rule, inner, hreads, hinner⟩

theorem rest {members : Fields} (h : FitsKeywords depth limit s fields (.object members))
    {name : String} {child : Json} (hmem : (name, child) ∈ members)
    (hundeclared : property? fields name = none) (hunmatched : ¬IsMatched fields name)
    {part : Fields} (hlookup : fields.lookup "additionalProperties" = some (.object part)) :
    Fits depth limit s (.object part) child := by
  have hclosed : closesObjects fields = true := by simp [closesObjects, hlookup]
  obtain ⟨declared, patterns, rest, position, hreads, hfits⟩ := h.exists_closed hclosed
  obtain ⟨rule, hrule, hpart⟩ := hreads.rest part hlookup
  obtain ⟨inner, hinner⟩ := (fits_closed hfits hmem).2 (bind_lookup_eq_none hreads hundeclared)
    (matching_eq_nil hreads hunmatched) rule hrule
  exact ⟨rule, inner, hpart, hinner⟩

theorem item {elements : List Json} (h : FitsKeywords depth limit s fields (.array elements))
    {part : Fields} (hlookup : fields.lookup "items" = some (.object part)) {item : Json}
    (hitem : item ∈ elements.drop (leadingCount fields)) :
    Fits depth limit s (.object part) item := by
  obtain ⟨own, hown, hfits⟩ := h.keyword _ _ hlookup
  obtain ⟨rule, rfl, hreads⟩ := yields_items_object h.hasVocabularies hown
  obtain ⟨names, items, position, hfits⟩ := hfits _ List.mem_cons_self
  obtain ⟨inner, hinner⟩ := fits_items hfits hitem
  exact ⟨rule, inner, hreads, hinner⟩

theorem leading {elements : List Json} (h : FitsKeywords depth limit s fields (.array elements))
    {parts : List Json} (hlookup : fields.lookup "items" = some (.array parts)) {part item : Json}
    (hpair : (part, item) ∈ parts.zip elements) : Fits depth limit s part item := by
  obtain ⟨own, hown, hfits⟩ := h.keyword _ _ hlookup
  obtain ⟨rules, hmem, hrules⟩ := yields_items_array h.hasVocabularies hown
  obtain ⟨names, items, position, hfits⟩ := hfits _ hmem
  obtain ⟨rule, hreads, hrule⟩ := exists_zip_of_forall₂ hrules hpair
  obtain ⟨inner, hinner⟩ := fits_leadingItems hfits hrule
  exact ⟨rule, inner, hreads, hinner⟩

theorem governed (h : FitsKeywords depth limit s fields value) (hkeys : value.HasDistinctKeys)
    {part child : Json} (hgoverns : Governs fields value part child) :
    Fits depth limit s part child := by
  cases hgoverns with
  | branch hlookup hpart => exact h.branch hlookup hpart
  | declared hmem hpart => exact h.declared hmem (hkeys.field hmem).1 hpart
  | rest hmem hundeclared hunmatched hlookup => exact h.rest hmem hundeclared hunmatched hlookup
  | item hlookup hitem => exact h.item hlookup hitem
  | leading hlookup hpair => exact h.leading hlookup hpair

end FitsKeywords

/-- A value that fits a schema stays as it is, if what the check overlooks does. -/
theorem Fits.coerce_eq_self {schema : Json} (h : Fits depth limit s schema value)
    (hdepth : schema.size ≤ depth) (hlimit : schema.size ≤ limit) (hkeys : value.HasDistinctKeys)
    (hoverlooked : ∀ part child, Overlooks s.vocabularies s.draft schema value part child →
      coerce part child = child) : coerce schema value = value := by
  -- the induction is on the depth of reading, which bounds the size of the schemas that are left
  induction depth generalizing limit s schema value with
  | zero => cases schema <;> simp [Json.size] at hdepth
  | succ depth ih =>
      cases schema with
      | object fields =>
          obtain ⟨limit, rfl⟩ : ∃ less, limit = less + 1 :=
            ⟨limit - 1, by rw [Json.size] at hlimit; omega⟩
          by_cases hforce : InForce s.vocabularies (insideDraft s.draft (.object fields)) fields
          · obtain ⟨inside, hdraft, hvocabularies, hfits⟩ := h.keywords hforce
            refine coerce_object_eq_self hfits.coerceScalar_eq_self (fun part child hgoverns => ?_)
              fun part child hmisses => hoverlooked part child (.missed hmisses)
            have hsize := hgoverns.size_lt
            refine ih (hfits.governed hkeys hgoverns) (by omega) (by omega)
              (hkeys.part hgoverns.occurs.1)
              fun part' child' hinner => hoverlooked part' child' (.inside hgoverns ?_)
            rwa [← hdraft, ← hvocabularies]
          · exact hoverlooked _ _ (.void hforce)
      | _ => simp [coerce]

end ChannelGateway.Coercion
