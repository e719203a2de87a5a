import ChannelGateway.Proofs.Schema.Coercion
/-!
# What coercion changes

Coercion replaces scalars by scalars and leaves the containers around them as they are.  What
becomes of a scalar is decided by the schemas that govern its place, one after the other: each of
them leaves a scalar alone that has one of its types, and makes nothing but values of its types
of the others.
-/

namespace ChannelGateway

namespace Json

def isScalar : Json → Bool
  | .array _ | .object _ => false
  | _ => true

mutual

/-- The containers of a value, with all scalars taken for null. -/
def skeleton : Json → Json
  | .array items => .array (skeletonItems items)
  | .object fields => .object (skeletonFields fields)
  | _ => .null

def skeletonItems : List Json → List Json
  | [] => []
  | item :: rest => item.skeleton :: skeletonItems rest

def skeletonFields : List (String × Json) → List (String × Json)
  | [] => []
  | (key, value) :: rest => (key, value.skeleton) :: skeletonFields rest

end

theorem skeletonItems_eq_map (items : List Json) : skeletonItems items = items.map skeleton := by
  induction items with
  | nil => rfl
  | cons item rest ih => rw [skeletonItems, ih, List.map_cons]

theorem skeletonFields_eq_map (fields : Fields) :
    skeletonFields fields = fields.map fun field => (field.1, field.2.skeleton) := by
  induction fields with
  | nil => rfl
  | cons field rest ih => rw [skeletonFields, ih, List.map_cons]

theorem skeleton_of_isScalar {value : Json} (h : value.isScalar = true) :
    value.skeleton = .null := by
  cases value <;> first | rfl | cases h

inductive PathStep where
  | field (name : String)
  | item (index : Nat)

def select? : Json → PathStep → Option Json
  | .object fields, .field name => fields.lookup name
  | .array items, .item index => items[index]?
  | _, _ => none

def at? (value : Json) (place : List PathStep) : Option Json := place.foldlM select? value

theorem at?_cons {value part : Json} {step : PathStep} {place : List PathStep} :
    value.at? (step :: place) = some part ↔
      ∃ inner, value.select? step = some inner ∧ inner.at? place = some part := by
  rw [at?, List.foldlM_cons]
  exact Option.bind_eq_some_iff

end Json

namespace Coercion

open Json

/-- The schema inside an object schema for the part of a container to which a step leads. -/
def partSchema? (fields : Fields) : PathStep → Option Json
  | .field name => governing? fields name
  | .item index =>
    match fields.lookup "items" with
    | some (.object part) => some (.object part)
    | some (.array parts) => parts[index]?
    | _ => none

theorem sizeOf_lt_of_partSchema? {fields : Fields} {step : PathStep} {part : Json}
    (h : partSchema? fields step = some part) : sizeOf part < sizeOf fields := by
  cases step with
  | field name => exact sizeOf_governing_lt h
  | item index =>
      rw [partSchema?] at h
      split at h
      · next inner hlookup =>
          cases h
          exact Fields.sizeOf_lt_of_lookup hlookup
      · next parts hlookup =>
          have harray := Fields.sizeOf_lt_of_lookup hlookup
          have hpart := List.sizeOf_lt_of_mem (List.mem_of_getElem? h)
          simp only [Json.array.sizeOf_spec] at harray
          omega
      · cases h

/-- What holds of every schema is proved along the schemas that coercion applies inside it. -/
theorem schema_induction {motive : Json → Prop}
    (other : ∀ schema, (∀ fields, schema ≠ .object fields) → motive schema)
    (object : ∀ fields,
      (∀ branches, fields.lookup "allOf" = some (.array branches) →
        ∀ branch ∈ branches, motive branch) →
      (∀ step part, partSchema? fields step = some part → motive part) → motive (.object fields))
    (schema : Json) : motive schema := by
  induction hsize : sizeOf schema using Nat.strongRecOn generalizing schema with
  | _ size ih =>
      cases schema with
      | object fields =>
          rw [Json.object.sizeOf_spec] at hsize
          refine object fields (fun branches hlookup branch hbranch => ?_) fun step part hpart => ?_
          · have harray := Fields.sizeOf_lt_of_lookup hlookup
            have hmem := List.sizeOf_lt_of_mem hbranch
            simp only [Json.array.sizeOf_spec] at harray
            exact ih (sizeOf branch) (by omega) branch rfl
          · have hlt := sizeOf_lt_of_partSchema? hpart
            exact ih (sizeOf part) (by omega) part rfl
      | null | bool | number | string | array => exact other _ (by simp)

theorem coerce_of_not_object {schema : Json} (h : ∀ fields, schema ≠ .object fields)
    (value : Json) :
    coerce schema value = value := by
  cases schema with
  | object fields => exact absurd rfl (h fields)
  | null | bool | number | string | array => rw [coerce]; exact h

/-! ## Conversions -/

/-- What is converted to a type is a scalar before and after, and has the type then. -/
theorem of_convert?_eq_some {name : String} {value converted : Json}
    (h : convert? name value = some converted) :
    value.isScalar = true ∧ converted.isScalar = true ∧ hasType name converted = true := by
  unfold convert? at h
  split at h
  case h_1 =>
    obtain ⟨number, -, rfl⟩ := Option.map_eq_some_iff.1 h
    exact ⟨rfl, rfl, rfl⟩
  case h_2 =>
    obtain ⟨number, hnumber, rfl⟩ := Option.map_eq_some_iff.1 h
    exact ⟨rfl, rfl, (Option.filter_eq_some_iff.1 hnumber).2⟩
  all_goals
    -- all other results are written out, some of them under a condition
    repeat' split at h
    all_goals cases h
    all_goals exact ⟨rfl, rfl, rfl⟩

theorem coerceScalar_of_not_isScalar {value : Json} (h : value.isScalar = false)
    (types : List String) :
    coerceScalar types value = value := by
  have hnone : types.findSome? (convert? · value) = none := by
    rw [List.findSome?_eq_none_iff]
    intro name _
    by_contra hsome
    obtain ⟨converted, hconverted⟩ := Option.ne_none_iff_exists'.1 hsome
    rw [(of_convert?_eq_some hconverted).1] at h
    cases h
  rw [coerceScalar, hnone, Option.getD_none, ite_self]

/-- A value is left as it is, or becomes a value of one of the types. -/
theorem coerceScalar_cases (types : List String) (value : Json) :
    coerceScalar types value = value ∨ (coerceScalar types value).isScalar = true ∧
      ∃ name ∈ types, hasType name (coerceScalar types value) = true := by
  unfold coerceScalar
  split
  · exact Or.inl rfl
  · cases hconverted : types.findSome? (convert? · value) with
    | none => exact Or.inl rfl
    | some converted =>
        obtain ⟨name, hname, hconvert⟩ := List.exists_of_findSome?_eq_some hconverted
        obtain ⟨-, hscalar, htype⟩ := of_convert?_eq_some hconvert
        exact Or.inr ⟨hscalar, name, hname, htype⟩

theorem isScalar_coerceScalar (types : List String) (value : Json) :
    (coerceScalar types value).isScalar = value.isScalar := by
  cases hscalar : value.isScalar with
  | false => rw [coerceScalar_of_not_isScalar hscalar, hscalar]
  | true =>
      rcases coerceScalar_cases types value with hkept | ⟨hconverted, -⟩
      · rw [hkept, hscalar]
      · exact hconverted

/-! ## Containers -/

theorem skeleton_coerceScalar (types : List String) (value : Json) :
    (coerceScalar types value).skeleton = value.skeleton := by
  cases hscalar : value.isScalar with
  | false => rw [coerceScalar_of_not_isScalar hscalar]
  | true =>
      rw [skeleton_of_isScalar hscalar,
        skeleton_of_isScalar ((isScalar_coerceScalar types value).trans hscalar)]

theorem skeleton_coerceBranches {branches : List Json} (value : Json)
    (h : ∀ branch ∈ branches, ∀ value, (coerce branch value).skeleton = value.skeleton) :
    (coerceBranches branches value).skeleton = value.skeleton := by
  induction branches generalizing value with
  | nil => rw [coerceBranches]
  | cons branch rest ih =>
      obtain ⟨hfirst, hrest⟩ := List.forall_mem_cons.1 h
      rw [coerceBranches, ih _ hrest, hfirst]

theorem map_skeleton_coerceLeading {parts : List Json} (items : List Json)
    (h : ∀ part ∈ parts, ∀ value, (coerce part value).skeleton = value.skeleton) :
    (coerceLeading parts items).map skeleton = items.map skeleton := by
  induction parts generalizing items with
  | nil => simp [coerceLeading]
  | cons part rest ih =>
      obtain ⟨hfirst, hrest⟩ := List.forall_mem_cons.1 h
      cases items with
      | nil => simp [coerceLeading]
      | cons item others => rw [coerceLeading, List.map_cons, List.map_cons, hfirst, ih _ hrest]

theorem skeleton_coerceParts {fields : Fields} (value : Json)
    (h : ∀ step part, partSchema? fields step = some part →
      ∀ value, (coerce part value).skeleton = value.skeleton) :
    (coerceParts fields value).skeleton = value.skeleton := by
  unfold coerceParts
  split
  · next members =>
      rw [skeleton, skeleton, skeletonFields_eq_map, skeletonFields_eq_map, List.map_map]
      refine congrArg Json.object (List.map_congr_left fun member _ => Prod.ext rfl ?_)
      change ((governing? fields member.1).elim member.2 (coerce · member.2)).skeleton = _
      cases hpart : governing? fields member.1 with
      | none => rfl
      | some part => exact h (.field member.1) part hpart member.2
  · next items =>
      split
      · next part hlookup =>
          have hpart : partSchema? fields (.item 0) = some (.object part) := by
            rw [partSchema?, hlookup]
          rw [skeleton, skeleton, skeletonItems_eq_map, skeletonItems_eq_map, List.map_map]
          exact congrArg Json.array (List.map_congr_left fun item _ => h _ _ hpart item)
      · next parts hlookup =>
          rw [skeleton, skeleton, skeletonItems_eq_map, skeletonItems_eq_map,
            map_skeleton_coerceLeading items]
          intro part hmem
          obtain ⟨index, hindex⟩ := List.mem_iff_getElem?.1 hmem
          exact h (.item index) part (by rw [partSchema?, hlookup]; exact hindex)
      · rfl
  · rfl

/-- Coercion keeps the containers: the keys of objects in their order, the lengths of arrays, and
which parts are scalars. -/
theorem skeleton_coerce (schema value : Json) :
    (coerce schema value).skeleton = value.skeleton := by
  induction schema using schema_induction generalizing value with
  | other schema hschema => rw [coerce_of_not_object hschema]
  | object fields hbranches hparts =>
      have hcombined (value : Json) : (coerceCombined fields value).skeleton = value.skeleton := by
        unfold coerceCombined
        split
        · next branches hlookup => exact skeleton_coerceBranches value (hbranches branches hlookup)
        · rfl
      rw [coerce_object, skeleton_coerceParts _ hparts, hcombined, skeleton_coerceScalar]

/-! ## Leaves -/

/-- A schema inside a schema governs a place: coercion comes to it for what stands there. -/
inductive GovernsAt : (schema : Json) → (place : List PathStep) → (part : Json) → Prop
  | here (fields : Fields) : GovernsAt (.object fields) [] (.object fields)
  | branch {fields : Fields} {branches : List Json} {branch part : Json} {place : List PathStep} :
      fields.lookup "allOf" = some (.array branches) → branch ∈ branches →
      GovernsAt branch place part → GovernsAt (.object fields) place part
  | declared {fields : Fields} {name : String} {inner part : Json} {place : List PathStep} :
      property? fields name = some inner → GovernsAt inner place part →
      GovernsAt (.object fields) (.field name :: place) part
  | rest {fields inner : Fields} {name : String} {part : Json} {place : List PathStep} :
      property? fields name = none → fields.lookup "additionalProperties" = some (.object inner) →
      GovernsAt (.object inner) place part → GovernsAt (.object fields) (.field name :: place) part
  | item {fields inner : Fields} {index : Nat} {part : Json} {place : List PathStep} :
      fields.lookup "items" = some (.object inner) → GovernsAt (.object inner) place part →
      GovernsAt (.object fields) (.item index :: place) part
  | leading {fields : Fields} {schemas : List Json} {index : Nat} {inner part : Json}
      {place : List PathStep} : fields.lookup "items" = some (.array schemas) →
      schemas[index]? = some inner → GovernsAt inner place part →
      GovernsAt (.object fields) (.item index :: place) part

theorem GovernsAt.step {fields : Fields} {step : PathStep} {inner part : Json}
    {place : List PathStep} (h : partSchema? fields step = some inner)
    (hpart : GovernsAt inner place part) :
    GovernsAt (.object fields) (step :: place) part := by
  cases step with
  | field name =>
      rcases Option.or_eq_some_iff.1 h with hdeclared | ⟨hnone, hrest⟩
      · exact .declared hdeclared hpart
      · obtain ⟨hlookup, hobject⟩ := Option.filter_eq_some_iff.1 hrest
        cases inner with
        | object fields => exact .rest hnone hlookup hpart
        | null | bool | number | string | array => cases hobject
  | item index =>
      rw [partSchema?] at h
      split at h
      · next hlookup =>
          cases h
          exact .item hlookup hpart
      · next hlookup => exact .leading hlookup h hpart
      · cases h

theorem getElem?_coerceLeading (parts items : List Json) (index : Nat) :
    (coerceLeading parts items)[index]? =
      (items[index]?).map fun item => (parts[index]?).elim item (coerce · item) := by
  induction parts generalizing items index with
  | nil => simp [coerceLeading]
  | cons part rest ih =>
      cases items with
      | nil => simp [coerceLeading]
      | cons item others =>
          rw [coerceLeading]
          cases index with
          | zero => rfl
          | succ index => exact ih others index

/-- Each part of a container is coerced by the schema for it, if there is one. -/
theorem select?_coerceParts (fields : Fields) (value : Json) (step : PathStep) :
    (coerceParts fields value).select? step =
      (value.select? step).map fun part => (partSchema? fields step).elim part (coerce · part) := by
  cases value with
  | object members =>
      cases step with
      | item index => rfl
      | field name =>
          rw [coerceParts, select?, select?, partSchema?]
          exact Fields.lookup_map_with_key
            (fun key child => (governing? fields key).elim child (coerce · child)) name members
  | array items =>
      cases step with
      | field name =>
          rw [coerceParts]
          split <;> rfl
      | item index =>
          rw [coerceParts]
          split
          · next part hlookup =>
              have hpart : partSchema? fields (.item index) = some (.object part) := by
                rw [partSchema?, hlookup]
              rw [hpart, select?, select?, List.getElem?_map]
              rfl
          · next parts hlookup =>
              have hpart : partSchema? fields (.item index) = parts[index]? := by
                rw [partSchema?, hlookup]
              rw [hpart]
              exact getElem?_coerceLeading parts items index
          · next hobject harray =>
              have hpart : partSchema? fields (.item index) = none := by
                rw [partSchema?]
                split
                · next part hlookup => exact absurd hlookup (hobject part)
                · next parts hlookup => exact absurd hlookup (harray parts)
                · rfl
              simp [hpart]
  | null | bool | number | string => rfl

/-- A scalar with a property stands at a place. -/
def Holds (P : Json → Prop) (place : List PathStep) (value : Json) : Prop :=
  ∃ leaf, value.at? place = some leaf ∧ leaf.isScalar = true ∧ P leaf

section Holds

variable {P : Json → Prop} {place : List PathStep} {value : Json}

theorem holds_nil : Holds P [] value ↔ value.isScalar = true ∧ P value := by
  constructor
  · rintro ⟨_, ⟨⟩, hleaf⟩
    exact hleaf
  · exact fun h => ⟨value, rfl, h⟩

theorem holds_cons {step : PathStep} :
    Holds P (step :: place) value ↔ ∃ part, value.select? step = some part ∧
      Holds P place part := by
  constructor
  · rintro ⟨leaf, hat, hleaf⟩
    obtain ⟨part, hpart, hat⟩ := at?_cons.1 hat
    exact ⟨part, hpart, leaf, hat, hleaf⟩
  · rintro ⟨part, hpart, leaf, hat, hleaf⟩
    exact ⟨leaf, at?_cons.2 ⟨part, hpart, hat⟩, hleaf⟩

theorem holds_coerceBranches {branches : List Json}
    (h : ∀ branch ∈ branches, ∀ value, Holds P place value → Holds P place (coerce branch value))
    (hvalue : Holds P place value) : Holds P place (coerceBranches branches value) := by
  induction branches generalizing value with
  | nil =>
      rw [coerceBranches]
      exact hvalue
  | cons branch rest ih =>
      obtain ⟨hfirst, hrest⟩ := List.forall_mem_cons.1 h
      rw [coerceBranches]
      exact ih hrest (hfirst value hvalue)

theorem coerceParts_of_isScalar {fields : Fields} (h : value.isScalar = true) :
    coerceParts fields value = value := by
  cases value <;> first | rfl | cases h

theorem holds_coerce {schema : Json}
    (hstep : ∀ part, GovernsAt schema place part → ∀ leaf, leaf.isScalar = true → P leaf →
      P (coerceScalar (declaredTypes part) leaf)) (h : Holds P place value) :
    Holds P place (coerce schema value) := by
  induction schema using schema_induction generalizing value place with
  | other schema hschema =>
      rw [coerce_of_not_object hschema]
      exact h
  | object fields hbranches hparts =>
      have hcombined (value : Json) (h : Holds P place value) :
          Holds P place (coerceCombined fields value) := by
        unfold coerceCombined
        split
        · next branches hlookup =>
            refine holds_coerceBranches (fun branch hbranch value h => ?_) h
            exact hbranches branches hlookup branch hbranch
              (fun part hpart => hstep part (.branch hlookup hbranch hpart)) h
        · exact h
      rw [coerce_object]
      cases place with
      | nil =>
          obtain ⟨hscalar, hvalue⟩ := holds_nil.1 h
          have hown := hstep _ (.here fields) value hscalar hvalue
          have hafter := hcombined (coerceScalar (declaredTypes (.object fields)) value)
            (holds_nil.2 ⟨(isScalar_coerceScalar _ value).trans hscalar, hown⟩)
          rw [coerceParts_of_isScalar (holds_nil.1 hafter).1]
          exact hafter
      | cons step place =>
          have hcontainer : value.isScalar = false := by
            obtain ⟨part, hpart, -⟩ := holds_cons.1 h
            cases value <;> first | rfl | cases hpart
          rw [coerceScalar_of_not_isScalar hcontainer]
          obtain ⟨part, hpart, hheld⟩ := holds_cons.1 (hcombined value h)
          rw [holds_cons, select?_coerceParts, hpart, Option.map_some]
          refine ⟨_, rfl, ?_⟩
          cases hinner : partSchema? fields step with
          | none => exact hheld
          | some inner =>
              exact hparts step inner hinner
                (fun part hgoverns => hstep part (.step hinner hgoverns)) hheld

end Holds

def TypesAt (schema : Json) (place : List PathStep) (part : Json) : Prop :=
  GovernsAt schema place part ∧ declaredTypes part ≠ []

/-- A value has one of the types that a schema declares. -/
def HasDeclaredType (schema value : Json) : Prop :=
  ∃ name ∈ declaredTypes schema, hasType name value = true

theorem coerceScalar_of_hasDeclaredType {schema value : Json} (h : HasDeclaredType schema value) :
    coerceScalar (declaredTypes schema) value = value := by
  obtain ⟨name, hname, htype⟩ := h
  exact coerceScalar_eq_self hname htype

theorem coerceScalar_of_untyped {schema : Json} (h : declaredTypes schema = []) (value : Json) :
    coerceScalar (declaredTypes schema) value = value := by
  rw [h]
  rfl

/-- Coercion changes scalars at most.  It keeps every scalar that has a type of all the typed
schemas that govern its place; and where only one does, a scalar that it changes gets a type
of this one. -/
theorem coercion_changes_scalars (schema value : Json) :
    (coerce schema value).skeleton = value.skeleton ∧
      ∀ place leaf, value.at? place = some leaf → leaf.isScalar = true →
        ((∀ part, TypesAt schema place part → HasDeclaredType part leaf) →
          (coerce schema value).at? place = some leaf) ∧
        ∀ part, (∀ other, TypesAt schema place other ↔ other = part) →
          ∃ coerced, (coerce schema value).at? place = some coerced ∧
            (coerced = leaf ∨ HasDeclaredType part coerced) := by
  refine ⟨skeleton_coerce schema value, fun place leaf hat hscalar => ⟨fun htyped => ?_, ?_⟩⟩
  · have hkept : Holds (· = leaf) place (coerce schema value) := by
      refine holds_coerce (fun part hgoverns other _ hother => ?_) ⟨leaf, hat, hscalar, rfl⟩
      rw [hother]
      by_cases huntyped : declaredTypes part = []
      · exact coerceScalar_of_untyped huntyped leaf
      · exact coerceScalar_of_hasDeclaredType (htyped part ⟨hgoverns, huntyped⟩)
    obtain ⟨_, hcoerced, -, rfl⟩ := hkept
    exact hcoerced
  · intro part honly
    have hcoerced : Holds (fun coerced => coerced = leaf ∨ HasDeclaredType part coerced) place
        (coerce schema value) := by
      refine holds_coerce (fun other hgoverns before _ hbefore => ?_)
        ⟨leaf, hat, hscalar, Or.inl rfl⟩
      by_cases huntyped : declaredTypes other = []
      · rw [coerceScalar_of_untyped huntyped]
        exact hbefore
      · rw [(honly other).1 ⟨hgoverns, huntyped⟩]
        rcases coerceScalar_cases (declaredTypes part) before with hkept | ⟨-, htype⟩
        · rw [hkept]
          exact hbefore
        · exact Or.inr htype
    obtain ⟨coerced, hat, -, hcoerced⟩ := hcoerced
    exact ⟨coerced, hat, hcoerced⟩

def tallySchema : Json :=
  .object [("properties", .object [("name", .object [("type", .string "string")])]),
    ("additionalProperties", .object [("items", .object [("type", .string "integer")])])]

def tally : Json := .object [("name", .string "7"), ("counts", .array [.string "7"])]

theorem coercion_changes_scalars_of_tally :
    (coerce tallySchema tally).skeleton =
        .object [("name", .null), ("counts", .array [.null])] ∧
      (coerce tallySchema tally).at? [.field "name"] = some (.string "7") ∧
      ∃ coerced, (coerce tallySchema tally).at? [.field "counts", .item 0] = some coerced ∧
        (coerced = .string "7" ∨
          HasDeclaredType (.object [("type", .string "integer")]) coerced) := by
  obtain ⟨hskeleton, hleaves⟩ := coercion_changes_scalars tallySchema tally
  refine ⟨hskeleton, (hleaves [.field "name"] (.string "7") rfl rfl).1 fun part htypes => ?_,
    (hleaves [.field "counts", .item 0] (.string "7") rfl rfl).2 _ fun part =>
      ⟨fun htypes => ?_, ?_⟩⟩
  · obtain ⟨hgoverns, -⟩ := htypes
    cases hgoverns with
    | branch hlookup => cases hlookup
    | rest hnone => cases hnone
    | declared hname hgoverns =>
        cases hname
        cases hgoverns with
        | branch hlookup => cases hlookup
        | here => exact ⟨"string", List.mem_cons_self, rfl⟩
  · obtain ⟨hgoverns, -⟩ := htypes
    cases hgoverns with
    | branch hlookup => cases hlookup
    | declared hname => cases hname
    | rest _ hrest hgoverns =>
        cases hrest
        cases hgoverns with
        | branch hlookup => cases hlookup
        | leading hlookup => cases hlookup
        | item hitems hgoverns =>
            cases hitems
            cases hgoverns with
            | branch hlookup => cases hlookup
            | here => rfl
  · rintro rfl
    exact ⟨.rest rfl rfl (.item rfl (.here _)), List.cons_ne_nil _ _⟩

end Coercion

end ChannelGateway
