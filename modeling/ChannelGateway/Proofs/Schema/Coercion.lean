import ChannelGateway.Proofs.Schema.Reading
import ChannelGateway.Schema.Coercion
/-!
# Coercing values

Coercion in its three steps: at the value itself, then branch by branch, then in its properties or
items.  A value stays as it is where all three leave it alone, and the first one does if the value
has a type that the schema is read with.
-/

namespace ChannelGateway.Coercion

open Schema

/-! ## The steps -/

def coerceCombined (fields : Fields) (value : Json) : Json :=
  match fields.lookup "allOf" with
  | some (.array branches) => coerceBranches branches value
  | _ => value

def coerceParts (fields : Fields) (value : Json) : Json :=
  match value with
  | .object members =>
    .object (members.map fun member =>
      (member.1, (governing? fields member.1).elim member.2 (coerce · member.2)))
  | .array items =>
    match fields.lookup "items" with
    | some (.object part) => .array (items.map (coerce (.object part)))
    | some (.array parts) => .array (coerceLeading parts items)
    | _ => .array items
  | scalar => scalar

theorem coerce_object (fields : Fields) (value : Json) :
    coerce (.object fields) value =
      coerceParts fields
        (coerceCombined fields (coerceScalar (declaredTypes (.object fields)) value)) := by
  rw [coerce]
  generalize coerceScalar (declaredTypes (.object fields)) value = own
  split
  · next members h =>
      have hcombined : coerceCombined fields own = .object members := by
        unfold coerceCombined
        split at h <;> simp [*]
      rw [hcombined]
      refine congrArg Json.object (List.map_congr_left fun member _ => Prod.ext rfl ?_)
      dsimp only
      split <;> simp [*]
  · next items h =>
      have hcombined : coerceCombined fields own = .array items := by
        unfold coerceCombined
        split at h <;> simp [*]
      rw [hcombined, coerceParts]
      split <;> simp [*]
  · next hobject harray =>
      cases hcombined : coerceCombined fields own with
      | object members =>
          refine (hobject members ?_).elim
          rw [← hcombined, coerceCombined]
          split <;> simp [*]
      | array items =>
          refine (harray items ?_).elim
          rw [← hcombined, coerceCombined]
          split <;> simp [*]
      | _ =>
          refine Eq.trans ?_ hcombined
          rw [coerceCombined]
          split <;> simp [*]

theorem coerceBranches_eq_self {branches : List Json} {value : Json}
    (h : ∀ part ∈ branches, coerce part value = value) : coerceBranches branches value = value := by
  induction branches with
  | nil => rw [coerceBranches]
  | cons part rest ih =>
      rw [coerceBranches, h part List.mem_cons_self]
      exact ih fun other hother => h other (List.mem_cons_of_mem _ hother)

theorem coerceLeading_eq_self {parts items : List Json}
    (h : ∀ part item, (part, item) ∈ parts.zip items → coerce part item = item) :
    coerceLeading parts items = items := by
  induction parts generalizing items with
  | nil => simp [coerceLeading]
  | cons part rest ih =>
      cases items with
      | nil => simp [coerceLeading]
      | cons item others =>
          rw [coerceLeading, h part item List.mem_cons_self]
          rw [ih fun part' item' hmem => h part' item' (List.mem_cons_of_mem _ hmem)]

theorem coerceCombined_eq_self {fields : Fields} {value : Json}
    (h : ∀ branches, fields.lookup "allOf" = some (.array branches) →
      ∀ part ∈ branches, coerce part value = value) : coerceCombined fields value = value := by
  unfold coerceCombined
  split
  · next branches hlookup => exact coerceBranches_eq_self (h branches hlookup)
  · rfl

theorem coerceParts_object_eq_self {fields members : Fields}
    (h : ∀ name child, (name, child) ∈ members → ∀ part, governing? fields name = some part →
      coerce part child = child) : coerceParts fields (.object members) = .object members := by
  refine congrArg Json.object
    ((List.map_congr_left fun member hmember => ?_).trans (List.map_id members))
  refine Prod.ext rfl ?_
  cases hpart : governing? fields member.1 with
  | none => rfl
  | some part => exact h member.1 member.2 hmember part hpart

theorem coerceParts_array_eq_self {fields : Fields} {items : List Json}
    (hitems : ∀ part, fields.lookup "items" = some (.object part) →
      ∀ item ∈ items, coerce (.object part) item = item)
    (hleading : ∀ parts, fields.lookup "items" = some (.array parts) →
      ∀ part item, (part, item) ∈ parts.zip items → coerce part item = item) :
    coerceParts fields (.array items) = .array items := by
  rw [coerceParts]
  split
  · next part hlookup =>
      exact congrArg Json.array
        ((List.map_congr_left (hitems part hlookup)).trans (List.map_id items))
  · next parts hlookup => exact congrArg Json.array (coerceLeading_eq_self (hleading parts hlookup))
  · rfl

/-! ## Declared types -/

theorem hasType_of_accepts {type : ValueType} {wholeDoubles : Bool} {value : Json}
    (h : type.accepts wholeDoubles value = true) : hasType type.name value = true := by
  cases type <;> cases value <;> try cases h
  case integer.number n =>
    cases n with
    | int n => rfl
    | double d => exact (Bool.and_eq_true_iff.1 h).2
  all_goals rfl

theorem name_mem_declaredTypes {schema value : Json} (hget : schema.get? "type" = some value)
    {types : List ValueType} (h : readTypes value = .ok types) {type : ValueType}
    (htype : type ∈ types) :
    type.name ∈ declaredTypes schema := by
  unfold declaredTypes
  rw [hget]
  rcases eq_or_mem_of_readTypes h htype with rfl | ⟨names, rfl, hname⟩
  · exact List.mem_cons_self
  · exact List.mem_filterMap.2 ⟨_, hname, rfl⟩

theorem coerceScalar_eq_self {types : List String} {value : Json} {name : String}
    (hname : name ∈ types) (h : hasType name value = true) : coerceScalar types value = value :=
  if_pos (List.any_eq_true.2 ⟨name, hname, h⟩)

end ChannelGateway.Coercion
