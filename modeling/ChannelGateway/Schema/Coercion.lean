import ChannelGateway.Json.Value
import ChannelGateway.Number.Decimal
/-!
# Coercion

Path captures and header values arrive as strings.  Where a schema declares another type, a scalar
is converted to it, if nothing is lost; a value that has one of the declared types stays as it is.
-/

namespace ChannelGateway.Coercion

def declaredTypes (schema : Json) : List String :=
  match schema.get? "type" with
  | some (.string name) => [name]
  | some (.array names) => names.filterMap Json.string?
  | _ => []

def hasType (name : String) (value : Json) : Bool :=
  match name, value with
  | "string", .string _ => true
  | "number", .number _ => true
  | "integer", .number n => n.isWhole
  | "boolean", .bool _ => true
  | "null", .null => true
  | "object", .object _ => true
  | "array", .array _ => true
  | _, _ => false

/-- The number of a double: an integer if it is whole and lies between the least signed integer and
the first number above the largest, which is cut to the largest. -/
def ofDouble (d : Double) : JsonNumber :=
  let q := d.toRat
  if q.den = 1 ∧ JsonNumber.minInt ≤ q.num ∧ q.num ≤ JsonNumber.maxSigned + 1 then
    .int (min q.num JsonNumber.maxSigned)
  else .double d

def number? (text : String) : Option JsonNumber :=
  let asDouble := ((Decimal.read? text.toList).bind Decimal.toDouble?).map ofDouble
  match Decimal.readInt? text.toList with
  | some n => if JsonNumber.minInt ≤ n ∧ n ≤ JsonNumber.maxSigned then some (.int n) else asDouble
  | none => asDouble

def convert? (name : String) (value : Json) : Option Json :=
  match name, value with
  | "number", .string text => (number? text).map .number
  | "integer", .string text => ((number? text).filter JsonNumber.isWhole).map .number
  | "number", .bool b | "integer", .bool b => some (.ofNat b.toNat)
  | "number", .null | "integer", .null => some (.ofNat 0)
  | "string", .number n => some (.string n.text)
  | "string", .bool b => some (.string (if b then "true" else "false"))
  | "string", .null => some (.string "")
  | "boolean", .string text =>
    if text = "true" then some (.bool true) else if text = "false" then some (.bool false) else none
  | "boolean", .number n =>
    if n.toRat = 1 then some (.bool true) else if n.toRat = 0 then some (.bool false) else none
  | "boolean", .null => some (.bool false)
  | "null", .string text => if text = "" then some .null else none
  | "null", .number n => if n.toRat = 0 then some .null else none
  | "null", .bool b => if b then none else some .null
  | _, _ => none

/-- Converts a scalar to the first declared type that it can be converted to, unless it has one of
them. -/
def coerceScalar (types : List String) (value : Json) : Json :=
  if types.any (hasType · value) then value else (types.findSome? (convert? · value)).getD value

def property? (fields : List (String × Json)) (name : String) : Option Json :=
  ((fields.lookup "properties").bind Json.fields?).bind (·.lookup name)

/-- The schema that governs a property: the declared one, or else the one for
additional properties. -/
def governing? (fields : List (String × Json)) (name : String) : Option Json :=
  (property? fields name).or ((fields.lookup "additionalProperties").filter Json.isObject)

theorem sizeOf_property_lt {fields : List (String × Json)} {name : String} {schema : Json}
    (h : property? fields name = some schema) : sizeOf schema < sizeOf fields := by
  obtain ⟨properties, hp, hn⟩ := Option.bind_eq_some_iff.1 h
  obtain ⟨value, hv, hf⟩ := Option.bind_eq_some_iff.1 hp
  have := Fields.sizeOf_lt_of_lookup hn
  have := Fields.sizeOf_lt_of_lookup hv
  cases value <;> simp only [Json.fields?, reduceCtorEq, Option.some.injEq] at hf
  subst hf
  simp only [Json.object.sizeOf_spec] at *
  omega

theorem sizeOf_governing_lt {fields : List (String × Json)} {name : String} {schema : Json}
    (h : governing? fields name = some schema) : sizeOf schema < sizeOf fields := by
  rcases Option.or_eq_some_iff.1 h with h | ⟨_, h⟩
  · exact sizeOf_property_lt h
  · exact Fields.sizeOf_lt_of_lookup (Option.filter_eq_some_iff.1 h).1

mutual

/-- Coerces the scalars of a value to the types that a schema declares for them: at the value
itself, then in every branch of `allOf`, then in its properties or items. -/
def coerce (schema value : Json) : Json :=
  match schema with
  | .object fields =>
    let own := coerceScalar (declaredTypes (.object fields)) value
    let combined := match _found : fields.lookup "allOf" with
      | some (.array branches) => coerceBranches branches own
      | _ => own
    match combined with
    | .object members =>
      .object (members.map fun (name, child) =>
        (name, match _found : governing? fields name with
          | some part => coerce part child
          | none => child))
    | .array items =>
      match _found : fields.lookup "items" with
      | some (.object part) => .array (items.map (coerce (.object part)))
      | some (.array parts) => .array (coerceLeading parts items)
      | _ => .array items
    | scalar => scalar
  | _ => value
termination_by sizeOf schema
decreasing_by
  all_goals simp only [Json.object.sizeOf_spec]
  · have := Fields.sizeOf_lt_of_lookup ‹_›
    simp only [Json.array.sizeOf_spec] at this
    omega
  · have := sizeOf_governing_lt ‹_›
    omega
  · have := Fields.sizeOf_lt_of_lookup ‹_›
    simp only [Json.object.sizeOf_spec] at this
    omega
  · have := Fields.sizeOf_lt_of_lookup ‹_›
    simp only [Json.array.sizeOf_spec] at this
    omega

def coerceBranches (schemas : List Json) (value : Json) : Json :=
  match schemas with
  | [] => value
  | schema :: rest => coerceBranches rest (coerce schema value)
termination_by sizeOf schemas

def coerceLeading (schemas items : List Json) : List Json :=
  match schemas, items with
  | schema :: rest, item :: others => coerce schema item :: coerceLeading rest others
  | _, items => items
termination_by sizeOf schemas

end

end ChannelGateway.Coercion
