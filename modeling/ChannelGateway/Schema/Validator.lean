import ChannelGateway.Schema.Coercion
import ChannelGateway.Schema.Compiled
/-!
# Validators

A compiled schema that checks data and hands back what it accepts.
-/

namespace ChannelGateway

inductive CoercionMode where
  | none
  | scalars
deriving DecidableEq, Repr

structure Rejection where
  first : Schema.Mismatch
  rest : List Schema.Mismatch

namespace Rejection

def toList (r : Rejection) : List Schema.Mismatch := r.first :: r.rest

end Rejection

/-- A schema that data can be checked against. -/
structure Validator where
  schema : Json
  compiled : Schema.CompiledSchema
  coercion : CoercionMode

namespace Validator

def ofSchema (schema : Json) (coercion : CoercionMode) (formats : Bool) :
    Except Schema.SchemaError Validator :=
  (Schema.CompiledSchema.ofJson schema formats).map fun compiled => ⟨schema, compiled, coercion⟩

def prepare (v : Validator) (data : Json) : Json :=
  match v.coercion with
  | .none => data
  | .scalars => Coercion.coerce v.schema data

def validate (v : Validator) (data : Json) : Except Rejection Json :=
  let candidate := v.prepare data
  match v.compiled.mismatches candidate with
  | [] => .ok candidate
  | first :: rest => .error ⟨first, rest⟩

end Validator

end ChannelGateway
