import ChannelGateway.Schema.Reader
/-!
# Compiled schemas

A schema is compiled by reading it, after its references have been found to stay within reach and
its meta-schema to accept it.
-/

namespace ChannelGateway.Schema

structure CompiledSchema where
  rule : Rule
  /-- A number that no chain of references within one place of a value exceeds. -/
  size : Nat

namespace CompiledSchema

def mismatches (c : CompiledSchema) (value : Json) : List Mismatch :=
  mismatchesTo ((value.size + 2) * (c.size + 1)) c.rule .root value

/-- A depth that reading does not reach: schemas are not nested deeper than the documents at hand
are large, and every reference is followed once. -/
def readingDepth (registry : Registry) : Nat := Nat.pow 2 60 + registry.size

def ofResource (registry : Registry) (formats : Bool) (document : Resource) :
    Except SchemaError CompiledSchema :=
  let vocabularies := document.draft.isAtLeast .draft201909
  let s : Surroundings := ⟨registry, document.draft, formats, vocabularies, ⟨document.uri, []⟩⟩
  ((readPart (readRuleTo (readingDepth registry)) s document.content).run []).map fun (rule, _) =>
    ⟨rule, registry.size⟩

def metaschema (draft : Draft) : CompiledSchema :=
  let registry := Registry.metaschemas
  match (registry.find? draft.uri).map (ofResource registry draft.checksOwnFormats) with
  | some (.ok c) => c
  | _ => ⟨.anything, 0⟩

def metaschemas : List (Draft × CompiledSchema) :=
  Draft.all.map fun draft => (draft, metaschema draft)

/-- Compiles a schema: finds its draft, makes sure that its references stay within reach, checks it
against its meta-schema, and reads it.  The first failure is reported. -/
def ofJson (schema : Json) (formats : Bool) : Except SchemaError CompiledSchema := do
  let draft ← draftOf .draft202012 schema
  let document : Resource := ⟨← Registry.documentUri draft schema, draft, schema⟩
  let registry ← Registry.ofDocument document
  match ((metaschemas.lookup draft).map fun c => c.mismatches schema) with
  | some (first :: _) => throw (.malformed first)
  | _ => pure ()
  ofResource registry formats document

end CompiledSchema

end ChannelGateway.Schema
