import ChannelGateway.Schema.Metaschema.Early
import ChannelGateway.Schema.Metaschema.Vocabulary
import ChannelGateway.Schema.Parts
/-!
# Schema resources

A schema document and every schema inside it with an identifier of its own are resources.  Inside
them, anchors name schemas.
-/

namespace ChannelGateway.Schema

structure Resource where
  uri : String
  draft : Draft
  content : Json

structure Anchor where
  /-- The identifier of the resource. -/
  uri : String
  name : String
  /-- Whether an outer resource may supply the schema. -/
  isDynamic : Bool
  draft : Draft
  content : Json

/-- The resources and anchors that references can reach.  Of two with one identifier
the first counts. -/
structure Registry where
  resources : List Resource
  anchors : List Anchor

def anonymousUri : String := "json-schema:" ++ "///"

/-- Splits a reference into the identifier before the last `#` and the fragment after it. -/
def splitFragment (reference : String) : String × String :=
  let chars := reference.toList
  let fragment := chars.reverse.takeWhile (· ≠ '#')
  if fragment.length = chars.length then (reference, "")
  else (String.ofList (chars.take (chars.length - fragment.length - 1)),
    String.ofList fragment.reverse)

namespace Part

/-- The anchors that a part carries.  In the older drafts an identifier that is only a
fragment is one. -/
def anchors (part : Part) : List Anchor :=
  let text? (keyword : String) : Option String := (part.content.get? keyword).bind Json.string?
  let anchor (isDynamic : Bool) (name : String) : Anchor :=
    ⟨part.base, name, isDynamic, part.draft, part.content⟩
  if part.draft.isolatesReferences then
    match (text? part.draft.idKeyword).map String.toList with
    | some ('#' :: name) => [anchor false (String.ofList name)]
    | _ => []
  else
    ((text? "$anchor").map (anchor false)).toList ++
      if part.draft.isAtLeast .draft202012 then
        ((text? "$dynamicAnchor").map (anchor true)).toList
      else []

def resource? (part : Part) : Option Resource :=
  (ownId? part.draft part.content).map fun _ => ⟨part.base, part.draft, part.content⟩

/-- Whether a reference is looked up only when it is followed: one to a meta-schema. -/
def isOnlyFollowed (reference : String) : Bool :=
  let startsWith (start : String) : Bool := start.toList.isPrefixOf reference.toList
  startsWith ("https:" ++ "//" ++ Draft.site ++ "/draft/") ||
    startsWith ("http:" ++ "//" ++ Draft.site ++ "/draft-")

/-- The reference of a part, unless it leads into the same document or is only followed. -/
def outerReference? (part : Part) : Option String :=
  if (UriReference.ofText part.base.toList).scheme = some ['u', 'r', 'n'] then none
  else ((part.content.get? "$ref").bind Json.string?).filter fun reference =>
    reference.toList.head? != some '#' && !isOnlyFollowed reference

/-- The identifier of the resource that a reference from a part leads to. -/
def outerUri? (part : Part) : Except SchemaError (Option String) :=
  match part.fault, part.outerReference? with
  | some fault, _ => .error fault
  | none, some reference =>
    (resolveUri part.base reference).map fun uri => some (splitFragment uri).1
  | none, none => .ok none

end Part

namespace Registry

def find? (registry : Registry) (uri : String) : Option Resource :=
  registry.resources.find? (·.uri = uri)

def anchor? (registry : Registry) (uri name : String) : Option Anchor :=
  registry.anchors.find? fun anchor => anchor.name = name && anchor.uri = uri

def insertParts (registry : Registry) (parts : List Part) : Registry where
  resources := (parts.filterMap Part.resource?).reverse ++ registry.resources
  anchors := (parts.flatMap Part.anchors).reverse ++ registry.anchors

def insert (registry : Registry) (document : Resource) : Registry :=
  { registry with resources := document :: registry.resources }.insertParts
    (parts document.draft document.uri document.content)

def metaschemaDocuments : List Resource :=
  [⟨Draft.draft4.uri, .draft4, Metaschema.draft4⟩,
    ⟨Draft.draft6.uri, .draft6, Metaschema.draft6⟩,
    ⟨Draft.draft7.uri, .draft7, Metaschema.draft7⟩] ++
  (Metaschema.documents .recursive).map (fun (uri, content) => ⟨uri, .draft201909, content⟩) ++
  (Metaschema.documents .dynamic).map (fun (uri, content) => ⟨uri, .draft202012, content⟩)

def metaschemas : Registry := metaschemaDocuments.foldl insert ⟨[], []⟩

def size (registry : Registry) : Nat :=
  registry.resources.foldr (fun resource size => resource.content.size + size) 0

def documentUri (draft : Draft) (document : Json) : Except SchemaError String :=
  match ownId? draft document with
  | none => .ok anonymousUri
  | some id =>
    match Uri.absolute anonymousUri id with
    | .ok uri => .ok uri
    | .error fault => .error (.unresolvable id anonymousUri (.malformed fault))

/-- The meta-schemas and a document.  A part with a fault, or with a reference to a resource that is
neither at hand nor a meta-schema, is refused. -/
def ofDocument (document : Resource) : Except SchemaError Registry := do
  let registry := metaschemas.insert document
  let outer ← (parts document.draft document.uri document.content).mapM Part.outerUri?
  match (outer.filterMap id).find? fun uri => (registry.find? uri).isNone with
  | some uri => throw (.unreachable uri)
  | none => return registry

end Registry

end ChannelGateway.Schema
