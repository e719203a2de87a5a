import ChannelGateway.Json.Pointer
import ChannelGateway.Schema.Registry
import ChannelGateway.Text.Percent
/-!
# Following references

A reference names a resource and a place in it, by a pointer or by an anchor.  Some references are
not settled by where they stand alone, but by the resources through which they were reached.
-/

namespace ChannelGateway.Schema

/-- Where references are read: the identifier relative to which they are, and those of the resources
through which the place was reached, the nearest first. -/
structure Scope where
  base : String
  outer : List String
deriving DecidableEq, Repr

namespace Scope

/-- The scope after a reference to a resource has been followed. -/
def moveTo (scope : Scope) (uri : String) : Scope :=
  if scope.outer.isEmpty || uri != scope.base then ⟨uri, scope.base :: scope.outer⟩
  else ⟨uri, scope.outer⟩

def enter (scope : Scope) (draft : Draft) (schema : Json) : Except SchemaError Scope :=
  (baseOf draft scope.base schema).map fun base => { scope with base }

end Scope

structure Resolved where
  scope : Scope
  draft : Draft
  content : Json

/-- The index that a token spells: digits after an optional plus sign. -/
def elementIndex? (token : List Char) : Option Nat :=
  let digits := match token with
    | '+' :: digits => digits
    | digits => digits
  let index := Decimal.ofDigits digits
  if digits.isEmpty || !digits.all Char.isDigit || JsonNumber.maxInt < index then none
  else some index

def step (pointer : String) (value : Json) (token : List Char) : Except SchemaError Json :=
  let part? : Except SchemaError (Option Json) := match value with
    | .array items => match elementIndex? token with
      | some index => .ok items[index]?
      | none => .error (.badIndex (String.ofList token) pointer)
    | value => .ok (value.get? (String.ofList (Pointer.unescape token)))
  part?.bind fun part? => part?.elim (.error (.missingPointer pointer)) .ok

/-- What the place further along a pointer holds.  Below the keywords of the older drafts that take
a schema or something else, every object counts as a schema. -/
def Draft.placeBelow (draft : Draft) (place : Place) (container : Json)
    (token : List Char) : Place :=
  match place, container with
  | .schema, .array _ => .schema
  | .schema, _ =>
    let keyword := String.ofList (Pointer.unescape token)
    if keyword = "dependencies" && draft.isolatesReferences then .either else draft.place keyword
  | .listed, _ | .named, _ => .schema
  | .either, _ => .either
  | .data, _ => .data

def follow (pointer : String) (found : Resolved) (place : Place) :
    List (List Char) → Except SchemaError Resolved
  | [] => .ok found
  | token :: rest => do
    let content ← step pointer found.content token
    let place := found.draft.placeBelow place found.content token
    let isSchema := place = .schema || place = .either
    let scope ← if isSchema then found.scope.enter found.draft content else pure found.scope
    follow pointer { found with scope, content } place rest

/-- The outermost of the resources with a dynamic anchor of a name, or else the given anchor. -/
def outermostAnchor (registry : Registry) (anchor : Anchor) (outer : List String) : Anchor :=
  outer.foldl (fun last uri =>
    ((registry.anchor? uri anchor.name).filter Anchor.isDynamic).getD last) anchor

def followAnchor (registry : Registry) (scope : Scope) (name : String) :
    Except SchemaError Resolved :=
  match registry.anchor? scope.base name with
  | none => .error (if name.toList.contains '/' then .badAnchor name else .missingAnchor name)
  | some anchor =>
    if anchor.isDynamic then do
      let anchor := outermostAnchor registry anchor scope.outer
      return ⟨← scope.enter anchor.draft anchor.content, anchor.draft, anchor.content⟩
    else return ⟨scope, anchor.draft, anchor.content⟩

def followReference (registry : Registry) (scope : Scope) (reference : String) :
    Except SchemaError Resolved := do
  let (uri, fragment) ← match reference.toList with
    | '#' :: fragment => pure (scope.base, String.ofList fragment)
    | _ =>
      let (uri, fragment) := splitFragment reference
      pure (← resolveUri scope.base uri, fragment)
  match registry.find? uri with
  | none => throw (.notAtHand uri)
  | some resource =>
    let found : Resolved := ⟨scope.moveTo uri, resource.draft, resource.content⟩
    match fragment.toList with
    | [] => return found
    | '/' :: pointer => match Utf8.decode? (Percent.decodeBytes (Utf8.encode pointer)) with
      | none => throw (.badEscapes fragment)
      | some pointer => follow fragment found .schema (pointer.splitOn '/')
    | _ => followAnchor registry found.scope fragment

/-- Whether a resource lets an outer one stand in for it. -/
def isReplaceable (content : Json) : Bool := content.get? "$recursiveAnchor" = some (.bool true)

/-- The last of the resources that let an outer one stand in for them, without a gap. -/
def outermostReplaceable (registry : Registry) (scope : Scope) (found : Resolved) :
    List String → Except SchemaError Resolved
  | [] => .ok found
  | uri :: outer => do
    let next ← followReference registry scope uri
    if isReplaceable next.content then outermostReplaceable registry scope next outer
    else return found

/-- What a recursive reference leads to: the document around it, or an outer one that stands in. -/
def followRecursive (registry : Registry) (scope : Scope) : Except SchemaError Resolved := do
  let found ← followReference registry scope "#"
  if isReplaceable found.content then outermostReplaceable registry scope found scope.outer
  else return found

end ChannelGateway.Schema
