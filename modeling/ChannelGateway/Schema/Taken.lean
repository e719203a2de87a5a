import ChannelGateway.Schema.Check
/-!
# Parts that are taken care of

The keywords about unevaluated parts concern the properties and items that no other keyword takes
care of.  A keyword takes care of parts itself, or it applies further schemas to the whole value
whose keywords do.
-/

namespace ChannelGateway.Schema

/-- The parts of a value that can be taken care of. -/
inductive PartKind where
  | properties
  | items
deriving DecidableEq, Repr

/-- Whether a rule has keywords.  Schemas that are mere booleans take care of nothing, and they are
not counted among the branches of a combination. -/
def Rule.hasKeywords : Rule → Bool
  | .keywords _ => true
  | _ => false

/-- The further schemas with which a keyword takes care of parts of a value.  A combination counts
with all of its branches or not at all: `allOf` if all fit, `oneOf` if exactly one fits, and
`anyOf` if all fit or, for properties, if one does. -/
def Keyword.appliedRules (check : Check) (kind : PartKind) (keyword : Keyword) (value : Json) :
    List Rule :=
  let fits (rule : Rule) : Bool := check.passes rule value
  let combined (rules : List Rule) (counts : List Rule → Bool) : List Rule :=
    let branches := rules.filter Rule.hasKeywords
    if counts branches then branches else []
  match keyword with
  | .allOf rules => combined rules (·.all fits)
  | .anyOf rules => combined rules fun branches =>
    if kind = .properties then branches.any fits else branches.all fits
  | .oneOf rules => combined rules (·.countP fits = 1)
  | .condition test consequence alternative =>
    if !test.hasKeywords then []
    else if fits test then test :: consequence.toList
    else alternative.toList
  | .lonelyTest test => if test.get.hasKeywords && fits test.get then [test.get] else []
  | .reference _ target => [target.get]
  | .dependencies "dependentSchemas" list =>
    list.filterMap fun (name, _, rule) => if (value.get? name).isSome then rule else none
  | _ => []

/-- The names of the properties that a keyword itself takes care of. -/
def Keyword.namesTaken (check : Check) (keyword : Keyword) (value : Json) : List String :=
  let fields := value.fields?.getD []
  let taken (fits : String → Json → Bool) : List String :=
    (fields.filter fun (name, item) => fits name item).map Prod.fst
  let isDeclared (declared : List (String × Rule)) (name : String) (item : Json) : Bool :=
    (declared.lookup name).any (check.passes · item)
  let isMatched (patterns : List (String × Regex × Rule)) (name : String) : Bool :=
    !(matching patterns name).isEmpty
  match keyword with
  | .properties declared => taken (isDeclared declared)
  | .patternProperties patterns => taken fun name _ => isMatched patterns name
  | .additionalProperties declared patterns rest =>
    taken fun name item =>
      isDeclared (declared.getD []) name item || isMatched (patterns.getD []) name ||
        rest.any (check.passes · item)
  | .anyProperties => Fields.keys fields
  | .unevaluatedProperties rule => taken fun _ item => check.passes rule item
  | _ => []

def Keyword.itemsTaken (check : Check) (keyword : Keyword) (value : Json) : List Nat :=
  let elements := value.items?.getD []
  let taken (rule : Rule) : List Nat :=
    ((numbered elements 0).filter fun (_, item) => check.passes rule item).map Prod.fst
  match keyword with
  | .leadingItems _ rules => List.range (min rules.length elements.length)
  | .items .. | .additionalItems .. | .noAdditionalItems | .anyItems => List.range elements.length
  | .contains rule _ _ counts => if counts then taken rule else []
  | .unevaluatedItems rule => taken rule
  | _ => []

/-- The parts of a value that a rule takes care of, to a limited depth of further schemas. -/
def Rule.taken {α : Type} (kind : PartKind) (own : Keyword → Json → List α) (check : Check) :
    Nat → Rule → Json → List α
  | depth + 1, .keywords list, value =>
    list.flatMap fun keyword =>
      own keyword value ++
        (keyword.appliedRules check kind value).flatMap fun rule =>
          rule.taken kind own check depth value
  | _, _, _ => []

def Rule.namesTaken (rule : Rule) (check : Check) (depth : Nat) (value : Json) : List String :=
  rule.taken .properties (Keyword.namesTaken check) check depth value

def Rule.itemsTaken (rule : Rule) (check : Check) (depth : Nat) (value : Json) : List Nat :=
  rule.taken .items (Keyword.itemsTaken check) check depth value

end ChannelGateway.Schema
