import ChannelGateway.Json.Pointer
import ChannelGateway.Schema.Keyword
/-!
# Mismatches

Where and how a value fails a schema.
-/

namespace ChannelGateway.Schema

inductive MismatchCause where
  | nothingAllowed
  | wrongType (types : List ValueType)
  | notListed (options : List Json)
  | notTheConstant (constant : Json)
  | outOfBound (bound : Bound) (limit : JsonNumber)
  | notAMultiple (divisor : JsonNumber)
  | wrongSize (measure : Measure) (isLeast : Bool) (count : Nat)
  | patternMissed (source : String)
  /-- The search for a match was given up. -/
  | searchGivenUp (limit : Regex.SearchLimit)
  | formatMissed (name : String)
  | repeatedItems
  | missingProperty (name : String)
  | additionalProperties (names : List String)
  | additionalItems (items : List Json)
  | unevaluatedProperties (names : List String)
  | unevaluatedItems (items : List Json)
  | nothingContained
  | noneOfAny
  | noneOfOne
  | severalOfOne
  | excluded (source : Json)
  | contentMissed (fault : ContentFault)

/-- A text with a count, where the word gets a plural ending unless the count is one. -/
def counted (count : Nat) (singular plural : String) : String :=
  toString count ++ " " ++ if count = 1 then singular else plural

def unexpected (names : List String) (quote : String) : String :=
  ", ".intercalate (names.map fun name => quote ++ name ++ quote) ++
    (if names.length = 1 then " was unexpected" else " were unexpected")

def MismatchCause.message (value : Json) : MismatchCause → String
  | nothingAllowed => "False schema does not allow " ++ value.compact
  | wrongType [type] => value.compact ++ " is not of type " ++ Json.quote type.name
  | wrongType types =>
    value.compact ++ " is not of types " ++ ", ".intercalate (types.map fun t => Json.quote t.name)
  | notListed options => value.compact ++ " is not one of " ++ (Json.array options).compact
  | notTheConstant constant => constant.compact ++ " was expected"
  | outOfBound bound limit =>
    value.compact ++ " is " ++
      (match bound with
        | .minimum => "less than the minimum of "
        | .maximum => "greater than the maximum of "
        | .exclusiveMinimum => "less than or equal to the minimum of "
        | .exclusiveMaximum => "greater than or equal to the maximum of ") ++ limit.text
  | notAMultiple divisor => value.compact ++ " is not a multiple of " ++ divisor.toDouble.plainText
  | wrongSize .characters isLeast count =>
    value.compact ++ (if isLeast then " is shorter than " else " is longer than ") ++
      counted count "character" "characters"
  | wrongSize measure isLeast count =>
    value.compact ++ (if isLeast then " has less than " else " has more than ") ++
      (if measure = .items then counted count "item" "items"
        else counted count "property" "properties")
  | patternMissed source => value.compact ++ " does not match \"" ++ source ++ "\""
  | searchGivenUp limit => limit.message
  | formatMissed name => value.compact ++ " is not a \"" ++ name ++ "\""
  | repeatedItems => value.compact ++ " has non-unique elements"
  | missingProperty name => Json.quote name ++ " is a required property"
  | additionalProperties names =>
    "Additional properties are not allowed (" ++ unexpected names "'" ++ ")"
  | additionalItems items =>
    "Additional items are not allowed (" ++ unexpected (items.map Json.compact) "" ++ ")"
  | unevaluatedProperties names =>
    "Unevaluated properties are not allowed (" ++ unexpected names "'" ++ ")"
  | unevaluatedItems items =>
    "Unevaluated items are not allowed (" ++ unexpected (items.map Json.compact) "'" ++ ")"
  | nothingContained => "None of " ++ value.compact ++ " are valid under the given schema"
  | noneOfAny =>
    value.compact ++ " is not valid under any of the schemas listed in the 'anyOf' keyword"
  | noneOfOne =>
    value.compact ++ " is not valid under any of the schemas listed in the 'oneOf' keyword"
  | severalOfOne =>
    value.compact ++ " is valid under more than one of the schemas listed in the 'oneOf' keyword"
  | excluded source => source.compact ++ " is not allowed for " ++ value.compact
  | contentMissed .encoding =>
    value.compact ++ " is not compliant with " ++ Json.quote Content.encodingName ++
      " content encoding"
  | contentMissed .mediaType =>
    value.compact ++ " is not compliant with " ++ Json.quote Content.mediaTypeName ++ " media type"
  | contentMissed (.bytes message) => message

/-- Two pointers, as their tokens: into a schema along the keywords that were followed, and into the
value that is checked. -/
structure Position where
  keyword : List String
  value : List String
deriving DecidableEq, Repr

namespace Position

def root : Position := ⟨[], []⟩

def under (p : Position) (tokens : List String) : Position :=
  { p with keyword := p.keyword ++ tokens }

def inside (p : Position) (token : String) : Position := { p with value := p.value ++ [token] }

end Position

structure Mismatch where
  position : Position
  value : Json
  cause : MismatchCause

namespace Mismatch

def message (m : Mismatch) : String := m.cause.message m.value

end Mismatch

end ChannelGateway.Schema
