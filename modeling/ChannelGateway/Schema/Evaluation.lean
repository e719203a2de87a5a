import ChannelGateway.Schema.Check
import ChannelGateway.Schema.Taken
/-!
# Checking values

The mismatches of a value, keyword by keyword in the order of the schema.  What a keyword asks is
defined relative to a `check` of the schemas inside it; following references makes that check
recursive, so it runs with a bound on its depth that no finite check reaches.
-/

namespace ChannelGateway.Schema

def require (condition : Bool) (position : Position) (value : Json) (cause : MismatchCause) :
    List Mismatch :=
  if condition then [] else [⟨position, value, cause⟩]

def checkItems (check : Check) (rule : Rule) (position : Position) (items : List (Nat × Json)) :
    List Mismatch :=
  items.flatMap fun (i, item) => check rule (position.inside (toString i)) item

/-- Checks a property against the patterns that its name matches. -/
def checkPatterns (check : Check) (patterns : List (String × Regex × Rule)) (position : Position)
    (name : String) (value : Json) : List Mismatch :=
  (matching patterns name).flatMap fun (source, rule) =>
    check rule ((position.under ["patternProperties", source]).inside name) value

def resolution : Rat := 1 / (Nat.pow 2 52 : Rat)

/-- The denominator of the decimal fraction with the fewest places from which a double is not told
apart, and its numerator.  Doubles below the resolution become zero. -/
def decimalFraction (d : Double) : Nat → Double → Nat → Nat × Nat
  | 0, _, places => (0, Nat.pow 10 places)
  | fuel + 1, power, places =>
    let scaled := (d.mul? power).getD d
    let q := scaled.toRat.abs
    if q - q.floor < resolution then (q.floor.toNat, Nat.pow 10 places)
    else decimalFraction d fuel ((power.mul? (Double.powerOfTen 1)).getD power) (places + 1)

def Double.toFraction (d : Double) : Nat × Nat := decimalFraction d 340 (Double.powerOfTen 0) 0

/-- Whether the quotient of two numbers, as a double, is whole or negative up to the resolution of
doubles near one; beyond the largest double the quotient of decimal fractions decides, where a
division by zero passes. -/
def dividesRoughly (divisor number : Double) : Bool :=
  match number.div? divisor with
  | some quotient =>
    let q := quotient.toRat
    let remainder := if q < 0 then q - q.ceil else q - q.floor
    decide (remainder < resolution)
  | none =>
    let (a, b) := Double.toFraction number
    let (c, d) := Double.toFraction divisor
    c = 0 || (mkRat (a * d) (b * c)).den = 1

/-- Whether a number is a multiple of another one, both taken as doubles.  Nothing is a multiple of
zero. -/
def isMultiple (divisor number : JsonNumber) : Bool :=
  let d := divisor.toDouble
  let n := number.toDouble
  if d.isWhole then d.toRat != 0 && n.isWhole && (n.toRat / d.toRat).den = 1 else dividesRoughly d n

def isConstant (constant value : Json) : Bool :=
  match constant, value with
  | .number a, .number b =>
    (Double.ofRat? (a.toDouble.toRat - b.toDouble.toRat)).any fun d => d.toRat.abs < resolution
  | constant, value => constant.isSame value

def differPairwise : List Json → Bool
  | [] => true
  | item :: rest => rest.all (!Json.isSame item ·) && differPairwise rest

def differFromNext : List String → Bool
  | a :: b :: rest => a != b && differFromNext (b :: rest)
  | _ => true

/-- Whether the values are distinct.  Of more than fifteen, the texts are compared, so that `1` and
`1.0` are distinct and the order of fields does not matter. -/
def areDistinct (values : List Json) : Bool :=
  if values.length ≤ 15 then differPairwise values
  else differFromNext ((values.map fun v => v.withSortedFields.compact).mergeSort fun a b =>
    decide (a ≤ b))

def checkContains (check : Check) (rule : Rule) (least most : Option Nat) (position : Position)
    (value : Json) (items : List Json) : List Mismatch :=
  let count := items.countP (check.passes rule)
  let fail (keyword : String) : List Mismatch :=
    [⟨position.under [keyword], value, .nothingContained⟩]
  match least, most with
  | none, none => if 0 < count then [] else fail "contains"
  | some least, none => if least ≤ count then [] else fail "minContains"
  | none, some most => if 0 < count && count ≤ most then [] else fail "maxContains"
  | some least, some most =>
    if most < count then fail "maxContains" else if least ≤ count then [] else fail "minContains"

/-- Checks the properties of an object that may have no others than the declared ones, those that
match a pattern, and those that fit `rest`. -/
def checkClosed (check : Check) (declared : Option (List (String × Rule)))
    (patterns : Option (List (String × Regex × Rule))) (rest : Option Rule) (position : Position)
    (value : Json) (fields : List (String × Json)) : List Mismatch :=
  let here := position.under ["additionalProperties"]
  let known (name : String) : Option Rule := declared.bind (·.lookup name)
  let patterns' := patterns.getD []
  let isExtra (name : String) : Bool := (known name).isNone && (matching patterns' name).isEmpty
  match declared, patterns, rest with
  | none, none, none =>
    match fields with
    | [] => []
    | (_, first) :: _ => [⟨here, first, .nothingAllowed⟩]
  | _, _, _ =>
    let mismatches := fields.flatMap fun (name, item) =>
      ((known name).elim [] fun rule =>
        check rule ((position.under ["properties", name]).inside name) item) ++
      checkPatterns check patterns' position name item ++
      (if isExtra name then rest.elim [] fun rule => check rule (here.inside name) item else [])
    let extra := (Fields.keys fields).filter isExtra
    mismatches ++
      if rest.isNone && !extra.isEmpty then [⟨here, value, .additionalProperties extra⟩] else []

def checkDependency (check : Check) (keyword : String) (position : Position) (value : Json)
    (fields : List (String × Json)) (dependency : String × List String × Option Rule) :
    List Mismatch :=
  let (name, names, rule) := dependency
  if !Fields.contains fields name then []
  else
    names.flatMap (fun other =>
      require (Fields.contains fields other) (position.under [keyword]) value
        (.missingProperty other)) ++
    rule.elim [] fun rule => check rule (position.under [keyword, name]) value

def checkContent (content : Content) (position : Position) (value : Json) (text : String) :
    List Mismatch :=
  match content.fault? text with
  | none => []
  | some .encoding => [⟨position.under ["contentEncoding"], value, .contentMissed .encoding⟩]
  | some .mediaType => [⟨position.under ["contentMediaType"], value, .contentMissed .mediaType⟩]
  | some (.bytes message) => [⟨.root, value, .contentMissed (.bytes message)⟩]

def checkPattern (source : String) (regex : Regex) (position : Position) (value : Json)
    (text : String) :
    List Mismatch :=
  match regex.isMatch text with
  | .ok true => []
  | .ok false => [⟨position.under ["pattern"], value, .patternMissed source⟩]
  | .error limit => [⟨position.under ["pattern"], value, .searchGivenUp limit⟩]

/-- What a keyword asks of a value, given the parts of the value that the keywords beside it have
taken care of. -/
def Keyword.mismatches (check : Check) (evaluatedNames : Json → List String)
    (evaluatedItems : Json → List Nat) (keyword : Keyword) (position : Position) (value : Json) :
    List Mismatch :=
  match keyword, value with
  | .type types wholeDoubles, value =>
    require (types.any (·.accepts wholeDoubles value)) (position.under ["type"]) value
      (.wrongType types)
  | .enumeration options, value =>
    require (options.any (Json.isSame · value)) (position.under ["enum"]) value (.notListed options)
  | .const constant, value =>
    require (isConstant constant value) (position.under ["const"]) value (.notTheConstant constant)
  | .bound kind limit, .number n =>
    require (kind.accepts limit n) (position.under [kind.keyword]) value (.outOfBound kind limit)
  | .multipleOf divisor, .number n =>
    require (isMultiple divisor n) (position.under ["multipleOf"]) value (.notAMultiple divisor)
  | .size measure isLeast count, value =>
    require ((measure.count? value).all fun n => if isLeast then count ≤ n else n ≤ count)
      (position.under [measure.keyword isLeast]) value (.wrongSize measure isLeast count)
  | .pattern source regex, .string s => checkPattern source regex position value s
  | .format name kind, .string s =>
    require (kind.accepts s) (position.under ["format"]) value (.formatMissed name)
  | .uniqueItems, .array elements =>
    require (areDistinct elements) (position.under ["uniqueItems"]) value .repeatedItems
  | .required names, .object fields =>
    names.flatMap fun name =>
      require (Fields.contains fields name) (position.under ["required"]) value
        (.missingProperty name)
  | .properties declared, .object fields =>
    declared.flatMap fun (name, rule) => (fields.lookup name).elim [] fun item =>
      check rule ((position.under ["properties", name]).inside name) item
  | .patternProperties patterns, .object fields =>
    patterns.flatMap fun pattern => fields.flatMap fun (name, item) =>
      checkPatterns check [pattern] position name item
  | .additionalProperties declared patterns rest, .object fields =>
    checkClosed check declared patterns rest position value fields
  | .propertyNames .nothing, .object fields =>
    require fields.isEmpty (position.under ["propertyNames"]) value .nothingAllowed
  | .propertyNames names, .object fields =>
    (Fields.keys fields).flatMap fun name =>
      (check names (position.under ["propertyNames"]) (.string name)).map fun m =>
        { m with position := { m.position with value := position.value } }
  | .dependencies keyword list, .object fields =>
    list.flatMap (checkDependency check keyword position value fields)
  | .items first rule, .array elements =>
    checkItems check rule (position.under ["items"]) (numbered (elements.drop first) first)
  | .leadingItems keyword rules, .array elements =>
    (rules.zip (numbered elements 0)).flatMap fun (rule, i, item) =>
      check rule ((position.under [keyword, toString i]).inside (toString i)) item
  | .additionalItems first none, .array elements =>
    require (elements.length ≤ first) (position.under ["additionalItems"]) value
      (.additionalItems (elements.drop first))
  | .additionalItems first (some rule), .array elements =>
    checkItems check rule (position.under ["additionalItems"])
      (numbered (elements.drop first) first)
  | .contains rule least most _, .array elements =>
    checkContains check rule least most position value elements
  | .allOf rules, value =>
    rules.zipIdx.flatMap fun (rule, i) => check rule (position.under ["allOf", toString i]) value
  | .anyOf rules, value =>
    require (rules.any (check.passes · value)) (position.under ["anyOf"]) value .noneOfAny
  | .oneOf rules, value =>
    match rules.countP (check.passes · value) with
    | 0 => [⟨position.under ["oneOf"], value, .noneOfOne⟩]
    | 1 => []
    | _ => [⟨position.under ["oneOf"], value, .severalOfOne⟩]
  | .not source rule, value =>
    require (!check.passes rule value) (position.under ["not"]) value (.excluded source)
  | .condition test consequence alternative, value =>
    let (keyword, branch) :=
      if check.passes test value then ("then", consequence) else ("else", alternative)
    branch.elim [] fun rule => check rule (position.under [keyword]) value
  | .reference keyword target, value => check target.get (position.under [keyword]) value
  | .content task, .string s => checkContent task position value s
  | .noAdditionalItems, value => [⟨position.under ["additionalItems"], value, .nothingAllowed⟩]
  | .unevaluatedProperties rule, .object fields =>
    let evaluated := evaluatedNames value
    let rest := fields.filter fun (name, item) =>
      !evaluated.contains name && !check.passes rule item
    require rest.isEmpty (position.under ["unevaluatedProperties"]) value
      (.unevaluatedProperties (Fields.keys rest))
  | .unevaluatedItems rule, .array elements =>
    let evaluated := evaluatedItems value
    let rest := (numbered elements 0).filter fun (i, item) =>
      !evaluated.contains i && !check.passes rule item
    require rest.isEmpty (position.under ["unevaluatedItems"]) value
      (.unevaluatedItems (rest.map Prod.snd))
  | _, _ => []

/-- Whether a keyword looks at what the other keywords have taken care of. -/
def Keyword.isUnevaluated : Keyword → Bool
  | .unevaluatedProperties _ | .unevaluatedItems _ => true
  | _ => false

/-- The mismatches of a value, checked to a limited depth. -/
def mismatchesTo : Nat → Check
  | 0, _, _, _ => []
  | _ + 1, .anything, _, _ => []
  | _ + 1, .nothing, position, value => [⟨position, value, .nothingAllowed⟩]
  | depth + 1, .keywords keywords, position, value =>
    let check := mismatchesTo depth
    let others := Rule.keywords (keywords.filter (!·.isUnevaluated))
    keywords.flatMap fun keyword =>
      keyword.mismatches check (others.namesTaken check depth) (others.itemsTaken check depth)
        position value

end ChannelGateway.Schema
