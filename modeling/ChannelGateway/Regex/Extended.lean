import ChannelGateway.Regex.Plain.Escape
/-!
# Extended expressions

Expressions that may also look around, refer back to groups, and commit to what they have matched.
What plain expressions can say is kept so that it can be written as one.
-/

namespace ChannelGateway.Regex

inductive Extended where
  | empty
  /-- Any character, or any but a line feed. -/
  | any (lineFeeds : Bool)
  | literal (c : Char) (ignoreCase : Bool)
  | assertion (assertion : Assertion)
  /-- A plain expression for one character, as it is written. -/
  | oneOf (text : String) (ignoreCase : Bool)
  /-- A numbered group, counted from 1. -/
  | group (index : Nat) (body : Extended)
  | repetition (body : Extended) (least : Nat) (most : Option Nat) (greedy : Bool)
  | concat (items : List Extended)
  | alternation (branches : List Extended)
  | look (ahead negated : Bool) (body : Extended)
  /-- A body that is not tried a second time once it has matched. -/
  | atomic (body : Extended)
  | backReference (group : Nat)
  /-- The place where the match is to start. -/
  | keepOut
  /-- The place where the search started. -/
  | searchStart
  /-- Whether a group has matched. -/
  | groupMatched (group : Nat)
  | conditional (condition yes no : Extended)
deriving Inhabited

namespace Extended

def ofItems : List Extended → Extended
  | [] => empty
  | [item] => item
  | items => concat items

def isEmpty : Extended → Bool
  | empty => true
  | _ => false

/-- Whether an expression can be repeated: assertions and the empty expression cannot. -/
def isRepeatable : Extended → Bool
  | empty | assertion _ | look .. => false
  | _ => true

/-- Whether an assertion is about words.  Such an assertion is not left to an automaton. -/
def isAboutWords : Assertion → Bool
  | .wordBoundary | .noWordBoundary | .wordStart | .wordEnd => true
  | _ => false

mutual

/-- Whether an expression cannot be written as a plain one, or has a group among the `referenced`
ones, which may have to be matched a second time. -/
def isHard (referenced : List Nat) : Extended → Bool
  | empty | any _ | literal .. | oneOf .. => false
  | assertion a => isAboutWords a
  | group index body => referenced.contains index || body.isHard referenced
  | repetition body .. => body.isHard referenced
  | concat items | alternation items => anyIsHard referenced items
  | look .. | atomic _ | backReference _ | keepOut | searchStart | groupMatched _
  | conditional .. => true

def anyIsHard (referenced : List Nat) : List Extended → Bool
  | [] => false
  | item :: items => item.isHard referenced || anyIsHard referenced items

end

/-- How many characters an expression matches: at least, and whether always as many. -/
structure Size where
  least : Nat
  isConstant : Bool
deriving DecidableEq, Repr

namespace Size

def zero : Size := ⟨0, true⟩

def followedBy (a b : Size) : Size := ⟨a.least + b.least, a.isConstant && b.isConstant⟩

def or (a b : Size) : Size :=
  ⟨min a.least b.least, a.isConstant && b.isConstant && a.least = b.least⟩

end Size

mutual

def size : Extended → Size
  | empty | assertion _ | look .. | keepOut | searchStart | groupMatched _ => .zero
  | any _ | literal .. | oneOf .. => ⟨1, true⟩
  | group _ body | atomic body => body.size
  | repetition body least most _ =>
    let s := body.size
    ⟨s.least * least, s.isConstant && most = some least⟩
  | concat items => sizeOfAll items
  | alternation branches => sizeOfAny branches
  | backReference _ => ⟨0, false⟩
  | conditional condition yes no =>
    let c := condition.size
    let y := yes.size
    let n := no.size
    ⟨c.least + min y.least n.least,
      c.isConstant && y.isConstant && n.isConstant && c.least + y.least = n.least⟩

def sizeOfAll : List Extended → Size
  | [] => .zero
  | item :: items => item.size.followedBy (sizeOfAll items)

def sizeOfAny : List Extended → Size
  | [] => .zero
  | [branch] => branch.size
  | branch :: branches => branch.size.or (sizeOfAny branches)

end

mutual

def groups : Extended → List Nat
  | group index body => index :: body.groups
  | repetition body .. | look _ _ body | atomic body => body.groups
  | concat items | alternation items => groupsOfAll items
  | conditional condition yes no => condition.groups ++ yes.groups ++ no.groups
  | empty | any _ | literal .. | assertion _ | oneOf .. | backReference _ | keepOut | searchStart
  | groupMatched _ => []

def groupsOfAll : List Extended → List Nat
  | [] => []
  | item :: items => item.groups ++ groupsOfAll items

end

mutual

def literalText? : Extended → Option (List Char)
  | literal c false => some [c]
  | concat items => literalTextOfAll? items
  | _ => none

def literalTextOfAll? : List Extended → Option (List Char)
  | [] => some []
  | item :: items =>
    item.literalText?.bind fun chars => (literalTextOfAll? items).map (chars ++ ·)

end

def grouped (needed : Bool) (text : String) : String :=
  if needed then "(?:" ++ text ++ ")" else text

def caseless (ignoreCase : Bool) (text : String) : String :=
  if ignoreCase then "(?i:" ++ text ++ ")" else text

def escaped (c : Char) : String :=
  if Plain.isMeta c then "\\" ++ String.singleton c else String.singleton c

def counts (least : Nat) (most : Option Nat) : String :=
  match least, most with
  | 0, some 1 => "?"
  | 0, none => "*"
  | 1, none => "+"
  | least, none => "\x7b" ++ toString least ++ ",\x7d"
  | least, some most =>
    if least = most then "\x7b" ++ toString least ++ "\x7d"
    else "\x7b" ++ toString least ++ "," ++ toString most ++ "\x7d"

mutual

/-- An expression that is not hard, written as a plain one.  `binding` tells what it stands in: 0
for a group, 1 for a branch, 2 for a sequence and 3 for a repetition. -/
def plainText (binding : Nat) : Extended → String
  | any lineFeeds => if lineFeeds then "(?s:.)" else "."
  | literal c ignoreCase => caseless ignoreCase (escaped c)
  | assertion .lineStart => "(?m:^)"
  | assertion .lineEnd => "(?m:$)"
  | assertion .textEnd => "$"
  | assertion _ => "^"
  | oneOf text ignoreCase => caseless ignoreCase text
  | group _ body => "(" ++ body.plainText 0 ++ ")"
  | repetition body least most greedy =>
    grouped (2 < binding)
      (body.plainText 3 ++ counts least most ++ if greedy then "" else "?")
  | concat items => grouped (1 < binding) (plainTextOfAll items)
  | alternation branches => grouped (0 < binding) (plainTextOfAny branches)
  | empty | look .. | atomic _ | backReference _ | keepOut | searchStart | groupMatched _
  | conditional .. => ""

def plainTextOfAll : List Extended → String
  | [] => ""
  | item :: items => item.plainText 2 ++ plainTextOfAll items

def plainTextOfAny : List Extended → String
  | [] => ""
  | [branch] => branch.plainText 1
  | branch :: branches => branch.plainText 1 ++ "|" ++ plainTextOfAny branches

end

end Extended

end ChannelGateway.Regex
