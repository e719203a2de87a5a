import ChannelGateway.Regex.Extended.Escape
/-!
# Reading extended expressions

Flags that are set in a group stay in force after it.  Groups may be nested less than
`groupDepthLimit` levels deep.
-/

namespace ChannelGateway.Regex.Extended

def groupDepthLimit : Nat := 64

inductive Grouping where
  | capture (index : Nat)
  | look (ahead negated : Bool)
  | atomic
  /-- The flags are restored after the group. -/
  | restore (flags : Flags)

def Grouping.around : Grouping → Extended → Extended
  | capture index, body => .group index body
  | look ahead negated, body => .look ahead negated body
  | atomic, body => .atomic body
  | restore _, body => body

inductive Opening where
  | complete (expression : Extended)
  | group (grouping : Grouping)
  /-- A condition: that a group has matched, or an expression that follows. -/
  | condition (reference : Option Nat)

/-- Reads flags up to the colon or parenthesis after them.  `start` is the length of what was left
where they start, and `on` tells whether flags are turned on or off. -/
def readFlags (start : Nat) (outer : Flags) : Nat → Bool → Place → Option (Opening × Place)
  | 0, _, _ => none
  | fuel + 1, on, p => do
    let p ← p.next?
    let count := start - p.rest.length
    match p.rest with
    | [] => none
    | ')' :: rest =>
      if count = 0 || (!on && count = 1) then none else some (.complete .empty, p.withRest rest)
    | ':' :: rest =>
      if !on && count = 1 then none else some (.group (.restore outer), p.withRest rest)
    | '-' :: rest => if on then readFlags start outer fuel false (p.withRest rest) else none
    | c :: rest => do
      let flags ← p.flags.change? c on
      readFlags start outer fuel on { p with rest, flags }

def readCondition (p : Place) : Option (Opening × Place) := do
  let named (close : Char) (rest : List Char) : Option (Opening × Place) := do
    let (name, rest) ← name? close true rest
    let number ← p.groupNamed? name
    if number ≤ p.groups then some (.condition (some number), p.withRest rest) else none
  match p.rest with
  | [] => none
  | '\'' :: rest => named '\'' rest
  | '<' :: rest => named '>' rest
  | c :: rest =>
    if c.isDigit then do
      let (number, rest) ← decimal? (c :: rest)
      if number < p.patternSize / 2 && number ≤ p.groups then
        some (.condition (some number), { p with rest, hasNumbers := true })
      else none
    else some (.condition none, p)

def readOpening (p : Place) : Option (Opening × Place) := do
  let p ← p.next?
  let capture : Place := { p with groups := p.groups + 1 }
  let named (rest : List Char) : Option (Opening × Place) := do
    let (name, rest) ← name? '>' false rest
    return (.group (.capture capture.groups),
      { capture with rest, names := (String.ofList name, capture.groups) :: p.names })
  match p.rest with
  | '?' :: '=' :: rest => some (.group (.look true false), p.withRest rest)
  | '?' :: '!' :: rest => some (.group (.look true true), p.withRest rest)
  | '?' :: '<' :: '=' :: rest => some (.group (.look false false), p.withRest rest)
  | '?' :: '<' :: '!' :: rest => some (.group (.look false true), p.withRest rest)
  | '?' :: '<' :: rest => named rest
  | '?' :: 'P' :: '<' :: rest => named rest
  | '?' :: 'P' :: '=' :: rest => do
    let (name, rest) ← name? ')' false rest
    let number ← p.groupNamed? name
    if p.knows number then some (.complete (.backReference number), p.withRest rest) else none
  | '?' :: '>' :: rest => some (.group .atomic, p.withRest rest)
  | '?' :: '(' :: rest => readCondition (p.withRest rest)
  | '?' :: rest => readFlags rest.length p.flags (rest.length + 1) true (p.withRest rest)
  | _ => some (.group (.capture capture.groups), capture)

/-- How often the expression before a place is repeated, and the place after that; a brace that
starts no count stands for itself. -/
def repetitionAt? (p : Place) : Option (Nat × Option Nat × Place) :=
  match p.rest with
  | '?' :: rest => some (0, some 1, p.withRest rest)
  | '*' :: rest => some (0, none, p.withRest rest)
  | '+' :: rest => some (1, none, p.withRest rest)
  | '\x7b' :: rest =>
    (counts? p.flags.verbose rest).map fun (least, most, rest) => (least, most, p.withRest rest)
  | _ => none

def readRepetition (expression : Extended) (p : Place) : Option (Extended × Place) := do
  let p ← p.next?
  match repetitionAt? p with
  | none => return (expression, p)
  | some (least, most, p) => do
    if !expression.isRepeatable then none
    let p ← p.next?
    let (isLazy, rest) := match p.rest with
      | '?' :: rest => (true, rest)
      | rest => (false, rest)
    let repeated := Extended.repetition expression least most (isLazy == p.flags.swapGreed)
    match rest with
    | '+' :: rest => return (.atomic repeated, p.withRest rest)
    | rest => return (repeated, p.withRest rest)

/-- The conditional of a condition and what follows it: the first branch is for when it holds, the
others are for when it does not. -/
def conditionalOf (condition : Extended) (body : Extended) : Extended :=
  let (yes, no) := match body with
    | .alternation (yes :: branches) =>
      (yes, match branches with
        | [no] => no
        | branches => .alternation branches)
    | yes => (yes, .empty)
  if yes.isEmpty && no.isEmpty then condition else .conditional condition yes no

/-- The condition of an expression, and whether it needs no branches: a reference back asks whether
the group has matched. -/
def asCondition : Extended → Extended × Bool
  | .backReference number => (.groupMatched number, true)
  | condition => (condition, false)

/-- Reads the rest of a group up to its end.  `branches` holds the branches before this one and
`items` what was read of it, the last ones first.  Groups are referred to either by names or by
numbers, but for groups with branches, where the mixture is not noticed. -/
def readBody : Nat → Nat → List Extended → List Extended → Place → Option (Extended × Place)
  | 0, _, _, _, _ => none
  | fuel + 1, depth, branches, items, p => do
    let p ← p.next?
    let add (expression : Extended) (p : Place) : Option (Extended × Place) := do
      let (expression, p) ← readRepetition expression p
      let items := if expression.isEmpty then items else expression :: items
      readBody fuel depth branches items p
    match p.rest with
    | [] | ')' :: _ =>
      let last := ofItems items.reverse
      if !branches.isEmpty then return (.alternation (last :: branches).reverse, p)
      else if p.hasNumbers && !p.names.isEmpty then none
      else return (last, p)
    | '|' :: rest => readBody fuel depth (ofItems items.reverse :: branches) [] (p.withRest rest)
    | '?' :: _ | '*' :: _ | '+' :: _ => none
    | '.' :: rest => add (.any p.flags.dotMatchesAll) (p.withRest rest)
    | '^' :: rest =>
      add (.assertion (if p.flags.multiLine then .lineStart else .textStart)) (p.withRest rest)
    | '$' :: rest =>
      add (.assertion (if p.flags.multiLine then .lineEnd else .textEnd)) (p.withRest rest)
    | '\\' :: rest => do
      let (expression, p) ← escape? (p.withRest rest)
      add expression p
    | '[' :: rest => do
      let (expression, p) ← class? (p.withRest rest)
      add expression p
    | '(' :: rest => do
      if groupDepthLimit ≤ depth + 1 then none
      match ← readOpening (p.withRest rest) with
      | (.complete expression, p) => add expression p
      | (.group grouping, p) => do
        let (body, p) ← readBody fuel (depth + 1) [] [] p
        let p := match grouping with
          | .restore flags => { p with flags }
          | _ => p
        add (grouping.around body) (← p.closed?)
      | (.condition reference, p) => do
        let (condition, p) ← match reference with
          | some number => pure (.backReference number, p)
          | none => readBody fuel (depth + 1) [] [] p
        let (condition, standsAlone) := asCondition condition
        let p ← p.closed?
        let (body, last) ← readBody fuel (depth + 1) [] [] p
        if last.rest.length = p.rest.length && !standsAlone then none
        add (conditionalOf condition body) (← last.closed?)
    | c :: rest => add (.literal c p.flags.ignoreCase) (p.withRest rest)

def ofPattern? (pattern : String) : Option (Extended × List Nat) := do
  let start : Place := { rest := pattern.toList, patternSize := pattern.utf8ByteSize }
  let (expression, last) ← readBody (pattern.length + 1) 0 [] [] start
  if last.rest.isEmpty then return (expression, last.referenced) else none

end ChannelGateway.Regex.Extended
