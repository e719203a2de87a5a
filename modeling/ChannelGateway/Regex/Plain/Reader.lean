import ChannelGateway.Regex.Plain.Class
/-!
# Reading plain expressions

A pattern is read from left to right; the first fault decides why it is refused.  Expressions may be
nested `depthLimit` levels deep.
-/

namespace ChannelGateway.Regex.Plain

def depthLimit : Nat := 250

/-- A place in a pattern: what is left of it, whether blanks have no meaning there, and the names
of the groups before it. -/
structure Place where
  rest : List Char
  verbose : Bool := false
  names : List String := []

namespace Place

def skip (p : Place) : Skip := if p.verbose then skipBlanks else id

def withRest (p : Place) (rest : List Char) : Place := { p with rest }

end Place

def flagOf? (c : Char) : Option Flag :=
  match c with
  | 'i' => some .ignoreCase
  | 'm' => some .multiLine
  | 's' => some .dotMatchesAll
  | 'U' => some .swapGreed
  | 'u' => some .unicode
  | 'R' => some .carriageReturns
  | 'x' => some .verbose
  | _ => none

/-- Reads flags up to the colon or the parenthesis after them: their changes, whether a group
follows, and what is left.  No flag is given twice, and what a hyphen turns off follows it. -/
def readFlags (off dangling : Bool) (changes : List (Flag × Bool)) :
    List Char → Except Fault (List (Flag × Bool) × Bool × List Char)
  | [] => .error .malformed
  | c :: rest =>
    if c = ':' || c = ')' then
      if dangling then .error .malformed else .ok (changes.reverse, c = ':', rest)
    else if c = '-' then
      if off then .error .malformed else readFlags true true changes rest
    else match flagOf? c with
      | some flag =>
        if changes.any (·.1 = flag) then .error .malformed
        else readFlags off false ((flag, !off) :: changes) rest
      | none => .error .malformed

def verboseAfter (changes : List (Flag × Bool)) (verbose : Bool) : Bool :=
  (changes.lookup .verbose).getD verbose

def readGroupName (names : List String) (text : List Char) : Except Fault (String × List Char) :=
  let name := text.takeWhile (· ≠ '>')
  let fits := match name with
    | [] => false
    | c :: cs => (c = '_' || Unicode.isAlphabetic c) &&
        cs.all fun c => c = '_' || c = '.' || c = '[' || c = ']' || Unicode.isAlphanumeric c
  match text.drop name.length with
  | _ :: rest =>
    if fits && !names.contains (String.ofList name) then .ok (String.ofList name, rest)
    else .error .malformed
  | [] => .error .malformed

inductive Opening where
  | flags (changes : List (Flag × Bool))
  | group (kind : GroupKind)

def looksAround (text : List Char) : Bool :=
  ["?=", "?!", "?<=", "?<!"].any fun start => start.toList.isPrefixOf text

def readOpening (p : Place) : Except Fault (Opening × Place) := do
  let text := p.skip p.rest
  if looksAround text then throw .unsupported
  let named (rest : List Char) : Except Fault (Opening × Place) := do
    let (name, rest) ← readGroupName p.names rest
    return (.group .capture, { p with rest, names := name :: p.names })
  match text with
  | '?' :: 'P' :: '<' :: rest => named rest
  | '?' :: '<' :: rest => named rest
  | '?' :: rest =>
    let (changes, isGroup, rest) ← readFlags false false [] rest
    if isGroup then return (.group (.flags changes), p.withRest rest)
    else if changes.isEmpty then throw .malformed
    else return (.flags changes, { p with rest, verbose := verboseAfter changes p.verbose })
  | text => return (.group .capture, p.withRest text)

def readDecimal (skip : Skip) (text : List Char) : Except Fault (Nat × List Char) :=
  let (digits, rest) := spelledAll skip Char.isDigit (text.dropWhile Unicode.isWhiteSpace)
  let n := digits.foldl (fun n c => 10 * n + CharSet.hexValue c) 0
  if digits.isEmpty || Nat.pow 2 32 ≤ n then .error .malformed
  else .ok (n, rest.dropWhile Unicode.isWhiteSpace)

def readCounts (skip : Skip) (text : List Char) : Except Fault (Nat × Option Nat × List Char) := do
  let (least, rest) ← readDecimal skip (skip text)
  let (most, rest) ← match rest with
    | ',' :: rest =>
      match skip rest with
      | '\x7d' :: rest => pure (none, '\x7d' :: rest)
      | rest => do
        let (most, rest) ← readDecimal skip rest
        pure (some most, rest)
    | rest => pure (some least, rest)
  match rest with
  | '\x7d' :: rest => if most.all (least ≤ ·) then return (least, most, rest) else throw .malformed
  | _ => throw .malformed

/-- The items with the last one repeated.  Flags cannot be repeated. -/
def repeatLast (least : Nat) (most : Option Nat) (greedy : Bool) :
    List Plain → Except Fault (List Plain)
  | [] | .flags _ :: _ => .error .malformed
  | item :: items => .ok (.repetition item least most greedy :: items)

/-- Splits off the question mark that makes a repetition lazy. -/
def splitGreed : List Char → Bool × List Char
  | '?' :: rest => (false, rest)
  | rest => (true, rest)

/-- Reads the rest of a group up to its end.  `branches` holds the branches before this one and
`items` what was read of it, the last ones first. -/
def readBody : Nat → List Plain → List Plain → Place → Except Fault (Plain × Place)
  | 0, _, _, _ => .error .malformed
  | fuel + 1, branches, items, p => do
    let text := p.skip p.rest
    let repeated (least : Nat) (most : Option Nat) (rest : List Char) :
        Except Fault (List Plain × Place) := do
      let (greedy, rest) := splitGreed rest
      return (← repeatLast least most greedy items, p.withRest rest)
    match text with
    | [] | ')' :: _ =>
      return (.ofBranches (.ofItems items.reverse :: branches).reverse, p.withRest text)
    | '|' :: rest => readBody fuel (.ofItems items.reverse :: branches) [] (p.withRest rest)
    | '(' :: rest => do
      match ← readOpening (p.withRest rest) with
      | (.flags changes, p) => readBody fuel branches (.flags changes :: items) p
      | (.group kind, inner) => do
        let verbose := match kind with
          | .capture => p.verbose
          | .flags changes => verboseAfter changes p.verbose
        let (body, last) ← readBody fuel [] [] { inner with verbose }
        match last.rest with
        | _ :: rest =>
          readBody fuel branches (.group kind body :: items)
            { last with rest, verbose := p.verbose }
        | [] => throw .malformed
    | '[' :: rest => do
      let (item, rest) ← readClass p.skip p.verbose rest
      readBody fuel branches (item :: items) (p.withRest rest)
    | '?' :: rest => do
      let (items, p) ← repeated 0 (some 1) rest
      readBody fuel branches items p
    | '*' :: rest => do
      let (items, p) ← repeated 0 none rest
      readBody fuel branches items p
    | '+' :: rest => do
      let (items, p) ← repeated 1 none rest
      readBody fuel branches items p
    | '\x7b' :: rest => do
      let (least, most, rest) ← readCounts p.skip rest
      let (items, p) ← repeated least most (p.skip rest)
      readBody fuel branches items p
    | '\\' :: rest => do
      let (item, rest) ← readEscape p.skip rest
      readBody fuel branches (item :: items) (p.withRest rest)
    | '.' :: rest => readBody fuel branches (.dot :: items) (p.withRest rest)
    | '^' :: rest => readBody fuel branches (.assertion .lineStart :: items) (p.withRest rest)
    | '$' :: rest => readBody fuel branches (.assertion .lineEnd :: items) (p.withRest rest)
    | c :: rest => readBody fuel branches (.literal c :: items) (p.withRest rest)

def read (pattern : List Char) : Except Fault Plain := do
  let (expression, last) ← readBody (pattern.length + 1) [] [] { rest := pattern }
  if !last.rest.isEmpty || depthLimit < expression.depth then throw .malformed
  return expression

end ChannelGateway.Regex.Plain
