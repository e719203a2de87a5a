import ChannelGateway.Regex.Extended
/-!
# Places in extended patterns

What is left of a pattern at a place, and what the part before it has settled: the flags in force,
the groups and their names.
-/

namespace ChannelGateway.Regex.Extended

structure Flags where
  ignoreCase : Bool := false
  multiLine : Bool := false
  dotMatchesAll : Bool := false
  swapGreed : Bool := false
  verbose : Bool := false
deriving DecidableEq, Repr

namespace Flags

def change? (flags : Flags) (letter : Char) (on : Bool) : Option Flags :=
  match letter with
  | 'i' => some { flags with ignoreCase := on }
  | 'm' => some { flags with multiLine := on }
  | 's' => some { flags with dotMatchesAll := on }
  | 'U' => some { flags with swapGreed := on }
  | 'x' => some { flags with verbose := on }
  | 'u' => if on then some flags else none
  | _ => none

end Flags

structure Place where
  /-- What is left of the pattern. -/
  rest : List Char
  /-- The number of bytes of the whole pattern. -/
  patternSize : Nat
  flags : Flags := {}
  /-- The number of groups before the place. -/
  groups : Nat := 0
  names : List (String × Nat) := []
  /-- Whether a group has been referred to by its number. -/
  hasNumbers : Bool := false
  /-- The groups that backslashes have referred to. -/
  referenced : List Nat := []

mutual

/-- Steps over comments in parentheses and, in verbose patterns, over blanks and comments up to the
end of a line; `none` if a comment is not closed. -/
def skipMeaningless? (verbose : Bool) : List Char → Option (List Char)
  | '(' :: '?' :: '#' :: rest => skipComment? verbose rest
  | c :: rest =>
    if verbose && c = '#' then skipLine? verbose rest
    else if verbose && (c = ' ' || c = '\t' || c = '\r' || c = '\n') then
      skipMeaningless? verbose rest
    else some (c :: rest)
  | [] => some []

def skipLine? (verbose : Bool) : List Char → Option (List Char)
  | [] => some []
  | c :: rest => if c = '\n' then skipMeaningless? verbose rest else skipLine? verbose rest

def skipComment? (verbose : Bool) : List Char → Option (List Char)
  | ')' :: rest => skipMeaningless? verbose rest
  | '\\' :: _ :: rest => skipComment? verbose rest
  | _ :: rest => skipComment? verbose rest
  | [] => none

end

namespace Place

def withRest (p : Place) (rest : List Char) : Place := { p with rest }

def next? (p : Place) : Option Place :=
  (skipMeaningless? p.flags.verbose p.rest).map p.withRest

def closed? (p : Place) : Option Place := do
  match ← p.next? with
  | { rest := ')' :: rest, .. } => return p.withRest rest
  | _ => none

def refer (p : Place) (group : Nat) : Place := { p with referenced := group :: p.referenced }

end Place

/-- The greatest number of repetitions that can be told from any number of them. -/
def countLimit : Nat := Nat.pow 2 64 - 1

def decimal? (text : List Char) : Option (Nat × List Char) :=
  let digits := text.takeWhile Char.isDigit
  let n := digits.foldl (fun n c => 10 * n + CharSet.hexValue c) 0
  if digits.isEmpty || countLimit < n then none else some (n, text.drop digits.length)

/-- How often something is repeated, from after the opening brace, and what follows the closing one.
Without a least number it may be left out; the numbers may be in any order. -/
def counts? (verbose : Bool) (text : List Char) : Option (Nat × Option Nat × List Char) := do
  let skip := skipMeaningless? verbose
  let text ← skip text
  let (least, rest) ← match text with
    | ',' :: _ => some (0, text)
    | text => decimal? text
  match ← skip rest with
  | '\x7d' :: rest => return (least, some least, rest)
  | ',' :: rest => do
    let rest ← skip rest
    let (most, rest) := match decimal? rest with
      | some (most, rest) => (if most = countLimit then none else some most, rest)
      | none => (none, rest)
    match ← skip rest with
    | '\x7d' :: rest => return (least, most, rest)
    | _ => none
  | _ => none

def isNameChar (c : Char) : Bool := c = '_' || Unicode.isAlphanumeric c

def name? (close : Char) (countsBack : Bool) (text : List Char) : Option (List Char × List Char) :=
  match text with
  | first :: rest =>
    let more := rest.takeWhile isNameChar
    match rest.drop more.length with
    | mark :: after =>
      if mark = close && (isNameChar first || (countsBack && first = '-')) then
        some (first :: more, after)
      else none
    | [] => none
  | [] => none

namespace Place

/-- The group that a name denotes at a place: the group of that name or number, or the group that
many places back. -/
def groupNamed? (p : Place) (name : List Char) : Option Nat :=
  match p.names.lookup (String.ofList name), name with
  | some number, _ => some number
  | none, '-' :: digits =>
    match decimal? digits with
    | some (n, []) => if n ≤ p.groups + 1 then some (p.groups + 1 - n) else none
    | _ => none
  | none, digits =>
    match decimal? digits with
    | some (n, []) => some n
    | _ => none

def knows (p : Place) (group : Nat) : Bool := 1 ≤ group && group ≤ p.groups

end Place

end ChannelGateway.Regex.Extended
