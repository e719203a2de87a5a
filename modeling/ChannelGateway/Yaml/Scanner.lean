import ChannelGateway.Yaml.Block
import ChannelGateway.Yaml.Plain
import ChannelGateway.Yaml.Quoted
import ChannelGateway.Yaml.Tag
/-!
# Splitting YAML text into tokens

Two things make YAML's tokens depend on what was read before.  Indentation opens and closes block
collections, so the columns of the open ones are kept on a stack.  And a mapping key is only known
as such when its colon is met, so the place where a key may have started is remembered, and the key
token is put there later.
-/

namespace ChannelGateway.Yaml

/-- A place where a mapping key may have started. -/
structure PossibleKey where
  /-- Whether the key is the only reading that the indentation allows. -/
  required : Bool
  /-- The number of tokens before it. -/
  tokenIndex : Nat
  line : Nat
  column : Nat
  index : Nat

structure Scanner where
  cursor : Cursor
  tokens : Array Token
  /-- The number of open flow collections. -/
  flowLevel : Nat
  /-- The column of the innermost block collection, `-1` outside of all. -/
  indent : Int
  /-- The columns of the block collections around it, the innermost first. -/
  outerIndents : List Int
  /-- Whether a mapping key may start here. -/
  keyAllowed : Bool
  /-- The possible key of every flow level, the innermost first. -/
  possibleKeys : List (Option PossibleKey)

namespace Scanner

def start (text : List Char) : Scanner := ⟨Cursor.start text, #[], 0, -1, [], true, [none]⟩

def inFlow (s : Scanner) : Bool := 0 < s.flowLevel

def push (s : Scanner) (token : Token) : Scanner := { s with tokens := s.tokens.push token }

def possibleKey (s : Scanner) : Option PossibleKey := s.possibleKeys.head?.join

def setPossibleKey (s : Scanner) (key : Option PossibleKey) : Scanner :=
  { s with possibleKeys := key :: s.possibleKeys.tail }

/-- Moves over white space, comments and line breaks.  In a block, a new line may start a key. -/
def skipSpace (s : Scanner) : Nat → Scanner
  | 0 => s
  | fuel + 1 =>
    let c := s.cursor
    let c := if c.column = 0 && c.startsWith '\ufeff' then c.advance 1 else c
    let tabs := s.inFlow || !s.keyAllowed
    let c := (c.skipWhile fun ch => ch = ' ' || (tabs && ch = '\t')).skipComment
    if c.nextIs isBreak then
      skipSpace { s with cursor := c.skipBreak, keyAllowed := s.keyAllowed || !s.inFlow } fuel
    else { s with cursor := c }

/-- A key has to fit one line and 1024 characters. -/
def isStale (s : Scanner) (key : PossibleKey) : Bool :=
  key.line < s.cursor.line || key.index + 1024 < s.cursor.index

/-- Forgets keys that have become too long, unless one of them is required. -/
def dropStaleKeys? (s : Scanner) : Option Scanner :=
  if s.possibleKeys.any fun key => key.any fun key => s.isStale key && key.required then none
  else some { s with possibleKeys := s.possibleKeys.map fun key => key.filter (!s.isStale ·) }

/-- Forgets the possible key of the innermost flow level, unless it is required. -/
def dropKey? (s : Scanner) : Option Scanner :=
  if s.possibleKey.any (·.required) then none else some (s.setPossibleKey none)

def saveKey? (s : Scanner) : Option Scanner :=
  if s.keyAllowed then
    let c := s.cursor
    let required := !s.inFlow && s.indent == c.column
    s.dropKey?.map (·.setPossibleKey (some ⟨required, s.tokens.size, c.line, c.column, c.index⟩))
  else some s

/-- Closes the block collections that are indented deeper than a column. -/
def closeBlocks (s : Scanner) (column : Int) : List Int → Scanner
  | [] => s
  | outer :: rest =>
    if s.inFlow || s.indent ≤ column then s
    else closeBlocks { s.push .blockEnd with indent := outer, outerIndents := rest } column rest

def unindent (s : Scanner) (column : Int) : Scanner := s.closeBlocks column s.outerIndents

/-- Opens a block collection at a column that is deeper than the innermost one; its token goes to
`place`. -/
def indentTo (s : Scanner) (column : Nat) (place : Nat) (token : Token) : Scanner :=
  if s.inFlow || (column : Int) ≤ s.indent then s
  else { s with
    indent := column
    outerIndents := s.indent :: s.outerIndents
    tokens := s.tokens.insertIdxIfInBounds place token }

def takeIndicator (s : Scanner) (length : Nat) (token : Token) : Scanner :=
  { s with cursor := s.cursor.advance length }.push token

def finish? (s : Scanner) : Option Scanner :=
  (s.unindent (-1)).dropKey?.map (·.push .streamEnd)

def takeDirective? (s : Scanner) : Option Scanner :=
  (s.unindent (-1)).dropKey?.bind fun s =>
    (Directive.read? s.cursor).map fun (token, c) =>
      { s with cursor := c, keyAllowed := false }.push token

def takeMarker? (s : Scanner) (token : Token) : Option Scanner :=
  (s.unindent (-1)).dropKey?.map fun s =>
    { s with keyAllowed := false }.takeIndicator 3 token

/-- Opens a flow collection, which may itself be a key. -/
def openFlow? (s : Scanner) (token : Token) : Option Scanner :=
  s.saveKey?.map fun s =>
    { s with
      flowLevel := s.flowLevel + 1
      possibleKeys := none :: s.possibleKeys
      keyAllowed := true }.takeIndicator 1 token

def closeFlow? (s : Scanner) (token : Token) : Option Scanner :=
  s.dropKey?.map fun s =>
    let s := if s.inFlow then
        { s with flowLevel := s.flowLevel - 1, possibleKeys := s.possibleKeys.tail }
      else s
    { s with keyAllowed := false }.takeIndicator 1 token

def separateFlow? (s : Scanner) : Option Scanner :=
  s.dropKey?.map fun s => { s with keyAllowed := true }.takeIndicator 1 .flowEntry

def startEntry? (s : Scanner) : Option Scanner :=
  if !s.inFlow && !s.keyAllowed then none
  else
    (s.indentTo s.cursor.column s.tokens.size .blockSequenceStart).dropKey?.map fun s =>
      { s with keyAllowed := true }.takeIndicator 1 .blockEntry

def startKey? (s : Scanner) : Option Scanner :=
  if !s.inFlow && !s.keyAllowed then none
  else
    (s.indentTo s.cursor.column s.tokens.size .blockMappingStart).dropKey?.map fun s =>
      { s with keyAllowed := !s.inFlow }.takeIndicator 1 .key

/-- Starts a value.  If a key may have started on this line, it was one. -/
def startValue? (s : Scanner) : Option Scanner :=
  match s.possibleKey with
  | some key =>
    let s := { s with tokens := s.tokens.insertIdxIfInBounds key.tokenIndex .key }
    let s := (s.indentTo key.column key.tokenIndex .blockMappingStart).setPossibleKey none
    some ({ s with keyAllowed := false }.takeIndicator 1 .value)
  | none =>
    if !s.inFlow && !s.keyAllowed then none
    else
      let s := s.indentTo s.cursor.column s.tokens.size .blockMappingStart
      some ({ s with keyAllowed := !s.inFlow }.takeIndicator 1 .value)

def takeKeyLike? (s : Scanner) (read : Cursor → Option (Token × Cursor)) : Option Scanner :=
  s.saveKey?.bind fun s =>
    (read s.cursor).map fun (token, c) => { s with cursor := c, keyAllowed := false }.push token

def takeBlockScalar? (s : Scanner) (style : ScalarStyle) : Option Scanner :=
  s.dropKey?.bind fun s =>
    (Block.read? (style = .literal) s.indent s.cursor).map fun (text, c) =>
      { s with cursor := c, keyAllowed := true }.push (.scalar (String.ofList text) style)

/-- Reads a plain scalar.  If its last line has ended, a key may follow. -/
def takePlain? (s : Scanner) : Option Scanner :=
  s.saveKey?.bind fun s =>
    (Plain.read? s.inFlow s.indent s.cursor).map fun scalar =>
      { s with cursor := scalar.cursor, keyAllowed := scalar.brokenAfter }.push
        (.scalar (String.ofList scalar.text) .plain)

def takeQuoted? (s : Scanner) (style : ScalarStyle) : Option Scanner :=
  s.takeKeyLike? fun c =>
    (Quoted.read? (style = .singleQuoted) c).map fun (text, c) =>
      (.scalar (String.ofList text) style, c)

def startsPlain (s : Scanner) (ch : Char) : Bool :=
  let c := s.cursor
  !(c.spaceAt 0 || "-?:,[]\x7b\x7d#&*!|>'\"%@`".toList.contains ch) ||
    (ch = '-' && !(c.peekAt 1).any isBlank) ||
    (!s.inFlow && (ch = '?' || ch = ':') && !c.spaceAt 1)

def takeToken? (s : Scanner) (ch : Char) : Option Scanner :=
  let c := s.cursor
  let indicates := s.inFlow || c.spaceAt 1
  if c.column = 0 && ch = '%' then s.takeDirective?
  else if c.atMarker '-' then s.takeMarker? .documentStart
  else if c.atMarker '.' then s.takeMarker? .documentEnd
  else if ch = '[' then s.openFlow? .flowSequenceStart
  else if ch = '\x7b' then s.openFlow? .flowMappingStart
  else if ch = ']' then s.closeFlow? .flowSequenceEnd
  else if ch = '\x7d' then s.closeFlow? .flowMappingEnd
  else if ch = ',' then s.separateFlow?
  else if ch = '-' && c.spaceAt 1 then s.startEntry?
  else if ch = '?' && indicates then s.startKey?
  else if ch = ':' && indicates then s.startValue?
  else if ch = '*' then
    s.takeKeyLike? fun c => (readAnchor? c).map fun (name, c) => (.alias (String.ofList name), c)
  else if ch = '&' then
    s.takeKeyLike? fun c => (readAnchor? c).map fun (name, c) => (.anchor (String.ofList name), c)
  else if ch = '!' then s.takeKeyLike? (Tag.read? s.inFlow)
  else if ch = '|' && !s.inFlow then s.takeBlockScalar? .literal
  else if ch = '>' && !s.inFlow then s.takeBlockScalar? .folded
  else if ch = '\'' then s.takeQuoted? .singleQuoted
  else if ch = '"' then s.takeQuoted? .doubleQuoted
  else if s.startsPlain ch then s.takePlain?
  else none

def run? (s : Scanner) : Nat → Option (List Token)
  | 0 => none
  | fuel + 1 =>
    match (s.skipSpace (s.cursor.rest.length + 1)).dropStaleKeys? with
    | none => none
    | some s =>
      let s := s.unindent s.cursor.column
      match s.cursor.peek with
      | none => s.finish?.map (·.tokens.toList)
      | some ch =>
        match s.takeToken? ch with
        | none => none
        | some s => run? s fuel

end Scanner

def tokens? (text : List Char) : Option (List Token) :=
  if text.all isPrintable then (Scanner.start text).run? (text.length + 2) else none

end ChannelGateway.Yaml
