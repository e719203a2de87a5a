import ChannelGateway.Yaml.Scanner
/-!
# Content of a YAML document

The content is a tree of scalars, sequences and mappings.  An alias holds the number of the anchored
node that it repeats; the anchored nodes are kept beside the tree, since a node may repeat itself.
-/

namespace ChannelGateway.Yaml

inductive Content where
  | scalar (tag : Option String) (text : String) (style : ScalarStyle)
  | sequence (tag : Option String) (items : List Content)
  | mapping (tag : Option String) (entries : List (Content × Content))
  | alias (target : Nat)
deriving Inhabited

def Content.blank : Content := .scalar none "" .plain

/-- A document: its root, absent if the stream has no node at all, and the node that each anchor
number stands for. -/
structure YamlDocument where
  root : Option Content
  anchored : List (Nat × Content)

structure Composer where
  tokens : List Token
  /-- The expansions of the tag handles in force. -/
  handles : List (String × String)
  /-- The anchor names met so far with their numbers. -/
  anchors : List (String × Nat)
  /-- The numbers of the anchored nodes in the order in which the nodes start, the latest first. -/
  started : List Nat
  /-- The anchored nodes that are complete, with the number of nodes that had started before. -/
  complete : List (Nat × Content)

/-- What stands in front of a node: its tag, and the number of anchored nodes before it if it has an
anchor itself. -/
structure NodeProperties where
  tag : Option String
  anchor : Option Nat

namespace Composer

/-- Reads one thing, and goes on with what it leaves. -/
abbrev Reader (α : Type) := Composer → Option (α × Composer)

def peek (c : Composer) : Token := c.tokens.headD .streamEnd

def drop (c : Composer) : Composer := { c with tokens := c.tokens.tail }

def defaultHandles : List (String × String) := [("!", "!"), ("!!", "tag:yaml.org,2002:")]

/-- Starts an anchored node.  Its number is the count of names known before; a name that is known
already moves to the new number. -/
def addAnchor (c : Composer) (name : String) : Nat × Composer :=
  let number := c.anchors.length
  let anchors :=
    if (c.anchors.lookup name).isSome then
      c.anchors.map fun (known, n) => (known, if known = name then number else n)
    else c.anchors ++ [(name, number)]
  (c.started.length, { c with anchors := anchors, started := number :: c.started })

def bind (c : Composer) (p : NodeProperties) (node : Content) : Content × Composer :=
  match p.anchor with
  | none => (node, c)
  | some n => (node, { c with complete := (n, node) :: c.complete })

/-- The node of each anchor number: of several nodes with one number, the one that starts last. -/
def anchored (c : Composer) : List (Nat × Content) :=
  c.started.zipIdx.filterMap fun (number, fromLast) =>
    (c.complete.lookup (c.started.length - 1 - fromLast)).map fun node => (number, node)

def expand? (c : Composer) (handle suffix : String) : Option String :=
  if handle.isEmpty then some suffix else (c.handles.lookup handle).map (· ++ suffix)

/-- Reads an anchor and a tag, each at most once and in either order. -/
def properties? : Reader NodeProperties := fun c =>
  match c.peek with
  | .anchor name =>
    let (n, c) := c.drop.addAnchor name
    match c.peek with
    | .tag handle suffix => (c.expand? handle suffix).map fun tag => (⟨some tag, some n⟩, c.drop)
    | _ => some (⟨none, some n⟩, c)
  | .tag handle suffix =>
    (c.expand? handle suffix).map fun tag =>
      let c := c.drop
      match c.peek with
      | .anchor name =>
        let (n, c) := c.drop.addAnchor name
        (⟨some tag, some n⟩, c)
      | _ => (⟨some tag, none⟩, c)
  | _ => some (⟨none, none⟩, c)

/-- Where a node stands: in a flow collection, in a block, or as a key or value of a block mapping,
where a sequence need not be indented. -/
inductive Place where
  | flow
  | block
  | blockMapping
deriving DecidableEq

mutual

def node? (place : Place) : Nat → Reader Content
  | 0, _ => none
  | fuel + 1, c =>
    match c.peek with
    | .alias name => (c.anchors.lookup name).map fun n => (.alias n, c.drop)
    | _ =>
      match properties? c with
      | none => none
      | some (p, c) =>
        let finish (result : Option (Content × Composer)) : Option (Content × Composer) :=
          result.map fun (node, c) => c.bind p node
        let sequence : List Content × Composer → Content × Composer :=
          fun (items, c) => (.sequence p.tag items, c)
        let mapping : List (Content × Content) × Composer → Content × Composer :=
          fun (entries, c) => (.mapping p.tag entries, c)
        match c.peek with
        | .scalar text style =>
          let tag := if p.tag = some "!" then none else p.tag
          finish (some (.scalar tag text style, c.drop))
        | .flowSequenceStart => finish ((flowItems? true fuel c.drop).map sequence)
        | .flowMappingStart => finish ((flowEntries? true fuel c.drop).map mapping)
        | token =>
          if place = .blockMapping ∧ token = .blockEntry then
            finish ((bareItems? fuel c).map sequence)
          else if place ≠ .flow ∧ token = .blockSequenceStart then
            finish ((blockItems? fuel c.drop).map sequence)
          else if place ≠ .flow ∧ token = .blockMappingStart then
            finish ((blockEntries? fuel c.drop).map mapping)
          else if p.tag.isSome || p.anchor.isSome then
            finish (some (.scalar p.tag "" .plain, c))
          else none

/-- Reads the node that may stand here, or a blank one before a token of `stops`. -/
def nodeOrBlank? (place : Place) (stops : List Token) : Nat → Reader Content
  | 0, _ => none
  | fuel + 1, c => if stops.contains c.peek then some (.blank, c) else node? place fuel c

def blockItems? : Nat → Reader (List Content)
  | 0, _ => none
  | fuel + 1, c =>
    match c.peek with
    | .blockEntry =>
      (nodeOrBlank? .block [.blockEntry, .blockEnd] fuel c.drop).bind fun (item, c) =>
        (blockItems? fuel c).map fun (items, c) => (item :: items, c)
    | .blockEnd => some ([], c.drop)
    | _ => none

def bareItems? : Nat → Reader (List Content)
  | 0, _ => none
  | fuel + 1, c =>
    match c.peek with
    | .blockEntry =>
      (nodeOrBlank? .block [.blockEntry, .key, .value, .blockEnd] fuel c.drop).bind fun (item, c) =>
        (bareItems? fuel c).map fun (items, c) => (item :: items, c)
    | _ => some ([], c)

def blockEntries? : Nat → Reader (List (Content × Content))
  | 0, _ => none
  | fuel + 1, c =>
    let value? (key : Content) (c : Composer) : Option (List (Content × Content) × Composer) :=
      let read :=
        match c.peek with
        | .value => nodeOrBlank? .blockMapping [.key, .value, .blockEnd] fuel c.drop
        | _ => some (.blank, c)
      read.bind fun (value, c) =>
        (blockEntries? fuel c).map fun (entries, c) => ((key, value) :: entries, c)
    match c.peek with
    | .key =>
      (nodeOrBlank? .blockMapping [.key, .value, .blockEnd] fuel c.drop).bind fun (key, c) =>
        value? key c
    | .blockEnd => some ([], c.drop)
    | _ => none

def flowItems? (first : Bool) : Nat → Reader (List Content)
  | 0, _ => none
  | fuel + 1, c =>
    let rest (item : Content) (c : Composer) : Option (List Content × Composer) :=
      (flowItems? false fuel c).map fun (items, c) => (item :: items, c)
    match c.peek with
    | .flowSequenceEnd => some ([], c.drop)
    | token =>
      if !first && token != .flowEntry then none
      else
        let c := if first then c else c.drop
        match c.peek with
        | .key =>
          let c := c.drop
          let key :=
            if [Token.value, .flowEntry, .flowSequenceEnd].contains c.peek then
              some (.blank, c.drop)
            else node? .flow fuel c
          key.bind fun (key, c) =>
            let value :=
              match c.peek with
              | .value => nodeOrBlank? .flow [.flowEntry, .flowSequenceEnd] fuel c.drop
              | _ => some (.blank, c)
            value.bind fun (value, c) => rest (.mapping none [(key, value)]) c
        | .flowSequenceEnd => some ([], c.drop)
        | _ => (node? .flow fuel c).bind fun (item, c) => rest item c

/-- Reads the entries of a flow mapping up to its brace.  A key without a value has a blank one. -/
def flowEntries? (first : Bool) : Nat → Reader (List (Content × Content))
  | 0, _ => none
  | fuel + 1, c =>
    let rest (key value : Content) (c : Composer) : Option (List (Content × Content) × Composer) :=
      (flowEntries? false fuel c).map fun (entries, c) => ((key, value) :: entries, c)
    match c.peek with
    | .flowMappingEnd => some ([], c.drop)
    | token =>
      if !first && token != .flowEntry then none
      else
        let c := if first then c else c.drop
        match c.peek with
        | .key =>
          (nodeOrBlank? .flow [.value, .flowEntry, .flowMappingEnd] fuel c.drop).bind
            fun (key, c) =>
            match c.peek with
            | .value =>
              (nodeOrBlank? .flow [.flowEntry, .flowMappingEnd] fuel c.drop).bind fun (value, c) =>
                rest key value c
            | _ => rest key .blank c
        | .flowMappingEnd => some ([], c.drop)
        | _ => (node? .flow fuel c).bind fun (key, c) => rest key .blank c

end

/-- Reads the directives of a document.  The version is 1.1 or 1.2 and given at most once, and no
handle is declared twice. -/
def directives? (versions : Nat) (handles : List (String × String)) :
    List Token → Option (List (String × String) × List Token)
  | .versionDirective major minor :: rest =>
    if versions = 0 ∧ major = 1 ∧ (minor = 1 ∨ minor = 2) then directives? 1 handles rest else none
  | .tagDirective handle expansion :: rest =>
    if (handles.lookup handle).isSome then none
    else directives? versions (handles ++ [(handle, expansion)]) rest
  | rest => some (handles ++ defaultHandles, rest)

def endsDocument : Token → Bool
  | .versionDirective .. | .tagDirective .. | .documentStart | .documentEnd | .streamEnd => true
  | _ => false

def document? (tokens : List Token) : Option YamlDocument :=
  match tokens with
  | [.streamEnd] => some ⟨none, []⟩
  | first :: _ =>
    let isExplicit := first != .documentEnd && endsDocument first
    let opened :=
      if isExplicit then
        (directives? 0 [] tokens).bind fun (handles, rest) =>
          match rest with
          | .documentStart :: rest => some (handles, rest)
          | _ => none
      else some (defaultHandles, tokens)
    opened.bind fun (handles, rest) =>
      let c : Composer := ⟨rest, handles, [], [], []⟩
      let read :=
        if isExplicit && endsDocument c.peek then some (.blank, c)
        else node? .block (4 * tokens.length + 8) c
      read.bind fun (root, c) =>
        if c.tokens.dropWhile (· = .documentEnd) = [.streamEnd] then some ⟨some root, c.anchored⟩
        else none
  | [] => none

end Composer

/-- Reads YAML text that holds at most one document. -/
def YamlDocument.read? (text : String) : Option YamlDocument :=
  (tokens? text.toList).bind Composer.document?

end ChannelGateway.Yaml
