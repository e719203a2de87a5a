import ChannelGateway.Yaml.ToJson
/-!
# YAML documents as records

A record is a mapping with known keys.  Other keys are passed over unread, a known key may occur
once, and a document without any content is the empty record.
-/

namespace ChannelGateway.Yaml.YamlDocument

/-- The node itself, or the one that an alias stands for. -/
def node? (d : YamlDocument) (node : Content) : Option Content :=
  (d.target? node d.maxJumps).map Prod.fst

/-- The entries of a mapping with known keys; `none` if a key is no scalar or a known one occurs
twice. -/
def knownEntries? (d : YamlDocument) (known : List String) :
    List (Content × Content) → Option (List (String × Content))
  | [] => some []
  | (key, value) :: rest => do
    let (name, _) ← d.key? key d.maxJumps
    let others ← knownEntries? d known rest
    if !known.contains name then return others
    if (others.lookup name).isSome then none
    return (name, value) :: others

def record? (d : YamlDocument) (known : List String) : Option (List (String × Content)) :=
  match d.root with
  | none => some []
  | some root =>
    match d.node? root with
    | some (.mapping _ entries) => d.knownEntries? known entries
    | some (.scalar none "" .plain) => some []
    | _ => none

def text? (d : YamlDocument) (value : Content) : Option String :=
  match d.node? value with
  | some (.scalar _ text _) => some text
  | _ => none

def optionalText? (d : YamlDocument) (value : Content) : Option (Option String) :=
  match d.node? value with
  | some (.scalar none text .plain) =>
    some (if text.isEmpty || Scalar.isNull text then none else some text)
  | some (.scalar (some tag) text .plain) =>
    if tag = standardTag "null" then if Scalar.isNull text then some none else none
    else some (some text)
  | some (.scalar _ text _) => some (some text)
  | _ => none

/-- The truth value of a plain scalar, or of a literal block that is tagged as one. -/
def flag? (d : YamlDocument) (value : Content) : Option Bool :=
  match d.node? value with
  | some (.scalar tag text style) =>
    if style = .plain || (style = .literal && tag = some (standardTag "bool")) then
      Scalar.bool? text
    else none
  | _ => none

/-- The name that a scalar chooses among alternatives: its text, or a local tag on a null. -/
def choice? (d : YamlDocument) (value : Content) : Option String :=
  match d.node? value with
  | some (.scalar tag text style) =>
    if isLocalTag tag then
      if style = .plain && (text.isEmpty || Scalar.isNull text) then
        tag.map fun t => String.ofList t.toList.tail
      else none
    else some text
  | _ => none

end ChannelGateway.Yaml.YamlDocument
