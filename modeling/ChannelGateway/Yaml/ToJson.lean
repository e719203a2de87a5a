import ChannelGateway.Yaml.Scalar
/-!
# YAML documents as JSON values

Every alias is replaced by a copy of the node it stands for.  Two limits keep that finite:
containers nest at most 128 deep, and aliases are followed at most a hundred times per node
of the document.
-/

namespace ChannelGateway.Yaml

mutual

def Content.marks : Content → Nat
  | .scalar .. => 1
  | .alias _ => 1
  | .sequence _ items => 2 + marksOfItems items
  | .mapping _ entries => 2 + marksOfEntries entries

def marksOfItems : List Content → Nat
  | [] => 0
  | item :: rest => item.marks + marksOfItems rest

def marksOfEntries : List (Content × Content) → Nat
  | [] => 0
  | (key, value) :: rest => key.marks + value.marks + marksOfEntries rest

end

namespace YamlDocument

def maxDepth : Nat := 128

def maxJumps (d : YamlDocument) : Nat := 100 * (d.root.map Content.marks).getD 1

/-- The node itself, or the one an alias stands for.  `jumps` counts down. -/
def target? (d : YamlDocument) (node : Content) (jumps : Nat) : Option (Content × Nat) :=
  match node with
  | .alias n => if jumps = 0 then none else (d.anchored.lookup n).map fun node => (node, jumps - 1)
  | node => some (node, jumps)

def key? (d : YamlDocument) (node : Content) (jumps : Nat) : Option (String × Nat) :=
  match d.target? node jumps with
  | some (.scalar _ text _, jumps) => some (text, jumps)
  | _ => none

def items? (read : Content → Nat → Option (Json × Nat)) :
    List Content → Nat → Option (List Json × Nat)
  | [], jumps => some ([], jumps)
  | item :: rest, jumps =>
    (read item jumps).bind fun (value, jumps) =>
      (items? read rest jumps).map fun (values, jumps) => (value :: values, jumps)

def entries? (d : YamlDocument) (read : Content → Nat → Option (Json × Nat)) (fields : Fields) :
    List (Content × Content) → Nat → Option (Fields × Nat)
  | [], jumps => some (fields, jumps)
  | (key, value) :: rest, jumps =>
    (d.key? key jumps).bind fun (key, jumps) =>
      (read value jumps).bind fun (value, jumps) =>
        entries? d read (fields.insert key value) rest jumps

/-- The value of a node at which `depth` more containers may nest. -/
def value? (d : YamlDocument) : Nat → Content → Nat → Option (Json × Nat)
  | depth, node, jumps =>
    match d.target? node jumps, depth with
    | some (.scalar tag text style, jumps), _ =>
      (Scalar.value? tag text style).map fun value => (value, jumps)
    | some (.sequence tag items, jumps), depth + 1 =>
      if isLocalTag tag then none
      else (items? (value? d depth) items jumps).map fun (items, jumps) => (.array items, jumps)
    | some (.mapping tag entries, jumps), depth + 1 =>
      if isLocalTag tag then none
      else (d.entries? (value? d depth) [] entries jumps).map fun (fields, jumps) =>
        (.object fields, jumps)
    | _, _ => none

def toJson? (d : YamlDocument) : Option Json :=
  match d.root with
  | none => some .null
  | some root => (d.value? maxDepth root d.maxJumps).map Prod.fst

end YamlDocument

def readJson? (text : String) : Option Json := (YamlDocument.read? text).bind YamlDocument.toJson?

end ChannelGateway.Yaml
