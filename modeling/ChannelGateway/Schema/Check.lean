import ChannelGateway.Schema.Mismatch
/-!
# Checks

What a check of a value against a schema is, whatever the schema holds.
-/

namespace ChannelGateway.Schema

/-- Finds the mismatches of a value at a position. -/
abbrev Check := Rule → Position → Json → List Mismatch

def Check.passes (check : Check) (rule : Rule) (value : Json) : Bool :=
  (check rule .root value).isEmpty

def numbered (items : List Json) (first : Nat) : List (Nat × Json) :=
  (items.zipIdx first).map Prod.swap

def matching (patterns : List (String × Regex × Rule)) (name : String) : List (String × Rule) :=
  patterns.filterMap fun (source, regex, rule) =>
    if regex.isMatch name matches .ok true then some (source, rule) else none

end ChannelGateway.Schema
