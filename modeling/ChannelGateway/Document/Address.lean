/-!
# Channel addresses

An address marks the places of its parameters with names in braces.
-/

namespace ChannelGateway.Address

/-- Splits a text at the first occurrence of a character, which belongs to neither part. -/
def cut? (c : Char) : List Char → Option (List Char × List Char)
  | [] => none
  | d :: rest =>
    if d = c then some ([], rest) else (cut? c rest).map fun (before, after) => (d :: before, after)

theorem length_lt_of_cut? {c : Char} {s before after : List Char}
    (h : cut? c s = some (before, after)) : after.length < s.length := by
  induction s generalizing before after with
  | nil => cases h
  | cons d rest ih =>
    rw [cut?] at h
    split at h
    · cases h; simp
    · obtain ⟨⟨b, a⟩, hcut, heq⟩ := Option.map_eq_some_iff.1 h
      cases heq
      exact Nat.lt_succ_of_lt (ih hcut)

/-- The names in braces, in order.  An opening brace that is never closed ends the search. -/
def placeholders (address : List Char) : List (List Char) :=
  match address with
  | [] => []
  | c :: rest =>
    if c = '\x7b' then
      match _cut : cut? '\x7d' rest with
      | some (name, after) => name :: placeholders after
      | none => []
    else placeholders rest
termination_by address.length
decreasing_by
  · exact Nat.lt_succ_of_lt (length_lt_of_cut? ‹_›)
  · exact Nat.lt_succ_self _

def parameterNames (address : String) : List String :=
  (placeholders address.toList).map String.ofList

end ChannelGateway.Address
