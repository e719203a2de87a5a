import ChannelGateway.Proofs.Route.Matching
import ChannelGateway.Proofs.Text.Segments
/-!
# What is left of a path

A pattern is matched with the first segments of a path, one against one, and does not look at the
others.  So a path that goes on behind a match is a match too: it has the same captures, and under
the remainder key what goes on.  There is no other way to match.
-/

namespace ChannelGateway

namespace RoutePattern

open Fields

def withRemainder (captured : Fields) (more : List (List Char)) : Fields :=
  if more = [] then captured
  else captured ++ [(remainderKey, .string (String.ofList (Percent.decode (Segments.join more))))]

section Segments

variable {segments : List (List Piece)} {params : Fields}

theorem matchSegments_append {front : List (List Char)} (h : front.length = segments.length)
    (more : List (List Char)) :
    matchSegments params segments (front ++ more) = matchSegments params segments front := by
  induction segments generalizing front params with
  | nil => rw [matchSegments, matchSegments]
  | cons pieces rest ih =>
      cases front with
      | nil => cases h
      | cons segment front =>
          rw [List.cons_append, matchSegments_cons, matchSegments_cons]
          exact congrArg _ (funext fun captured => ih (Nat.succ.inj h))

theorem remainderKey_not_mem_keys {input : List (List Char)} {captured : Fields}
    (hnames : remainderKey.toList ∉ segments.flatten.filterMap Piece.name?)
    (h : matchSegments [] segments input = some captured) : remainderKey ∉ keys captured := by
  rw [mem_keys_matchSegments h, keys_nil, List.mem_nil_iff, or_false, List.mem_map]
  rintro ⟨name, hname, heq⟩
  apply hnames
  rwa [← heq, String.toList_ofList]

end Segments

section Path

variable {p : RoutePattern} {path : List Char}

theorem matchPath?_of_length_lt (h : (Segments.split path).length < p.segments.length) :
    p.matchPath? path = none := by
  rw [matchPath?, if_pos h]

theorem matchPath?_of_length_eq (h : (Segments.split path).length = p.segments.length) :
    p.matchPath? path = matchSegments [] p.segments (Segments.split path) := by
  rw [matchPath?, if_neg (by omega), List.drop_of_length_le (by omega)]
  exact Option.map_id'

theorem matchPath?_of_split (hnames : remainderKey.toList ∉ p.captureNames)
    {front more : List (List Char)} (hpath : Segments.split path = front ++ more)
    (hlength : front.length = p.segments.length) :
    p.matchPath? path = (matchSegments [] p.segments front).map (withRemainder · more) := by
  have hge : ¬ (front ++ more).length < p.segments.length := by
    rw [List.length_append]
    omega
  rw [matchPath?, hpath, if_neg hge, matchSegments_append hlength, List.drop_left' hlength]
  cases hmatch : matchSegments [] p.segments front with
  | none => rfl
  | some captured =>
      rw [Option.map_some, Option.map_some]
      cases more with
      | nil => rfl
      | cons segment rest =>
          have habsent := remainderKey_not_mem_keys hnames hmatch
          rw [withRemainder, if_neg (List.cons_ne_nil segment rest)]
          exact congrArg some (insert_of_not_mem_keys habsent _)

end Path

/-- A path of as many segments as a pattern matches it. -/
structure MatchesExactly (pattern path : List Char) (captured : Fields) : Prop where
  length : (Segments.split path).length = (Segments.split pattern).length
  matched : (parse pattern).matchPath? path = some captured

section Extension

variable {pattern : List Char} {captured : Fields}

theorem length_segments (pattern : List Char) :
    (parse pattern).segments.length = (Segments.split pattern).length := List.length_map ..

theorem matchesExactly_iff {path : List Char} : MatchesExactly pattern path captured ↔
    (Segments.split path).length = (parse pattern).segments.length ∧
      matchSegments [] (parse pattern).segments (Segments.split path) = some captured := by
  rw [length_segments]
  constructor
  · rintro ⟨hlength, hmatch⟩
    rw [matchPath?_of_length_eq (hlength.trans (length_segments pattern).symm)] at hmatch
    exact ⟨hlength, hmatch⟩
  · rintro ⟨hlength, hmatch⟩
    refine ⟨hlength, ?_⟩
    rwa [matchPath?_of_length_eq (hlength.trans (length_segments pattern).symm)]

/-- A path that goes on behind an exact match has what goes on under the remainder key. -/
theorem MatchesExactly.extend {path : List Char} (h : MatchesExactly pattern path captured)
    (hnames : remainderKey.toList ∉ (parse pattern).captureNames) {extended : List Char}
    {more : List (List Char)} (hextended : Segments.split extended = Segments.split path ++ more) :
    (parse pattern).matchPath? extended = some (withRemainder captured more) := by
  obtain ⟨hlength, hmatch⟩ := matchesExactly_iff.1 h
  rw [matchPath?_of_split hnames hextended hlength, hmatch, Option.map_some]

theorem exists_matchesExactly {path : List Char} {params : Fields}
    (hnames : remainderKey.toList ∉ (parse pattern).captureNames)
    (h : (parse pattern).matchPath? path = some params) :
    ∃ exact captured more, MatchesExactly pattern exact captured ∧
      Segments.split path = Segments.split exact ++ more ∧
        params = withRemainder captured more := by
  have hlength : (parse pattern).segments.length ≤ (Segments.split path).length := by
    by_contra hlt
    rw [matchPath?_of_length_lt (Nat.lt_of_not_le hlt)] at h
    cases h
  -- The exact match is that of the first segments, as many as the pattern has.
  have hfront := List.length_take_of_le hlength
  rw [matchPath?_of_split hnames (List.take_append_drop _ _).symm hfront] at h
  obtain ⟨captured, hcaptured, rfl⟩ := Option.map_eq_some_iff.1 h
  obtain ⟨exact, hexact⟩ : ∃ exact,
      Segments.split exact = (Segments.split path).take (parse pattern).segments.length :=
    ⟨_, Segments.split_join_of_mem fun segment hsegment =>
      Segments.mem_split (List.mem_of_mem_take hsegment)⟩
  refine ⟨exact, captured, _, matchesExactly_iff.2 ?_, ?_, rfl⟩
  · rw [hexact]
    exact ⟨hfront, hcaptured⟩
  · rw [hexact, List.take_append_drop]

end Extension

end RoutePattern

open RoutePattern

/-- Whether and how a pattern matches a path depends on the segments of both alone, and the path
needs as many of them as the pattern.  If no capture has the remainder key as its name, then a path
that goes on behind an exact match has the captures of that match, and behind them what goes on,
decoded, under the remainder key; and every match arises in this way. -/
theorem match_extends_exact_match (pattern path : List Char) :
    (∀ pattern' path', Segments.split pattern' = Segments.split pattern →
      Segments.split path' = Segments.split path →
      (parse pattern').matchPath? path' = (parse pattern).matchPath? path) ∧
    ((Segments.split path).length < (Segments.split pattern).length →
      (parse pattern).matchPath? path = none) ∧
    (remainderKey.toList ∉ (parse pattern).captureNames →
      (∀ captured, MatchesExactly pattern path captured →
        ∀ more, more ≠ [] → (∀ segment ∈ more, segment ≠ [] ∧ '/' ∉ segment) →
          (parse pattern).matchPath? (path ++ '/' :: Segments.join more) =
            some (captured ++
              [(remainderKey, .string (String.ofList (Percent.decode (Segments.join more))))])) ∧
      ∀ params, (parse pattern).matchPath? path = some params →
        ∃ exact captured more, MatchesExactly pattern exact captured ∧
          Segments.split path = Segments.split exact ++ more ∧
          params = withRemainder captured more) := by
  refine ⟨fun pattern' path' hpattern hpath => ?_, fun hlt => ?_, fun hnames => ⟨?_, ?_⟩⟩
  · rw [matchPath?, matchPath?, parse, parse, hpattern, hpath]
  · rw [← length_segments pattern] at hlt
    exact matchPath?_of_length_lt hlt
  · intro captured hexact more hmore hsegments
    have hextended : Segments.split (path ++ '/' :: Segments.join more) =
        Segments.split path ++ more := by
      rw [Segments.split_append_slash, Segments.split_join_of_mem hsegments]
    rw [hexact.extend hnames hextended, withRemainder, if_neg hmore]
  · intro params hmatch
    exact exists_matchesExactly hnames hmatch

/-- Slashes in front, at the end and in a row do not matter, and what goes on is decoded when
it is joined. -/
theorem match_measured_extends : ∃ captured,
    MatchesExactly "/:lamp/measured".toList "7//measured/".toList captured ∧
      (parse "/:lamp/measured".toList).matchPath? "7//measured//extra%20/tail".toList =
        some (captured ++ [("0", .string "extra /tail")]) := by
  have hexact :
      MatchesExactly "/:lamp/measured".toList "7//measured/".toList [("lamp", .string "7")] :=
    ⟨by decide +kernel, by decide +kernel⟩
  have hcaptures : (parse "/:lamp/measured".toList).captureNames = ["lamp".toList] := by
    decide +kernel
  obtain ⟨-, -, hnames⟩ := match_extends_exact_match "/:lamp/measured".toList "7//measured/".toList
  have hextends :=
    (hnames (by rw [hcaptures]; decide)).1 _ hexact ["extra%20".toList, "tail".toList]
    (by decide) (by decide)
  exact ⟨_, hexact, hextends.trans (by decide +kernel)⟩

end ChannelGateway
