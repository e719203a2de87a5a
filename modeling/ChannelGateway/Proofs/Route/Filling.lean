import ChannelGateway.Proofs.Route.Matching
import ChannelGateway.Proofs.Text.Percent
import ChannelGateway.Proofs.Text.Segments
/-!
# Paths for parameters

From a pattern and values for its captures a path is built: literals as they are, values with every
byte escaped that has a meaning in URLs.  The pattern matches this path and gives the values back.
-/

namespace ChannelGateway

namespace Piece

def fill (values : List Char → List Char) : Piece → List Char
  | literal text => text
  | capture name => Percent.encode Percent.isUnreserved (values name)

theorem literal_of_mem_consLiteral {c : Char} {t : List Char} {pieces : List Piece}
    (h : literal t ∈ consLiteral c pieces) :
    (∃ rest, t = c :: rest ∧ (rest = [] ∨ literal rest ∈ pieces)) ∨ literal t ∈ pieces := by
  unfold consLiteral at h
  split at h
  · next first rest =>
      rcases List.mem_cons.1 h with heq | hrest
      · cases heq
        exact Or.inl ⟨first, rfl, Or.inr List.mem_cons_self⟩
      · exact Or.inr (List.mem_cons_of_mem _ hrest)
  · rcases List.mem_cons.1 h with heq | hrest
    · cases heq
      exact Or.inl ⟨[], rfl, Or.inl rfl⟩
    · exact Or.inr hrest

theorem literal_of_mem_ofSegment (segment : List Char) :
    ∀ t, literal t ∈ ofSegment segment → t ≠ [] ∧ t ⊆ segment := by
  induction segment using ofSegment.induct with
  | case1 =>
      rw [ofSegment]
      intro t h
      cases h
  | case2 c rest run hcapture ih =>
      rw [ofSegment, if_pos hcapture]
      intro t h
      obtain ⟨hne, hsub⟩ := ih t ((List.mem_cons.1 h).resolve_left Piece.noConfusion)
      have hrest : rest.dropWhile isNameChar ⊆ rest := (List.dropWhile_sublist isNameChar).subset
      exact ⟨hne, fun d hd => List.mem_cons_of_mem c (hrest (hsub hd))⟩
  | case3 c rest run hliteral ih =>
      rw [ofSegment, if_neg hliteral]
      intro t h
      rcases literal_of_mem_consLiteral h with ⟨inner, rfl, hnil | hmem⟩ | hmem
      · rw [hnil]
        exact ⟨List.cons_ne_nil c [], by simp⟩
      · exact ⟨List.cons_ne_nil c inner, List.cons_subset_cons c (ih inner hmem).2⟩
      · obtain ⟨hne, hsub⟩ := ih t hmem
        exact ⟨hne, fun d hd => List.mem_cons_of_mem c (hsub hd)⟩

theorem flatMap_fill_of_literal {pieces : List Piece} (h : pieces.filterMap name? = [])
    (values : List Char → List Char) : pieces.flatMap (fill values) = pieces.flatMap text := by
  induction pieces with
  | nil => rfl
  | cons piece rest ih =>
      cases piece with
      | capture name => cases h
      | literal t =>
          rw [filterMap_literal] at h
          rw [List.flatMap_cons, List.flatMap_cons, ih h]
          rfl

section Values

variable {values : List Char → List Char}

/-- A segment with at most one capture captures the value of this capture from the text that was
built for the segment. -/
theorem matchAll_fill {pieces : List Piece} (hsingle : (pieces.filterMap name?).length ≤ 1)
    (hvalues : ∀ name ∈ pieces.filterMap name?, values name ≠ []) :
    matchAll pieces (pieces.flatMap (fill values)) =
      some ((pieces.filterMap name?).map fun name =>
        (name, Percent.encode Percent.isUnreserved (values name))) := by
  induction pieces with
  | nil => rfl
  | cons piece rest ih =>
      cases piece with
      | literal t =>
          rw [filterMap_literal] at hsingle hvalues ⊢
          rw [List.flatMap_cons, fill, matchAll, isPrefixOf?_append, Option.bind_some,
            ih hsingle hvalues]
      | capture name =>
          rw [filterMap_capture, List.length_cons] at hsingle
          rw [filterMap_capture, List.forall_mem_cons] at hvalues
          have hrest : rest.filterMap name? = [] := List.eq_nil_of_length_eq_zero (by omega)
          have hrun := Percent.encode_ne_nil Percent.isUnreserved hvalues.1
          rw [filterMap_capture, hrest, List.flatMap_cons, flatMap_fill_of_literal hrest, fill,
            matchAll_capture hrest name hrun]
          rfl

theorem flatMap_fill_ofSegment {segment : List Char} (hne : segment ≠ []) (hslash : '/' ∉ segment)
    (hvalues : ∀ name ∈ (ofSegment segment).filterMap name?, values name ≠ []) :
    (ofSegment segment).flatMap (fill values) ≠ [] ∧
      '/' ∉ (ofSegment segment).flatMap (fill values) := by
  have hpiece : ∀ piece ∈ ofSegment segment, fill values piece ≠ [] ∧ '/' ∉ fill values piece := by
    intro piece hpiece
    cases piece with
    | literal t =>
        obtain ⟨ht, hsub⟩ := literal_of_mem_ofSegment segment t hpiece
        exact ⟨ht, fun hmem => hslash (hsub hmem)⟩
    | capture name =>
        have hvalue := hvalues name (List.mem_filterMap.2 ⟨_, hpiece, rfl⟩)
        exact ⟨Percent.encode_ne_nil _ hvalue,
          Percent.slash_not_mem_encode Percent.spares_isUnreserved (by decide) (values name)⟩
  have hpieces : ofSegment segment ≠ [] := by
    intro hnil
    apply hne
    rw [← flatMap_text_ofSegment segment, hnil, List.flatMap_nil]
  obtain ⟨first, rest, hcons⟩ := List.exists_cons_of_ne_nil hpieces
  constructor
  · rw [hcons] at hpiece ⊢
    rw [List.flatMap_cons]
    exact List.append_ne_nil_of_left_ne_nil (hpiece first List.mem_cons_self).1 _
  · intro hmem
    obtain ⟨piece, hmem, hslash⟩ := List.mem_flatMap.1 hmem
    exact (hpiece piece hmem).2 hslash

end Values

end Piece

namespace RoutePattern

open Fields

def path (p : RoutePattern) (values : List Char → List Char) : List Char :=
  '/' :: Segments.join (p.segments.map fun pieces => pieces.flatMap (Piece.fill values))

def parametersOf (names : List (List Char)) (values : List Char → List Char) : Fields :=
  names.map fun name => (String.ofList name, .string (String.ofList (values name)))

section Values

variable {values : List Char → List Char}

theorem lookup_parametersOf {names : List (List Char)} {name : List Char} (h : name ∉ names) :
    (parametersOf names values).lookup (String.ofList name) = none := by
  rw [List.lookup_eq_none_iff]
  intro field hfield
  obtain ⟨other, hother, rfl⟩ := List.mem_map.1 hfield
  rw [bne_iff_ne]
  intro heq
  rw [String.ofList_injective heq] at h
  exact h hother

theorem addCaptures_fill {names earlier : List (List Char)} (hsingle : names.length ≤ 1)
    (hdistinct : (earlier ++ names).Nodup) :
    addCaptures (parametersOf earlier values) (names.map fun name =>
        (name, Percent.encode Percent.isUnreserved (values name))) =
      parametersOf (earlier ++ names) values := by
  cases names with
  | nil => rw [List.append_nil, List.map_nil, addCaptures, List.reverse_nil, List.foldl_nil]
  | cons name rest =>
      rw [List.length_cons] at hsingle
      have hrest : rest = [] := List.eq_nil_of_length_eq_zero (by omega)
      rw [hrest] at hdistinct ⊢
      have hnew : name ∉ earlier := by
        have hfront := (List.nodup_cons.1 (List.nodup_middle.1 hdistinct)).1
        rwa [List.append_nil] at hfront
      have hvalue := Percent.decode_encode Percent.spares_isUnreserved (values name)
      rw [List.map_singleton, addCaptures, List.reverse_singleton, List.foldl_cons, List.foldl_nil]
      simp only [hvalue]
      rw [insert_of_lookup_none (lookup_parametersOf hnew), parametersOf, parametersOf,
        List.map_append]
      rfl

theorem matchSegments_fill {segments : List (List Piece)} {earlier : List (List Char)}
    (hsingle : ∀ pieces ∈ segments, (pieces.filterMap Piece.name?).length ≤ 1)
    (hdistinct : (earlier ++ segments.flatten.filterMap Piece.name?).Nodup)
    (hvalues : ∀ name ∈ segments.flatten.filterMap Piece.name?, values name ≠ []) :
    matchSegments (parametersOf earlier values) segments
        (segments.map fun pieces => pieces.flatMap (Piece.fill values)) =
      some (parametersOf (earlier ++ segments.flatten.filterMap Piece.name?) values) := by
  induction segments generalizing earlier with
  | nil => rw [List.map_nil, matchSegments, List.flatten_nil, List.filterMap_nil, List.append_nil]
  | cons pieces rest ih =>
      obtain ⟨hpieces, hrest⟩ := List.forall_mem_cons.1 hsingle
      rw [List.flatten_cons, List.filterMap_append, ← List.append_assoc] at hdistinct ⊢
      rw [List.flatten_cons, List.filterMap_append, List.forall_mem_append] at hvalues
      rw [List.map_cons, matchSegments_cons, Piece.matchAll_fill hpieces hvalues.1,
        Option.bind_some,
        addCaptures_fill hpieces (List.Nodup.of_append_left hdistinct),
        ih hrest hdistinct hvalues.2]

end Values

end RoutePattern

open RoutePattern

/-- Building a path and matching it are inverse.  If a pattern has no two captures of one name and
no segment with more than one capture, then it matches the path that is built from non-empty values
for its captures, and its parameters are exactly these values: nothing of the path is left. -/
theorem pattern_matches_built_path (text : List Char) (values : List Char → List Char)
    (hdistinct : (parse text).captureNames.Nodup)
    (hsingle : ∀ pieces ∈ (parse text).segments, (pieces.filterMap Piece.name?).length ≤ 1)
    (hvalues : ∀ name ∈ (parse text).captureNames, values name ≠ []) :
    (parse text).matchPath? ((parse text).path values) =
      some (parametersOf (parse text).captureNames values) := by
  have hbuilt : ∀ segment ∈ (parse text).segments.map fun pieces =>
      pieces.flatMap (Piece.fill values), segment ≠ [] ∧ '/' ∉ segment := by
    intro segment hsegment
    obtain ⟨pieces, hpieces, rfl⟩ := List.mem_map.1 hsegment
    obtain ⟨source, hsource, rfl⟩ := List.mem_map.1 hpieces
    obtain ⟨hne, hslash⟩ := Segments.mem_split hsource
    apply Piece.flatMap_fill_ofSegment hne hslash
    intro name hname
    obtain ⟨piece, hpiece, hname⟩ := List.mem_filterMap.1 hname
    exact hvalues name
      (List.mem_filterMap.2 ⟨piece, List.mem_flatten.2 ⟨_, hpieces, hpiece⟩, hname⟩)
  have hsplit : Segments.split ((parse text).path values) =
      (parse text).segments.map fun pieces => pieces.flatMap (Piece.fill values) := by
    rw [path, Segments.split_cons_slash, Segments.split_join fun segment h => (hbuilt segment h).2,
      List.filter_eq_self]
    intro segment hsegment
    simp [(hbuilt segment hsegment).1]
  have hmatch : matchSegments (parametersOf [] values) (parse text).segments
      ((parse text).segments.map fun pieces => pieces.flatMap (Piece.fill values)) =
        some (parametersOf (parse text).captureNames values) :=
    matchSegments_fill hsingle hdistinct hvalues
  rw [matchPath?, hsplit, List.length_map, if_neg (Nat.lt_irrefl _),
    List.drop_of_length_le (by simp)]
  exact congrArg (Option.map _) hmatch

def signedupValues (name : List Char) : List Char :=
  if name = "name".toList then ".signedup/é%2F".toList else "1".toList

theorem signedup_matches_built_path :
    (parse "/user.:name.signedup/:id".toList).path signedupValues =
        "/user..signedup%2F%C3%A9%252F.signedup/1".toList ∧
      (parse "/user.:name.signedup/:id".toList).matchPath?
          "/user..signedup%2F%C3%A9%252F.signedup/1".toList =
        some [("name", .string ".signedup/é%2F"), ("id", .string "1")] := by
  have hsegments : (parse "/user.:name.signedup/:id".toList).segments =
      [[.literal "user.".toList, .capture "name".toList, .literal ".signedup".toList],
        [.capture "id".toList]] := by decide +kernel
  have hnames : (parse "/user.:name.signedup/:id".toList).captureNames =
      ["name".toList, "id".toList] := by
    rw [captureNames, hsegments]
    rfl
  have hpath : (parse "/user.:name.signedup/:id".toList).path signedupValues =
      "/user..signedup%2F%C3%A9%252F.signedup/1".toList := by decide +kernel
  have hmatch := pattern_matches_built_path "/user.:name.signedup/:id".toList signedupValues
    (by rw [hnames]; decide) (by rw [hsegments]; decide) (by rw [hnames]; decide)
  rw [hpath, hnames] at hmatch
  exact ⟨hpath, hmatch.trans rfl⟩

end ChannelGateway
