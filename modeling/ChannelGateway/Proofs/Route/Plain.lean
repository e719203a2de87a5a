import ChannelGateway.Proofs.Route.Address
import ChannelGateway.Proofs.Route.Matching
import ChannelGateway.Proofs.Text.Percent
import ChannelGateway.Proofs.Text.Segments
/-!
# Addresses as paths

A client that requests an address escapes its segments.  The route of the address is matched without
escapes: its literals have to stand in the path as they are.  So the route matches the path if the
address has nothing that is escaped and nothing that is rewritten, and in general not otherwise.
-/

namespace ChannelGateway

namespace RoutePattern

theorem matchSegments_of_literal {segments : List (List Piece)}
    (h : segments.flatten.filterMap Piece.name? = []) (params : Fields) (input : List (List Char)) :
    matchSegments params segments input =
      if segments.map (fun pieces => pieces.flatMap Piece.text) <+: input then some params
        else none := by
  induction segments generalizing input with
  | nil => rw [matchSegments, List.map_nil, if_pos List.nil_prefix]
  | cons pieces rest ih =>
      rw [List.flatten_cons, List.filterMap_append, List.append_eq_nil_iff] at h
      cases input with
      | nil =>
          rw [matchSegments, if_neg]
          simp
      | cons segment input =>
          rw [matchSegments_cons, Piece.matchAll_of_literal h.1, List.map_cons]
          by_cases hsegment : segment = pieces.flatMap Piece.text
          · rw [if_pos hsegment, Option.bind_some]
            simp only [hsegment, List.cons_prefix_cons, true_and]
            exact ih h.2 input
          · rw [if_neg hsegment, Option.bind_none, if_neg]
            exact fun hstarts => hsegment (List.cons_prefix_cons.1 hstarts).1.symm

theorem matchSegments_parse {text : List Char} (h : Piece.captures text = []) (params : Fields)
    (input : List (List Char)) :
    matchSegments params (parse text).segments input =
      if Segments.split text <+: input then some params else none := by
  have hnames := captureNames_parse text
  rw [h, captureNames] at hnames
  have htexts : (parse text).segments.map (fun pieces => pieces.flatMap Piece.text) =
      Segments.split text := by
    rw [parse, List.map_map]
    exact (List.map_congr_left fun segment _ => Piece.flatMap_text_ofSegment segment).trans
      (List.map_id _)
  rw [matchSegments_of_literal hnames, htexts]

theorem length_segments_parse (text : List Char) :
    (parse text).segments.length = (Segments.split text).length := List.length_map ..

theorem isSome_matchPath?_iff {text : List Char} (h : Piece.captures text = []) (path : List Char) :
    ((parse text).matchPath? path).isSome ↔ Segments.split text <+: Segments.split path := by
  rw [matchPath?, length_segments_parse, matchSegments_parse h]
  constructor
  · intro hsome
    by_contra hstarts
    rw [if_neg hstarts] at hsome
    split at hsome <;> cases hsome
  · intro hstarts
    rw [if_neg (Nat.not_lt_of_le hstarts.length_le), if_pos hstarts]
    rfl

theorem matchPath?_of_split_eq {text path : List Char} (h : Piece.captures text = [])
    (hsplit : Segments.split text = Segments.split path) :
    (parse text).matchPath? path = some [] := by
  rw [matchPath?, length_segments_parse, matchSegments_parse h, hsplit, if_neg (Nat.lt_irrefl _),
    if_pos List.prefix_rfl, List.drop_length]
  rfl

end RoutePattern

namespace Address

open RouteSpec

def isSegmentByte (b : UInt8) : Bool := Percent.isUnreserved b || b.toNat = ':'.toNat

def requestPath (address : List Char) : List Char :=
  '/' :: Segments.join ((address.splitOn '/').map (Percent.encode isSegmentByte))

def isPlainChar (c : Char) : Bool := c.isAlphanum || ['-', '.', '_', '~', ':', '/'].contains c

structure IsPlain (address : List Char) : Prop where
  chars : ∀ c ∈ address, isPlainChar c = true
  bare : Piece.Bare address

theorem spares_isSegmentByte : Percent.Spares isSegmentByte := by
  intro b hb
  rw [isSegmentByte, Bool.or_eq_true, decide_eq_true_eq] at hb
  rcases hb with hb | hb
  · exact Percent.spares_isUnreserved b hb
  · rw [hb]
    decide

theorem toNat_lt_of_isAlphanum {c : Char} (h : c.isAlphanum = true) : c.toNat < 128 := by
  have hranges : (c.isUpper || c.isLower || c.isDigit) = true := h
  rw [Bool.or_eq_true, Bool.or_eq_true] at hranges
  rcases hranges with (hupper | hlower) | hdigit
  · have hrange : 'A'.val ≤ c.val ∧ c.val ≤ 'Z'.val := of_decide_eq_true hupper
    exact Nat.lt_of_le_of_lt (UInt32.le_iff_toNat_le.1 hrange.2) (by decide)
  · have hbelow : c.val ≤ 'z'.val := of_decide_eq_true ((Bool.and_eq_true_iff.1 hlower).2)
    exact Nat.lt_of_le_of_lt (UInt32.le_iff_toNat_le.1 hbelow) (by decide)
  · exact Nat.lt_of_le_of_lt (Char.isDigit_iff_toNat.1 hdigit).2 (by decide)

theorem toNat_lt_of_isPlainChar {c : Char} (h : isPlainChar c = true) : c.toNat < 128 := by
  rw [isPlainChar, Bool.or_eq_true] at h
  rcases h with h | h
  · exact toNat_lt_of_isAlphanum h
  · simp only [List.contains_iff_mem, List.mem_cons, List.not_mem_nil, or_false] at h
    rcases h with rfl | rfl | rfl | rfl | rfl | rfl <;> decide

theorem isSegmentByte_ofNat {n : Nat} (hn : n < 128) :
    isSegmentByte (UInt8.ofNat n) = (isPlainChar (Char.ofNat n) && Char.ofNat n != '/') := by
  have hall : ∀ code : Fin 128, isSegmentByte (UInt8.ofNat code) =
      (isPlainChar (Char.ofNat code) && Char.ofNat code != '/') := by decide +kernel
  exact hall ⟨n, hn⟩

theorem keeps_isSegmentByte_iff {c : Char} :
    Percent.Keeps isSegmentByte c ↔ isPlainChar c = true ∧ c ≠ '/' := by
  constructor
  · rintro ⟨hascii, hkeep⟩
    rw [Percent.byteOf, isSegmentByte_ofNat hascii, Char.ofNat_toNat] at hkeep
    simpa using hkeep
  · rintro ⟨hplain, hslash⟩
    have hascii := toNat_lt_of_isPlainChar hplain
    refine ⟨hascii, ?_⟩
    rw [Percent.byteOf, isSegmentByte_ofNat hascii, Char.ofNat_toNat]
    simp [hplain, hslash]

section Segments

open Segments

theorem split_requestPath (address : List Char) :
    split (requestPath address) = (split address).map (Percent.encode isSegmentByte) := by
  have hslash :
      ∀ segment ∈ (address.splitOn '/').map (Percent.encode isSegmentByte), '/' ∉ segment := by
    intro segment hsegment
    obtain ⟨source, -, rfl⟩ := List.mem_map.1 hsegment
    exact Percent.slash_not_mem_encode spares_isSegmentByte (by decide) source
  rw [requestPath, split_cons_slash, split_join hslash, List.filter_map, split]
  congr 1
  apply List.filter_congr
  intro segment _
  cases segment with
  | nil => rfl
  | cons c rest =>
      have hne := Percent.encode_ne_nil isSegmentByte (List.cons_ne_nil c rest)
      simp [hne]

theorem routeOfAddress_join (segments : List (List Char)) :
    routeOfAddress (join segments) = join (segments.map routeOfAddress) := by
  unfold join
  induction segments with
  | nil => rfl
  | cons first rest ih =>
      cases rest with
      | nil => rw [List.map_singleton, List.intercalate_singleton, List.intercalate_singleton]
      | cons second rest =>
          rw [List.map_cons, List.map_cons, List.intercalate_cons_cons, List.intercalate_cons_cons,
            routeOfAddress_append, routeOfAddress_append, ih]
          rfl

theorem slash_not_mem_routeOfAddress {segment : List Char} (h : '/' ∉ segment) :
    '/' ∉ routeOfAddress segment := by
  intro hmem
  obtain ⟨c, hc, heq⟩ := List.mem_map.1 hmem
  have hslash : c = '/' := by
    split at heq
    · exact absurd heq (by decide)
    · exact heq
  rw [hslash] at hc
  exact h (List.mem_of_mem_filter hc)

/-- The segments of a route are those of the address, rewritten; what is left empty is lost. -/
theorem split_routeOfAddress (address : List Char) :
    split (routeOfAddress address) = ((split address).map routeOfAddress).filter (!·.isEmpty) := by
  have hslash : ∀ segment ∈ (address.splitOn '/').map routeOfAddress, '/' ∉ segment := by
    intro segment hsegment
    obtain ⟨source, hsource, rfl⟩ := List.mem_map.1 hsegment
    exact slash_not_mem_routeOfAddress (not_mem_of_mem_splitOn address source hsource)
  have hjoin := routeOfAddress_join (address.splitOn '/')
  rw [join_splitOn] at hjoin
  rw [hjoin, split_join hslash, List.filter_map, List.filter_map, split, List.filter_filter]
  congr 1
  apply List.filter_congr
  intro segment _
  cases segment with
  | nil => rfl
  | cons c rest => simp

theorem length_routeOfAddress_le (address : List Char) :
    (routeOfAddress address).length ≤ address.length := by
  rw [routeOfAddress, List.length_map]
  exact List.length_filter_le ..

theorem routeOfAddress_ne_nil {segment : List Char} (h : ∃ c ∈ segment, c ≠ '\x7d') :
    routeOfAddress segment ≠ [] := by
  obtain ⟨c, hc, hne⟩ := h
  intro hnil
  rw [routeOfAddress, List.map_eq_nil_iff, List.filter_eq_nil_iff] at hnil
  exact hnil c hc (by simpa using hne)

end Segments

section Plain

variable {address : List Char}

theorem routeOfAddress_of_isPlain (h : ∀ c ∈ address, isPlainChar c = true) :
    routeOfAddress address = address := by
  induction address with
  | nil => rfl
  | cons c rest ih =>
      obtain ⟨hc, hrest⟩ := List.forall_mem_cons.1 h
      have hclose : c ≠ '\x7d' := by
        rintro rfl
        exact absurd hc (by decide)
      have hopen : c ≠ '\x7b' := by
        rintro rfl
        exact absurd hc (by decide)
      rw [routeOfAddress_cons, if_neg hclose, if_neg hopen, ih hrest]

/-- The route of a plain address captures nothing, and its segments are those of the
requested path. -/
theorem IsPlain.route (h : IsPlain address) :
    Piece.captures (routeOfAddress address) = [] ∧
      Segments.split (routeOfAddress address) = Segments.split (requestPath address) := by
  rw [routeOfAddress_of_isPlain h.chars, split_requestPath]
  refine ⟨Piece.captures_of_bare h.bare, ?_⟩
  have hkept : ∀ segment ∈ Segments.split address, Percent.encode isSegmentByte segment =
      segment := by
    intro segment hsegment
    apply Percent.encode_of_keeps
    intro c hc
    have hslash : c ≠ '/' := by
      rintro rfl
      exact (Segments.mem_split hsegment).2 hc
    have hmem := (Segments.mem_iff_exists_split hslash address).2 ⟨segment, hsegment, hc⟩
    exact keeps_isSegmentByte_iff.2 ⟨h.chars c hmem, hslash⟩
  exact ((List.map_congr_left hkept).trans (List.map_id _)).symm

/-- An address is plain if its route captures nothing and the requested path starts with its
segments, unless segments are lost. -/
theorem isPlain_of_route (hcaptures : Piece.captures (routeOfAddress address) = [])
    (hstarts : Segments.split (routeOfAddress address) <+: Segments.split (requestPath address))
    (hkept : ∀ segment ∈ Segments.split address, ∃ c ∈ segment, c ≠ '\x7d') : IsPlain address := by
  have hsplit : Segments.split (routeOfAddress address) =
      (Segments.split address).map routeOfAddress := by
    rw [split_routeOfAddress, List.filter_eq_self]
    intro segment hsegment
    obtain ⟨source, hsource, rfl⟩ := List.mem_map.1 hsegment
    simpa using routeOfAddress_ne_nil (hkept source hsource)
  rw [hsplit, split_requestPath] at hstarts
  have hsame :=
    List.map_inj_left.1 (hstarts.eq_of_length (by rw [List.length_map, List.length_map]))
  -- A segment becomes shorter or stays as long in the route, and becomes longer where
  -- it is escaped.
  have hchars : ∀ c ∈ address, isPlainChar c = true := by
    intro c hc
    by_cases hslash : c = '/'
    · rw [hslash]
      decide
    · obtain ⟨segment, hsegment, hmem⟩ := (Segments.mem_iff_exists_split hslash address).1 hc
      have hlength := length_routeOfAddress_le segment
      rw [hsame segment hsegment] at hlength
      exact (keeps_isSegmentByte_iff.1 (Percent.keeps_of_length_encode_le hlength c hmem)).1
  rw [routeOfAddress_of_isPlain hchars] at hcaptures
  have hlength := Piece.length_flatten_captures address
  rw [hcaptures] at hlength
  exact ⟨hchars, (Piece.bare_of_nameLength hlength.symm).1⟩

end Plain

end Address

end ChannelGateway
