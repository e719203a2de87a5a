import ChannelGateway.Proofs.Route.Captures
import ChannelGateway.Proofs.Route.Matching
import ChannelGateway.Proofs.Text.Segments
/-!
# Canonical patterns

Reading a pattern loses nothing but empty segments, and of all the pieces that could be written as
a text it always finds the same ones: names are as long as possible, and so are literals.  Pieces
of this form are those that are read back from what is written for them, so a pattern is determined
by its text.
-/

namespace ChannelGateway

namespace Piece

def IsProper : Piece → Prop
  | literal text => text ≠ [] ∧ Bare text
  | capture name => name ≠ [] ∧ ∀ c ∈ name, isNameChar c = true

/-- A second literal would belong to the first one, and a literal that starts with a character of a
name to the name in front of it. -/
def MayPrecede : Piece → Piece → Prop
  | literal _, literal _ => False
  | capture _, literal text => ∀ c ∈ text.head?, isNameChar c = false
  | _, capture _ => True

structure IsCanonical (pieces : List Piece) : Prop where
  proper : ∀ piece ∈ pieces, piece.IsProper
  separated : pieces.IsChain MayPrecede

theorem isCanonical_nil : IsCanonical [] := ⟨by simp, .nil⟩

theorem isCanonical_cons {piece : Piece} {rest : List Piece} :
    IsCanonical (piece :: rest) ↔
      piece.IsProper ∧ (∀ next ∈ rest.head?, piece.MayPrecede next) ∧ IsCanonical rest := by
  constructor
  · rintro ⟨hproper, hseparated⟩
    obtain ⟨hpiece, hrest⟩ := List.forall_mem_cons.1 hproper
    obtain ⟨hnext, hothers⟩ := List.isChain_cons.1 hseparated
    exact ⟨hpiece, hnext, hrest, hothers⟩
  · rintro ⟨hpiece, hnext, hrest, hothers⟩
    exact ⟨List.forall_mem_cons.2 ⟨hpiece, hrest⟩, List.isChain_cons.2 ⟨hnext, hothers⟩⟩

theorem IsProper.text_ne_nil {piece : Piece} (h : piece.IsProper) : piece.text ≠ [] := by
  cases piece with
  | literal t => exact h.1
  | capture name => exact List.cons_ne_nil ':' name

/-- What is written for pieces starts with what is written for the first one. -/
theorem head?_flatMap_text {piece : Piece} (h : piece.IsProper) (rest : List Piece) :
    ((piece :: rest).flatMap text).head? = piece.text.head? := by
  rw [List.flatMap_cons, List.head?_append_of_ne_nil _ h.text_ne_nil]

theorem head?_flatMap_text_capture (name : List Char) (rest : List Piece) :
    ∀ c ∈ ((capture name :: rest).flatMap text).head?, isNameChar c = false := by
  intro c hc
  have hcolon : ':' = c := by simpa [text] using hc
  rw [← hcolon]
  decide

theorem IsCanonical.head?_behind_capture {name : List Char} {rest : List Piece}
    (h : IsCanonical (capture name :: rest)) :
    ∀ c ∈ (rest.flatMap text).head?, isNameChar c = false := by
  obtain ⟨-, hnext, hrest⟩ := isCanonical_cons.1 h
  cases rest with
  | nil => simp
  | cons next others =>
      cases next with
      | literal t =>
          rw [head?_flatMap_text (isCanonical_cons.1 hrest).1]
          exact hnext _ rfl
      | capture other => exact head?_flatMap_text_capture other others

theorem IsCanonical.eq_nil_or_capture {t : List Char} {rest : List Piece}
    (h : IsCanonical (literal t :: rest)) : rest = [] ∨
      ∃ name others, rest = capture name :: others := by
  obtain ⟨-, hnext, -⟩ := isCanonical_cons.1 h
  cases rest with
  | nil => exact Or.inl rfl
  | cons next others =>
      cases next with
      | literal other => exact absurd (hnext _ rfl) id
      | capture name => exact Or.inr ⟨name, others, rfl⟩

/-! ## Reading gives canonical pieces -/

theorem isCanonical_consLiteral {c : Char} {pieces : List Piece} (h : IsCanonical pieces)
    (hbare : c = ':' → ∀ d ∈ (pieces.flatMap text).head?, isNameChar d = false) :
    IsCanonical (consLiteral c pieces) := by
  cases pieces with
  | nil =>
      have hproper : IsProper (literal [c]) := ⟨List.cons_ne_nil c [], List.isChain_singleton c⟩
      exact isCanonical_cons.2 ⟨hproper, by simp, isCanonical_nil⟩
  | cons first rest =>
      obtain ⟨hfirst, hnext, hrest⟩ := isCanonical_cons.1 h
      rw [head?_flatMap_text hfirst] at hbare
      cases first with
      | literal t =>
          have hproper : IsProper (literal (c :: t)) :=
            ⟨List.cons_ne_nil c t, List.isChain_cons.2 ⟨fun d hd hc => hbare hc d hd, hfirst.2⟩⟩
          refine isCanonical_cons.2 ⟨hproper, fun next hmem => ?_, hrest⟩
          have hfollows := hnext next hmem
          cases next with
          | literal other => exact hfollows
          | capture name => trivial
      | capture name =>
          have hproper : IsProper (literal [c]) := ⟨List.cons_ne_nil c [], List.isChain_singleton c⟩
          refine isCanonical_cons.2 ⟨hproper, fun next hmem => ?_, h⟩
          cases hmem
          trivial

theorem isCanonical_ofSegment (segment : List Char) : IsCanonical (ofSegment segment) := by
  induction segment using ofSegment.induct with
  | case1 =>
      rw [ofSegment]
      exact isCanonical_nil
  | case2 c rest run hcapture ih =>
      rw [ofSegment, if_pos hcapture]
      have hproper : IsProper (capture (rest.takeWhile isNameChar)) :=
        ⟨hcapture.2, List.all_eq_true.1 List.all_takeWhile⟩
      refine isCanonical_cons.2 ⟨hproper, fun next hmem => ?_, ih⟩
      cases next with
      | capture name => trivial
      | literal t =>
          -- The literal starts with what ended the name.
          obtain ⟨others, hothers⟩ := List.head?_eq_some_iff.1 hmem
          have hwritten := flatMap_text_ofSegment (rest.dropWhile isNameChar)
          rw [hothers] at ih hwritten
          have hhead := head?_flatMap_text (isCanonical_cons.1 ih).1 others
          rw [hwritten] at hhead
          intro d hd
          exact head?_dropWhile rest d (hhead.trans hd)
  | case3 c rest run hliteral ih =>
      rw [ofSegment, if_neg hliteral]
      refine isCanonical_consLiteral ih fun hcolon => ?_
      rw [flatMap_text_ofSegment]
      have hnone : rest.takeWhile isNameChar = [] := by
        by_contra hne
        exact hliteral ⟨hcolon, hne⟩
      have hrest := List.takeWhile_append_dropWhile (p := isNameChar) (l := rest)
      rw [hnone, List.nil_append] at hrest
      rw [← hrest]
      exact head?_dropWhile rest

/-! ## Canonical pieces are read back -/

/-- A literal is read as a whole in front of a text that continues no name and starts
with no literal. -/
theorem ofSegment_append {t rest : List Char} {pieces : List Piece} (hne : t ≠ []) (hbare : Bare t)
    (hread : ofSegment rest = pieces) (hhead : ∀ c ∈ rest.head?, isNameChar c = false)
    (hpieces : ∀ c, consLiteral c pieces = literal [c] :: pieces) :
    ofSegment (t ++ rest) = literal t :: pieces := by
  induction t with
  | nil => exact absurd rfl hne
  | cons c t ih =>
      obtain ⟨hnext, hbare⟩ := List.isChain_cons.1 hbare
      have hbehind : c = ':' → ∀ d ∈ (t ++ rest).head?, isNameChar d = false := by
        intro hcolon d hd
        cases t with
        | nil => exact hhead d hd
        | cons e others => exact hnext d hd hcolon
      have hliteral : ¬(c = ':' ∧ (t ++ rest).takeWhile isNameChar ≠ []) := by
        rintro ⟨hcolon, hname⟩
        have htake := takeWhile_append_of_head (hbehind hcolon) []
        rw [List.nil_append, List.takeWhile_nil] at htake
        exact hname htake
      rw [List.cons_append, ofSegment, if_neg hliteral]
      cases t with
      | nil => rw [List.nil_append, hread, hpieces]
      | cons e others =>
          rw [ih (List.cons_ne_nil e others) hbare]
          rfl

theorem ofSegment_flatMap_text {pieces : List Piece} (h : IsCanonical pieces) :
    ofSegment (pieces.flatMap text) = pieces := by
  induction pieces with
  | nil => rw [List.flatMap_nil, ofSegment]
  | cons piece rest ih =>
      obtain ⟨hpiece, -, hrest⟩ := isCanonical_cons.1 h
      rw [List.flatMap_cons]
      cases piece with
      | capture name =>
          obtain ⟨htake, hdrop⟩ := takeWhile_run hpiece.2 h.head?_behind_capture
          rw [text, List.cons_append, ofSegment, htake, hdrop, if_pos ⟨rfl, hpiece.1⟩, ih hrest]
      | literal t =>
          refine ofSegment_append hpiece.1 hpiece.2 (ih hrest) ?_ ?_
          · rcases h.eq_nil_or_capture with rfl | ⟨name, others, rfl⟩
            · simp
            · exact head?_flatMap_text_capture name others
          · rcases h.eq_nil_or_capture with rfl | ⟨name, others, rfl⟩
            · exact fun c => rfl
            · exact fun c => rfl

end Piece

namespace RoutePattern

open Piece

/-- Patterns as they are read: every segment is written as something without slashes and consists of
canonical pieces. -/
def IsCanonical (p : RoutePattern) : Prop :=
  ∀ pieces ∈ p.segments, pieces ≠ [] ∧ '/' ∉ pieces.flatMap Piece.text ∧ Piece.IsCanonical pieces

/-- A pattern is written as the path that it stands for: its pieces are those of the path. -/
theorem text_parse (text : List Char) : (parse text).text = Segments.normalize text := by
  have hpieces (segments : List (List Char)) :
      (segments.map Piece.ofSegment).map (fun pieces => pieces.flatMap Piece.text) = segments := by
    rw [List.map_map]
    exact (List.map_congr_left fun segment _ => Piece.flatMap_text_ofSegment segment).trans
      (List.map_id segments)
  rw [RoutePattern.text, parse, hpieces, Segments.normalize]

theorem isCanonical_parse (text : List Char) : (parse text).IsCanonical := by
  intro pieces hpieces
  obtain ⟨segment, hsegment, rfl⟩ := List.mem_map.1 hpieces
  obtain ⟨hne, hslash⟩ := Segments.mem_split hsegment
  have hwritten := flatMap_text_ofSegment segment
  refine ⟨?_, by rwa [hwritten], isCanonical_ofSegment segment⟩
  intro hnil
  rw [hnil, List.flatMap_nil] at hwritten
  exact hne hwritten.symm

theorem IsCanonical.parse_text {p : RoutePattern} (h : p.IsCanonical) : parse p.text = p := by
  have hsegments : ∀ segment ∈ p.segments.map fun pieces => pieces.flatMap Piece.text,
      segment ≠ [] ∧ '/' ∉ segment := by
    intro segment hsegment
    obtain ⟨pieces, hpieces, rfl⟩ := List.mem_map.1 hsegment
    obtain ⟨hne, hslash, hcanonical⟩ := h pieces hpieces
    obtain ⟨first, rest, rfl⟩ := List.exists_cons_of_ne_nil hne
    have hfirst := (isCanonical_cons.1 hcanonical).1.text_ne_nil
    rw [List.flatMap_cons] at hslash ⊢
    exact ⟨List.append_ne_nil_of_left_ne_nil hfirst _, hslash⟩
  rw [parse, RoutePattern.text, Segments.split_cons_slash, Segments.split_join_of_mem hsegments,
    List.map_map]
  congr 1
  exact (List.map_congr_left fun pieces hpieces =>
    ofSegment_flatMap_text (h pieces hpieces).2.2).trans (List.map_id _)

theorem isCanonical_iff_exists_parse {p : RoutePattern} : p.IsCanonical ↔
    ∃ text, parse text = p := by
  constructor
  · exact fun h => ⟨p.text, h.parse_text⟩
  · rintro ⟨text, rfl⟩
    exact isCanonical_parse text

end RoutePattern

open RoutePattern

/-- Reading a pattern is lossless: written back, its pieces are the path that the text stands
for.  It is canonical, too.  In every segment no piece is empty, a captured name has characters
of names only and ends where none follows, no two literals are adjacent, and no literal continues
the name in front of it.  So a pattern is read from its own text again, and two patterns with one
text are equal. -/
theorem parse_lossless_canonical (text : List Char) :
    (parse text).text = Segments.normalize text ∧
      (∀ pieces ∈ (parse text).segments,
        (∀ piece ∈ pieces, piece.IsProper) ∧ pieces.IsChain Piece.MayPrecede ∧
        ∀ before name behind, pieces = before ++ .capture name :: behind →
          ∀ c ∈ (behind.flatMap Piece.text).head?, Piece.isNameChar c = false) ∧
      parse (parse text).text = parse text ∧
      ∀ other, (parse other).text = (parse text).text ↔ parse other = parse text := by
  refine ⟨text_parse text, fun pieces hpieces => ?_, (isCanonical_parse text).parse_text,
    fun other => ?_⟩
  · have hcanonical := (isCanonical_parse text pieces hpieces).2.2
    refine ⟨hcanonical.proper, hcanonical.separated, ?_⟩
    rintro before name behind rfl
    have htail : Piece.IsCanonical (.capture name :: behind) :=
      ⟨fun piece hmem => hcanonical.proper piece (List.mem_append_right before hmem),
        hcanonical.separated.right_of_append⟩
    exact htail.head?_behind_capture
  · constructor
    · intro htext
      rw [← (isCanonical_parse other).parse_text, htext, (isCanonical_parse text).parse_text]
    · exact congrArg RoutePattern.text

example : (parse "//user.:name.signedup/12::id/".toList).segments =
    [[.literal "user.".toList, .capture "name".toList, .literal ".signedup".toList],
      [.literal "12:".toList, .capture "id".toList]] := by cbv

end ChannelGateway
