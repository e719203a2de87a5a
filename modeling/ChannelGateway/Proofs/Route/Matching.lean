import ChannelGateway.Proofs.Json.Fields
import ChannelGateway.Route.Pattern
/-!
# Parameters of matched paths

A segment is matched while its captures are written into the parameters.  What it captures is
listed here without the parameters, and written into them afterwards.  Which keys the parameters of
a matched path have depends on the pattern alone: they are the names of its captures, and the key
of what is left of the path.
-/

namespace ChannelGateway

namespace Piece

def matchAll : List Piece → List Char → Option (List (List Char × List Char))
  | [], input => if input.isEmpty then some [] else none
  | literal text :: rest, input => (text.isPrefixOf? input).bind (matchAll rest)
  | capture name :: rest, input =>
    (cuts input).findSome? fun (run, after) =>
      (matchAll rest after).map fun captured => (name, run) :: captured

@[simp] theorem filterMap_literal (t : List Char) (rest : List Piece) :
    (literal t :: rest).filterMap name? = rest.filterMap name? := rfl

@[simp] theorem filterMap_capture (name : List Char) (rest : List Piece) :
    (capture name :: rest).filterMap name? = name :: rest.filterMap name? := rfl

theorem text_consLiteral (c : Char) (pieces : List Piece) :
    (consLiteral c pieces).flatMap text = c :: pieces.flatMap text := by
  unfold consLiteral
  split <;> rfl

theorem flatMap_text_ofSegment (segment : List Char) :
    (ofSegment segment).flatMap text = segment := by
  induction segment using ofSegment.induct with
  | case1 => rw [ofSegment, List.flatMap_nil]
  | case2 c rest run hcapture ih =>
      rw [ofSegment, if_pos hcapture, List.flatMap_cons, ih, hcapture.1, text, List.cons_append,
        List.takeWhile_append_dropWhile]
  | case3 c rest run hliteral ih => rw [ofSegment, if_neg hliteral, text_consLiteral, ih]

theorem isPrefixOf?_append (text rest : List Char) :
    text.isPrefixOf? (text ++ rest) = some rest := by
  induction text with
  | nil => rfl
  | cons c text ih => simp [List.isPrefixOf?, ih]

/-- Every part of a text that is not empty can be cut off its front. -/
theorem mem_cuts {front back : List Char} (h : front ≠ []) :
    (front, back) ∈ cuts (front ++ back) := by
  induction front with
  | nil => exact absurd rfl h
  | cons c front ih =>
      rw [List.cons_append, cuts, List.mem_cons]
      by_cases hfront : front = []
      · left
        rw [hfront, List.nil_append]
      · right
        exact List.mem_map.2 ⟨_, ih hfront, rfl⟩

theorem isSome_matchAll_capture {pieces : List Piece} {run after : List Char} (hrun : run ≠ [])
    (h : (matchAll pieces after).isSome) (name : List Char) :
    (matchAll (capture name :: pieces) (run ++ after)).isSome := by
  rw [matchAll, List.findSome?_isSome_iff]
  refine ⟨_, mem_cuts hrun, ?_⟩
  rw [Option.isSome_map, h]

theorem matchAll_text (pieces : List Piece) : (matchAll pieces (pieces.flatMap text)).isSome := by
  induction pieces with
  | nil => rfl
  | cons piece rest ih =>
      cases piece with
      | literal t =>
        rw [List.flatMap_cons, text, matchAll, isPrefixOf?_append, Option.bind_some, ih]
      | capture name =>
          rw [List.flatMap_cons, text]
          exact isSome_matchAll_capture (List.cons_ne_nil ':' name) ih name

theorem append_of_mem_cuts {text front back : List Char} (h : (front, back) ∈ cuts text) :
    front ++ back = text := by
  induction text generalizing front with
  | nil => cases h
  | cons c rest ih =>
      rw [cuts, List.mem_cons] at h
      rcases h with h | h
      · cases h
        rfl
      · obtain ⟨⟨front', back'⟩, hcut, heq⟩ := List.mem_map.1 h
        cases heq
        rw [List.cons_append, ih hcut]

theorem matchAll_of_literal {pieces : List Piece} (h : pieces.filterMap name? = [])
    (input : List Char) :
    matchAll pieces input = if input = pieces.flatMap text then some [] else none := by
  induction pieces generalizing input with
  | nil =>
      rw [matchAll, List.flatMap_nil]
      simp only [List.isEmpty_iff]
  | cons piece rest ih =>
      cases piece with
      | capture name => cases h
      | literal t =>
          rw [filterMap_literal] at h
          rw [matchAll, List.flatMap_cons, text]
          cases hcut : t.isPrefixOf? input with
          | none =>
              rw [Option.bind_none, if_neg]
              rintro rfl
              rw [isPrefixOf?_append] at hcut
              cases hcut
          | some after =>
              rw [List.isPrefixOf?_eq_some_iff_append_eq] at hcut
              rw [← hcut, Option.bind_some, ih h]
              simp only [List.append_cancel_left_eq]

theorem of_matchAll_capture {name input : List Char} {pieces : List Piece}
    {captured : List (List Char × List Char)}
    (h : matchAll (capture name :: pieces) input = some captured) :
    ∃ run after others, run ++ after = input ∧ matchAll pieces after = some others ∧
      captured = (name, run) :: others := by
  rw [matchAll] at h
  obtain ⟨⟨run, after⟩, hmem, hcut⟩ := List.exists_of_findSome?_eq_some h
  obtain ⟨others, hothers, rfl⟩ := Option.map_eq_some_iff.1 hcut
  exact ⟨run, after, others, append_of_mem_cuts hmem, hothers, rfl⟩

/-- A capture takes exactly what stands in front of the text of the pieces behind it, if
these capture nothing. -/
theorem matchAll_capture {pieces : List Piece} (h : pieces.filterMap name? = []) (name : List Char)
    {run : List Char} (hrun : run ≠ []) :
    matchAll (capture name :: pieces) (run ++ pieces.flatMap text) = some [(name, run)] := by
  have hpieces : (matchAll pieces (pieces.flatMap text)).isSome := matchAll_text pieces
  obtain ⟨captured, hcaptured⟩ :=
    Option.isSome_iff_exists.1 (isSome_matchAll_capture hrun hpieces name)
  obtain ⟨front, back, others, hsplit, hback, rfl⟩ := of_matchAll_capture hcaptured
  rw [matchAll_of_literal h, Option.ite_none_right_eq_some] at hback
  obtain ⟨rfl, hothers⟩ := hback
  rw [hcaptured, List.append_cancel_right hsplit, ← Option.some.inj hothers]

theorem map_fst_matchAll {pieces : List Piece} {input : List Char}
    {captured : List (List Char × List Char)} (h : matchAll pieces input = some captured) :
    captured.map Prod.fst = pieces.filterMap name? := by
  induction pieces generalizing input captured with
  | nil =>
      rw [matchAll] at h
      split at h
      · cases h
        rfl
      · cases h
  | cons piece rest ih =>
      cases piece with
      | literal t =>
          rw [matchAll] at h
          obtain ⟨after, -, hrest⟩ := Option.bind_eq_some_iff.1 h
          exact ih hrest
      | capture name =>
          obtain ⟨run, after, others, -, hrest, rfl⟩ := of_matchAll_capture h
          rw [List.map_cons, ih hrest]
          rfl

end Piece

namespace RoutePattern

open Fields

/-- Writes the captures of one segment into the parameters, the last capture first. -/
def addCaptures (params : Fields) (captured : List (List Char × List Char)) : Fields :=
  captured.reverse.foldl (fun params (name, run) =>
    Fields.insert (String.ofList name) (.string (String.ofList (Percent.decode run))) params) params

theorem addCaptures_cons (params : Fields) (name run : List Char)
    (captured : List (List Char × List Char)) :
    addCaptures params ((name, run) :: captured) =
      insert (String.ofList name) (.string (String.ofList (Percent.decode run)))
        (addCaptures params captured) := by
  rw [addCaptures, List.reverse_cons, List.foldl_append]
  rfl

theorem run_anyM_cons {α σ : Type} (p : α → StateM σ Bool) (a : α) (rest : List α) (s : σ) :
    ((a :: rest).anyM p).run s =
      match (p a).run s with
      | (true, s) => (true, s)
      | (false, s) => (rest.anyM p).run s := by
  rw [List.anyM, StateT.run_bind]
  rcases (p a).run s with ⟨_ | _, s⟩ <;> rfl

/-- Matching a segment writes what its pieces capture into the parameters, and nothing if they
do not match. -/
theorem run_matchInto (pieces : List Piece) (input : List Char) (params : Fields) :
    (Piece.matchInto pieces input).run params =
      ((Piece.matchAll pieces input).isSome,
        (Piece.matchAll pieces input).elim params (addCaptures params)) := by
  induction pieces generalizing input params with
  | nil =>
      rw [Piece.matchInto, Piece.matchAll]
      cases input <;> rfl
  | cons piece rest ih =>
      cases piece with
      | literal text =>
          rw [Piece.matchInto, Piece.matchAll]
          cases text.isPrefixOf? input with
          | none => rfl
          | some after => exact ih after params
      | capture name =>
          rw [Piece.matchInto, Piece.matchAll]
          -- cut by cut: one that does not match leaves the parameters to the next one as they were
          induction Piece.cuts input with
          | nil => rfl
          | cons cut others ihcuts =>
              rw [run_anyM_cons, List.findSome?_cons]
              cases hcaptured : Piece.matchAll rest cut.2 with
              | none =>
                  simp only [StateT.run_bind, ih, hcaptured]
                  exact ihcuts
              | some captured =>
                  simp only [StateT.run_bind, ih, hcaptured]
                  exact congrArg (Prod.mk true) (addCaptures_cons params name cut.1 captured).symm

theorem matchSegments_cons (params : Fields) (pieces : List Piece) (rest : List (List Piece))
    (segment : List Char) (others : List (List Char)) :
    matchSegments params (pieces :: rest) (segment :: others) =
      (Piece.matchAll pieces segment).bind fun captured =>
        matchSegments (addCaptures params captured) rest others := by
  rw [matchSegments, run_matchInto]
  cases Piece.matchAll pieces segment <;> rfl

theorem mem_keys_addCaptures {params : Fields} {captured : List (List Char × List Char)}
    {name : String} :
    name ∈ keys (addCaptures params captured) ↔
      name ∈ captured.map (fun capture => String.ofList capture.1) ∨ name ∈ keys params := by
  induction captured with
  | nil => simp [addCaptures]
  | cons capture captured ih =>
      rw [addCaptures_cons, mem_keys_insert, ih, List.map_cons, List.mem_cons, or_assoc]

theorem nodup_keys_addCaptures {params : Fields} (h : (keys params).Nodup)
    (captured : List (List Char × List Char)) : (keys (addCaptures params captured)).Nodup := by
  unfold addCaptures
  generalize captured.reverse = captured
  induction captured generalizing params with
  | nil => exact h
  | cons capture captured ih => exact ih (nodup_keys_insert h _ _)

theorem mem_keys_matchSegments {segments : List (List Piece)} {input : List (List Char)}
    {params result : Fields} (h : matchSegments params segments input = some result)
    (name : String) :
    name ∈ keys result ↔
      name ∈ (segments.flatten.filterMap Piece.name?).map String.ofList ∨ name ∈ keys params := by
  induction segments generalizing input params with
  | nil =>
      cases h
      simp
  | cons pieces rest ih =>
      cases input with
      | nil => cases h
      | cons segment input =>
          rw [matchSegments_cons] at h
          obtain ⟨captured, hcaptured, hrest⟩ := Option.bind_eq_some_iff.1 h
          have hnames : captured.map (fun capture => String.ofList capture.1) =
              (pieces.filterMap Piece.name?).map String.ofList := by
            rw [← Piece.map_fst_matchAll hcaptured, List.map_map]
            rfl
          rw [ih hrest, mem_keys_addCaptures, hnames, List.flatten_cons, List.filterMap_append,
            List.map_append, List.mem_append, ← or_assoc, or_comm (a := name ∈ List.map _ _)]

theorem nodup_keys_matchSegments {segments : List (List Piece)} {input : List (List Char)}
    {params result : Fields} (h : matchSegments params segments input = some result)
    (hparams : (keys params).Nodup) : (keys result).Nodup := by
  induction segments generalizing input params with
  | nil =>
      cases h
      exact hparams
  | cons pieces rest ih =>
      cases input with
      | nil => cases h
      | cons segment input =>
          rw [matchSegments_cons] at h
          obtain ⟨captured, -, hrest⟩ := Option.bind_eq_some_iff.1 h
          exact ih hrest (nodup_keys_addCaptures hparams captured)

/-- Apart from what is left of the path, the parameters of a matched path are the captures. -/
theorem mem_keys_matchPath {p : RoutePattern} {path : List Char} {params : Fields}
    (h : p.matchPath? path = some params) (name : String) :
    name ∈ keys (erase remainderKey params) ↔
      name ≠ remainderKey ∧ name ∈ p.captureNames.map String.ofList := by
  rw [matchPath?] at h
  split at h
  · cases h
  · obtain ⟨captured, hcaptured, hparams⟩ := Option.map_eq_some_iff.1 h
    have hkeys := mem_keys_matchSegments hcaptured name
    have hnodup := nodup_keys_matchSegments hcaptured List.nodup_nil
    rw [keys_nil, List.mem_nil_iff, or_false] at hkeys
    rw [captureNames, ← hkeys]
    split at hparams
    · rw [← hparams, mem_keys_erase hnodup]
    · rw [← hparams, mem_keys_erase (nodup_keys_insert hnodup _ _), mem_keys_insert]
      constructor
      · rintro ⟨hne, heq | hmem⟩
        · exact absurd heq hne
        · exact ⟨hne, hmem⟩
      · rintro ⟨hne, hmem⟩
        exact ⟨hne, Or.inr hmem⟩

theorem matchSegments_self (segments : List (List Char)) (params : Fields) :
    (matchSegments params (segments.map Piece.ofSegment) segments).isSome := by
  induction segments generalizing params with
  | nil => rfl
  | cons segment rest ih =>
      have hsegment := Piece.matchAll_text (Piece.ofSegment segment)
      rw [Piece.flatMap_text_ofSegment] at hsegment
      obtain ⟨captured, hcaptured⟩ := Option.isSome_iff_exists.1 hsegment
      rw [List.map_cons, matchSegments_cons, hcaptured, Option.bind_some]
      exact ih _

theorem matchPath?_self (text : List Char) : ((parse text).matchPath? text).isSome := by
  have hlength : (parse text).segments.length = (Segments.split text).length := List.length_map ..
  rw [matchPath?, if_neg (by omega), Option.isSome_map]
  exact matchSegments_self _ _

end RoutePattern

end ChannelGateway
