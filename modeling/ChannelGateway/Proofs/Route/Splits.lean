import ChannelGateway.Proofs.Route.Matching
import Mathlib.Data.List.Forall2
/-!
# Splits of segments

Pieces match a segment if and only if it can be split into runs, one for each piece.  Of all the
splits the matcher takes the one with the shortest captures: the first capture is as short as it
can be, then the second one, and so on.  A segment is a sequence of characters, so every run ends
where a character ends.
-/

namespace ChannelGateway

namespace Piece

/-- What a piece takes of a text: a literal itself, and a capture at least one character. -/
def Takes : Piece → List Char → Prop
  | literal text, run => run = text
  | capture _, run => run ≠ []

/-- A text is split into runs that follow each other, one for each piece. -/
structure Splits (pieces : List Piece) (input : List Char) (runs : List (List Char)) : Prop where
  takes : List.Forall₂ Takes pieces runs
  joined : runs.flatten = input

def captured (pieces : List Piece) (runs : List (List Char)) : List (List Char × List Char) :=
  (pieces.zip runs).filterMap fun (piece, run) => piece.name?.map (·, run)

def captureLengths (pieces : List Piece) (runs : List (List Char)) : List Nat :=
  (captured pieces runs).map (·.2.length)

/-- The captures of a split are shorter than those of any other split, from left to right. -/
structure LazilySplits (pieces : List Piece) (input : List Char) (runs : List (List Char)) : Prop
    extends Splits pieces input runs where
  least : ∀ other, Splits pieces input other → other ≠ runs →
    captureLengths pieces runs < captureLengths pieces other

section Splits

variable {piece : Piece} {rest : List Piece} {input : List Char} {runs : List (List Char)}

theorem splits_nil : Splits [] input runs ↔ input = [] ∧ runs = [] := by
  constructor
  · rintro ⟨htakes, rfl⟩
    cases htakes
    exact ⟨rfl, rfl⟩
  · rintro ⟨rfl, rfl⟩
    exact ⟨.nil, rfl⟩

theorem splits_cons :
    Splits (piece :: rest) input runs ↔
      ∃ run after others, input = run ++ after ∧ runs = run :: others ∧ Takes piece run ∧
        Splits rest after others := by
  constructor
  · rintro ⟨htakes, rfl⟩
    cases htakes with
    | cons hrun hothers => exact ⟨_, _, _, rfl, rfl, hrun, hothers, rfl⟩
  · rintro ⟨run, after, others, rfl, rfl, hrun, hothers, rfl⟩
    exact ⟨.cons hrun hothers, rfl⟩

theorem Splits.map_fst_captured {pieces : List Piece} (h : Splits pieces input runs) :
    (captured pieces runs).map Prod.fst = pieces.filterMap name? := by
  obtain ⟨htakes, -⟩ := h
  induction htakes with
  | nil => rfl
  | @cons piece run _ _ _ _ ih =>
      cases piece with
      | literal text => exact ih
      | capture name => exact congrArg (name :: ·) ih

end Splits

/-! ## The matcher takes the lazy split -/

theorem LazilySplits.literal {rest : List Piece} {after : List Char} {runs : List (List Char)}
    (h : LazilySplits rest after runs) (text : List Char) :
    LazilySplits (.literal text :: rest) (text ++ after) (text :: runs) := by
  refine ⟨splits_cons.2 ⟨text, after, runs, rfl, rfl, rfl, h.toSplits⟩, fun other hother hne => ?_⟩
  obtain ⟨run, after', others, hinput, rfl, hrun, hothers⟩ := splits_cons.1 hother
  obtain rfl : run = text := hrun
  obtain rfl : after = after' := List.append_cancel_left hinput
  exact h.least others hothers fun heq => hne (congrArg (run :: ·) heq)

/-- A capture in front of a lazy split takes its run lazily if nothing shorter lets
the rest match. -/
theorem LazilySplits.capture {rest : List Piece} {run after : List Char} {runs : List (List Char)}
    (h : LazilySplits rest after runs) (name : List Char) (hrun : run ≠ [])
    (hshortest : ∀ run' after', run' ≠ [] → run' ++ after' = run ++ after →
      run'.length < run.length → ∀ others, ¬ Splits rest after' others) :
    LazilySplits (.capture name :: rest) (run ++ after) (run :: runs) := by
  refine ⟨splits_cons.2 ⟨run, after, runs, rfl, rfl, hrun, h.toSplits⟩, fun other hother hne => ?_⟩
  obtain ⟨run', after', others, hinput, rfl, hrun', hothers⟩ := splits_cons.1 hother
  change run.length :: captureLengths rest runs < run'.length :: captureLengths rest others
  rw [List.cons_lt_cons_iff]
  rcases Nat.lt_trichotomy run.length run'.length with hlt | heq | hgt
  · exact Or.inl hlt
  · obtain ⟨rfl, rfl⟩ := List.append_inj hinput heq
    exact Or.inr ⟨rfl, h.least others hothers fun heq => hne (congrArg (run :: ·) heq)⟩
  · exact absurd hothers (hshortest run' after' hrun' hinput.symm hgt others)

theorem ne_nil_of_mem_cuts {text front back : List Char} (h : (front, back) ∈ cuts text) :
    front ≠ [] := by
  cases text with
  | nil => cases h
  | cons c rest =>
      rcases List.mem_cons.1 h with heq | hmem
      · cases heq
        exact List.cons_ne_nil c []
      · obtain ⟨cut, -, heq⟩ := List.mem_map.1 hmem
        cases heq
        exact List.cons_ne_nil c cut.1

theorem pairwise_cuts (text : List Char) :
    (cuts text).Pairwise fun cut other => cut.1.length < other.1.length := by
  induction text with
  | nil => exact .nil
  | cons c rest ih =>
      rw [cuts, List.pairwise_cons, List.pairwise_map]
      refine ⟨fun other hother => ?_, ih.imp Nat.succ_lt_succ⟩
      obtain ⟨⟨front, back⟩, hmem, rfl⟩ := List.mem_map.1 hother
      exact Nat.succ_lt_succ (List.length_pos_of_ne_nil (ne_nil_of_mem_cuts hmem))

/-- What is captured in the lazy split of a text, or nothing if there is no split at all. -/
def IsLazy (pieces : List Piece) (input : List Char) : Option (List (List Char × List Char)) → Prop
  | some found => ∃ runs, LazilySplits pieces input runs ∧ found = captured pieces runs
  | none => ∀ runs, ¬ Splits pieces input runs

section Cons

variable {rest : List Piece} (ih : ∀ after, IsLazy rest after (matchAll rest after))

include ih

theorem isLazy_matchAll_literal (text input : List Char) :
    IsLazy (.literal text :: rest) input (matchAll (.literal text :: rest) input) := by
  rw [matchAll]
  cases hcut : text.isPrefixOf? input with
  | none =>
      intro runs h
      obtain ⟨run, after, others, rfl, -, hrun, -⟩ := splits_cons.1 h
      obtain rfl : run = text := hrun
      rw [isPrefixOf?_append] at hcut
      cases hcut
  | some after =>
      obtain rfl := List.isPrefixOf?_eq_some_iff_append_eq.1 hcut
      have hrest := ih after
      rw [Option.bind_some]
      cases hmatch : matchAll rest after with
      | none =>
          rw [hmatch] at hrest
          intro runs h
          obtain ⟨run, after', others, hinput, -, hrun, hothers⟩ := splits_cons.1 h
          obtain rfl : run = text := hrun
          obtain rfl : after = after' := List.append_cancel_left hinput
          exact hrest others hothers
      | some found =>
          rw [hmatch] at hrest
          obtain ⟨runs, hlazy, rfl⟩ := hrest
          exact ⟨text :: runs, hlazy.literal text, rfl⟩

theorem isLazy_matchAll_capture (name input : List Char) :
    IsLazy (.capture name :: rest) input (matchAll (.capture name :: rest) input) := by
  -- A cut with which the rest does not match belongs to no split.
  have hfails (run after : List Char)
      (h : (matchAll rest after).map (fun found => (name, run) :: found) = none)
      (others : List (List Char)) : ¬ Splits rest after others := by
    have hrest := ih after
    rw [Option.map_eq_none_iff.1 h] at hrest
    exact hrest others
  rw [matchAll]
  cases hfound : (cuts input).findSome? _ with
  | none =>
      rw [List.findSome?_eq_none_iff] at hfound
      intro runs h
      obtain ⟨run, after, others, rfl, -, hrun, hothers⟩ := splits_cons.1 h
      exact hfails run after (hfound _ (mem_cuts hrun)) others hothers
  | some found =>
      obtain ⟨before, ⟨run, after⟩, behind, hcuts, hmatch, hbefore⟩ :=
        List.findSome?_eq_some_iff.1 hfound
      obtain ⟨others, hothers, rfl⟩ := Option.map_eq_some_iff.1 hmatch
      have hrest := ih after
      rw [hothers] at hrest
      obtain ⟨runs, hlazy, rfl⟩ := hrest
      have hmem : (run, after) ∈ cuts input := by simp [hcuts]
      obtain rfl := append_of_mem_cuts hmem
      refine ⟨run :: runs, hlazy.capture name (ne_nil_of_mem_cuts hmem) ?_, rfl⟩
      -- Shorter cuts were tried before the one that was found, so they failed.
      intro run' after' hrun' hinput hlt
      have hcut : (run', after') ∈ cuts (run' ++ after') := mem_cuts hrun'
      rw [hinput, hcuts, List.mem_append, List.mem_cons] at hcut
      have hordered := pairwise_cuts (run ++ after)
      rw [hcuts, List.pairwise_append, List.pairwise_cons] at hordered
      rcases hcut with hearlier | heq | hlater
      · exact hfails run' after' (hbefore _ hearlier)
      · cases heq
        exact absurd hlt (Nat.lt_irrefl _)
      · exact absurd hlt (Nat.lt_asymm (hordered.2.1.1 _ hlater))

end Cons

theorem isLazy_matchAll (pieces : List Piece) (input : List Char) :
    IsLazy pieces input (matchAll pieces input) := by
  induction pieces generalizing input with
  | nil =>
      cases input with
      | nil =>
          refine ⟨[], ⟨splits_nil.2 ⟨rfl, rfl⟩, fun other hother hne => ?_⟩, rfl⟩
          exact absurd (splits_nil.1 hother).2 hne
      | cons c rest =>
          intro runs h
          cases (splits_nil.1 h).1
  | cons piece rest ih =>
      cases piece with
      | literal text => exact isLazy_matchAll_literal ih text input
      | capture name => exact isLazy_matchAll_capture ih name input

end Piece

/-! ## What a match writes -/

namespace RoutePattern

open Fields Piece

section Captures

variable {params : Fields} {captured : List (List Char × List Char)}

theorem lookup_addCaptures_of_not_mem {key : String}
    (h : ∀ name ∈ captured.map Prod.fst, String.ofList name ≠ key) :
    (addCaptures params captured).lookup key = params.lookup key := by
  induction captured with
  | nil => rfl
  | cons capture rest ih =>
      obtain ⟨hfirst, hrest⟩ := List.forall_mem_cons.1 h
      rw [addCaptures_cons, lookup_insert_of_ne hfirst.symm, ih hrest]

theorem lookup_addCaptures_of_mem (hdistinct : (captured.map Prod.fst).Nodup) {name run : List Char}
    (h : (name, run) ∈ captured) :
    (addCaptures params captured).lookup (String.ofList name) =
      some (.string (String.ofList (Percent.decode run))) := by
  induction captured with
  | nil => cases h
  | cons capture rest ih =>
      rw [List.map_cons, List.nodup_cons] at hdistinct
      rw [addCaptures_cons]
      rcases List.mem_cons.1 h with rfl | hrest
      · exact lookup_insert_self _ _ _
      · have hne : String.ofList name ≠ String.ofList capture.1 := by
          intro heq
          rw [String.ofList_injective heq] at hrest
          exact hdistinct.1 (List.mem_map.2 ⟨_, hrest, rfl⟩)
        rw [lookup_insert_of_ne hne, ih hdistinct.2 hrest]

end Captures

end RoutePattern

open RoutePattern Piece

/-- Pieces match a text if and only if the text can be split into runs for them.  Then the lazy
split is taken: its captures are written into the parameters, under distinct names each of them as
it is when decoded, and nothing else changes there.  If the pieces do not match, the parameters
are as before. -/
theorem matchInto_takes_lazy_split (pieces : List Piece) (input : List Char) (params : Fields) :
    ∃ matched after, (matchInto pieces input).run params = (matched, after) ∧
      (matched = true ↔ ∃ runs, Splits pieces input runs) ∧
      (matched = true → ∃ runs, LazilySplits pieces input runs ∧
        after = addCaptures params (captured pieces runs) ∧
        ((pieces.filterMap name?).Nodup →
          (∀ name run, (name, run) ∈ captured pieces runs →
            after.lookup (String.ofList name) =
              some (.string (String.ofList (Percent.decode run)))) ∧
          ∀ key, (∀ name ∈ pieces.filterMap name?, String.ofList name ≠ key) →
            after.lookup key = params.lookup key)) ∧
      (matched = false → after = params) := by
  have hlazy := isLazy_matchAll pieces input
  refine ⟨_, _, run_matchInto pieces input params, ?_⟩
  cases hmatch : matchAll pieces input with
  | none =>
      rw [hmatch] at hlazy
      refine ⟨⟨?_, ?_⟩, ?_, fun _ => rfl⟩
      · rintro ⟨⟩
      · rintro ⟨runs, hruns⟩
        exact absurd hruns (hlazy runs)
      · rintro ⟨⟩
  | some found =>
      rw [hmatch] at hlazy
      obtain ⟨runs, hruns, rfl⟩ := hlazy
      refine ⟨⟨fun _ => ⟨runs, hruns.toSplits⟩, fun _ => rfl⟩, fun _ => ⟨runs, hruns, rfl, ?_⟩, ?_⟩
      · rw [← hruns.map_fst_captured]
        intro hdistinct
        exact ⟨fun name run hmem => lookup_addCaptures_of_mem hdistinct hmem,
          fun key hkey => lookup_addCaptures_of_not_mem hkey⟩
      · rintro ⟨⟩

example : (matchInto (ofSegment ":from-:to".toList) "a-b-c".toList).run [] =
    (true, [("to", .string "b-c"), ("from", .string "a")]) := by cbv

end ChannelGateway
