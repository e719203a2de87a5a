import ChannelGateway.Proofs.Lists.Runs
import ChannelGateway.Route.Pattern
import Mathlib.Data.List.Chain
import Mathlib.Data.List.TakeWhile
/-!
# The captures of a pattern's text

A slash belongs to no name, so the captures of a pattern can be read off its text as a whole,
without splitting it into segments first.  How long the captured names are in total is a count over
the characters of the text, which is easier to compare between texts than the names themselves.
-/

namespace ChannelGateway

namespace Piece

def captures (text : List Char) : List (List Char) := (ofSegment text).filterMap name?

@[simp] theorem filterMap_consLiteral (c : Char) (pieces : List Piece) :
    (consLiteral c pieces).filterMap name? = pieces.filterMap name? := by
  unfold consLiteral
  split <;> rfl

@[simp] theorem captures_nil : captures [] = [] := by
  rw [captures, ofSegment]
  rfl

theorem captures_cons (c : Char) (rest : List Char) :
    captures (c :: rest) =
      if c = ':' ∧ rest.takeWhile isNameChar ≠ [] then
        rest.takeWhile isNameChar :: captures (rest.dropWhile isNameChar)
      else captures rest := by
  rw [captures, ofSegment]
  split
  · rfl
  · exact filterMap_consLiteral c _

theorem captures_cons_of_ne {c : Char} (hc : c ≠ ':') (rest : List Char) :
    captures (c :: rest) = captures rest := by
  rw [captures_cons, if_neg fun h => hc h.1]

theorem captures_colon {rest : List Char} (h : ∀ c ∈ rest.head?, isNameChar c = false) :
    captures (':' :: rest) = captures rest := by
  have htake := takeWhile_append_of_head h []
  rw [List.nil_append] at htake
  rw [captures_cons, htake, if_neg fun h => h.2 rfl]

/-- A colon in front of a name that something else follows captures that name. -/
theorem captures_colon_append {name rest : List Char} (hname : ∀ c ∈ name, isNameChar c = true)
    (hne : name ≠ []) (h : ∀ c ∈ rest.head?, isNameChar c = false) :
    captures (':' :: (name ++ rest)) = name :: captures rest := by
  obtain ⟨htake, hdrop⟩ := takeWhile_run hname h
  rw [captures_cons, htake, hdrop, if_pos ⟨rfl, hne⟩]

theorem mem_captures {text name : List Char} (h : name ∈ captures text) :
    name ≠ [] ∧ ∀ c ∈ name, isNameChar c = true := by
  induction text using ofSegment.induct with
  | case1 => simp at h
  | case2 c rest run hcapture ih =>
      rw [captures_cons, if_pos hcapture, List.mem_cons] at h
      rcases h with rfl | h
      · exact ⟨hcapture.2, List.all_eq_true.1 List.all_takeWhile⟩
      · exact ih h
  | case3 c rest run hliteral ih =>
      rw [captures_cons, if_neg hliteral] at h
      exact ih h

theorem captures_append_slash (text rest : List Char) :
    captures (text ++ '/' :: rest) = captures text ++ captures rest := by
  have hslash : ∀ c ∈ ('/' :: rest).head?, isNameChar c = false := by
    intro c hc
    have hc : '/' = c := by simpa using hc
    rw [← hc]
    decide
  induction text using ofSegment.induct with
  | case1 => rw [List.nil_append, captures_cons_of_ne (by decide), captures_nil, List.nil_append]
  | case2 c text run hcapture ih =>
      rw [List.cons_append, captures_cons, captures_cons, takeWhile_append_of_head hslash,
        dropWhile_append_of_head hslash, if_pos hcapture, if_pos hcapture, ih, List.cons_append]
  | case3 c text run hliteral ih =>
      rw [List.cons_append, captures_cons, captures_cons, takeWhile_append_of_head hslash,
        if_neg hliteral, if_neg hliteral, ih]

theorem flatMap_captures_splitOn (text : List Char) :
    (text.splitOn '/').flatMap captures = captures text := by
  induction h : text.length using Nat.strong_induction_on generalizing text with
  | _ n ih =>
      by_cases hslash : '/' ∈ text
      · obtain ⟨before, after, rfl, hbefore⟩ := List.eq_append_cons_of_mem hslash
        have hlength : after.length < n := by
          rw [← h, List.length_append, List.length_cons]
          omega
        rw [List.splitOn_append_cons_self_of_not_mem hbefore, List.flatMap_cons,
          ih _ hlength after rfl, captures_append_slash]
      · rw [List.splitOn_eq_singleton hslash, List.flatMap_singleton]

/-! ## The total length of the captured names -/

/-- The number of characters of a text that belong to captured names; `inside` tells whether the
text follows a colon or a part of a name. -/
def nameLength (inside : Bool) : List Char → Nat
  | [] => 0
  | c :: rest =>
    if c = ':' then nameLength true rest
    else if inside ∧ isNameChar c then nameLength true rest + 1
    else nameLength false rest

theorem nameLength_append {name : List Char} (hname : ∀ c ∈ name, isNameChar c = true)
    (rest : List Char) : nameLength true (name ++ rest) = name.length + nameLength true rest := by
  induction name with
  | nil => simp
  | cons c name ih =>
      have hc : isNameChar c = true := hname c (by simp)
      have hcolon : c ≠ ':' := by
        rintro rfl
        exact absurd hc (by decide)
      rw [List.cons_append, nameLength, if_neg hcolon, if_pos ⟨rfl, hc⟩,
        ih fun c hc => hname c (by simp [hc]), List.length_cons]
      omega

theorem nameLength_of_head {text : List Char} (h : ∀ c ∈ text.head?, isNameChar c = false) :
    nameLength true text = nameLength false text := by
  cases text with
  | nil => rfl
  | cons c rest => simp [nameLength, h c rfl]

theorem length_flatten_captures (text : List Char) :
    (captures text).flatten.length = nameLength false text := by
  induction text using ofSegment.induct with
  | case1 => simp [nameLength]
  | case2 c rest run hcapture ih =>
      have hsplit := List.takeWhile_append_dropWhile (p := isNameChar) (l := rest)
      have hname : ∀ d ∈ rest.takeWhile isNameChar, isNameChar d = true :=
        List.all_eq_true.1 List.all_takeWhile
      have hlength := nameLength_append hname (rest.dropWhile isNameChar)
      rw [hsplit, nameLength_of_head (head?_dropWhile rest)] at hlength
      rw [captures_cons, if_pos hcapture, List.flatten_cons, List.length_append, ih, nameLength,
        if_pos hcapture.1, hlength]
  | case3 c rest run hliteral ih =>
      rw [captures_cons, if_neg hliteral, ih, nameLength]
      by_cases hcolon : c = ':'
      · have hnone : rest.takeWhile isNameChar = [] := by
          by_contra hne
          exact hliteral ⟨hcolon, hne⟩
        have hrest : rest.dropWhile isNameChar = rest := by
          simpa [hnone] using List.takeWhile_append_dropWhile (p := isNameChar) (l := rest)
        rw [if_pos hcolon, nameLength_of_head (hrest ▸ head?_dropWhile rest)]
      · simp [hcolon]

/-- A colon is never followed by a character of a name. -/
def Bare (text : List Char) : Prop := text.IsChain fun c d => c = ':' → isNameChar d = false

theorem bare_of_nameLength {inside : Bool} {text : List Char} (h : nameLength inside text = 0) :
    Bare text ∧ (inside = true → ∀ c ∈ text.head?, isNameChar c = false) := by
  induction text generalizing inside with
  | nil => exact ⟨List.isChain_nil, by simp⟩
  | cons c rest ih =>
      rw [nameLength] at h
      split at h
      · next hcolon =>
          obtain ⟨hbare, hhead⟩ := ih h
          refine ⟨List.isChain_cons.2 ⟨fun d hd _ => hhead rfl d hd, hbare⟩, fun _ d hd => ?_⟩
          have hd : c = d := by simpa using hd
          rw [← hd, hcolon]
          decide
      · next hcolon =>
          split at h
          · cases h
          · next hname =>
              obtain ⟨hbare, -⟩ := ih h
              refine ⟨List.isChain_cons.2 ⟨fun d _ heq => absurd heq hcolon, hbare⟩,
                fun hinside d hd => ?_⟩
              have hd : c = d := by simpa using hd
              rw [← hd]
              simpa [hinside] using hname

theorem captures_of_bare {text : List Char} (h : Bare text) : captures text = [] := by
  induction text with
  | nil => exact captures_nil
  | cons c rest ih =>
      obtain ⟨hhead, hrest⟩ := List.isChain_cons.1 h
      rw [captures_cons, if_neg, ih hrest]
      rintro ⟨hcolon, hne⟩
      cases rest with
      | nil => exact hne rfl
      | cons d others =>
          rw [List.takeWhile_cons, hhead d rfl hcolon] at hne
          exact hne rfl

end Piece

theorem RoutePattern.captureNames_parse (text : List Char) :
    (RoutePattern.parse text).captureNames = Piece.captures text := by
  rw [← Piece.flatMap_captures_splitOn, captureNames, parse, Segments.split]
  generalize text.splitOn '/' = segments
  induction segments with
  | nil => rfl
  | cons segment rest ih =>
      cases segment with
      | nil => simpa using ih
      | cons c segment => simpa [Piece.captures] using ih

end ChannelGateway
