import ChannelGateway.Document.Address
import ChannelGateway.Proofs.Route.Captures
import ChannelGateway.Route.Spec
import Mathlib.Data.List.Flatten
import Mathlib.Data.List.Perm.Subperm
/-!
# Addresses and the captures of their routes

The names in braces of an address are found by searching for braces, and the captures of its route
by reading colons.  The two agree on the addresses whose names are names of captures and in which
nothing else is taken for one; this is an exact condition on the address.
-/

namespace ChannelGateway

namespace RouteSpec

@[simp] theorem routeOfAddress_nil : routeOfAddress [] = [] := rfl

theorem routeOfAddress_cons (c : Char) (rest : List Char) :
    routeOfAddress (c :: rest) =
      if c = '\x7d' then routeOfAddress rest
      else (if c = '\x7b' then ':' else c) :: routeOfAddress rest := by
  by_cases hc : c = '\x7d' <;> simp [routeOfAddress, hc]

theorem routeOfAddress_append (a b : List Char) :
    routeOfAddress (a ++ b) = routeOfAddress a ++ routeOfAddress b := by
  simp [routeOfAddress]

theorem routeOfAddress_name {name : List Char} (h : ∀ c ∈ name, Piece.isNameChar c = true) :
    routeOfAddress name = name := by
  induction name with
  | nil => rfl
  | cons c name ih =>
      have hc := h c (by simp)
      have hclose : c ≠ '\x7d' := by
        rintro rfl
        exact absurd hc (by decide)
      have hopen : c ≠ '\x7b' := by
        rintro rfl
        exact absurd hc (by decide)
      rw [routeOfAddress_cons, if_neg hclose, if_neg hopen, ih fun d hd => h d (by simp [hd])]

end RouteSpec

namespace Address

open RouteSpec

theorem cut?_eq_some {c : Char} {text before after : List Char}
    (h : cut? c text = some (before, after)) : text = before ++ c :: after := by
  induction text generalizing before with
  | nil => cases h
  | cons d rest ih =>
      rw [cut?] at h
      split at h
      · next hd =>
          cases h
          rw [hd, List.nil_append]
      · obtain ⟨⟨b, a⟩, hcut, heq⟩ := Option.map_eq_some_iff.1 h
        cases heq
        rw [ih hcut, List.cons_append]

theorem cut?_eq_none {c : Char} {text : List Char} (h : cut? c text = none) : c ∉ text := by
  induction text with
  | nil => simp
  | cons d rest ih =>
      rw [cut?] at h
      split at h
      · cases h
      · next hd =>
          have hrest := ih (Option.map_eq_none_iff.1 h)
          simp [hrest, Ne.symm hd]

theorem placeholders_of_not_mem {text : List Char} (h : '\x7d' ∉ text) :
    placeholders text = [] := by
  induction text with
  | nil => rw [placeholders]
  | cons c rest ih =>
      rw [List.mem_cons, not_or] at h
      rw [placeholders]
      split
      · split
        · next name after hcut =>
            exact absurd (by rw [cut?_eq_some hcut]; simp) h.2
        · rfl
      · exact ih h.2

/-- The text around the placeholders of an address as its route has it: a colon stands for every
placeholder and for every brace that opens none, and other closing braces are left out. -/
def outline (address : List Char) : List Char :=
  match address with
  | [] => []
  | c :: rest =>
    if c = '\x7b' then
      match _cut : cut? '\x7d' rest with
      | some (_, after) => ':' :: outline after
      | none => ':' :: outline rest
    else if c = '\x7d' then outline rest
    else c :: outline rest
termination_by address.length
decreasing_by
  · exact Nat.lt_succ_of_lt (length_lt_of_cut? ‹_›)
  all_goals exact Nat.lt_succ_self _

section Steps

variable {rest name after : List Char}

theorem placeholders_closed (h : cut? '\x7d' rest = some (name, after)) :
    placeholders ('\x7b' :: rest) = name :: placeholders after := by
  rw [placeholders, if_pos rfl]
  split
  · next hcut =>
      rw [h] at hcut
      cases hcut
      rfl
  · next hcut =>
      rw [h] at hcut
      cases hcut

theorem placeholders_unclosed (h : cut? '\x7d' rest = none) :
    placeholders ('\x7b' :: rest) = [] := by
  rw [placeholders, if_pos rfl]
  split
  · next hcut =>
      rw [h] at hcut
      cases hcut
  · rfl

theorem placeholders_cons {c : Char} (h : c ≠ '\x7b') :
    placeholders (c :: rest) = placeholders rest := by
  rw [placeholders, if_neg h]

theorem outline_closed (h : cut? '\x7d' rest = some (name, after)) :
    outline ('\x7b' :: rest) = ':' :: outline after := by
  rw [outline, if_pos rfl]
  split
  · next hcut =>
      rw [h] at hcut
      cases hcut
      rfl
  · next hcut =>
      rw [h] at hcut
      cases hcut

theorem outline_unclosed (h : cut? '\x7d' rest = none) :
    outline ('\x7b' :: rest) = ':' :: outline rest := by
  rw [outline, if_pos rfl]
  split
  · next hcut =>
      rw [h] at hcut
      cases hcut
  · rfl

theorem outline_close : outline ('\x7d' :: rest) = outline rest := by
  rw [outline, if_neg (by decide), if_pos rfl]

theorem outline_cons {c : Char} (hopen : c ≠ '\x7b') (hclose : c ≠ '\x7d') :
    outline (c :: rest) = c :: outline rest := by
  rw [outline, if_neg hopen, if_neg hclose]

theorem routeOfAddress_open : routeOfAddress ('\x7b' :: rest) = ':' :: routeOfAddress rest := by
  rw [routeOfAddress_cons, if_neg (by decide), if_pos rfl]

theorem routeOfAddress_close : routeOfAddress ('\x7d' :: rest) = routeOfAddress rest := by
  rw [routeOfAddress_cons, if_pos rfl]

theorem routeOfAddress_closed (hname : ∀ c ∈ name, Piece.isNameChar c = true) :
    routeOfAddress ('\x7b' :: (name ++ '\x7d' :: after)) =
      ':' :: (name ++ routeOfAddress after) := by
  rw [routeOfAddress_open, routeOfAddress_append, routeOfAddress_name hname, routeOfAddress_close]

end Steps

/-- The names of an address are names of captures. -/
def Named (address : List Char) : Prop :=
  ∀ name ∈ placeholders address, name ≠ [] ∧ ∀ c ∈ name, Piece.isNameChar c = true

/-- An address whose placeholders can be read off its route: their names are names of captures, no
two are equal, none is the key of what is left of a path, and around them no colon is taken for a
capture and no name is continued. -/
structure IsRegular (address : List Char) : Prop where
  named : Named address
  distinct : (placeholders address).Nodup
  notRemainder : RoutePattern.remainderKey.toList ∉ placeholders address
  delimited : Piece.Bare (outline address)

theorem head?_routeOfAddress (address : List Char) :
    (routeOfAddress address).head? = (outline address).head? := by
  induction address using outline.induct with
  | case1 => rw [outline, routeOfAddress_nil]
  | case2 rest name after hcut ih =>
      rw [routeOfAddress_open, outline_closed hcut, List.head?_cons, List.head?_cons]
  | case3 rest hcut ih =>
      rw [routeOfAddress_open, outline_unclosed hcut, List.head?_cons, List.head?_cons]
  | case4 rest hopen ih => rw [routeOfAddress_close, outline_close, ih]
  | case5 c rest hopen hclose ih =>
      rw [routeOfAddress_cons, if_neg hclose, if_neg hopen, outline_cons hopen hclose,
        List.head?_cons, List.head?_cons]

/-- With names of captures as names and no other colon taken for a capture, a route captures the
placeholders of its address. -/
theorem captures_routeOfAddress (address : List Char) (hnamed : Named address)
    (hbare : Piece.Bare (outline address)) :
    Piece.captures (routeOfAddress address) = placeholders address := by
  induction address using outline.induct with
  | case1 => rw [routeOfAddress_nil, Piece.captures_nil, placeholders]
  | case2 rest name after hcut ih =>
      rw [outline_closed hcut] at hbare
      obtain ⟨hhead, hbare⟩ := List.isChain_cons.1 hbare
      have hplaceholders := placeholders_closed hcut
      rw [Named, hplaceholders] at hnamed
      obtain ⟨hne, hname⟩ := hnamed name List.mem_cons_self
      have hafter := ih (fun other h => hnamed other (List.mem_cons_of_mem name h)) hbare
      have hstop : ∀ c ∈ (routeOfAddress after).head?, Piece.isNameChar c = false := by
        intro c hc
        rw [head?_routeOfAddress] at hc
        exact hhead c hc rfl
      rw [hplaceholders, cut?_eq_some hcut, routeOfAddress_closed hname,
        Piece.captures_colon_append hname hne hstop, hafter]
  | case3 rest hcut ih =>
      rw [outline_unclosed hcut] at hbare
      obtain ⟨hhead, hbare⟩ := List.isChain_cons.1 hbare
      have hnone := placeholders_of_not_mem (cut?_eq_none hcut)
      have hrest := ih (by rw [Named, hnone]; simp) hbare
      have hstop : ∀ c ∈ (routeOfAddress rest).head?, Piece.isNameChar c = false := by
        intro c hc
        rw [head?_routeOfAddress] at hc
        exact hhead c hc rfl
      rw [placeholders_unclosed hcut, routeOfAddress_open, Piece.captures_colon hstop, hrest, hnone]
  | case4 rest hopen ih =>
      rw [outline_close] at hbare
      rw [Named, placeholders_cons hopen] at hnamed
      rw [routeOfAddress_close, placeholders_cons hopen, ih hnamed hbare]
  | case5 c rest hopen hclose ih =>
      rw [outline_cons hopen hclose] at hbare
      obtain ⟨hhead, hbare⟩ := List.isChain_cons.1 hbare
      rw [Named, placeholders_cons hopen] at hnamed
      rw [routeOfAddress_cons, if_neg hclose, if_neg hopen, placeholders_cons hopen,
        ← ih hnamed hbare]
      by_cases hcolon : c = ':'
      · rw [hcolon]
        apply Piece.captures_colon
        intro d hd
        rw [head?_routeOfAddress] at hd
        exact hhead d hd hcolon
      · exact Piece.captures_cons_of_ne hcolon _

/-- What a route captures is as long as the names of its address and what is captured
beside them. -/
theorem nameLength_routeOfAddress (address : List Char) (hnamed : Named address) (inside : Bool) :
    Piece.nameLength inside (routeOfAddress address) =
      (placeholders address).flatten.length + Piece.nameLength inside (outline address) := by
  induction address using outline.induct generalizing inside with
  | case1 => simp [outline, placeholders]
  | case2 rest name after hcut ih =>
      have hplaceholders := placeholders_closed hcut
      rw [Named, hplaceholders] at hnamed
      obtain ⟨-, hname⟩ := hnamed name List.mem_cons_self
      have hafter := ih (fun other h => hnamed other (List.mem_cons_of_mem name h)) true
      rw [hplaceholders, cut?_eq_some hcut, routeOfAddress_closed hname, ← cut?_eq_some hcut,
        outline_closed hcut, Piece.nameLength, if_pos rfl, Piece.nameLength_append hname, hafter,
        Piece.nameLength, if_pos rfl, List.flatten_cons, List.length_append]
      omega
  | case3 rest hcut ih =>
      have hnone := placeholders_of_not_mem (cut?_eq_none hcut)
      have hrest := ih (by rw [Named, hnone]; simp) true
      rw [hnone] at hrest
      rw [placeholders_unclosed hcut, routeOfAddress_open, outline_unclosed hcut, Piece.nameLength,
        if_pos rfl, hrest, Piece.nameLength, if_pos rfl]
  | case4 rest hopen ih =>
      rw [Named, placeholders_cons hopen] at hnamed
      rw [routeOfAddress_close, outline_close, placeholders_cons hopen, ih hnamed]
  | case5 c rest hopen hclose ih =>
      rw [Named, placeholders_cons hopen] at hnamed
      rw [routeOfAddress_cons, if_neg hclose, if_neg hopen, placeholders_cons hopen,
        outline_cons hopen hclose, Piece.nameLength, Piece.nameLength, ih hnamed, ih hnamed]
      split
      · rfl
      · split
        · omega
        · rfl

/-- An address is regular if its route captures exactly its placeholders, each once and none of them
under the key of what is left of a path: the captured names leave no character for anything else. -/
theorem isRegular_of_captures {address : List Char}
    (hsame : ∀ name, name ∈ Piece.captures (routeOfAddress address) ↔ name ∈ placeholders address)
    (hdistinct : (Piece.captures (routeOfAddress address)).Nodup)
    (hremainder : RoutePattern.remainderKey.toList ∉ Piece.captures (routeOfAddress address)) :
    IsRegular address := by
  have hnamed : Named address := fun name h => Piece.mem_captures ((hsame name).2 h)
  -- The captures are distinct placeholders, so they are not longer than these taken together.
  have hle : (Piece.captures (routeOfAddress address)).flatten.length ≤
      (placeholders address).flatten.length := by
    obtain ⟨names, hperm, hsub⟩ := hdistinct.subperm fun name h => (hsame name).1 h
    rw [← hperm.flatten.length_eq]
    exact hsub.flatten.length_le
  have hlength := Piece.length_flatten_captures (routeOfAddress address)
  have hsum := nameLength_routeOfAddress address hnamed false
  have hzero : Piece.nameLength false (outline address) = 0 := by omega
  have hbare := (Piece.bare_of_nameLength hzero).1
  have hcaptures := captures_routeOfAddress address hnamed hbare
  rw [hcaptures] at hdistinct hremainder
  exact ⟨hnamed, hdistinct, hremainder, hbare⟩

end Address

end ChannelGateway
