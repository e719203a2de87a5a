import ChannelGateway.Json.Pointer
/-!
# Escaped tokens

A token is escaped so that no slash is left in it, and escaping is undone by the two replacements
that pointers prescribe.  So the text of a pointer has its tokens between its slashes.
-/

namespace ChannelGateway.Pointer

/-! ## Replacements -/

def replaceChar (c : Char) (replacement text : List Char) : List Char :=
  text.flatMap fun d => if d = c then replacement else [d]

def replacePair (first second replacement : Char) : List Char → List Char
  | c :: d :: rest =>
    if c = first ∧ d = second then replacement :: replacePair first second replacement rest
    else c :: replacePair first second replacement (d :: rest)
  | text => text

def decodeToken (escaped : List Char) : List Char :=
  replacePair '~' '0' '~' (replacePair '~' '1' '/' escaped)

theorem escape_cons {c : Char} (htilde : c ≠ '~') (hslash : c ≠ '/') (rest : List Char) :
    escape (c :: rest) = c :: escape rest := by
  rw [escape]
  · exact htilde
  · exact hslash

theorem escape_eq_replaceChar (token : List Char) :
    escape token = replaceChar '/' ['~', '1'] (replaceChar '~' ['~', '0'] token) := by
  induction token with
  | nil => rfl
  | cons c rest ih =>
      by_cases htilde : c = '~'
      · subst htilde
        rw [escape, ih]
        rfl
      · by_cases hslash : c = '/'
        · subst hslash
          rw [escape, ih]
          rfl
        · rw [escape_cons htilde hslash, ih]
          simp [replaceChar, htilde, hslash]

section Replace

variable {first second replacement c : Char} {rest : List Char}

theorem replacePair_cons (h : c = first → ∀ d ∈ rest.head?, d ≠ second) :
    replacePair first second replacement (c :: rest) =
      c :: replacePair first second replacement rest := by
  cases rest with
  | nil => rfl
  | cons d others => rw [replacePair, if_neg fun ⟨hc, hd⟩ => h hc d rfl hd]

theorem head?_replacePair (text : List Char) :
    ∀ d ∈ (replacePair first second replacement text).head?, d = replacement ∨ d ∈ text.head? := by
  intro d hd
  unfold replacePair at hd
  split at hd
  · split at hd
    · exact Or.inl (by simpa using hd.symm)
    · exact Or.inr (by simpa using hd)
  · exact Or.inr hd

end Replace

theorem unescape_eq_decodeToken (escaped : List Char) : unescape escaped = decodeToken escaped := by
  rw [decodeToken]
  induction escaped using unescape.induct with
  | case1 => rfl
  | case2 rest ih =>
      have hinner : replacePair '~' '1' '/' ('~' :: '0' :: rest) =
          '~' :: '0' :: replacePair '~' '1' '/' rest := by
        rw [replacePair, if_neg (by decide), replacePair_cons fun h => absurd h (by decide)]
      rw [unescape, hinner, replacePair, if_pos ⟨rfl, rfl⟩, ih]
  | case3 rest ih =>
      rw [unescape, replacePair, if_pos ⟨rfl, rfl⟩,
        replacePair_cons fun h => absurd h (by decide), ih]
  | case4 c rest hzero hone ih =>
      have hnext (digit : Char) (h : ∀ others, c = '~' → rest = digit :: others → False) :
          c = '~' → ∀ d ∈ rest.head?, d ≠ digit := by
        rintro hc d hd rfl
        obtain ⟨others, hothers⟩ := List.head?_eq_some_iff.1 hd
        exact h others hc hothers
      rw [unescape, replacePair_cons (hnext '1' hone), replacePair_cons, ih]
      · -- The inner replacement brings a slash at most to the front of what it leaves.
        intro hc d hd
        rcases head?_replacePair rest d hd with rfl | hhead
        · decide
        · exact hnext '0' hzero hc d hhead
      · exact hzero
      · exact hone

/-! ## Escaped tokens -/

theorem unescape_cons {c : Char} (h : c ≠ '~') (rest : List Char) :
    unescape (c :: rest) = c :: unescape rest := by
  rw [unescape]
  · exact fun _ hc _ => h hc
  · exact fun _ hc _ => h hc

theorem unescape_escape (token : List Char) : unescape (escape token) = token := by
  induction token with
  | nil => rfl
  | cons c rest ih =>
      by_cases htilde : c = '~'
      · subst htilde
        rw [escape, unescape, ih]
      · by_cases hslash : c = '/'
        · subst hslash
          rw [escape, unescape, ih]
        · rw [escape_cons htilde hslash, unescape_cons htilde, ih]

theorem slash_not_mem_escape (token : List Char) : '/' ∉ escape token := by
  induction token with
  | nil => exact List.not_mem_nil
  | cons c rest ih =>
      by_cases htilde : c = '~'
      · subst htilde
        simp [escape, ih]
      · by_cases hslash : c = '/'
        · subst hslash
          simp [escape, ih]
        · simp [escape_cons htilde hslash, ih, Ne.symm hslash]

/-! ## Texts of pointers -/

theorem toList_text (tokens : List String) :
    (text tokens).toList = tokens.flatMap fun token => '/' :: escape token.toList := by
  have htoken (token : String) :
      ("/" ++ escapeToken token).toList = '/' :: escape token.toList := by
    simp [escapeToken]
  rw [text, String.toList_join, List.flatMap_map]
  simp only [htoken]

theorem splitOn_append_flatMap {front : List Char} (h : '/' ∉ front) (tokens : List String) :
    (front ++ tokens.flatMap fun token => '/' :: escape token.toList).splitOn '/' =
      front :: tokens.map fun token => escape token.toList := by
  induction tokens generalizing front with
  | nil => rw [List.flatMap_nil, List.append_nil, List.splitOn_eq_singleton h, List.map_nil]
  | cons token rest ih =>
      rw [List.flatMap_cons, List.cons_append, List.splitOn_append_cons_self_of_not_mem h,
        ih (slash_not_mem_escape token.toList), List.map_cons]

theorem splitOn_text (tokens : List String) :
    (text tokens).toList.splitOn '/' = [] :: tokens.map fun token => escape token.toList := by
  rw [toList_text]
  exact splitOn_append_flatMap List.not_mem_nil tokens

theorem tokens?_text (tokens : List String) : tokens? (text tokens).toList = some tokens := by
  rw [toList_text]
  cases tokens with
  | nil => rfl
  | cons token rest =>
      have hread (other : String) :
          String.ofList (unescape (escape other.toList)) = other := by
        rw [unescape_escape, String.ofList_toList]
      rw [List.flatMap_cons, List.cons_append, tokens?,
        splitOn_append_flatMap (slash_not_mem_escape token.toList), List.map_cons,
        List.map_map, hread]
      simp only [Function.comp_def, hread, List.map_id']

theorem lookup?_text (tokens : List String) (value : Json) :
    lookup? (text tokens).toList value = tokens.foldlM step? value := by
  rw [lookup?, tokens?_text, Option.bind_some]

example : escape "~1/a~0".toList = "~01~1a~00".toList := by decide

end ChannelGateway.Pointer
