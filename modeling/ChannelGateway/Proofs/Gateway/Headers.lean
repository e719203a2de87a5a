import ChannelGateway.Gateway.Server
import ChannelGateway.Proofs.Json.Fields
import Mathlib.Data.List.Basic
import Mathlib.Data.List.Induction
/-!
# Header values

The header fields of a request are what is left when its lines are added one by one: a readable
value starts the field of its name, or is appended to it.  What the fields are after some lines is
said at once, as their readable names in order, each with its values; one more line keeps that up.
-/

namespace ChannelGateway.Gateway

def lowerLines (headers : List (String × String)) : List (String × String) :=
  headers.map fun (name, value) => (name.toLower, value)

/-- The lines of a request as a map from names to values holds them: each name at the place of its
first line, with all of its values in order. -/
def heldLines (headers : List (String × String)) : List (String × String) :=
  ((lowerLines headers).map Prod.fst).eraseDups.flatMap fun name =>
    (lowerLines headers).filter fun line => line.1 = name

def addLine (fields : Fields) (line : String × String) : Fields :=
  if Http.isReadable line.2 then
    match fields.lookup line.1 with
    | some (.string earlier) => Fields.insert line.1 (.string (earlier ++ ", " ++ line.2)) fields
    | _ => Fields.insert line.1 (.string line.2) fields
  else fields

def readableValues (lines : List (String × String)) (name : String) : List String :=
  (lines.filter fun line => line.1 = name && Http.isReadable line.2).map Prod.snd

def joined? (lines : List (String × String)) (name : String) : Option Json :=
  if readableValues lines name = [] then none
  else some (.string (", ".intercalate (readableValues lines name)))

def readableNames (lines : List (String × String)) : List String :=
  ((lines.filter fun line => Http.isReadable line.2).map Prod.fst).eraseDups

/-- Fields collect lines: each readable name has its values, joined in order. -/
structure Collects (lines : List (String × String)) (fields : Fields) : Prop where
  keys : Fields.keys fields = readableNames lines
  values : ∀ name, fields.lookup name = joined? lines name

/-! ## Names without repetitions -/

theorem nodup_eraseDups (names : List String) : names.eraseDups.Nodup := by
  induction hlength : names.length using Nat.strongRecOn generalizing names with
  | ind n ih =>
      cases names with
      | nil => simp
      | cons name rest =>
          rw [List.eraseDups_cons, List.nodup_cons, List.mem_eraseDups]
          refine ⟨by simp, ih _ ?_ _ rfl⟩
          have := List.length_filter_le (fun other => !other == name) rest
          rw [List.length_cons] at hlength
          omega

theorem eraseDups_append_singleton (names : List String) (name : String) :
    (names ++ [name]).eraseDups =
      if name ∈ names then names.eraseDups else names.eraseDups ++ [name] := by
  rw [List.eraseDups_append]
  by_cases h : name ∈ names <;> simp [List.removeAll, h, List.eraseDups_cons]

theorem eraseDups_of_forall_eq {names : List String} {name : String}
    (h : ∀ other ∈ names, other = name) (hne : names ≠ []) : names.eraseDups = [name] := by
  obtain ⟨first, rest, rfl⟩ := List.exists_cons_of_ne_nil hne
  obtain ⟨rfl, hrest⟩ := List.forall_mem_cons.1 h
  have hnone : (rest.filter fun other => !other == first) = [] := by
    rw [List.filter_eq_nil_iff]
    intro other hother
    simp [hrest other hother]
  rw [List.eraseDups_cons, hnone, List.eraseDups_nil]

/-- Of blocks that repeat a name each, the names of those that are not empty are left. -/
theorem eraseDups_flatMap {names : List String} (hnames : names.Nodup)
    {block : String → List String} (hblock : ∀ name, ∀ other ∈ block name, other = name) :
    (names.flatMap block).eraseDups = names.filter fun name => !(block name).isEmpty := by
  induction names with
  | nil => rfl
  | cons name rest ih =>
      obtain ⟨hname, hrest⟩ := List.nodup_cons.1 hnames
      have hothers : (rest.flatMap block).removeAll (block name) = rest.flatMap block := by
        rw [List.removeAll, List.filter_eq_self]
        intro other hother
        obtain ⟨name', hname', hmem⟩ := List.mem_flatMap.1 hother
        have hne : other ≠ name := by
          rw [hblock name' other hmem]
          exact fun heq => hname (heq ▸ hname')
        simpa using fun h => hne (hblock name other h)
      rw [List.flatMap_cons, List.eraseDups_append, hothers, ih hrest]
      by_cases hempty : block name = []
      · simp [hempty]
      · simp [hempty, eraseDups_of_forall_eq (hblock name) hempty]

/-! ## Adding lines -/

section Lines

variable {lines : List (String × String)} {fields : Fields}

theorem readableValues_append (line : String × String) (name : String) :
    readableValues (lines ++ [line]) name =
      readableValues lines name ++ if line.1 = name ∧
        Http.isReadable line.2 then [line.2] else [] := by
  rw [readableValues, List.filter_append, List.map_append, ← readableValues]
  by_cases h : line.1 = name <;> cases hreadable : Http.isReadable line.2 <;> simp [h, hreadable]

theorem readableNames_append_of_readable {line : String × String}
    (h : Http.isReadable line.2 = true) :
    readableNames (lines ++ [line]) =
      if line.1 ∈ readableNames lines then readableNames lines
        else readableNames lines ++ [line.1] := by
  have hnames : readableNames (lines ++ [line]) =
      ((lines.filter fun line => Http.isReadable line.2).map Prod.fst ++ [line.1]).eraseDups := by
    simp [readableNames, h]
  rw [hnames, eraseDups_append_singleton]
  simp only [readableNames, List.mem_eraseDups]

theorem readableValues_eq_nil_iff {name : String} :
    readableValues lines name = [] ↔ name ∉ readableNames lines := by
  simp only [readableValues, readableNames, List.map_eq_nil_iff, List.filter_eq_nil_iff,
    Bool.and_eq_true, decide_eq_true_eq, not_and, List.mem_eraseDups, List.mem_map, List.mem_filter]
  constructor
  · rintro h ⟨line, ⟨hline, hreadable⟩, hname⟩
    exact h line hline hname hreadable
  · intro h line hline hname hreadable
    exact h ⟨line, ⟨hline, hreadable⟩, hname⟩

theorem Collects.addLine (h : Collects lines fields) (line : String × String) :
    Collects (lines ++ [line]) (addLine fields line) := by
  cases hreadable : Http.isReadable line.2 with
  | false =>
      have hline : Gateway.addLine fields line = fields := by simp [Gateway.addLine, hreadable]
      rw [hline]
      refine ⟨?_, fun name => ?_⟩
      · rw [h.keys]
        simp [readableNames, hreadable]
      · rw [h.values, joined?, joined?, readableValues_append]
        simp [hreadable]
  | true =>
      -- the value that the line's name has afterwards
      let value := ", ".intercalate (readableValues (lines ++ [line]) line.1)
      have hown : readableValues (lines ++ [line]) line.1 =
          readableValues lines line.1 ++ [line.2] := by
        simp [readableValues_append, hreadable]
      have hline : Gateway.addLine fields line = fields.insert line.1 (.string value) := by
        rw [Gateway.addLine, if_pos hreadable, h.values, joined?]
        by_cases hnone : readableValues lines line.1 = []
        · simp [value, hown, hnone]
        · simp [value, hown, hnone, String.intercalate_append_of_ne_nil]
      rw [hline]
      refine ⟨?_, fun name => ?_⟩
      · rw [Fields.keys_insert, h.keys, readableNames_append_of_readable hreadable]
      · rw [Fields.lookup_insert]
        split
        · next hname => simp [joined?, hname, hown, value]
        · next hname =>
            rw [h.values, joined?, joined?, readableValues_append]
            simp [Ne.symm hname]

theorem collects_foldl (lines : List (String × String)) :
    Collects lines (lines.foldl addLine []) := by
  -- from the right, so that each line is added to what the ones before it left
  induction lines using List.reverseRecOn with
  | nil => exact ⟨rfl, fun name => rfl⟩
  | append_singleton lines line ih =>
      rw [List.foldl_append]
      exact ih.addLine line

theorem Collects.unique {other : Fields} (h : Collects lines fields) (h' : Collects lines other) :
    fields = other := by
  refine Fields.ext_of_keys ?_ (h.keys.trans h'.keys.symm) fun name => ?_
  · rw [h.keys]
    exact nodup_eraseDups _
  · rw [h.values, h'.values]

end Lines

/-! ## The fields of a request -/

/-- Of lines put together name by name, those of a name are one block. -/
theorem filter_flatMap_blocks {names : List String} (hnames : names.Nodup)
    (lines : List (String × String)) (name : String) :
    (names.flatMap fun other => lines.filter fun line => line.1 = other).filter
      (fun line => line.1 = name) =
      if name ∈ names then lines.filter fun line => line.1 = name else [] := by
  induction names with
  | nil => rfl
  | cons first rest ih =>
      obtain ⟨hfirst, hrest⟩ := List.nodup_cons.1 hnames
      rw [List.flatMap_cons, List.filter_append, ih hrest, List.filter_filter]
      by_cases hname : name = first
      · rw [if_neg (hname ▸ hfirst), if_pos (hname ▸ List.mem_cons_self)]
        simp [hname]
      · have hnone :
            (lines.filter fun line => decide (line.1 = name) && decide (line.1 = first)) = [] := by
          rw [List.filter_eq_nil_iff]
          rintro line -
          simpa using fun heq => heq ▸ hname
        simp [hnone, hname]

section Held

variable (headers : List (String × String))

/-- The lines of a name are held in the order in which they came. -/
theorem filter_heldLines (name : String) :
    (heldLines headers).filter (fun line => line.1 = name) =
      (lowerLines headers).filter fun line => line.1 = name := by
  rw [heldLines, filter_flatMap_blocks (nodup_eraseDups _)]
  split
  · rfl
  · next hname =>
      rw [List.mem_eraseDups, List.mem_map] at hname
      refine (List.filter_eq_nil_iff.2 fun line hline heq => ?_).symm
      exact hname ⟨line, hline, of_decide_eq_true heq⟩

theorem readableValues_heldLines (name : String) :
    readableValues (heldLines headers) name = readableValues (lowerLines headers) name := by
  have hfilter : ∀ lines : List (String × String),
      lines.filter (fun line => line.1 = name && Http.isReadable line.2) =
        (lines.filter fun line => line.1 = name).filter fun line => Http.isReadable line.2 := by
    intro lines
    simp only [List.filter_filter, Bool.and_comm]
  rw [readableValues, readableValues, hfilter, filter_heldLines, ← hfilter]

theorem readableNames_heldLines :
    readableNames (heldLines headers) =
      ((lowerLines headers).map Prod.fst).eraseDups.filter fun name =>
        !(readableValues (lowerLines headers) name).isEmpty := by
  have hblock : ∀ name, ((((lowerLines headers).filter fun line => line.1 = name).filter fun line =>
      Http.isReadable line.2).map Prod.fst).isEmpty =
        (readableValues (lowerLines headers) name).isEmpty := by
    intro name
    rw [readableValues, List.isEmpty_map, List.isEmpty_map, List.filter_filter]
    simp only [Bool.and_comm]
  rw [readableNames, heldLines, List.filter_flatMap, List.map_flatMap,
    eraseDups_flatMap (nodup_eraseDups _)]
  · simp only [hblock]
  · intro name other hother
    obtain ⟨line, hline, rfl⟩ := List.mem_map.1 hother
    exact of_decide_eq_true (List.mem_filter.1 (List.mem_filter.1 hline).1).2

theorem headerFields_eq_filterMap :
    headerFields headers = ((lowerLines headers).map Prod.fst).eraseDups.filterMap fun name =>
      (joined? (lowerLines headers) name).map fun value => (name, value) := by
  rw [headerFields]
  refine List.filterMap_congr fun name _ => ?_
  split
  · next hnone =>
      have hvalues : readableValues (lowerLines headers) name = [] := hnone
      rw [joined?, if_pos hvalues]
      rfl
  · next hsome =>
      have hvalues : readableValues (lowerLines headers) name ≠ [] := hsome
      rw [joined?, if_neg hvalues]
      rfl

theorem collects_headerFields : Collects (heldLines headers) (headerFields headers) := by
  rw [headerFields_eq_filterMap]
  refine ⟨?_, fun name => ?_⟩
  · rw [Fields.keys_filterMap, readableNames_heldLines]
    refine List.filter_congr fun name _ => ?_
    rw [joined?]
    cases readableValues (lowerLines headers) name <;> rfl
  · rw [Fields.lookup_filterMap, joined?, joined?, readableValues_heldLines]
    split
    · rfl
    · next hname =>
        have hnone : readableValues (lowerLines headers) name = [] := by
          rw [List.mem_eraseDups, List.mem_map] at hname
          rw [readableValues, List.map_eq_nil_iff, List.filter_eq_nil_iff]
          intro line hline hown
          rw [Bool.and_eq_true, decide_eq_true_eq] at hown
          exact hname ⟨line, hline, hown.1⟩
        rw [if_pos hnone]

theorem readableValues_filter (lines : List (String × String)) (name : String) :
    readableValues (lines.filter fun line => Http.isReadable line.2) name =
      readableValues lines name := by
  rw [readableValues, readableValues, List.filter_filter]
  refine congrArg _ (List.filter_congr fun line _ => ?_)
  cases Http.isReadable line.2 <;> simp

theorem lowerLines_filter :
    lowerLines (headers.filter fun header => Http.isReadable header.2) =
      (lowerLines headers).filter fun line => Http.isReadable line.2 := by
  rw [lowerLines, lowerLines, List.filter_map]
  rfl

theorem lookup_headerFields (name : String) :
    (headerFields headers).lookup name = joined? (lowerLines headers) name := by
  rw [(collects_headerFields headers).values, joined?, joined?, readableValues_heldLines]

/-- The header fields are what adding the held lines one by one leaves: a field for each name with
a readable value, in the order of the first such lines, which is all of its readable values in the
order in which they came.  Lines whose values are not readable change none of that. -/
theorem headerFields_keep_readable_values :
    headerFields headers = (heldLines headers).foldl addLine [] ∧
      Fields.keys (headerFields headers) = readableNames (heldLines headers) ∧
      (Fields.keys (headerFields headers)).Nodup ∧
      (∀ name, name ∈ Fields.keys (headerFields headers) ↔
        ∃ header ∈ headers, header.1.toLower = name ∧ Http.isReadable header.2 = true) ∧
      (∀ name, (headerFields headers).lookup name =
        let values := (headers.filter fun header =>
          header.1.toLower = name && Http.isReadable header.2).map Prod.snd
        if values = [] then none else some (.string (", ".intercalate values))) ∧
      ∀ name, (headerFields (headers.filter fun header => Http.isReadable header.2)).lookup name =
        (headerFields headers).lookup name := by
  have hcollects := collects_headerFields headers
  have hvalues : ∀ name, readableValues (lowerLines headers) name =
      (headers.filter fun header => header.1.toLower = name && Http.isReadable header.2).map
        Prod.snd := by
    intro name
    rw [readableValues, lowerLines, List.filter_map, List.map_map]
    rfl
  refine ⟨hcollects.unique (collects_foldl _), hcollects.keys, ?_, fun name => ?_, fun name => ?_,
    fun name => ?_⟩
  · rw [hcollects.keys]
    exact nodup_eraseDups _
  · rw [hcollects.keys, ← not_iff_not, ← readableValues_eq_nil_iff,
      readableValues_heldLines, hvalues]
    simp
  · rw [lookup_headerFields, joined?, hvalues]
  · rw [lookup_headerFields, lookup_headerFields, joined?, joined?, lowerLines_filter,
      readableValues_filter]

end Held

end ChannelGateway.Gateway
