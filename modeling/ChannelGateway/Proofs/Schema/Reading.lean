import ChannelGateway.Proofs.Json.Fields
import ChannelGateway.Proofs.Lists.Related
import ChannelGateway.Schema.Reader
/-!
# What schemas are read as

A reader that succeeds has read every keyword of a schema, and every schema that the keyword holds.
What it remembers on the way, which references have been followed, does not show in these facts.
-/

namespace ChannelGateway.Schema

theorem exists_of_bind_eq_ok {ε α β : Type} {result : Except ε α} {next : α → Except ε β} {b : β}
    (h : result >>= next = .ok b) : ∃ a, result = .ok a ∧ next a = .ok b := by
  cases result with
  | error e => cases h
  | ok a => exact ⟨a, rfl, h⟩

theorem exists_of_map_eq_ok {ε α β : Type} {result : Except ε α} {f : α → β} {b : β}
    (h : result.map f = .ok b) : ∃ a, result = .ok a ∧ b = f a := by
  cases result with
  | error e => cases h
  | ok a =>
      cases h
      exact ⟨a, rfl, rfl⟩

theorem forall₂_of_mapM_eq_ok {ε α β : Type} {f : α → Except ε β} {as : List α} {bs : List β}
    (h : as.mapM f = .ok bs) : List.Forall₂ (fun a b => f a = .ok b) as bs := by
  induction as generalizing bs with
  | nil =>
      cases h
      exact .nil
  | cons a rest ih =>
      rw [List.mapM_cons] at h
      obtain ⟨b, hb, h⟩ := exists_of_bind_eq_ok h
      obtain ⟨others, hothers, h⟩ := exists_of_bind_eq_ok h
      cases h
      exact .cons hb (ih hothers)

/-! ## Types -/

theorem ofName?_eq_some {name : String} {type : ValueType}
    (h : ValueType.ofName? name = some type) :
    type.name = name := by
  have hfound := List.find?_some h
  exact of_decide_eq_true hfound

theorem eq_string_of_readText {value : Json} {text : String} (h : readText value = .ok text) :
    value = .string text := by
  cases value <;> cases h
  rfl

theorem eq_string_of_readName {value : Json} {refusal : SchemaError} {type : ValueType}
    (h : (do match ValueType.ofName? (← readText value) with
        | some type => return type
        | none => throw refusal : Except SchemaError ValueType) = .ok type) :
    value = .string type.name := by
  obtain ⟨name, hname, h⟩ := exists_of_bind_eq_ok h
  rw [eq_string_of_readText hname]
  split at h
  · next type' htype =>
      cases h
      rw [ofName?_eq_some htype]
  · cases h

/-- A type is read from its name, which stands alone or in a list. -/
theorem eq_or_mem_of_readTypes {value : Json} {types : List ValueType}
    (h : readTypes value = .ok types) {type : ValueType} (htype : type ∈ types) :
    value = .string type.name ∨ ∃ names, value = .array names ∧ .string type.name ∈ names := by
  unfold readTypes at h
  split at h
  · obtain ⟨type', hname, h⟩ := exists_of_bind_eq_ok h
    cases h
    rw [List.mem_singleton.1 htype]
    exact .inl (eq_string_of_readName hname)
  · obtain ⟨type', hname, h⟩ := exists_of_bind_eq_ok h
    cases h
    rw [List.mem_singleton.1 htype, ← eq_string_of_readName hname]
    exact .inr ⟨_, rfl, List.mem_cons_self⟩
  · next names _ =>
      obtain ⟨read, hread, h⟩ := exists_of_bind_eq_ok h
      cases h
      have hmem : type ∈ read := by simpa using (List.mem_filter.1 htype).2
      obtain ⟨name, hname, htype⟩ := exists_left_of_forall₂ (forall₂_of_mapM_eq_ok hread) hmem
      rw [eq_string_of_readName htype] at hname
      exact .inr ⟨names, rfl, hname⟩
  · cases h

/-! ## Readers -/

/-- A reader gives a result, whichever references have been followed. -/
def Yields {α : Type} (reader : SchemaReader α) (a : α) : Prop :=
  ∃ followed followed', reader.run followed = .ok (a, followed')

section Yields

variable {α β : Type}

theorem Yields.of_bind {reader : SchemaReader α} {next : α → SchemaReader β} {b : β}
    (h : Yields (reader >>= next) b) : ∃ a, Yields reader a ∧ Yields (next a) b := by
  obtain ⟨followed, followed', h⟩ := h
  rw [StateT.run_bind] at h
  obtain ⟨⟨a, between⟩, hfirst, hnext⟩ := exists_of_bind_eq_ok h
  exact ⟨a, ⟨_, _, hfirst⟩, ⟨_, _, hnext⟩⟩

theorem yields_pure_iff {a b : α} : Yields (pure a) b ↔ b = a := by
  constructor
  · rintro ⟨followed, followed', h⟩
    cases h
    rfl
  · rintro rfl
    exact ⟨[], [], rfl⟩

theorem Yields.of_lift {result : Except SchemaError α} {a : α} (h : Yields (liftM result) a) :
    result = .ok a := by
  obtain ⟨followed, followed', h⟩ := h
  cases result with
  | error e => cases h
  | ok b =>
      cases h
      rfl

theorem Yields.of_mapM {read : α → SchemaReader β} {as : List α} {bs : List β}
    (h : Yields (as.mapM read) bs) : List.Forall₂ (fun a b => Yields (read a) b) as bs := by
  induction as generalizing bs with
  | nil =>
      rw [List.mapM_nil, yields_pure_iff] at h
      exact h ▸ .nil
  | cons a rest ih =>
      rw [List.mapM_cons] at h
      obtain ⟨b, hb, h⟩ := h.of_bind
      obtain ⟨others, hothers, h⟩ := h.of_bind
      rw [yields_pure_iff] at h
      exact h ▸ .cons hb (ih hothers)

theorem Yields.of_map {f : α → β} {reader : SchemaReader α} {b : β} (h : Yields (f <$> reader) b) :
    ∃ a, Yields reader a ∧ b = f a := by
  rw [map_eq_pure_bind] at h
  obtain ⟨a, ha, hb⟩ := h.of_bind
  exact ⟨a, ha, yields_pure_iff.1 hb⟩

theorem Yields.of_optionMapM {read : α → SchemaReader β} {a : Option α} {b : Option β}
    (h : Yields (a.mapM read) b) : (a = none → b = none) ∧ ∀ x ∈ a, ∃ y ∈ b, Yields (read x) y := by
  cases a with
  | none => exact ⟨fun _ => yields_pure_iff.1 h, fun x hx => by cases hx⟩
  | some x =>
      rw [Option.mapM_some] at h
      obtain ⟨y, hy, hb⟩ := h.of_map
      refine ⟨fun hnone => (by cases hnone), ?_⟩
      rintro x' ⟨⟩
      exact ⟨y, hb, hy⟩

theorem Yields.of_flatMapM {read : α → SchemaReader (List β)} {as : List α} {bs : List β}
    (h : Yields (as.flatMapM read) bs) : ∀ a ∈ as, ∃ own, Yields (read a) own ∧ own ⊆ bs := by
  induction as generalizing bs with
  | nil => exact fun a ha => absurd ha List.not_mem_nil
  | cons first rest ih =>
      rw [List.flatMapM_cons] at h
      obtain ⟨own, hown, h⟩ := h.of_bind
      obtain ⟨others, hothers, h⟩ := h.of_bind
      rw [yields_pure_iff] at h
      subst h
      intro a ha
      rcases List.mem_cons.1 ha with rfl | ha
      · exact ⟨own, hown, List.subset_append_left own others⟩
      · obtain ⟨own', hown', hsub⟩ := ih hothers a ha
        exact ⟨own', hown', List.subset_append_of_subset_right own hsub⟩

end Yields

/-! ## Schemas -/

/-- The draft inside a schema: the one that it declares, or else the one around it. -/
def insideDraft (around : Draft) (schema : Json) : Draft :=
  match draftOf around schema with
  | .ok draft => draft
  | .error _ => .draft202012

theorem Surroundings.enter_eq_ok {s inside : Surroundings} {schema : Json}
    (h : s.enter schema = .ok inside) :
    inside.draft = insideDraft s.draft schema ∧ inside.vocabularies = s.vocabularies := by
  obtain ⟨scope, -, hinside⟩ := exists_of_bind_eq_ok h
  cases hinside
  exact ⟨rfl, rfl⟩

/-- A schema is read as a rule, where it stands. -/
def Reads (depth : Nat) (s : Surroundings) (schema : Json) (rule : Rule) : Prop :=
  Yields (readPart (readRuleTo depth) s schema) rule

/-- The keywords of a schema count: a newer draft has its vocabularies, and in an older one there
is no reference beside them. -/
def InForce (vocabularies : Bool) (draft : Draft) (fields : Fields) : Prop :=
  if draft.isAtLeast .draft201909 then vocabularies = true else fields.lookup "$ref" = none

variable {depth : Nat} {s : Surroundings} {fields : Fields} {rule : Rule}

theorem Reads.keywords (h : Reads (depth + 1) s (.object fields) rule)
    (hforce : InForce s.vocabularies (insideDraft s.draft (.object fields)) fields) :
    ∃ inside keywords, inside.draft = insideDraft s.draft (.object fields) ∧
      inside.vocabularies = s.vocabularies ∧ inside.hasVocabularies = true ∧
      rule = .keywords keywords ∧
      ∀ key value, fields.lookup key = some value →
        ∃ own, Yields (readKeyword (readRuleTo depth) inside fields key value) own ∧
          own ⊆ keywords := by
  obtain ⟨inside, henter, h⟩ := Yields.of_bind h
  obtain ⟨hdraft, hvocabularies⟩ := Surroundings.enter_eq_ok henter.of_lift
  rw [← hdraft, ← hvocabularies] at hforce
  -- in force, the keywords are not displaced by a reference, and they are known
  have heffective : effectiveFields inside.draft fields = fields := by
    unfold effectiveFields Draft.isolatesReferences
    unfold InForce at hforce
    split at hforce
    · next hnew => simp [hnew]
    · next hold => simp [hforce]
  have hhas : inside.hasVocabularies = true := by
    unfold Surroundings.hasVocabularies Surroundings.knows
    unfold InForce at hforce
    split at hforce
    · next hnew => simp [hforce]
    · next hold => simp [hold]
  unfold readRuleTo at h
  simp only [heffective] at h
  obtain ⟨keywords, hkeywords, h⟩ := h.of_bind
  rw [yields_pure_iff] at h
  refine ⟨inside, keywords, hdraft, hvocabularies, hhas, h, fun key value hlookup => ?_⟩
  exact hkeywords.of_flatMapM (key, value) (Fields.mem_of_lookup hlookup)

/-! ## Keywords -/

section Keywords

variable {value : Json} {own : List Keyword}

theorem yields_type (hhas : s.hasVocabularies = true)
    (h : Yields (readKeyword (readRuleTo depth) s fields "type" value) own) :
    ∃ types, readTypes value = .ok types ∧ own = [.type types s.draft.countsWholeDoubles] := by
  have hread : readKeyword (readRuleTo depth) s fields "type" value =
      liftM (do return [Keyword.type (← readTypes value) s.draft.countsWholeDoubles] :
        Except SchemaError (List Keyword)) := by
    simp [readKeyword, readPlain?, hhas]
  rw [hread] at h
  obtain ⟨types, htypes, hown⟩ := exists_of_bind_eq_ok h.of_lift
  cases hown
  exact ⟨types, htypes, rfl⟩

theorem Yields.of_readListed {rules : List Rule}
    (h : Yields (readListed (readRuleTo depth) s value) rules) :
    ∃ schemas, value = .array schemas ∧ List.Forall₂ (Reads depth s) schemas rules := by
  obtain ⟨schemas, hschemas, hrules⟩ := h.of_bind
  have hlist := hschemas.of_lift
  unfold readList at hlist
  split at hlist
  · cases hlist
    exact ⟨_, rfl, hrules.of_mapM⟩
  · cases hlist

theorem of_readFields {schemas : Fields} (h : readFields value = .ok schemas) :
    value = .object schemas := by
  unfold readFields at h
  split at h
  · cases h
    rfl
  · cases h

def ReadsNamed (depth : Nat) (s : Surroundings) (field : String × Json)
    (declared : String × Rule) : Prop :=
  declared.1 = field.1 ∧ Reads depth s field.2 declared.2

theorem Yields.of_readNamed {declared : List (String × Rule)}
    (h : Yields (readNamed (readRuleTo depth) s value) declared) :
    ∃ schemas, value = .object schemas ∧ List.Forall₂ (ReadsNamed depth s) schemas declared := by
  obtain ⟨schemas, hschemas, hdeclared⟩ := h.of_bind
  refine ⟨schemas, of_readFields hschemas.of_lift,
    hdeclared.of_mapM.imp fun field named hnamed => ?_⟩
  obtain ⟨rule, hrule, hpair⟩ := hnamed.of_bind
  rw [yields_pure_iff] at hpair
  rw [hpair]
  exact ⟨rfl, hrule⟩

theorem lookup_of_readsNamed {schemas : Fields} {declared : List (String × Rule)}
    (h : List.Forall₂ (ReadsNamed depth s) schemas declared) (name : String) :
    (schemas.lookup name = none → declared.lookup name = none) ∧
      ∀ part, schemas.lookup name = some part →
        ∃ rule, declared.lookup name = some rule ∧ Reads depth s part rule := by
  induction h with
  | nil => exact ⟨fun _ => rfl, fun part hpart => by cases hpart⟩
  | @cons field named _ _ hnamed _ ih =>
      obtain ⟨key, schema⟩ := field
      obtain ⟨key', rule⟩ := named
      obtain ⟨rfl, hrule⟩ := hnamed
      rw [List.lookup_cons, List.lookup_cons]
      cases name == key' with
      | true =>
          refine ⟨fun hnone => (by cases hnone), fun part hpart => ?_⟩
          cases hpart
          exact ⟨rule, rfl, hrule⟩
      | false => exact ih

def ReadsPattern (field : String × Json) (pattern : String × Regex × Rule) : Prop :=
  pattern.1 = field.1 ∧ Regex.ofPattern? field.1 = some pattern.2.1

theorem Yields.of_readPatterns {patterns : List (String × Regex × Rule)}
    (h : Yields (readPatterns (readRuleTo depth) s value) patterns) :
    ∃ schemas, value = .object schemas ∧ List.Forall₂ ReadsPattern schemas patterns := by
  obtain ⟨schemas, hschemas, hpatterns⟩ := h.of_bind
  refine ⟨schemas, of_readFields hschemas.of_lift,
    hpatterns.of_mapM.imp fun field pattern hpattern => ?_⟩
  obtain ⟨regex, hregex, hrest⟩ := hpattern.of_bind
  obtain ⟨rule, -, htriple⟩ := hrest.of_bind
  rw [yields_pure_iff] at htriple
  rw [htriple]
  have hread := hregex.of_lift
  unfold readPattern at hread
  split at hread
  · next hsome =>
      cases hread
      exact ⟨rfl, hsome⟩
  · cases hread

theorem yields_allOf (hhas : s.hasVocabularies = true)
    (h : Yields (readKeyword (readRuleTo depth) s fields "allOf" value) own) :
    ∃ schemas rules, value = .array schemas ∧ own = [.allOf rules] ∧
      List.Forall₂ (Reads depth s) schemas rules := by
  have hread : readKeyword (readRuleTo depth) s fields "allOf" value =
      (do return [.allOf (← readListed (readRuleTo depth) s value)]) := by
    simp [readKeyword, readPlain?, hhas, readNested]
  rw [hread] at h
  obtain ⟨rules, hrules, hown⟩ := h.of_bind
  obtain ⟨schemas, hvalue, hschemas⟩ := hrules.of_readListed
  exact ⟨schemas, rules, hvalue, yields_pure_iff.1 hown, hschemas⟩

theorem yields_properties (hhas : s.hasVocabularies = true) (hopen : closesObjects fields = false)
    (h : Yields (readKeyword (readRuleTo depth) s fields "properties" value) own) :
    ∃ schemas declared, value = .object schemas ∧ own = [.properties declared] ∧
      List.Forall₂ (ReadsNamed depth s) schemas declared := by
  have hread : readKeyword (readRuleTo depth) s fields "properties" value =
      (do return [.properties (← readNamed (readRuleTo depth) s value)]) := by
    simp [readKeyword, readPlain?, hhas, readNested, hopen]
  rw [hread] at h
  obtain ⟨declared, hdeclared, hown⟩ := h.of_bind
  obtain ⟨schemas, hvalue, hschemas⟩ := hdeclared.of_readNamed
  exact ⟨schemas, declared, hvalue, yields_pure_iff.1 hown, hschemas⟩

/-- What is read where an object is closed, or has a schema for additional properties: the declared
ones, the patterns, and that schema. -/
structure ReadsClosed (depth : Nat) (s : Surroundings) (fields : Fields)
    (rules : Option (List (String × Rule))) (patterns : Option (List (String × Regex × Rule)))
    (others : Option Rule) : Prop where
  declared : ∀ value ∈ fields.lookup "properties", ∃ schemas list,
    value = .object schemas ∧ rules = some list ∧ List.Forall₂ (ReadsNamed depth s) schemas list
  undeclared : fields.lookup "properties" = none → rules = none
  matched : ∀ value ∈ fields.lookup "patternProperties", ∃ schemas list,
    value = .object schemas ∧ patterns = some list ∧ List.Forall₂ ReadsPattern schemas list
  unmatched : fields.lookup "patternProperties" = none → patterns = none
  rest : ∀ part, fields.lookup "additionalProperties" = some (.object part) →
    ∃ rule, others = some rule ∧ Reads depth s (.object part) rule

theorem yields_additionalProperties (hhas : s.hasVocabularies = true)
    (hclosed : closesObjects fields = true)
    (hvalue : fields.lookup "additionalProperties" = some value)
    (h : Yields (readKeyword (readRuleTo depth) s fields "additionalProperties" value) own) :
    ∃ declared patterns rest, own = [.additionalProperties declared patterns rest] ∧
      ReadsClosed depth s fields declared patterns rest := by
  have hcases : value = .bool false ∨ ∃ part, value = .object part := by
    unfold closesObjects at hclosed
    rw [hvalue] at hclosed
    split at hclosed
    · next h => exact .inl (Option.some.inj h)
    · next h => exact .inr ⟨_, Option.some.inj h⟩
    · cases hclosed
  have hread : readKeyword (readRuleTo depth) s fields "additionalProperties" value =
      (do
        let patterns ← (fields.lookup "patternProperties").mapM (readPatterns (readRuleTo depth) s)
        let declared ← (fields.lookup "properties").mapM (readNamed (readRuleTo depth) s)
        let rest ← (if value = .bool false then pure none
          else some <$> readPart (readRuleTo depth) s value)
        return [.additionalProperties declared patterns rest]) := by
    rcases hcases with rfl | ⟨part, rfl⟩ <;>
      simp [readKeyword, readPlain?, hhas, readNested, readAdditionalProperties]
  rw [hread] at h
  obtain ⟨patterns, hpatterns, h⟩ := h.of_bind
  obtain ⟨declared, hdeclared, h⟩ := h.of_bind
  obtain ⟨rest, hrest, hown⟩ := h.of_bind
  obtain ⟨hundeclared, hdeclared⟩ := hdeclared.of_optionMapM
  obtain ⟨hunmatched, hmatched⟩ := hpatterns.of_optionMapM
  refine ⟨declared, patterns, rest, yields_pure_iff.1 hown, ?_⟩
  refine ⟨fun value hvalue => ?_, hundeclared, fun value hvalue => ?_, hunmatched,
    fun part hpart => ?_⟩
  · obtain ⟨list, hlist, hnamed⟩ := hdeclared value hvalue
    obtain ⟨schemas, hobject, hschemas⟩ := hnamed.of_readNamed
    exact ⟨schemas, list, hobject, hlist, hschemas⟩
  · obtain ⟨list, hlist, hpattern⟩ := hmatched value hvalue
    obtain ⟨schemas, hobject, hschemas⟩ := hpattern.of_readPatterns
    exact ⟨schemas, list, hobject, hlist, hschemas⟩
  · have hobject : value = .object part := Option.some.inj (hvalue.symm.trans hpart)
    rw [hobject, if_neg Json.noConfusion] at hrest
    obtain ⟨rule, hrule, hsome⟩ := hrest.of_map
    exact ⟨rule, hsome, hrule⟩

theorem yields_items_object {part : Fields} (hhas : s.hasVocabularies = true)
    (h : Yields (readKeyword (readRuleTo depth) s fields "items" (.object part)) own) :
    ∃ rule, own = [.items (((fields.lookup "prefixItems").bind Json.items?).getD []).length rule] ∧
      Reads depth s (.object part) rule := by
  have hread : readKeyword (readRuleTo depth) s fields "items" (.object part) =
      (do
        let leading := ((fields.lookup "prefixItems").bind Json.items?).getD []
        return [.items leading.length (← readPart (readRuleTo depth) s (.object part))]) := by
    simp [readKeyword, readPlain?, hhas, readNested, readItems]
  rw [hread] at h
  obtain ⟨rule, hrule, hown⟩ := h.of_bind
  exact ⟨rule, yields_pure_iff.1 hown, hrule⟩

theorem yields_items_array {parts : List Json} (hhas : s.hasVocabularies = true)
    (h : Yields (readKeyword (readRuleTo depth) s fields "items" (.array parts)) own) :
    ∃ rules, .leadingItems "items" rules ∈ own ∧ List.Forall₂ (Reads depth s) parts rules := by
  have hread : readKeyword (readRuleTo depth) s fields "items" (.array parts) =
      (do
        let leading :=
          Keyword.leadingItems "items" (← readListed (readRuleTo depth) s (.array parts))
        return if s.knows .draft202012 then [leading, .anyItems] else [leading]) := by
    simp [readKeyword, readPlain?, hhas, readNested, readItems]
  rw [hread] at h
  obtain ⟨rules, hrules, hown⟩ := h.of_bind
  obtain ⟨schemas, hparts, hschemas⟩ := hrules.of_readListed
  cases hparts
  refine ⟨rules, ?_, hschemas⟩
  rw [yields_pure_iff.1 hown]
  split <;> exact List.mem_cons_self

end Keywords

end ChannelGateway.Schema
