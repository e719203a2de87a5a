import ChannelGateway.Proofs.Schema.Compiled
import ChannelGateway.Proofs.Schema.Governed
import ChannelGateway.Proofs.Schema.Integers
import ChannelGateway.Schema.Validator
/-!
# Coercion of valid data

Coercion keeps a value that its schema accepts, if it leaves alone the parts to which it applies
schemas that the check does not apply there.  A schema has no such parts if it stays with the draft
of the document, its keywords are in force wherever they stand, no patterns stand beside a schema
for further properties, and no leading schemas beside one for the items.
-/

namespace ChannelGateway

open Schema

namespace Coercion

/-- Coercion applies a schema inside a document to a part of a value, and the check of the
document does not. -/
def OverlooksIn (document value part child : Json) : Prop :=
  let draft := insideDraft .draft202012 document
  Overlooks (draft.isAtLeast .draft201909) draft document value part child

/-! ## Schemas that overlook nothing -/

/-- Coercion and the check agree on what an object schema governs: it stays with the draft, its
keywords are in force, and its schema for further properties or for items is the only one for what
is not declared. -/
structure Agrees (vocabularies : Bool) (draft : Draft) (fields : Fields) : Prop where
  draft_eq : insideDraft draft (.object fields) = draft
  inForce : InForce vocabularies draft fields
  patterns : ∀ part, fields.lookup "additionalProperties" = some (.object part) →
    fields.lookup "patternProperties" = none
  leading : ∀ part, fields.lookup "items" = some (.object part) → fields.lookup "prefixItems" = none

variable {vocabularies : Bool} {draft : Draft} {value part child : Json}

theorem Agrees.not_misses {fields : Fields} (h : Agrees vocabularies draft fields) :
    ¬Misses fields value part child := by
  intro hmisses
  cases hmisses with
  | matched _ _ hmatched hlookup =>
      obtain ⟨schemas, _, _, _, hpatterns, _⟩ := hmatched
      rw [h.patterns _ hlookup] at hpatterns
      cases hpatterns
  | leading hlookup hitem =>
      rw [leadingCount, h.leading _ hlookup] at hitem
      cases hitem

theorem not_overlooks {schema : Json}
    (h : ∀ fields, schema.Occurs (.object fields) → Agrees vocabularies draft fields) :
    ¬Overlooks vocabularies draft schema value part child := by
  intro hoverlooks
  induction hoverlooks with
  | void hvoid =>
      have hagrees := h _ (.refl _)
      rw [hagrees.draft_eq] at hvoid
      exact hvoid hagrees.inForce
  | missed hmisses => exact (h _ (.refl _)).not_misses hmisses
  | inside hgoverns _ ih =>
      obtain ⟨-, key, written, hmem, hpart⟩ := hgoverns.occurs
      refine ih fun fields hfields => ?_
      rw [(h _ (.refl _)).draft_eq]
      exact h fields (.field hmem (hpart.trans hfields))

/-- A document with one draft, without references in the older ones, without patterns
beside a schema for further properties and without leading schemas beside one for the
items, overlooks nothing. -/
theorem not_overlooksIn {document : Json}
    (h : ∀ fields, document.Occurs (.object fields) →
      let draft := insideDraft .draft202012 document
      Agrees (draft.isAtLeast .draft201909) draft fields) :
    ¬OverlooksIn document value part child :=
  not_overlooks h

end Coercion

/-! ## Validators -/

open Coercion

/-- The schema of a validator was read as a document, among resources that are at least as large. -/
def Validator.IsCompiled (v : Validator) : Prop :=
  ∃ registry formats draft uri, draftOf .draft202012 v.schema = .ok draft ∧
    v.schema.size ≤ registry.size ∧
    CompiledSchema.ofResource registry formats ⟨uri, draft, v.schema⟩ = .ok v.compiled

theorem isCompiled_of_ofSchema {schema : Json} {coercion : CoercionMode} {formats : Bool}
    {v : Validator} (h : Validator.ofSchema schema coercion formats = .ok v) : v.IsCompiled ∧
      v.schema = schema := by
  obtain ⟨compiled, hcompiled, rfl⟩ := exists_of_map_eq_ok h
  obtain ⟨draft, registry, uri, hdraft, hsize, hread⟩ := exists_resource_of_ofJson hcompiled
  exact ⟨⟨registry, formats, draft, uri, hdraft, hsize, hread⟩, rfl⟩

theorem ofSchema_coercion {schema : Json} {coercion : CoercionMode} {formats : Bool} {v : Validator}
    (h : Validator.ofSchema schema coercion formats = .ok v) (other : CoercionMode) :
    Validator.ofSchema schema other formats = .ok { v with coercion := other } := by
  obtain ⟨compiled, hcompiled, rfl⟩ := exists_of_map_eq_ok h
  rw [Validator.ofSchema, hcompiled]
  rfl

theorem validate_eq_ok_iff {v : Validator} {data accepted : Json} :
    v.validate data = .ok accepted ↔
      v.prepare data = accepted ∧ v.compiled.mismatches accepted = [] := by
  constructor
  · intro h
    unfold Validator.validate at h
    dsimp only at h
    split at h
    · next hfits =>
        cases h
        exact ⟨rfl, hfits⟩
    · cases h
  · rintro ⟨rfl, hfits⟩
    simp only [Validator.validate, hfits]

theorem Validator.IsCompiled.fits {v : Validator} (h : v.IsCompiled) {value : Json}
    (hfits : v.compiled.mismatches value = []) :
    ∃ (depth limit : Nat) (s : Surroundings), s.draft = insideDraft .draft202012 v.schema ∧
      s.vocabularies = s.draft.isAtLeast .draft201909 ∧ v.schema.size ≤ depth ∧
      v.schema.size ≤ limit ∧
      Fits depth limit s v.schema value := by
  obtain ⟨registry, formats, draft, uri, hdraft, hsize, hread⟩ := h
  unfold CompiledSchema.ofResource at hread
  obtain ⟨⟨rule, followed⟩, hrun, hcompiled⟩ := exists_of_map_eq_ok hread
  rw [hcompiled] at hfits
  refine ⟨_, _, _, ?_, rfl, ?_, ?_, rule, .root, ⟨[], followed, hrun⟩, hfits⟩
  · rw [insideDraft, hdraft]
  -- the depth of reading and the depth of the check both exceed what is at hand
  · exact Nat.le_trans hsize (Nat.le_add_left _ _)
  · calc v.schema.size ≤ registry.size + 1 := Nat.le_succ_of_le hsize
      _ ≤ (value.size + 2) * (registry.size + 1) := Nat.le_mul_of_pos_left _ (Nat.succ_pos _)

theorem Validator.IsCompiled.coerce_eq_self {v : Validator} (h : v.IsCompiled) {value : Json}
    (hfits : v.compiled.mismatches value = []) (hkeys : value.HasDistinctKeys)
    (hoverlooked : ∀ part child, OverlooksIn v.schema value part child →
      coerce part child = child) :
    coerce v.schema value = value := by
  obtain ⟨depth, limit, s, hdraft, hvocabularies, hdepth, hlimit, hschema⟩ := h.fits hfits
  refine hschema.coerce_eq_self hdepth hlimit hkeys fun part child hpart =>
    hoverlooked part child ?_
  rwa [hvocabularies, hdraft] at hpart

/-- A schema that overlooks nothing is compiled for coercion as it is without, and accepts
valid data unchanged. -/
theorem ofSchema_scalars_validate {schema value : Json} {formats : Bool} {plain : Validator}
    (hplain : Validator.ofSchema schema .none formats = .ok plain) (hkeys : value.HasDistinctKeys)
    (hvalid : plain.validate value = .ok value)
    (hagrees : ∀ fields, schema.Occurs (.object fields) →
      let draft := insideDraft .draft202012 schema
      Agrees (draft.isAtLeast .draft201909) draft fields) :
    ∃ scalars, Validator.ofSchema schema .scalars formats = .ok scalars ∧
      scalars.validate value = .ok value := by
  obtain ⟨hcompiled, rfl⟩ := isCompiled_of_ofSchema hplain
  obtain ⟨-, hfits⟩ := validate_eq_ok_iff.1 hvalid
  have hkept : coerce plain.schema value = value :=
    hcompiled.coerce_eq_self hfits hkeys fun part child h => absurd h (not_overlooksIn hagrees)
  exact ⟨_, ofSchema_coercion hplain .scalars, validate_eq_ok_iff.2 ⟨hkept, hfits⟩⟩

/-- Coercion keeps valid data, if it leaves alone what the check overlooks: a validator that coerces
scalars accepts what it accepts without coercion, and hands it back unchanged. -/
theorem coercion_keeps_valid_data {v : Validator} {value : Json} (hcompiled : v.IsCompiled)
    (hkeys : value.HasDistinctKeys)
    (hvalid : Validator.validate { v with coercion := .none } value = .ok value)
    (hoverlooked : ∀ part child, OverlooksIn v.schema value part child →
      coerce part child = child) :
    coerce v.schema value = value ∧
      Validator.validate { v with coercion := .scalars } value = .ok value := by
  obtain ⟨-, hfits⟩ := validate_eq_ok_iff.1 hvalid
  have hkept := hcompiled.coerce_eq_self hfits hkeys hoverlooked
  exact ⟨hkept, validate_eq_ok_iff.2 ⟨hkept, hfits⟩⟩

/-! ## A schema with patterns -/

def marked : Json :=
  .object [("patternProperties", .object [("^x", ofType "string")]),
    ("additionalProperties", ofType "integer")]

def marks : Json := .object [("x", .string "seven"), ("y", .ofNat 5)]

theorem exists_compiled_marked : ∃ compiled,
    (∀ coercion, Validator.IsCompiled ⟨marked, compiled, coercion⟩) ∧
    compiled.mismatches marks = [] ∧ compiled.mismatches (.object [("x", .string "5")]) = [] ∧
    compiled.mismatches (.object [("x", .ofNat 5)]) ≠ [] := by
  let document : Resource := ⟨anonymousUri, .draft202012, marked⟩
  have hevaluated : (match CompiledSchema.ofResource ⟨[document], []⟩ false document with
      | .ok compiled =>
        (compiled.mismatches marks).isEmpty &&
          (compiled.mismatches (.object [("x", .string "5")])).isEmpty &&
          !(compiled.mismatches (.object [("x", .ofNat 5)])).isEmpty
      | .error _ => false) = true := by decide +kernel
  cases hcompiled : CompiledSchema.ofResource ⟨[document], []⟩ false document with
  | error e =>
      rw [hcompiled] at hevaluated
      cases hevaluated
  | ok compiled =>
      rw [hcompiled] at hevaluated
      simp only [Bool.and_eq_true, List.isEmpty_iff, Bool.not_eq_true', List.isEmpty_eq_false_iff]
        at hevaluated
      refine ⟨compiled, fun coercion => ?_, hevaluated.1.1, hevaluated.1.2, hevaluated.2⟩
      exact ⟨_, false, .draft202012, anonymousUri, rfl, Nat.le_refl _, hcompiled⟩

theorem agrees_of_occurs_ofType {name : String} {fields : Fields}
    (h : (ofType name).Occurs (.object fields)) : Agrees true .draft202012 fields := by
  rcases Json.occurs_object.1 h with heq | ⟨field, hmem, hpart⟩
  · cases heq
    exact ⟨rfl, rfl, fun part hlookup => (by cases hlookup), fun part hlookup => (by cases hlookup)⟩
  · rw [List.mem_singleton.1 hmem, Json.occurs_string] at hpart
    cases hpart

theorem coerce_integer_seven : coerce (ofType "integer") (.string "seven") = .string "seven" := by
  have hnumber : number? "seven" = none := by decide +kernel
  rw [coerce_integer, hnumber]
  rfl

theorem coerce_eq_self_of_overlooksIn_marked {part child : Json}
    (h : OverlooksIn marked marks part child) :
    coerce part child = child := by
  -- what is overlooked is the type for further properties, at the one that the pattern takes
  cases h with
  | void hvoid => exact absurd rfl hvoid
  | missed hmisses =>
      cases hmisses with
      | matched hmem _ _ hlookup =>
          cases hlookup
          simp only [List.mem_cons, Prod.mk.injEq, List.not_mem_nil, or_false] at hmem
          rcases hmem with ⟨-, rfl⟩ | ⟨-, rfl⟩
          · exact coerce_integer_seven
          · exact coerce_ofType "integer" _
  | inside hgoverns hoverlooks =>
      cases hgoverns with
      | branch hlookup _ => cases hlookup
      | declared _ hpart => cases hpart
      | rest _ _ _ hlookup =>
          cases hlookup
          exact absurd hoverlooks (not_overlooks fun fields => agrees_of_occurs_ofType)

theorem marks_hasDistinctKeys : marks.HasDistinctKeys := by
  intro fields h
  rcases Json.occurs_object.1 h with heq | ⟨field, hmem, hpart⟩
  · cases heq
    decide
  · simp only [List.mem_cons, List.not_mem_nil, or_false] at hmem
    rcases hmem with rfl | rfl <;> cases hpart

/-- Coercion leaves marks alone that do not spell numbers. -/
theorem coercion_keeps_marks :
    ∃ compiled, Validator.validate ⟨marked, compiled, .none⟩ marks = .ok marks ∧
      coerce marked marks = marks ∧
      Validator.validate ⟨marked, compiled, .scalars⟩ marks = .ok marks := by
  obtain ⟨compiled, hcompiled, hfits, -, -⟩ := exists_compiled_marked
  have hvalid : Validator.validate ⟨marked, compiled, .none⟩ marks = .ok marks :=
    validate_eq_ok_iff.2 ⟨rfl, hfits⟩
  exact ⟨compiled, hvalid, coercion_keeps_valid_data (hcompiled .none) marks_hasDistinctKeys hvalid
    fun part child h => coerce_eq_self_of_overlooksIn_marked h⟩

/-- A mark that spells a number is valid, and becomes that number, which is not. -/
theorem coercion_spoils_mark :
    ∃ compiled, (∀ coercion, Validator.IsCompiled ⟨marked, compiled, coercion⟩) ∧
      Validator.validate ⟨marked, compiled, .none⟩ (.object [("x", .string "5")]) =
        .ok (.object [("x", .string "5")]) ∧
      coerce marked (.object [("x", .string "5")]) = .object [("x", .ofNat 5)] ∧
      ∀ accepted, Validator.validate ⟨marked, compiled, .scalars⟩ (.object [("x", .string "5")]) ≠
        .ok accepted := by
  obtain ⟨compiled, hcompiled, -, hfits, hmisfits⟩ := exists_compiled_marked
  have hspoilt : coerce marked (.object [("x", .string "5")]) = .object [("x", .ofNat 5)] := by
    have hnumber : number? "5" = some (.int 5) := by decide +kernel
    have hparts : coerce marked (.object [("x", .string "5")]) =
        .object [("x", coerce (ofType "integer") (.string "5"))] := coerce_object _ _
    rw [hparts, coerce_integer, hnumber]
    rfl
  refine ⟨compiled, hcompiled, validate_eq_ok_iff.2 ⟨rfl, hfits⟩, hspoilt, fun accepted h => ?_⟩
  obtain ⟨rfl, haccepted⟩ := validate_eq_ok_iff.1 h
  rw [Validator.prepare, hspoilt] at haccepted
  exact hmisfits haccepted

end ChannelGateway
