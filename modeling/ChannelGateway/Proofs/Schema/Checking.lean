import ChannelGateway.Proofs.Json.Fields
import ChannelGateway.Schema.Evaluation
import Mathlib.Data.List.Forall2
/-!
# What a check without mismatches says

A value fits a schema if it fits every keyword, and then the parts of the value that a keyword
looks at fit the schemas inside it.
-/

namespace ChannelGateway.Schema

theorem fits_keyword {depth : Nat} {keywords : List Keyword} {position : Position} {value : Json}
    (h : mismatchesTo (depth + 1) (.keywords keywords) position value = []) {keyword : Keyword}
    (hkeyword : keyword ∈ keywords) :
    ∃ names items, keyword.mismatches (mismatchesTo depth) names items position value = [] :=
  ⟨_, _, List.flatMap_eq_nil_iff.1 h keyword hkeyword⟩

def lookingOnly (keywords : List Keyword) : Rule := .keywords (keywords.filter (!·.isUnevaluated))

theorem mismatchesTo_keywords_eq_nil_iff {depth : Nat} {keywords : List Keyword}
    {position : Position} {value : Json} :
    mismatchesTo (depth + 1) (.keywords keywords) position value = [] ↔
      ∀ keyword ∈ keywords, keyword.mismatches (mismatchesTo depth)
        ((lookingOnly keywords).namesTaken (mismatchesTo depth) depth)
        ((lookingOnly keywords).itemsTaken (mismatchesTo depth) depth) position value = [] :=
  List.flatMap_eq_nil_iff

theorem require_eq_nil_iff {condition : Bool} {position : Position} {value : Json}
    {cause : MismatchCause} :
    require condition position value cause = [] ↔ condition = true := by
  cases condition <;> simp [require]

theorem map_snd_numbered (elements : List Json) (first : Nat) :
    (numbered elements first).map Prod.snd = elements := by
  rw [numbered, List.map_map]
  exact List.zipIdx_map_fst first elements

theorem exists_mem_numbered {elements : List Json} {item : Json} (h : item ∈ elements)
    (first : Nat) :
    ∃ i, (i, item) ∈ numbered elements first := by
  rw [← map_snd_numbered elements first] at h
  obtain ⟨⟨i, item⟩, hmem, rfl⟩ := List.mem_map.1 h
  exact ⟨i, hmem⟩

section Keywords

variable {check : Check} {names : Json → List String} {items : Json →
  List Nat} {position : Position}

theorem fits_type {types : List ValueType} {wholeDoubles : Bool} {value : Json}
    (h : Keyword.mismatches check names items (.type types wholeDoubles) position value = []) :
    ∃ type ∈ types, type.accepts wholeDoubles value = true := by
  have hany : require (types.any (·.accepts wholeDoubles value)) (position.under ["type"]) value
      (.wrongType types) = [] := h
  exact List.any_eq_true.1 (require_eq_nil_iff.1 hany)

theorem fits_required_iff {required : List String} {fields : Fields} :
    Keyword.mismatches check names items (.required required) position (.object fields) = [] ↔
      ∀ name ∈ required, name ∈ Fields.keys fields := by
  change (required.flatMap fun name => require (Fields.contains fields name) _ _ _) = [] ↔ _
  simp only [List.flatMap_eq_nil_iff, require_eq_nil_iff, Fields.contains, Fields.isSome_lookup_iff]
  rfl

theorem fits_object_iff {wholeDoubles : Bool} {value : Json} :
    Keyword.mismatches check names items (.type [.object] wholeDoubles) position value = [] ↔
      ∃ fields, value = .object fields := by
  change require ([ValueType.object].any (·.accepts wholeDoubles value)) _ _ _ = [] ↔ _
  rw [require_eq_nil_iff, List.any_cons, List.any_nil, Bool.or_false]
  cases value with
  | object fields => exact iff_of_true rfl ⟨fields, rfl⟩
  | null | bool | number | string | array =>
    exact iff_of_false Bool.false_ne_true fun ⟨_, h⟩ => by cases h

theorem fits_allOf {rules : List Rule} {value : Json}
    (h : Keyword.mismatches check names items (.allOf rules) position value = []) {rule : Rule}
    (hrule : rule ∈ rules) : ∃ position, check rule position value = [] := by
  obtain ⟨i, hi⟩ := List.mem_iff_getElem?.1 hrule
  exact ⟨_, List.flatMap_eq_nil_iff.1 h (rule, i) (List.mem_zipIdx_iff_getElem?.2 hi)⟩

theorem fits_properties {declared : List (String × Rule)} {fields : Fields}
    (h : Keyword.mismatches check names items (.properties declared) position (.object fields) = [])
    {name : String} {rule : Rule} {child : Json} (hrule : (name, rule) ∈ declared)
    (hchild : fields.lookup name = some child) : ∃ position, check rule position child = [] := by
  have hfits : ((fields.lookup name).elim [] fun item =>
      check rule ((position.under ["properties", name]).inside name) item) = [] :=
    List.flatMap_eq_nil_iff.1 h (name, rule) hrule
  rw [hchild] at hfits
  exact ⟨_, hfits⟩

/-- In an object without mismatches, the members with a declared schema fit it, and those that are
neither declared nor matched by a pattern fit the schema for the rest. -/
theorem fits_closed {declared : Option (List (String × Rule))}
    {patterns : Option (List (String × Regex × Rule))} {rest : Option Rule} {value : Json}
    {fields : Fields} (h : checkClosed check declared patterns rest position value fields = [])
    {name : String} {child : Json} (hmem : (name, child) ∈ fields) :
    (∀ rule, declared.bind (·.lookup name) = some rule →
      ∃ position, check rule position child = []) ∧
      (declared.bind (·.lookup name) = none → matching (patterns.getD []) name = [] →
        ∀ rule ∈ rest, ∃ position, check rule position child = []) := by
  unfold checkClosed at h
  split at h
  -- a check that knows neither properties nor patterns nor a rest has nothing to say of a member
  · constructor
    · intro rule hrule
      cases hrule
    · intro _ _ rule hrule
      cases hrule
  · obtain ⟨hmembers, -⟩ := List.append_eq_nil_iff.1 h
    have hmember := List.flatMap_eq_nil_iff.1 hmembers (name, child) hmem
    obtain ⟨hchecked, hextra⟩ := List.append_eq_nil_iff.1 hmember
    obtain ⟨hdeclared, -⟩ := List.append_eq_nil_iff.1 hchecked
    constructor
    · intro rule hrule
      simp only [hrule, Option.elim_some] at hdeclared
      exact ⟨_, hdeclared⟩
    · intro hunknown hunmatched rule hrule
      simp only [hunknown, hunmatched, Option.mem_def.1 hrule, Option.elim_some, Option.isNone_none,
        List.isEmpty_nil, Bool.and_self, if_true] at hextra
      exact ⟨_, hextra⟩

/-- Without patterns and without a rule for the rest, an object fits if all of its members are
declared and fit their rules. -/
theorem checkClosed_declared_eq_nil_iff {declared : List (String × Rule)} {value : Json}
    {fields : Fields} :
    checkClosed check (some declared) none none position value fields = [] ↔
      (∀ name ∈ Fields.keys fields, (declared.lookup name).isSome) ∧
        ∀ name item, (name, item) ∈ fields → ∀ rule, declared.lookup name = some rule →
          check rule ((position.under ["properties", name]).inside name) item = [] := by
  have hmember : ∀ field : String × Json, ((declared.lookup field.1).elim [] fun rule =>
      check rule ((position.under ["properties", field.1]).inside field.1) field.2) = [] ↔
        ∀ rule, declared.lookup field.1 = some rule →
          check rule ((position.under ["properties", field.1]).inside field.1) field.2 = [] := by
    intro field
    cases declared.lookup field.1 <;> simp
  rw [and_comm]
  simp only [checkClosed, checkPatterns, matching, Option.bind_some, Option.getD_none,
    List.filterMap_nil, List.flatMap_nil, List.append_nil, List.append_eq_nil_iff,
    List.flatMap_eq_nil_iff]
  refine and_congr ?_ ?_
  · constructor
    · exact fun h name item hmem => (hmember (name, item)).1 (h _ hmem).1
    · intro h field hfield
      exact ⟨(hmember field).2 (h field.1 field.2 hfield), ite_self _⟩
  · simp [Option.isSome_iff_ne_none]

theorem fits_items {first : Nat} {rule : Rule} {elements : List Json}
    (h : Keyword.mismatches check names items (.items first rule) position (.array elements) = [])
    {item : Json} (hitem : item ∈ elements.drop first) : ∃ position,
      check rule position item = [] := by
  obtain ⟨i, hi⟩ := exists_mem_numbered hitem first
  exact ⟨_, List.flatMap_eq_nil_iff.1 h (i, item) hi⟩

theorem fits_leadingItems {keyword : String} {rules : List Rule} {elements : List Json}
    (h : Keyword.mismatches check names items (.leadingItems keyword rules) position
      (.array elements) = [])
    {rule : Rule} {item : Json} (hpair : (rule, item) ∈ rules.zip elements) :
    ∃ position, check rule position item = [] := by
  rw [← map_snd_numbered elements 0, List.zip_map_right] at hpair
  obtain ⟨⟨rule, i, item⟩, hmem, hpair⟩ := List.mem_map.1 hpair
  cases hpair
  exact ⟨_, List.flatMap_eq_nil_iff.1 h (rule, i, item) hmem⟩

end Keywords

end ChannelGateway.Schema
