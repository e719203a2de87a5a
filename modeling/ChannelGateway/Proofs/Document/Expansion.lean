import ChannelGateway.Proofs.Document.Refusal
import ChannelGateway.Proofs.Json.Occurrence
/-!
# Expansion without cycles

The full expansion of a value replaces every reference by the expansion of its target.  It is
defined without a stack, so it exists only where no reference leads back to itself.  There
resolving gives it: no reference is met while its target is inlined, nothing is stamped, and a
target that is shared is inlined at each of its places.
-/

namespace ChannelGateway

namespace Reference

open Json

variable {root : Json}

/-- A value with all references replaced by what they point at, at any depth. -/
inductive Expands (root : Json) : Json → Json → Prop
  | scalar {value : Json} : (∀ items, value ≠ .array items) → (∀ fields, value ≠ .object fields) →
      Expands root value value
  | array {items : List Json} (copy : Json → Json) :
      (∀ item ∈ items, Expands root item (copy item)) →
      Expands root (.array items) (.array (items.map copy))
  | object {fields : Fields} (copy : Json → Json) : reference? fields = none →
      (∀ field ∈ fields, Expands root field.2 (copy field.2)) →
      Expands root (.object fields) (.object (fields.map fun field => (field.1, copy field.2)))
  | reference {fields : Fields} {r : String} {target copy : Json} : reference? fields = some r →
      target? root r = some target → Expands root target copy → Expands root (.object fields) copy

section Inversion

variable {items : List Json} {fields : Fields} {copy : Json} {r : String}

theorem Expands.of_array (h : Expands root (.array items) copy) :
    ∃ inner : Json → Json, (∀ item ∈ items, Expands root item (inner item)) ∧
      copy = .array (items.map inner) := by
  cases h with
  | scalar harray _ => exact absurd rfl (harray items)
  | array inner hinner => exact ⟨inner, hinner, rfl⟩

theorem Expands.of_object (h : Expands root (.object fields) copy)
    (href : reference? fields = none) :
    ∃ inner : Json → Json, (∀ field ∈ fields, Expands root field.2 (inner field.2)) ∧
      copy = .object (fields.map fun field => (field.1, inner field.2)) := by
  cases h with
  | scalar _ hobject => exact absurd rfl (hobject fields)
  | object inner _ hinner => exact ⟨inner, hinner, rfl⟩
  | reference hsome => rw [href] at hsome; cases hsome

theorem Expands.of_reference (h : Expands root (.object fields) copy)
    (href : reference? fields = some r) {target : Json} (htarget : target? root r = some target) :
    Expands root target copy := by
  cases h with
  | scalar _ hobject => exact absurd rfl (hobject fields)
  | object _ hnone => rw [href] at hnone; cases hnone
  | reference hsome htarget' htargetcopy =>
      rw [href] at hsome
      cases hsome
      cases htarget.symm.trans htarget'
      exact htargetcopy

end Inversion

theorem Expands.unique {value copy other : Json} (h : Expands root value copy)
    (h' : Expands root value other) : other = copy := by
  induction h generalizing other with
  | @scalar value harray hobject =>
      cases h' with
      | scalar => rfl
      | array => exact absurd rfl (harray _)
      | object => exact absurd rfl (hobject _)
      | reference => exact absurd rfl (hobject _)
  | array copy _ ih =>
      obtain ⟨inner, hinner, rfl⟩ := h'.of_array
      exact congrArg Json.array
        (List.map_congr_left fun item hitem => ih item hitem (hinner item hitem))
  | object copy href _ ih =>
      obtain ⟨inner, hinner, rfl⟩ := h'.of_object href
      refine congrArg Json.object (List.map_congr_left fun field hfield => ?_)
      rw [ih field hfield (hinner field hfield)]
  | reference href htarget _ ih => exact ih (h'.of_reference href htarget)

/-! ## Parts of an expansion -/

def IsPlain (value : Json) : Prop := ∀ fields, value = .object fields → reference? fields = none

theorem isPlain_of_not_object {value : Json} (h : ∀ fields, value ≠ .object fields) :
    IsPlain value :=
  fun fields hfields => absurd hfields (h fields)

theorem isPlain_object {fields : Fields} : IsPlain (.object fields) ↔ reference? fields = none := by
  simp [IsPlain]

/-- Every part of an expansion is the expansion of a value that is walked to and is no reference. -/
theorem Expands.exists_source {value copy part : Json} (h : Expands root value copy)
    (hpart : Occurs copy part) :
    ∃ source, Visits root value source ∧ IsPlain source ∧ Expands root source part := by
  induction h with
  | @scalar value harray hobject =>
      have heq : part = value := by
        cases hpart with
        | refl => rfl
        | item => exact absurd rfl (harray _)
        | field => exact absurd rfl (hobject _)
      rw [heq]
      exact ⟨value, .refl _, isPlain_of_not_object hobject, .scalar harray hobject⟩
  | @array items copy hcopy ih =>
      cases hpart with
      | refl => exact ⟨.array items, .refl _, isPlain_of_not_object (by simp), .array copy hcopy⟩
      | item hmem hpart =>
          obtain ⟨item, hitem, rfl⟩ := List.mem_map.1 hmem
          obtain ⟨source, hvisits, hrest⟩ := ih item hitem hpart
          exact ⟨source, .item hitem hvisits, hrest⟩
  | @object fields copy href hcopy ih =>
      cases hpart with
      | refl => exact ⟨.object fields, .refl _, isPlain_object.2 href, .object copy href hcopy⟩
      | field hmem hpart =>
          obtain ⟨field, hfield, heq⟩ := List.mem_map.1 hmem
          cases heq
          obtain ⟨source, hvisits, hrest⟩ := ih field hfield hpart
          exact ⟨source, .field href hfield hvisits, hrest⟩
  | reference href htarget _ ih =>
      obtain ⟨source, hvisits, hrest⟩ := ih hpart
      exact ⟨source, .target href htarget hvisits, hrest⟩

/-- The expansion of a value that is walked to is a part of the whole expansion. -/
theorem Expands.exists_part {value copy source : Json} (h : Expands root value copy)
    (hvisits : Visits root value source) : ∃ part, Occurs copy part ∧ Expands root source part := by
  induction hvisits generalizing copy with
  | refl => exact ⟨copy, .refl _, h⟩
  | item hmem _ ih =>
      obtain ⟨inner, hinner, rfl⟩ := h.of_array
      obtain ⟨part, hpart, hexpands⟩ := ih (hinner _ hmem)
      exact ⟨part, .item (List.mem_map_of_mem hmem) hpart, hexpands⟩
  | field href hmem _ ih =>
      obtain ⟨inner, hinner, rfl⟩ := h.of_object href
      obtain ⟨part, hpart, hexpands⟩ := ih (hinner _ hmem)
      exact ⟨part, .field (List.mem_map_of_mem hmem) hpart, hexpands⟩
  | target href htarget _ ih => exact ih (h.of_reference href htarget)

/-- An object that is no reference, and its expansion.  Both have the same keys in the same order;
one states an identifier if and only if the other one does, and then as its expansion. -/
structure CopyOf (root : Json) (source copied : Fields) : Prop where
  plain : reference? source = none
  expands : Expands root (.object source) (.object copied)
  keys : Fields.keys copied = Fields.keys source
  identifier : Option.Rel (Expands root) (source.lookup identifierKey) (copied.lookup identifierKey)

theorem copyOf_of_expands {source : Fields} {copy : Json} (href : reference? source = none)
    (h : Expands root (.object source) copy) :
    ∃ copied, copy = .object copied ∧ CopyOf root source copied := by
  obtain ⟨inner, hinner, rfl⟩ := h.of_object href
  refine ⟨_, rfl, href, .object inner href hinner, ?_, ?_⟩
  · rw [Fields.keys, List.map_map, Fields.keys]
    rfl
  · rw [Fields.lookup_map inner]
    cases hstated : source.lookup identifierKey with
    | none => exact .none
    | some stated => exact .some (hinner _ (Fields.mem_of_lookup hstated))

/-- The objects of an expansion are the copies of the objects that are walked to. -/
theorem Expands.exists_copyOf {value copy : Json} (h : Expands root value copy) {copied : Fields}
    (hcopied : Occurs copy (.object copied)) :
    ∃ source, Visits root value (.object source) ∧ CopyOf root source copied := by
  obtain ⟨source, hvisits, hplain, hexpands⟩ := h.exists_source hcopied
  cases source with
  | object source =>
      obtain ⟨copied', heq, hcopy⟩ := copyOf_of_expands (isPlain_object.1 hplain) hexpands
      cases heq
      exact ⟨source, hvisits, hcopy⟩
  | array items =>
      obtain ⟨inner, -, heq⟩ := hexpands.of_array
      cases heq
  | null | bool | number | string => cases hexpands

theorem Expands.exists_copied {value copy : Json} (h : Expands root value copy) {source : Fields}
    (hsource : Visits root value (.object source)) (href : reference? source = none) :
    ∃ copied, Occurs copy (.object copied) ∧ CopyOf root source copied := by
  obtain ⟨part, hpart, hexpands⟩ := h.exists_part hsource
  obtain ⟨copied, rfl, hcopy⟩ := copyOf_of_expands href hexpands
  exact ⟨copied, hpart, hcopy⟩

theorem Expands.visits_of_string {value copy : Json} (h : Expands root value copy) {s : String}
    (hs : Occurs copy (.string s)) : Visits root value (.string s) := by
  obtain ⟨source, hvisits, hplain, hexpands⟩ := h.exists_source hs
  cases hexpands with
  | scalar => exact hvisits
  | reference href =>
      rw [isPlain_object.1 hplain] at href
      cases href

/-! ## Resolving without cycles -/

/-- Resolving a value does not get to a reference whose target is being inlined. -/
def Fresh (root : Json) (stack : List String) (value : Json) : Prop :=
  ∀ stack' fields r, Reaches root stack value stack' (.object fields) → reference? fields = some r →
    r ∉ stack'

theorem Fresh.of_reaches {stack stack' : List String} {value value' : Json}
    (h : Fresh root stack value) (hreaches : Reaches root stack value stack' value') :
    Fresh root stack' value' :=
  fun _ _ _ hplace href => h _ _ _ (hreaches.trans hplace) href

/-- Where no reference leads back to itself, none is met while its target is being inlined: between
the place where it was followed and the place where it is met, it would lead back to itself. -/
theorem fresh_of_acyclic {node : Json} (hacyclic : ∀ r target, Refers root node r →
    target? root r = some target → ¬ Refers root target r) : Fresh root [] node := by
  intro stack fields r hplace href hstack
  obtain ⟨opened, fields', target, hopened, href', -, htarget, hback⟩ :=
    hplace.exists_opened hstack List.not_mem_nil
  exact hacyclic r target ⟨fields', hopened.visits, href'⟩ htarget ⟨fields, hback.visits, href⟩

theorem Inlines.expands {stack : List String} {value : Json} {result : Resolved}
    (h : Inlines root stack value result) (hfresh : Fresh root stack value) :
    Expands root value result.value ∧ result.recursive = [] := by
  induction h with
  | scalar harray hobject => exact ⟨.scalar harray hobject, rfl⟩
  | array inner _ ih =>
      have hitems := fun item hmem => ih item hmem (hfresh.of_reaches (.item hmem (.refl _ _)))
      exact ⟨.array (fun item => (inner item).value) fun item hmem => (hitems item hmem).1,
        List.flatMap_eq_nil_iff.2 fun item hmem => (hitems item hmem).2⟩
  | object inner href _ ih =>
      have hfields :=
        fun field hmem => ih field hmem (hfresh.of_reaches (.field href hmem (.refl _ _)))
      exact ⟨.object (fun value => (inner value).value) href fun field hmem =>
        (hfields field hmem).1,
        List.flatMap_eq_nil_iff.2 fun field hmem => (hfields field hmem).2⟩
  | retained href hstack => exact absurd hstack (hfresh _ _ _ (.refl _ _) href)
  | inlined href hstack htarget _ hcomplete ih =>
      obtain ⟨hexpands, hnone⟩ := ih (hfresh.of_reaches (.target href hstack htarget (.refl _ _)))
      rcases complete_eq_ok hcomplete with ⟨-, rfl⟩ | ⟨hmem, -⟩
      · exact ⟨.reference href htarget hexpands, hnone⟩
      · rw [hnone] at hmem
        cases hmem

/-- Where every reference that is walked to has a target and none leads back to itself, a value is
resolved. -/
theorem exists_inlines_of_acyclic {node : Json}
    (hresolved : ∀ r, Refers root node r → (target? root r).isSome)
    (hacyclic : ∀ r target, Refers root node r → target? root r = some target →
      ¬ Refers root target r) :
    ∃ result, Inlines root [] node result ∧ resolveReferences root node = .ok result.value := by
  cases hresolve : resolveReferences root node with
  | ok copy =>
      obtain ⟨result, hresult, rfl⟩ := resolveReferences_eq_ok.1 hresolve
      exact ⟨result, hresult, rfl⟩
  | error e =>
      cases refuses_of_resolveReferences hresolve with
      | unresolved hplace href htarget =>
          have hsome := hresolved _ ⟨_, hplace.visits, href⟩
          rw [htarget] at hsome
          cases hsome
      | circular hplace href hstack htarget htargetvalue hmem _ =>
          obtain ⟨-, stack, fields, hback, hsame⟩ := meets_of_mem_recursive htargetvalue hmem
          exact absurd ⟨fields, hback.visits, hsame⟩
            (hacyclic _ _ ⟨_, hplace.visits, href⟩ htarget)

end Reference

open Json Reference

/-- Resolving a value in whose graph every reference has a target and none leads back to itself
gives the expansion of the value, and the objects of the expansion keep their keys and their
identifiers.  Since all texts in it are texts of the document, no identifier is made up. -/
theorem resolveReferences_expands {root node : Json}
    (hresolved : ∀ r, Refers root node r → (target? root r).isSome)
    (hacyclic : ∀ r target, Refers root node r → target? root r = some target →
      ¬ Refers root target r) :
    ∃ copy, resolveReferences root node = .ok copy ∧ Expands root node copy ∧
      (∀ other, Expands root node other → other = copy) ∧
      (∀ copied, Occurs copy (.object copied) →
        ∃ source, Visits root node (.object source) ∧ CopyOf root source copied) ∧
      (∀ source, Visits root node (.object source) → reference? source = none →
        ∃ copied, Occurs copy (.object copied) ∧ CopyOf root source copied) ∧
      ∀ s, Occurs copy (.string s) → Visits root node (.string s) := by
  obtain ⟨result, hresult, hcopy⟩ := exists_inlines_of_acyclic hresolved hacyclic
  obtain ⟨hexpands, -⟩ := hresult.expands (fresh_of_acyclic hacyclic)
  exact ⟨result.value, hcopy, hexpands, fun _ => hexpands.unique, fun _ => hexpands.exists_copyOf,
    fun _ => hexpands.exists_copied, fun _ => hexpands.visits_of_string⟩

namespace Reference

def leaf : Json := .object [(identifierKey, .string "leaf"), ("type", .string "string")]

def twice (value : Json) : Json := .object [("left", value), ("right", value)]

def toLeaf : Json := .object [(referenceKey, .string "#/leaf")]

def toPair : Json := .object [(referenceKey, .string "#/pair")]

def sharing : Json := .object [("pair", twice toLeaf), ("leaf", leaf)]

theorem target?_leaf : target? sharing "#/leaf" = some leaf := rfl

theorem target?_pair : target? sharing "#/pair" = some (twice toLeaf) := rfl

theorem not_refers_leaf {r : String} : ¬ Refers sharing leaf r := by
  intro h
  exact List.not_mem_nil (h.mem_of_closed (by decide) (by simp))

theorem refers_twice {r : String} (h : Refers sharing (twice toLeaf) r) : r = "#/leaf" := by
  refine List.mem_singleton.1 (h.mem_of_closed (by decide) fun q hq target htarget => ?_)
  rw [List.mem_singleton.1 hq, target?_leaf] at htarget
  cases htarget
  decide

theorem refers_toPair {r : String} (h : Refers sharing toPair r) : r = "#/pair" ∨ r = "#/leaf" := by
  refine List.mem_pair.1 (h.mem_of_closed (by decide) fun q hq target htarget => ?_)
  rcases List.mem_pair.1 hq with rfl | rfl
  · rw [target?_pair] at htarget
    cases htarget
    decide
  · rw [target?_leaf] at htarget
    cases htarget
    decide

theorem expands_toPair : Expands sharing toPair (twice leaf) := by
  have hleaf : Expands sharing leaf leaf := by
    refine .object id rfl fun field hfield => ?_
    rcases List.mem_pair.1 hfield with rfl | rfl
    all_goals exact .scalar (by simp) (by simp)
  have htwice : Expands sharing (twice toLeaf) (twice leaf) := by
    refine .object (fun _ => leaf) rfl fun field hfield => ?_
    rcases List.mem_pair.1 hfield with rfl | rfl
    all_goals exact .reference rfl target?_leaf hleaf
  exact .reference rfl target?_pair htwice

/-- A schema that is referred to twice is inlined twice, as it is. -/
theorem resolveReferences_expands_sharing :
    (∀ r, Refers sharing toPair r → (target? sharing r).isSome) ∧
    (∀ r target, Refers sharing toPair r → target? sharing r = some target →
      ¬ Refers sharing target r) ∧
    resolveReferences sharing toPair = .ok (twice leaf) := by
  have hresolved (r : String) (hr : Refers sharing toPair r) : (target? sharing r).isSome := by
    rcases refers_toPair hr with rfl | rfl
    · rw [target?_pair]
      rfl
    · rw [target?_leaf]
      rfl
  have hacyclic (r : String) (target : Json) (hr : Refers sharing toPair r)
      (htarget : target? sharing r = some target) : ¬ Refers sharing target r := by
    rcases refers_toPair hr with rfl | rfl
    · rw [target?_pair] at htarget
      cases htarget
      exact fun hback => absurd (refers_twice hback) (by decide)
    · rw [target?_leaf] at htarget
      cases htarget
      exact not_refers_leaf
  obtain ⟨copy, hcopy, -, hunique, -⟩ := resolveReferences_expands hresolved hacyclic
  rw [hunique _ expands_toPair]
  exact ⟨hresolved, hacyclic, hcopy⟩

end Reference

end ChannelGateway
