import ChannelGateway.Proofs.Document.Refusal
import Mathlib.Logic.Relation
/-!
# Which references are refused

A value is resolved if and only if every reference that is walked to has a target, none stands for
itself through references alone, and each one that is met again inside its target stands for an
object that an identifier can be written in.  Arrays, and objects with nothing but a reference key,
have no room for one.  There a reference is refused as circular although it leads back to itself
through other values.
-/

namespace ChannelGateway

namespace Reference

open Json

variable {root : Json}

/-- The target of a reference is itself a reference. -/
def Aliases (root : Json) (r q : String) : Prop :=
  ∃ fields, target? root r = some (.object fields) ∧ reference? fields = some q

def AliasesItself (root : Json) (r : String) : Prop := Relation.TransGen (Aliases root) r r

/-- A value, other than a reference or a scalar, in whose copy no identifier can be written: an
array, or an object that has a reference key only, and under it no reference. -/
inductive HasNoRoom : Json → Prop
  | array (items : List Json) : HasNoRoom (.array items)
  | object {held : Json} : held.string? = none → HasNoRoom (.object [(referenceKey, held)])

theorem HasNoRoom.reference?_eq_none {fields : Fields} (h : HasNoRoom (.object fields)) :
    reference? fields = none := by
  cases h with
  | object hheld => simpa [reference?] using hheld

/-- A reference is followed and met again inside its target, which stands for a value without room
for an identifier. -/
def MetWithoutRoom (root node : Json) (r : String) : Prop :=
  ∃ stack fields target stack' last, Reaches root [] node stack (.object fields) ∧
    reference? fields = some r ∧ r ∉ stack ∧ target? root r = some target ∧
    Meets root (r :: stack) target r ∧ Follows root (r :: stack) target stack' last ∧ HasNoRoom last

/-! ## What is resolved -/

section Resolved

variable {stack stack' : List String} {value value' node : Json} {result : Resolved} {r : String}

theorem exists_target_of_inlines (h : Inlines root [] node result) (hr : Refers root node r) :
    (target? root r).isSome := by
  obtain ⟨stack, fields, hplace, href⟩ := hr.exists_reaches
  by_cases hstack : r ∈ stack
  · obtain ⟨_, _, target, -, -, -, htarget, -⟩ := hplace.exists_opened hstack List.not_mem_nil
    rw [htarget]
    rfl
  · obtain ⟨result', hresult', -⟩ := hplace.inlines h
    cases hresult' with
    | scalar _ hobject => exact absurd rfl (hobject fields)
    | object _ hnone => rw [href] at hnone; cases hnone
    | retained hsome hmem => rw [href] at hsome; cases hsome; exact absurd hmem hstack
    | inlined hsome _ htarget =>
        rw [href] at hsome
        cases hsome
        rw [htarget]
        rfl

theorem Follows.stampable (h : Follows root stack value stack' value')
    (hresult : Inlines root stack value result) (hstamp : Stampable result.value) :
    ∃ result', Inlines root stack' value' result' ∧ Stampable result'.value := by
  induction h generalizing result with
  | refl => exact ⟨result, hresult, hstamp⟩
  | target href hstack htarget _ ih =>
      obtain ⟨resolved, hresolved, hcomplete⟩ := hresult.of_target href hstack htarget
      apply ih hresolved
      rcases complete_eq_ok hcomplete with ⟨-, rfl⟩ | ⟨-, fields, hfields, hbare, -⟩
      · exact hstamp
      · exact ⟨fields, hfields, hbare⟩

theorem HasNoRoom.not_stampable (h : HasNoRoom value) (hresult : Inlines root stack value result) :
    ¬ Stampable result.value := by
  intro hstamp
  cases h with
  | array =>
      obtain ⟨inner, -, rfl⟩ := hresult.of_array
      obtain ⟨fields, hfields, -⟩ := hstamp
      cases hfields
  | object hheld =>
      obtain ⟨inner, -, rfl⟩ := hresult.of_object (HasNoRoom.object hheld).reference?_eq_none
      exact stampable_object.1 hstamp _ rfl

theorem not_metWithoutRoom_of_inlines (h : Inlines root [] node result) :
    ¬ MetWithoutRoom root node r := by
  rintro ⟨stack, fields, target, stack', last, hplace, href, hstack, htarget, hmeets,
    hfollows, hroom⟩
  obtain ⟨result', hresult', -⟩ := hplace.inlines h
  obtain ⟨resolved, hresolved, hcomplete⟩ := hresult'.of_target href hstack htarget
  have hmem := mem_recursive_of_meets hresolved List.mem_cons_self hmeets
  obtain ⟨inner, hinner, hstamp⟩ :=
    hfollows.stampable hresolved (stampable_of_complete hcomplete hmem)
  exact hroom.not_stampable hinner hstamp

theorem AliasesItself.exists_next (h : AliasesItself root r) :
    ∃ q, Aliases root r q ∧ AliasesItself root q := by
  obtain ⟨q, hq, hback⟩ := Relation.TransGen.head'_iff.1 h
  exact ⟨q, hq, .tail' hback hq⟩

/-- A reference that stands for itself comes out as one whose target is being inlined and which
stands for itself too. -/
theorem Inlines.retained_of_aliasesItself {fields : Fields}
    (h : Inlines root stack (.object fields) result) (href : reference? fields = some r)
    (hcycle : AliasesItself root r) :
    ∃ q ∈ stack, AliasesItself root q ∧
      result = ⟨.object [(referenceKey, .string (identifier q))], [q]⟩ := by
  generalize hvalue : Json.object fields = value at h
  induction h generalizing fields r with
  | scalar _ hobject => exact absurd hvalue.symm (hobject fields)
  | array => cases hvalue
  | object _ hnone =>
      cases hvalue
      rw [href] at hnone
      cases hnone
  | retained hsome hstack =>
      cases hvalue
      obtain rfl := Option.some.inj (hsome.symm.trans href)
      exact ⟨_, hstack, hcycle, rfl⟩
  | @inlined _ _ p _ _ _ hsome hstack htarget _ hcomplete ih =>
      cases hvalue
      obtain rfl := Option.some.inj (hsome.symm.trans href)
      obtain ⟨next, ⟨aliased, haliased, hnext⟩, hcycle'⟩ := hcycle.exists_next
      cases haliased.symm.trans htarget
      obtain ⟨q, hq, hcycleq, rfl⟩ := ih hnext hcycle' rfl
      -- The copy of the target is a bare reference.  It is not the one that is being completed,
      -- since a bare reference cannot be stamped.
      rcases complete_eq_ok hcomplete with ⟨hnot, rfl⟩ | ⟨hmem, -⟩
      · have hne : q ≠ p := fun heq => hnot (List.mem_singleton.2 heq.symm)
        exact ⟨q, (List.mem_cons.1 hq).resolve_left hne, hcycleq, rfl⟩
      · exact absurd rfl (stampable_object.1 (stampable_of_complete hcomplete hmem) _)

/-- Where a reference stood for itself, one below it on the stack would, and so on without end. -/
theorem not_aliasesItself_of_inlines (h : Inlines root [] node result) {fields : Fields}
    (hplace : Reaches root [] node stack (.object fields)) (href : reference? fields = some r) :
    ¬ AliasesItself root r := by
  intro hcycle
  -- By descent on the length of the stack: it was shorter where the other reference was followed.
  induction hn : stack.length using Nat.strongRecOn generalizing stack fields r with
  | ind n ih =>
    obtain ⟨result', hresult', -⟩ := hplace.inlines h
    obtain ⟨q, hq, hcycleq, -⟩ := hresult'.retained_of_aliasesItself href hcycle
    obtain ⟨opened, fields', target, hopened, href', -, -, hback⟩ :=
      hplace.exists_opened hq List.not_mem_nil
    have hlength : opened.length < stack.length :=
      Nat.lt_of_succ_le hback.suffix.length_le
    exact ih opened.length (hn ▸ hlength) hopened href' hcycleq rfl

end Resolved

/-! ## What is refused -/

section Refused

variable {stack stack' : List String} {value node : Json} {result : Resolved} {r q : String}

/-- A copy that cannot be stamped, and in which a reference is pending, is that of a value without
room for an identifier or of that reference. -/
theorem follows_of_not_stampable (h : Inlines root stack value result) (hr : r ∈ result.recursive)
    (hstamp : ¬ Stampable result.value) :
    (∃ stack' last, Follows root stack value stack' last ∧ HasNoRoom last) ∨
      ∃ stack' fields, Follows root stack value stack' (.object fields) ∧
        reference? fields = some r := by
  induction h with
  | scalar => cases hr
  | array => exact Or.inl ⟨_, _, .refl _ _, .array _⟩
  | @object stack fields inner href _ _ =>
      refine Or.inl ⟨stack, .object fields, .refl _ _, ?_⟩
      -- The copy has the keys of the object, so the reference key is the only one of both.
      rw [stampable_object] at hstamp
      push Not at hstamp
      obtain ⟨copied, hcopied⟩ := hstamp
      obtain ⟨⟨key, held⟩, rfl, heq⟩ := List.map_eq_singleton_iff.1 hcopied
      obtain ⟨rfl, -⟩ := Prod.mk.inj heq
      exact .object (by simpa [reference?] using href)
  | retained href _ =>
      cases List.mem_singleton.1 hr
      exact Or.inr ⟨_, _, .refl _ _, href⟩
  | inlined href hstack htarget _ hcomplete ih =>
      rcases complete_eq_ok hcomplete with ⟨-, rfl⟩ | ⟨-, copied, -, -, rfl⟩
      · rcases ih hr hstamp with ⟨stack', last, hfollows, hroom⟩ | ⟨stack', inner, hfollows, href'⟩
        · exact Or.inl ⟨stack', last, .target href hstack htarget hfollows, hroom⟩
        · exact Or.inr ⟨stack', inner, .target href hstack htarget hfollows, href'⟩
      · exact absurd (stampable_insert_identifierKey _ _) hstamp

/-- What the target of a reference stands for is at the end of a chain of references. -/
theorem Follows.aliases {fields : Fields} (h : Follows root stack value stack' (.object fields))
    (href : reference? fields = some q) (htarget : target? root r = some value) :
    Relation.TransGen (Aliases root) r q := by
  generalize hend : Json.object fields = last at h
  induction h generalizing r with
  | refl =>
      cases hend
      exact .single ⟨fields, htarget, href⟩
  | target hsome _ htarget' _ ih => exact .head ⟨_, htarget, hsome⟩ (ih htarget' hend)

theorem Refuses.of_unresolved (h : Refuses root [] node (.unresolved r)) :
    Refers root node r ∧ target? root r = none := by
  cases h with
  | unresolved hplace href htarget => exact ⟨⟨_, hplace.visits, href⟩, htarget⟩

theorem Refuses.of_circular (h : Refuses root [] node (.circular r)) :
    Refers root node r ∧ (AliasesItself root r ∨ MetWithoutRoom root node r) := by
  cases h with
  | circular hplace href hstack htarget hresolved hmem hstamp =>
      refine ⟨⟨_, hplace.visits, href⟩, ?_⟩
      rcases follows_of_not_stampable hresolved hmem hstamp with
        ⟨stack', last, hfollows, hroom⟩ | ⟨stack', inner, hfollows, href'⟩
      · obtain ⟨-, hmeets⟩ := meets_of_mem_recursive hresolved hmem
        exact Or.inr ⟨_, _, _, stack', last, hplace, href, hstack, htarget, hmeets, hfollows, hroom⟩
      · exact Or.inl (hfollows.aliases href' htarget)

end Refused

end Reference

open Reference

/-- A value is resolved exactly if every reference that is walked to is a pointer to a value of the
document and does not stand for itself, and none is met again inside a target in which no
identifier can be written.  A failure names a reference that breaks this. -/
theorem resolveReferences_refuses (root node : Json) :
    ((∃ copy, resolveReferences root node = .ok copy) ↔
      (∀ r, Refers root node r → (target? root r).isSome ∧ ¬ AliasesItself root r) ∧
        ∀ r, ¬ MetWithoutRoom root node r) ∧
    (∀ r, resolveReferences root node = .error (.unresolved r) →
      Refers root node r ∧ target? root r = none) ∧
    ∀ r, resolveReferences root node = .error (.circular r) →
      Refers root node r ∧ (AliasesItself root r ∨ MetWithoutRoom root node r) := by
  refine ⟨⟨?_, ?_⟩, fun r h => (refuses_of_resolveReferences h).of_unresolved,
    fun r h => (refuses_of_resolveReferences h).of_circular⟩
  · rintro ⟨copy, hcopy⟩
    obtain ⟨result, hresult, -⟩ := resolveReferences_eq_ok.1 hcopy
    refine ⟨fun r hr => ⟨exists_target_of_inlines hresult hr, ?_⟩,
      fun r => not_metWithoutRoom_of_inlines hresult⟩
    obtain ⟨stack, fields, hplace, href⟩ := hr.exists_reaches
    exact not_aliasesItself_of_inlines hresult hplace href
  · rintro ⟨hgood, hroom⟩
    cases h : resolveReferences root node with
    | ok copy => exact ⟨copy, rfl⟩
    | error e =>
        have hrefuses := refuses_of_resolveReferences h
        cases e with
        | unresolved r =>
            obtain ⟨hr, hnone⟩ := hrefuses.of_unresolved
            have hsome := (hgood r hr).1
            rw [hnone] at hsome
            cases hsome
        | circular r =>
            obtain ⟨hr, hcycle | hmet⟩ := hrefuses.of_circular
            · exact absurd hcycle (hgood r hr).2
            · exact absurd hmet (hroom r)

namespace Reference

open Json

/-- A reference that leads back to itself through a value without room for an identifier is
circular, though it is neither without a target nor does it stand for itself. -/
theorem resolveReferences_eq_circular {root target : Json} {fields : Fields} {r : String}
    (href : reference? fields = some r) (hfields : (Json.object fields).references ⊆ [r])
    (htarget : target? root r = some target) (hclosed : target.references ⊆ [r])
    (hmeets : Meets root [r] target r) (hroom : HasNoRoom target) :
    (∀ q, Refers root (.object fields) q → (target? root q).isSome ∧ ¬ AliasesItself root q) ∧
      resolveReferences root (.object fields) = .error (.circular r) := by
  have honly (q : String) (hq : Refers root (.object fields) q) : q = r := by
    refine List.mem_singleton.1 (hq.mem_of_closed hfields fun p hp target' htarget' => ?_)
    rw [List.mem_singleton.1 hp] at htarget'
    cases htarget.symm.trans htarget'
    exact hclosed
  have hplain : ¬ AliasesItself root r := by
    intro hcycle
    obtain ⟨q, ⟨aliased, haliased, hq⟩, -⟩ := hcycle.exists_next
    cases htarget.symm.trans haliased
    rw [hroom.reference?_eq_none] at hq
    cases hq
  refine ⟨fun q hq => ?_, ?_⟩
  · rw [honly q hq, htarget]
    exact ⟨rfl, hplain⟩
  cases h : resolveReferences root (.object fields) with
  | ok copy =>
      obtain ⟨result, hresult, -⟩ := resolveReferences_eq_ok.1 h
      refine absurd ?_ (not_metWithoutRoom_of_inlines (r := r) hresult)
      exact ⟨[], fields, target, [r], target, .refl _ _, href, List.not_mem_nil, htarget, hmeets,
        .refl _ _, hroom⟩
  | error e =>
      have hrefuses := refuses_of_resolveReferences h
      cases e with
      | unresolved q =>
          obtain ⟨hq, hnone⟩ := hrefuses.of_unresolved
          rw [honly q hq, htarget] at hnone
          cases hnone
      | circular q =>
          obtain ⟨hq, -⟩ := hrefuses.of_circular
          rw [honly q hq]

/-- A document with an array, and with an object that has a reference key only, which refer to
themselves through the objects in them. -/
def nested : Json := .object
  [("x-nodes", .array [.object [("children", .object [(referenceKey, .string "#/x-nodes")])]]),
    ("x-names",
      .object [(referenceKey, .object [("next", .object [(referenceKey, .string "#/x-names")])])])]

theorem meets_nodes : Meets nested ["#/x-nodes"]
    (.array [.object [("children", .object [(referenceKey, .string "#/x-nodes")])]]) "#/x-nodes" :=
  ⟨_, _, .item List.mem_cons_self (.field rfl List.mem_cons_self (.refl _ _)), rfl⟩

theorem meets_names : Meets nested ["#/x-names"]
    (.object [(referenceKey, .object [("next", .object [(referenceKey, .string "#/x-names")])])])
    "#/x-names" :=
  ⟨_, _, .field rfl List.mem_cons_self (.field rfl List.mem_cons_self (.refl _ _)), rfl⟩

/-- References with an object in between are refused as circular. -/
theorem circular_through_objects :
    ((∀ r, Refers nested (.object [(referenceKey, .string "#/x-nodes")]) r →
        (target? nested r).isSome ∧ ¬ AliasesItself nested r) ∧
      resolveReferences nested (.object [(referenceKey, .string "#/x-nodes")]) =
        .error (.circular "#/x-nodes")) ∧
    (∀ r, Refers nested (.object [(referenceKey, .string "#/x-names")]) r →
        (target? nested r).isSome ∧ ¬ AliasesItself nested r) ∧
      resolveReferences nested (.object [(referenceKey, .string "#/x-names")]) =
        .error (.circular "#/x-names") := by
  constructor
  · exact resolveReferences_eq_circular rfl (by decide) rfl (by decide) meets_nodes (.array _)
  · exact resolveReferences_eq_circular rfl (by decide) rfl (by decide) meets_names (.object rfl)

end Reference

end ChannelGateway
