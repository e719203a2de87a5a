import ChannelGateway.Proofs.Document.Distinct
/-!
# Parts of inlined values

What a resolved value holds under some keys is the resolved copy of what the value itself leads to
by these keys, where every value on the way is taken for what it stands for.
-/

namespace ChannelGateway.Reference

open Json

variable {root : Json} {stack stack' : List String} {value part : Json} {result : Resolved}
  {key : String} {keys : List String}

/-- A value stands for an object that holds another value under a key. -/
def Selects (root : Json) (stack : List String) (value : Json) (key : String) (stack' : List String)
    (part : Json) : Prop :=
  ∃ fields, Follows root stack value stack' (.object fields) ∧ reference? fields = none ∧
    fields.lookup key = some part

/-- A value leads to another one by some keys. -/
inductive Leads (root : Json) : List String → Json → List String → List String → Json → Prop
  | nil (stack : List String) (value : Json) : Leads root stack value [] stack value
  | cons {stack stack' stack'' : List String} {value inner part : Json} {key : String}
      {keys : List String} : Selects root stack value key stack' inner →
      Leads root stack' inner keys stack'' part → Leads root stack value (key :: keys) stack'' part

theorem Selects.of_object {fields : Fields}
    (h : Selects root stack (.object fields) key stack' part) (href : reference? fields = none) :
    stack' = stack ∧ fields.lookup key = some part := by
  obtain ⟨inner, hfollows, -, hpart⟩ := h
  cases hfollows with
  | refl => exact ⟨rfl, hpart⟩
  | target hsome => cases href.symm.trans hsome

theorem get?_of_complete {r : String} {target : Resolved} (h : complete r target = .ok result)
    (hidentifier : key ≠ identifierKey) : result.value.get? key = target.value.get? key := by
  rcases complete_eq_ok h with ⟨-, rfl⟩ | ⟨-, fields, hfields, -, rfl⟩
  · rfl
  · rw [hfields]
    exact Fields.lookup_insert_of_ne hidentifier _ fields

/-- A field of a resolved value is the copy of what the value selects. -/
theorem Inlines.selects {copy : Json} (h : Inlines root stack value result)
    (hcopy : result.value.get? key = some copy) (hreference : key ≠ referenceKey)
    (hidentifier : key ≠ identifierKey) :
    ∃ stack' part inner, Selects root stack value key stack' part ∧
      Inlines root stack' part inner ∧ inner.value = copy := by
  induction h with
  | @scalar stack value _ hobject =>
      cases value with
      | object fields => exact absurd rfl (hobject fields)
      | _ => cases hcopy
  | array => cases hcopy
  | @object stack fields inner href hinner _ =>
      have hlookup : (fields.lookup key).map (fun value => (inner value).value) = some copy := by
        rw [← Fields.lookup_map]
        exact hcopy
      obtain ⟨part, hpart, heq⟩ := Option.map_eq_some_iff.1 hlookup
      exact ⟨stack, part, inner part, ⟨fields, .refl _ _, href, hpart⟩,
        hinner _ (Fields.mem_of_lookup hpart), heq⟩
  | retained =>
      have hkey : (key == referenceKey) = false := by simpa using hreference
      simp [get?, List.lookup_cons, hkey] at hcopy
  | inlined href hstack htarget _ hcomplete ih =>
      rw [get?_of_complete hcomplete hidentifier] at hcopy
      obtain ⟨stack', part, inner, ⟨fields, hfollows, hselected⟩, hinner⟩ := ih hcopy
      exact ⟨stack', part, inner, ⟨fields, .target href hstack htarget hfollows, hselected⟩, hinner⟩

theorem Selects.inlines (h : Selects root stack value key stack' part)
    (hidentifier : key ≠ identifierKey) (hresult : Inlines root stack value result) :
    ∃ inner, Inlines root stack' part inner ∧ result.value.get? key = some inner.value := by
  obtain ⟨fields, hfollows, href, hpart⟩ := h
  generalize hend : Json.object fields = last at hfollows
  induction hfollows generalizing result with
  | refl =>
      cases hend
      obtain ⟨inner, hinner, rfl⟩ := hresult.of_object href
      refine ⟨inner part, hinner _ (Fields.mem_of_lookup hpart), ?_⟩
      have hlookup := Fields.lookup_map (fun value => (inner value).value) key fields
      rw [hpart] at hlookup
      exact hlookup
  | target hsome hstack htarget _ ih =>
      obtain ⟨resolved, hresolved, hcomplete⟩ := hresult.of_target hsome hstack htarget
      rw [get?_of_complete hcomplete hidentifier]
      exact ih hresolved hend

/-- What a resolved value holds under some keys is the copy of what the value leads to. -/
theorem Inlines.leads {copy : Json} (h : Inlines root stack value result)
    (hcopy : keys.foldlM get? result.value = some copy)
    (hkeys : ∀ key ∈ keys, key ≠ referenceKey ∧ key ≠ identifierKey) :
    ∃ stack' part inner, Leads root stack value keys stack' part ∧
      Inlines root stack' part inner ∧ inner.value = copy := by
  induction keys generalizing stack value result with
  | nil => exact ⟨stack, value, result, .nil _ _, h, Option.some.inj hcopy⟩
  | cons key rest ih =>
      obtain ⟨⟨hreference, hidentifier⟩, hrest⟩ := List.forall_mem_cons.1 hkeys
      rw [List.foldlM_cons] at hcopy
      obtain ⟨next, hnext, hcopy⟩ := Option.bind_eq_some_iff.1 hcopy
      obtain ⟨stack', part, inner, hselects, hinner, rfl⟩ := h.selects hnext hreference hidentifier
      obtain ⟨stack'', part', inner', hleads, hinner'⟩ := ih hinner hcopy hrest
      exact ⟨stack'', part', inner', .cons hselects hleads, hinner'⟩

theorem Leads.inlines (h : Leads root stack value keys stack' part)
    (hkeys : ∀ key ∈ keys, key ≠ identifierKey) (hresult : Inlines root stack value result) :
    ∃ inner, Inlines root stack' part inner ∧ keys.foldlM get? result.value = some inner.value := by
  induction h generalizing result with
  | nil => exact ⟨result, hresult, rfl⟩
  | cons hselects _ ih =>
      obtain ⟨hidentifier, hrest⟩ := List.forall_mem_cons.1 hkeys
      obtain ⟨next, hnext, hget⟩ := hselects.inlines hidentifier hresult
      obtain ⟨inner, hinner, hfold⟩ := ih hrest hnext
      refine ⟨inner, hinner, ?_⟩
      rw [List.foldlM_cons, hget]
      exact hfold

theorem Leads.occurs (h : Leads root stack value keys stack' part) (hvalue : Occurs root value) :
    Occurs root part := by
  induction h with
  | nil => exact hvalue
  | cons hselects _ ih =>
      obtain ⟨fields, hfollows, -, hpart⟩ := hselects
      apply ih
      exact (hfollows.reaches.occurs hvalue).trans (.field (Fields.mem_of_lookup hpart) (.refl _))

end ChannelGateway.Reference
