import ChannelGateway.Proofs.Document.Enclosure
/-!
# How references are inlined

Resolving a value as a relation: which value and which pending references a value comes out
as, under a stack of references whose targets are being inlined.  Beside it stand the places
that resolving a value gets to.  A pending reference is recorded if and only if resolving gets
to it again.
-/

namespace ChannelGateway.Reference

open Json

variable {root : Json}

/-- Resolving a value under a stack gives a result. -/
inductive Inlines (root : Json) : List String → Json → Resolved → Prop
  | scalar {stack : List String} {value : Json} : (∀ items, value ≠ .array items) →
      (∀ fields, value ≠ .object fields) → Inlines root stack value ⟨value, []⟩
  | array {stack : List String} {items : List Json} (result : Json → Resolved) :
      (∀ item ∈ items, Inlines root stack item (result item)) →
      Inlines root stack (.array items)
        ⟨.array (items.map fun item => (result item).value),
          items.flatMap fun item => (result item).recursive⟩
  | object {stack : List String} {fields : Fields} (result : Json → Resolved) :
      reference? fields = none → (∀ field ∈ fields, Inlines root stack field.2 (result field.2)) →
      Inlines root stack (.object fields)
        ⟨.object (fields.map fun field => (field.1, (result field.2).value)),
          fields.flatMap fun field => (result field.2).recursive⟩
  | retained {stack : List String} {fields : Fields} {r : String} : reference? fields = some r →
      r ∈ stack →
      Inlines root stack (.object fields) ⟨.object [(referenceKey, .string (identifier r))], [r]⟩
  | inlined {stack : List String} {fields : Fields} {r : String} {target : Json}
      {resolved result : Resolved} : reference? fields = some r → r ∉ stack →
      target? root r = some target → Inlines root (r :: stack) target resolved →
      complete r resolved = .ok result → Inlines root stack (.object fields) result

/-- A completed target is the target as it is, or stamped if its reference was met inside it. -/
theorem complete_eq_ok {r : String} {target result : Resolved}
    (h : complete r target = .ok result) :
    (r ∉ target.recursive ∧ result = target) ∨
      r ∈ target.recursive ∧ ∃ fields, target.value = .object fields ∧ isBare fields = false ∧
        result = ⟨.object (Fields.insert identifierKey (.string (identifier r)) fields),
          target.recursive.filter (· ≠ r)⟩ := by
  rw [complete] at h
  split at h
  · next hmem =>
      right
      split at h
      · next value hvalue =>
          unfold stamp? at hvalue
          split at hvalue
          · next fields heq =>
              split at hvalue
              · cases hvalue
              · next hbare =>
                  cases hvalue
                  cases h
                  exact ⟨hmem, fields, heq, by simpa using hbare, rfl⟩
          · cases hvalue
      · cases h
  · next hmem =>
      cases h
      exact Or.inl ⟨hmem, rfl⟩

section Resolve

variable (known : List String) (hroot : root.references ⊆ known)

/-- What resolving a value under a stack gives; nothing of interest where it fails. -/
noncomputable def outcome (root : Json) (known : List String) (hroot : root.references ⊆ known)
    (stack : List String) (value : Json) : Resolved :=
  open Classical in
  if h : value.references ⊆ known then
    match resolve root known hroot stack value h with
    | .ok result => result
    | .error _ => ⟨.null, []⟩
  else ⟨.null, []⟩

variable {known} {hroot}

theorem outcome_of_ok {stack : List String} {value : Json} {hvalue : value.references ⊆ known}
    {result : Resolved} (h : resolve root known hroot stack value hvalue = .ok result) :
    outcome root known hroot stack value = result := by
  rw [outcome, dif_pos hvalue, h]

end Resolve

mutual

theorem inlines_of_resolve {known : List String} {hroot : root.references ⊆ known}
    {stack : List String} {value : Json} {hvalue : value.references ⊆ known} {result : Resolved}
    (h : resolve root known hroot stack value hvalue = .ok result) :
    Inlines root stack value result := by
  cases value with
  | object fields =>
      rw [resolve] at h
      split at h
      · next r href => exact inlines_of_resolveReference href h
      · next href =>
          split at h
          · next values recursive hfields =>
              cases h
              obtain ⟨rfl, rfl, hinlines⟩ := inlines_of_resolveFields hfields
              exact .object _ href hinlines
          · cases h
  | array items =>
      rw [resolve] at h
      split at h
      · next values recursive hitems =>
          cases h
          obtain ⟨rfl, rfl, hinlines⟩ := inlines_of_resolveItems hitems
          exact .array _ hinlines
      · cases h
  | null | bool | number | string =>
      rw [resolve] at h
      · cases h
        exact .scalar (by simp) (by simp)
      all_goals simp
termination_by (pending known stack, sizeOf value)

theorem inlines_of_resolveReference {known : List String} {hroot : root.references ⊆ known}
    {stack : List String} {r : String} {hr : r ∈ known} {result : Resolved} {fields : Fields}
    (href : reference? fields = some r)
    (h : resolveReference root known hroot stack r hr = .ok result) :
    Inlines root stack (.object fields) result := by
  rw [resolveReference] at h
  split at h
  · cases h
  · next pointer hpointer =>
      split at h
      · next hstack =>
          cases h
          exact .retained href hstack
      · next hstack =>
          split at h
          · cases h
          · next target hlookup =>
              split at h
              · next resolved hresolved =>
                  have htarget : target? root r = some target := by
                    rw [target?, hpointer, Option.bind_some, hlookup]
                  exact .inlined href hstack htarget (inlines_of_resolve hresolved) h
              · cases h
termination_by (pending known stack, 0)
decreasing_by
  exact Prod.Lex.left _ _ (pending_cons_lt ‹r ∈ known› ‹r ∉ stack›)

theorem inlines_of_resolveItems {known : List String} {hroot : root.references ⊆ known}
    {stack : List String} {items : List Json} {hitems : referencesOfItems items ⊆ known}
    {values : List Json} {recursive : List String}
    (h : resolveItems root known hroot stack items hitems = .ok (values, recursive)) :
    values = items.map (fun item => (outcome root known hroot stack item).value) ∧
    recursive = items.flatMap (fun item => (outcome root known hroot stack item).recursive) ∧
    ∀ item ∈ items, Inlines root stack item (outcome root known hroot stack item) := by
  cases items with
  | nil =>
      rw [resolveItems] at h
      cases h
      simp
  | cons item rest =>
      rw [resolveItems] at h
      split at h
      · cases h
      · next first hfirst =>
          split at h
          · cases h
          · next others hothers =>
              cases h
              obtain ⟨rfl, rfl, hinlines⟩ := inlines_of_resolveItems hothers
              have houtcome := outcome_of_ok hfirst
              refine ⟨by rw [List.map_cons, houtcome], by rw [List.flatMap_cons, houtcome], ?_⟩
              rw [List.forall_mem_cons, houtcome]
              exact ⟨inlines_of_resolve hfirst, hinlines⟩
termination_by (pending known stack, sizeOf items)

theorem inlines_of_resolveFields {known : List String} {hroot : root.references ⊆ known}
    {stack : List String} {fields : List (String × Json)}
    {hfields : referencesOfFields fields ⊆ known} {values : List (String × Json)}
    {recursive : List String}
    (h : resolveFields root known hroot stack fields hfields = .ok (values, recursive)) :
    values = fields.map (fun field => (field.1, (outcome root known hroot stack field.2).value)) ∧
    recursive = fields.flatMap (fun field => (outcome root known hroot stack field.2).recursive) ∧
    ∀ field ∈ fields, Inlines root stack field.2 (outcome root known hroot stack field.2) := by
  match fields, hfields, h with
  | [], _, h =>
      rw [resolveFields] at h
      cases h
      simp
  | (key, value) :: rest, _, h =>
      rw [resolveFields] at h
      split at h
      · cases h
      · next first hfirst =>
          split at h
          · cases h
          · next others hothers =>
              cases h
              obtain ⟨rfl, rfl, hinlines⟩ := inlines_of_resolveFields hothers
              have houtcome := outcome_of_ok hfirst
              refine ⟨by rw [List.map_cons, houtcome], by rw [List.flatMap_cons, houtcome], ?_⟩
              rw [List.forall_mem_cons, houtcome]
              exact ⟨inlines_of_resolve hfirst, hinlines⟩
termination_by (pending known stack, sizeOf fields)

end

/-! ## The relation is what resolving computes -/

section Complete

variable {known : List String} {hroot : root.references ⊆ known} {stack : List String} {r : String}

theorem resolveReference_of_mem {hr : r ∈ known} (hpointer : (pointer? r).isSome)
    (hstack : r ∈ stack) :
    resolveReference root known hroot stack r hr =
      .ok ⟨.object [(referenceKey, .string (identifier r))], [r]⟩ := by
  rw [resolveReference]
  split
  · next hnone =>
      rw [hnone] at hpointer
      cases hpointer
  · rw [dif_pos hstack]

theorem resolveReference_of_not_mem {hr : r ∈ known} {target : Json} {resolved : Resolved}
    (hstack : r ∉ stack) (htarget : target? root r = some target)
    (h : ∀ hvalue, resolve root known hroot (r :: stack) target hvalue = .ok resolved) :
    resolveReference root known hroot stack r hr = complete r resolved := by
  obtain ⟨pointer, hpointer, hlookup⟩ := Option.bind_eq_some_iff.1 htarget
  rw [resolveReference]
  split
  · next hnone =>
      rw [hnone] at hpointer
      cases hpointer
  · next pointer' hpointer' =>
      cases hpointer.symm.trans hpointer'
      rw [dif_neg hstack]
      split
      · next hnone => cases hlookup.symm.trans hnone
      · next target' hlookup' =>
          cases hlookup.symm.trans hlookup'
          split
          · next hok =>
              cases (h _).symm.trans hok
              rfl
          · next herror => cases (h _).symm.trans herror

theorem resolveItems_eq_ok {items : List Json} {hitems : referencesOfItems items ⊆ known}
    (result : Json → Resolved)
    (h : ∀ item ∈ items, ∀ hitem, resolve root known hroot stack item hitem = .ok (result item)) :
    resolveItems root known hroot stack items hitems =
      .ok (items.map fun item => (result item).value,
        items.flatMap fun item => (result item).recursive) := by
  induction items with
  | nil => rw [resolveItems, List.map_nil, List.flatMap_nil]
  | cons item rest ih =>
      obtain ⟨hfirst, hrest⟩ := List.forall_mem_cons.1 h
      rw [resolveItems]
      split
      · next herror => cases (hfirst _).symm.trans herror
      · next first hok =>
          cases (hfirst _).symm.trans hok
          split
          · next herror => cases (ih hrest).symm.trans herror
          · next values recursive hok =>
              cases (ih hrest).symm.trans hok
              rfl

theorem resolveFields_eq_ok {fields : List (String × Json)}
    {hfields : referencesOfFields fields ⊆ known} (result : Json → Resolved)
    (h : ∀ field ∈ fields, ∀ hfield, resolve root known hroot stack field.2 hfield =
      .ok (result field.2)) :
    resolveFields root known hroot stack fields hfields =
      .ok (fields.map fun field => (field.1, (result field.2).value),
        fields.flatMap fun field => (result field.2).recursive) := by
  induction fields with
  | nil => rw [resolveFields, List.map_nil, List.flatMap_nil]
  | cons field rest ih =>
      obtain ⟨hfirst, hrest⟩ := List.forall_mem_cons.1 h
      rw [resolveFields]
      split
      · next herror => cases (hfirst _).symm.trans herror
      · next first hok =>
          cases (hfirst _).symm.trans hok
          split
          · next herror => cases (ih hrest).symm.trans herror
          · next values recursive hok =>
              cases (ih hrest).symm.trans hok
              rfl

/-- Under a stack of pointers into the document, a value is resolved to what the relation says. -/
theorem resolve_of_inlines {value : Json} {result : Resolved} (h : Inlines root stack value result)
    (hpointers : ∀ r ∈ stack, (pointer? r).isSome) (hvalue : value.references ⊆ known) :
    resolve root known hroot stack value hvalue = .ok result := by
  induction h with
  | @scalar stack value harray hobject =>
      cases value with
      | array items => exact absurd rfl (harray items)
      | object fields => exact absurd rfl (hobject fields)
      | null | bool | number | string =>
          rw [resolve]
          all_goals simp
  | array result _ ih =>
      rw [resolve, resolveItems_eq_ok result fun item hitem => ih item hitem hpointers]
  | object result href _ ih =>
      rw [resolve]
      split
      · next hsome =>
          rw [href] at hsome
          cases hsome
      · rw [resolveFields_eq_ok result fun field hfield => ih field hfield hpointers]
  | retained href hstack =>
      rw [resolve]
      split
      · next hsome =>
          cases href.symm.trans hsome
          exact resolveReference_of_mem (hpointers _ hstack) hstack
      · next hnone => cases href.symm.trans hnone
  | @inlined _ _ r _ _ _ href hstack htarget _ hcomplete ih =>
      -- A reference gets on the stack only after its target was found, so it is a pointer.
      have hpointer : (pointer? r).isSome := by
        obtain ⟨pointer, hpointer, -⟩ := Option.bind_eq_some_iff.1 htarget
        rw [hpointer]
        rfl
      rw [resolve]
      split
      · next hsome =>
          cases href.symm.trans hsome
          rw [resolveReference_of_not_mem hstack htarget fun hvalue =>
            ih (List.forall_mem_cons.2 ⟨hpointer, hpointers⟩) hvalue, hcomplete]
      · next hnone => cases href.symm.trans hnone

end Complete

/-- A value is resolved to a copy if and only if the relation gives that copy. -/
theorem resolveReferences_eq_ok {node value : Json} :
    resolveReferences root node = .ok value ↔
      ∃ result, Inlines root [] node result ∧ result.value = value := by
  constructor
  · intro h
    rw [resolveReferences] at h
    cases hresolve :
      resolve root (root.references ++ node.references) (List.subset_append_left ..) []
        node (List.subset_append_right ..) with
    | error e =>
        rw [hresolve] at h
        cases h
    | ok result =>
        rw [hresolve] at h
        exact ⟨result, inlines_of_resolve hresolve, Except.ok.inj h⟩
  · rintro ⟨result, hresult, rfl⟩
    rw [resolveReferences, resolve_of_inlines hresult (by simp)]
    rfl

theorem references_subset_of_mem_fields {field : String × Json} {fields : Fields}
    (h : field ∈ fields) :
    field.2.references ⊆ referencesOfFields fields := by
  induction fields with
  | nil => cases h
  | cons first rest ih =>
      rw [referencesOfFields]
      rcases List.mem_cons.1 h with rfl | h
      · exact List.subset_append_of_subset_left _ (List.subset_append_right ..)
      · exact List.subset_append_of_subset_right _ (ih h)

theorem inlines_self {stack : List String} {value : Json} (h : value.references = []) :
    Inlines root stack value ⟨value, []⟩ := by
  match value with
  | .array items =>
      rw [references] at h
      have hitems (item : Json) (hmem : item ∈ items) : Inlines root stack item ⟨item, []⟩ :=
        inlines_self (List.eq_nil_of_subset_nil (h ▸ references_subset_of_mem_items hmem))
      have hnone : items.flatMap (fun _ => ([] : List String)) = [] :=
        List.flatMap_eq_nil_iff.2 fun _ _ => rfl
      simpa [hnone] using Inlines.array (fun item => ⟨item, []⟩) hitems
  | .object fields =>
      rw [references] at h
      have href : reference? fields = none := by
        cases href : reference? fields with
        | none => rfl
        | some r => exact absurd (mem_references_of_reference? href) (by simp [h])
      have hfields (field : String × Json) (hmem : field ∈ fields) :
          Inlines root stack field.2 ⟨field.2, []⟩ :=
        inlines_self (List.eq_nil_of_subset_nil (h ▸ references_subset_of_mem_fields hmem))
      have hnone : fields.flatMap (fun _ => ([] : List String)) = [] :=
        List.flatMap_eq_nil_iff.2 fun _ _ => rfl
      simpa [hnone] using Inlines.object (fun value => ⟨value, []⟩) href hfields
  | .null | .bool _ | .number _ | .string _ => exact .scalar (by simp) (by simp)
termination_by sizeOf value
decreasing_by
  · have := List.sizeOf_lt_of_mem hmem
    simp only [Json.array.sizeOf_spec]
    omega
  · have hlt := List.sizeOf_lt_of_mem hmem
    obtain ⟨name, value⟩ := field
    simp only [Prod.mk.sizeOf_spec, Json.object.sizeOf_spec] at hlt ⊢
    omega

theorem resolveReferences_self {node : Json} (h : node.references = []) :
    resolveReferences root node = .ok node :=
  resolveReferences_eq_ok.2 ⟨_, inlines_self h, rfl⟩

/-! ## Places -/

/-- Resolving a value under a stack gets to another value under another stack. -/
inductive Reaches (root : Json) : List String → Json → List String → Json → Prop
  | refl (stack : List String) (value : Json) : Reaches root stack value stack value
  | item {stack stack' : List String} {items : List Json} {item value' : Json} : item ∈ items →
      Reaches root stack item stack' value' → Reaches root stack (.array items) stack' value'
  | field {stack stack' : List String} {fields : Fields} {key : String} {value value' : Json} :
      reference? fields = none → (key, value) ∈ fields → Reaches root stack value stack' value' →
      Reaches root stack (.object fields) stack' value'
  | target {stack stack' : List String} {fields : Fields} {r : String} {target value' : Json} :
      reference? fields = some r → r ∉ stack → target? root r = some target →
      Reaches root (r :: stack) target stack' value' →
        Reaches root stack (.object fields) stack' value'

/-- A value under a stack stands for another one, as one reference after the other is followed. -/
inductive Follows (root : Json) : List String → Json → List String → Json → Prop
  | refl (stack : List String) (value : Json) : Follows root stack value stack value
  | target {stack stack' : List String} {fields : Fields} {r : String} {target value' : Json} :
      reference? fields = some r → r ∉ stack → target? root r = some target →
      Follows root (r :: stack) target stack' value' →
        Follows root stack (.object fields) stack' value'

/-- Resolving a value under a stack gets to a reference. -/
def Meets (root : Json) (stack : List String) (value : Json) (r : String) : Prop :=
  ∃ stack' fields, Reaches root stack value stack' (.object fields) ∧ reference? fields = some r

section Places

variable {stack stack' stack'' : List String} {value value' value'' : Json} {r : String}

theorem Reaches.trans (h : Reaches root stack value stack' value')
    (h' : Reaches root stack' value' stack'' value'') :
    Reaches root stack value stack'' value'' := by
  induction h with
  | refl => exact h'
  | item hmem _ ih => exact .item hmem (ih h')
  | field href hmem _ ih => exact .field href hmem (ih h')
  | target href hstack htarget _ ih => exact .target href hstack htarget (ih h')

theorem Follows.reaches (h : Follows root stack value stack' value') :
    Reaches root stack value stack' value' := by
  induction h with
  | refl => exact .refl _ _
  | target href hstack htarget _ ih => exact .target href hstack htarget ih

theorem Reaches.stack_subset (h : Reaches root stack value stack' value') : stack ⊆ stack' := by
  induction h with
  | refl => exact List.Subset.refl _
  | item _ _ ih => exact ih
  | field _ _ _ ih => exact ih
  | target _ _ _ _ ih => exact fun _ hr => ih (List.mem_cons_of_mem _ hr)

theorem Meets.of_reaches (h : Reaches root stack value stack' value')
    (hmeets : Meets root stack' value' r) :
    Meets root stack value r := by
  obtain ⟨stack'', fields, hreaches, href⟩ := hmeets
  exact ⟨stack'', fields, h.trans hreaches, href⟩

end Places

/-! ## Inlining along places -/

section Inversion

variable {stack : List String} {fields : Fields} {r : String} {result : Resolved}

theorem Inlines.of_array {items : List Json} (h : Inlines root stack (.array items) result) :
    ∃ inner : Json → Resolved, (∀ item ∈ items, Inlines root stack item (inner item)) ∧
      result = ⟨.array (items.map fun item => (inner item).value),
        items.flatMap fun item => (inner item).recursive⟩ := by
  cases h with
  | scalar harray _ => exact absurd rfl (harray items)
  | array inner hinner => exact ⟨inner, hinner, rfl⟩

theorem Inlines.of_object (h : Inlines root stack (.object fields) result)
    (href : reference? fields = none) :
    ∃ inner : Json → Resolved, (∀ field ∈ fields, Inlines root stack field.2 (inner field.2)) ∧
      result = ⟨.object (fields.map fun field => (field.1, (inner field.2).value)),
        fields.flatMap fun field => (inner field.2).recursive⟩ := by
  cases h with
  | scalar _ hobject => exact absurd rfl (hobject fields)
  | object inner _ hinner => exact ⟨inner, hinner, rfl⟩
  | retained hsome => rw [href] at hsome; cases hsome
  | inlined hsome => rw [href] at hsome; cases hsome

theorem Inlines.of_mem (h : Inlines root stack (.object fields) result)
    (href : reference? fields = some r) (hstack : r ∈ stack) :
    result = ⟨.object [(referenceKey, .string (identifier r))], [r]⟩ := by
  cases h with
  | scalar _ hobject => exact absurd rfl (hobject fields)
  | object _ hnone => rw [href] at hnone; cases hnone
  | retained hsome =>
      rw [href] at hsome
      cases hsome
      rfl
  | inlined hsome hnot =>
      rw [href] at hsome
      cases hsome
      exact absurd hstack hnot

theorem Inlines.of_target {target : Json} (h : Inlines root stack (.object fields) result)
    (href : reference? fields = some r) (hstack : r ∉ stack)
    (htarget : target? root r = some target) :
    ∃ resolved, Inlines root (r :: stack) target resolved ∧ complete r resolved = .ok result := by
  cases h with
  | scalar _ hobject => exact absurd rfl (hobject fields)
  | object _ hnone => rw [href] at hnone; cases hnone
  | retained hsome hmem =>
      rw [href] at hsome
      cases hsome
      exact absurd hmem hstack
  | inlined hsome _ htarget' hresolved hcomplete =>
      rw [href] at hsome
      cases hsome
      rw [htarget] at htarget'
      cases htarget'
      exact ⟨_, hresolved, hcomplete⟩

theorem Inlines.single {value : Json} (h : Inlines root stack value result) (key : String)
    (href : reference? [(key, value)] = none) :
    Inlines root stack (.object [(key, value)]) ⟨.object [(key, result.value)],
      result.recursive⟩ := by
  simpa using Inlines.object (fun _ => result) href (by simpa using h)

theorem Inlines.pair {value value' : Json} {result' : Resolved}
    (h : Inlines root stack value result) (h' : Inlines root stack value' result')
    (hne : value' ≠ value) (key key' : String)
    (href : reference? [(key, value), (key', value')] = none) :
    Inlines root stack (.object [(key, value), (key', value')])
      ⟨.object [(key, result.value), (key', result'.value)],
        result.recursive ++ result'.recursive⟩ := by
  have hpair := Inlines.object (fun copied => if copied = value then result else result') href
    (by simpa [hne] using And.intro h h')
  simpa [hne] using hpair

end Inversion

/-- The pending references of a completed target are those of the target, without its own. -/
theorem mem_recursive_of_complete {r q : String} {target result : Resolved}
    (h : complete r target = .ok result) (hne : q ≠ r) :
    q ∈ result.recursive ↔ q ∈ target.recursive := by
  rcases complete_eq_ok h with ⟨-, rfl⟩ | ⟨-, fields, -, -, rfl⟩
  · rfl
  · simp [hne]

/-- What is pending in a place that resolving gets to is pending in the value, unless it was put on
the stack on the way. -/
theorem Reaches.inlines {stack stack' : List String} {value value' : Json}
    (h : Reaches root stack value stack' value') {result : Resolved}
    (hresult : Inlines root stack value result) :
    ∃ result', Inlines root stack' value' result' ∧
      ∀ r ∈ stack, r ∈ result'.recursive → r ∈ result.recursive := by
  induction h generalizing result with
  | refl => exact ⟨result, hresult, fun _ _ => id⟩
  | item hmem _ ih =>
      obtain ⟨inner, hinner, rfl⟩ := hresult.of_array
      obtain ⟨result', hresult', hpending⟩ := ih (hinner _ hmem)
      exact ⟨result', hresult', fun r hr hr' => List.mem_flatMap.2 ⟨_, hmem, hpending r hr hr'⟩⟩
  | field href hmem _ ih =>
      obtain ⟨inner, hinner, rfl⟩ := hresult.of_object href
      obtain ⟨result', hresult', hpending⟩ := ih (hinner _ hmem)
      exact ⟨result', hresult', fun r hr hr' => List.mem_flatMap.2 ⟨_, hmem, hpending r hr hr'⟩⟩
  | @target stack _ _ q _ _ href hstack htarget _ ih =>
      obtain ⟨resolved, hresolved, hcomplete⟩ := hresult.of_target href hstack htarget
      obtain ⟨result', hresult', hpending⟩ := ih hresolved
      refine ⟨result', hresult', fun r hr hr' => ?_⟩
      have hne : r ≠ q := fun heq => hstack (heq ▸ hr)
      exact (mem_recursive_of_complete hcomplete hne).2 (hpending r (List.mem_cons_of_mem q hr) hr')

theorem mem_recursive_of_meets {stack : List String} {value : Json} {result : Resolved} {r : String}
    (h : Inlines root stack value result) (hr : r ∈ stack) (hmeets : Meets root stack value r) :
    r ∈ result.recursive := by
  obtain ⟨stack', fields, hreaches, href⟩ := hmeets
  obtain ⟨result', hresult', hpending⟩ := hreaches.inlines h
  have hretained := hresult'.of_mem href (hreaches.stack_subset hr)
  apply hpending r hr
  rw [hretained]
  exact List.mem_cons_self

theorem meets_of_mem_recursive {stack : List String} {value : Json} {result : Resolved} {r : String}
    (h : Inlines root stack value result) (hr : r ∈ result.recursive) :
    r ∈ stack ∧ Meets root stack value r := by
  induction h generalizing r with
  | scalar => cases hr
  | array inner _ ih =>
      obtain ⟨item, hitem, hr⟩ := List.mem_flatMap.1 hr
      obtain ⟨hstack, hmeets⟩ := ih item hitem hr
      exact ⟨hstack, .of_reaches (.item hitem (.refl _ _)) hmeets⟩
  | object inner href _ ih =>
      obtain ⟨field, hfield, hr⟩ := List.mem_flatMap.1 hr
      obtain ⟨hstack, hmeets⟩ := ih field hfield hr
      exact ⟨hstack, .of_reaches (.field href hfield (.refl _ _)) hmeets⟩
  | retained href hstack =>
      cases List.mem_singleton.1 hr
      exact ⟨hstack, _, _, .refl _ _, href⟩
  | @inlined stack fields q target resolved result href hstack htarget _ hcomplete ih =>
      have hmem : r ∈ resolved.recursive ∧ r ≠ q := by
        rcases complete_eq_ok hcomplete with ⟨hnot, rfl⟩ | ⟨-, fields, -, -, rfl⟩
        · exact ⟨hr, fun heq => hnot (heq ▸ hr)⟩
        · exact ⟨(List.mem_filter.1 hr).1, by simpa using (List.mem_filter.1 hr).2⟩
      obtain ⟨hmemstack, hmeets⟩ := ih hmem.1
      exact ⟨(List.mem_cons.1 hmemstack).resolve_left hmem.2,
        .of_reaches (.target href hstack htarget (.refl _ _)) hmeets⟩

end ChannelGateway.Reference
