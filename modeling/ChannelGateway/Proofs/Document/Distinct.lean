import ChannelGateway.Proofs.Document.Stamps
import ChannelGateway.Proofs.Json.Occurrence
/-!
# Distinct identifiers

In a document that states no identifiers itself, and in which the identifiers of references are
distinct and occur nowhere as texts, no object answers a reference by chance.  There what dangles
in a part of a copy dangles in the whole copy, so a copy is self-contained only if its value
keeps its references.
-/

namespace ChannelGateway

namespace Reference

open Json

variable {root : Json}

theorem occurs_of_target? {r : String} {target : Json} (h : target? root r = some target) :
    Occurs root target := by
  obtain ⟨pointer, -, hlookup⟩ := Option.bind_eq_some_iff.1 h
  obtain ⟨tokens, -, hsteps⟩ := Option.bind_eq_some_iff.1 hlookup
  exact occurs_of_steps? hsteps

def IsReference (root : Json) (r : String) : Prop :=
  ∃ fields, Occurs root (.object fields) ∧ reference? fields = some r

/-- No object of a document states an identifier, and the identifiers of its references are
distinct from each other and from its texts. -/
structure Distinct (root : Json) : Prop where
  unstated : ∀ fields, Occurs root (.object fields) → fields.lookup identifierKey = none
  injective : ∀ r r', IsReference root r → IsReference root r' →
    identifier r = identifier r' → r = r'
  unspelled : ∀ s r, Occurs root (.string s) → IsReference root r → identifier r ≠ s

section Places

variable {stack stack' : List String} {value value' : Json}

theorem Reaches.occurs (h : Reaches root stack value stack' value') (hvalue : Occurs root value) :
    Occurs root value' := by
  induction h with
  | refl => exact hvalue
  | item hmem _ ih => exact ih (hvalue.trans (.item hmem (.refl _)))
  | field _ hmem _ ih => exact ih (hvalue.trans (.field hmem (.refl _)))
  | target _ _ htarget _ ih => exact ih (occurs_of_target? htarget)

/-- What is put on the stack on the way to a place is a reference of the document. -/
theorem Reaches.isReference (h : Reaches root stack value stack' value')
    (hvalue : Occurs root value) {r : String} (hr : r ∈ stack') (hnot : r ∉ stack) :
    IsReference root r := by
  induction h with
  | refl => exact absurd hr hnot
  | item hmem _ ih => exact ih (hvalue.trans (.item hmem (.refl _))) hr hnot
  | field _ hmem _ ih => exact ih (hvalue.trans (.field hmem (.refl _))) hr hnot
  | @target stack _ fields q _ _ href _ htarget _ ih =>
      by_cases heq : r = q
      · exact ⟨fields, hvalue, heq ▸ href⟩
      · exact ih (occurs_of_target? htarget) hr (by simp [heq, hnot])

end Places

/-! ## What dangles in a part dangles in the whole -/

section Whole

variable (hdistinct : Distinct root)

include hdistinct

theorem lookup_identifierKey_map {fields : Fields} (hfields : Occurs root (.object fields))
    (f : Json → Json) :
    List.lookup identifierKey (fields.map fun field => (field.1, f field.2)) = none := by
  rw [Fields.lookup_map, hdistinct.unstated fields hfields]
  rfl

theorem string_of_mem_identifierKey {stack : List String} {value : Json} {result : Resolved}
    (h : Inlines root stack value result) (hvalue : Occurs root value) {fields : Fields}
    {stated : Json} (hfields : result.value = .object fields)
    (hmem : (identifierKey, stated) ∈ fields) :
    ∃ s, stated = .string s := by
  induction h generalizing fields with
  | scalar _ hobject => exact absurd hfields (hobject fields)
  | array => cases hfields
  | @object _ source inner _ _ _ =>
      cases hfields
      obtain ⟨field, hfield, heq⟩ := List.mem_map.1 hmem
      have hnone := List.lookup_eq_none_iff.1 (hdistinct.unstated source hvalue) field hfield
      rw [show field.1 = identifierKey from congrArg Prod.fst heq] at hnone
      simp at hnone
  | retained =>
      cases hfields
      have hkey : identifierKey = referenceKey := congrArg Prod.fst (List.mem_singleton.1 hmem)
      exact absurd hkey (by decide)
  | inlined _ _ htarget _ hcomplete ih =>
      rcases complete_eq_ok hcomplete with ⟨-, rfl⟩ | ⟨-, copied, hcopied, -, rfl⟩
      · exact ih (occurs_of_target? htarget) hfields hmem
      · cases hfields
        rcases Fields.mem_insert hmem with heq | hmem
        · cases heq
          exact ⟨_, rfl⟩
        · exact ih (occurs_of_target? htarget) hcopied hmem

theorem asks_of_complete {stack : List String} {target : Json} {r i : String}
    {resolved result : Resolved} {copied : Fields} (htarget : Occurs root target)
    (hresolved : Inlines root stack target resolved)
    (hcomplete : complete r resolved = .ok result) (hcopied : resolved.value = .object copied)
    (hasks : Asks copied i) : ∃ fields, result.value = .object fields ∧ Asks fields i := by
  rcases complete_eq_ok hcomplete with ⟨-, rfl⟩ | ⟨-, stamped, hstamped, -, rfl⟩
  · exact ⟨copied, hcopied, hasks⟩
  · rw [hcopied] at hstamped
    cases hstamped
    refine ⟨_, rfl, asks_identify (fun stated => ?_) hasks⟩
    exact string_of_mem_identifierKey hdistinct hresolved htarget hcopied

/-- What dangles in a target dangles in its completed copy, unless it is aimed at the identifier
of the copy. -/
theorem dangles_of_complete {stack : List String} {target : Json} {r i : String}
    {resolved result : Resolved} (htarget : Occurs root target)
    (hresolved : Inlines root stack target resolved) (hcomplete : complete r resolved = .ok result)
    (hdangles : Dangles resolved.value i) (hne : identifier r ≠ i) : Dangles result.value i := by
  cases hvalue : resolved.value with
  | object copied =>
      rw [hvalue] at hdangles
      rcases complete_eq_ok hcomplete with ⟨-, rfl⟩ | ⟨-, stamped, hstamped, -, rfl⟩
      · rw [hvalue]
        exact hdangles
      · rw [hvalue] at hstamped
        cases hstamped
        apply dangles_of_asks
        · refine asks_identify (fun stated => ?_) (asks_of_dangles hdangles)
          exact string_of_mem_identifierKey hdistinct hresolved htarget hvalue
        · rw [identifier?_identify]
          simpa using hne
  | null | bool | number | string | array =>
      rcases complete_eq_ok hcomplete with ⟨-, rfl⟩ | ⟨-, stamped, hstamped, -, rfl⟩
      · exact hdangles
      · rw [hvalue] at hstamped
        cases hstamped

/-- What dangles in the copy of a place dangles in the whole copy, unless it is aimed at the
identifier of a reference that was followed on the way. -/
theorem Reaches.dangles {stack stack' : List String} {value value' : Json}
    (h : Reaches root stack value stack' value') (hvalue : Occurs root value) {result : Resolved}
    (hresult : Inlines root stack value result) :
    ∃ result', Inlines root stack' value' result' ∧
      ∀ i, Dangles result'.value i → (∀ r ∈ stack', r ∉ stack → identifier r ≠ i) →
        Dangles result.value i := by
  induction h generalizing result with
  | refl => exact ⟨result, hresult, fun _ h _ => h⟩
  | item hmem _ ih =>
      obtain ⟨inner, hinner, rfl⟩ := hresult.of_array
      obtain ⟨result', hresult', hwhole⟩ := ih (hvalue.trans (.item hmem (.refl _))) (hinner _ hmem)
      exact ⟨result', hresult', fun i hi hne =>
        .item (List.mem_map_of_mem hmem) (hwhole i hi hne)⟩
  | @field _ _ fields key part _ href hmem _ ih =>
      obtain ⟨inner, hinner, rfl⟩ := hresult.of_object href
      obtain ⟨result', hresult', hwhole⟩ :=
        ih (hvalue.trans (.field hmem (.refl _))) (hinner _ hmem)
      refine ⟨result', hresult', fun i hi hne => ?_⟩
      have hstated := lookup_identifierKey_map hdistinct hvalue fun part => (inner part).value
      refine .field (List.mem_map_of_mem hmem) (hwhole i hi hne) ?_
      rw [identifier?, hstated]
      simp
  | @target stack stack' _ q target _ href hstack htarget hreaches ih =>
      obtain ⟨resolved, hresolved, hcomplete⟩ := hresult.of_target href hstack htarget
      have hoccurs := occurs_of_target? htarget
      obtain ⟨result', hresult', hwhole⟩ := ih hoccurs hresolved
      refine ⟨result', hresult', fun i hi hne => ?_⟩
      have hmem : q ∈ stack' := hreaches.stack_subset List.mem_cons_self
      apply dangles_of_complete hdistinct hoccurs hresolved hcomplete _ (hne q hmem hstack)
      apply hwhole i hi
      intro r hr hnot
      exact hne r hr fun hr' => hnot (List.mem_cons_of_mem q hr')

theorem Meets.dangles {stack : List String} {value : Json} {r : String} {result : Resolved}
    (h : Meets root stack value r) (hr : r ∈ stack) (hvalue : Occurs root value)
    (hresult : Inlines root stack value result) : Dangles result.value (identifier r) := by
  obtain ⟨stack', fields, hreaches, href⟩ := h
  obtain ⟨result', hresult', hwhole⟩ := hreaches.dangles hdistinct hvalue hresult
  rw [hresult'.of_mem href (hreaches.stack_subset hr)] at hwhole
  apply hwhole _ (.reference rfl)
  intro q hq hnot heq
  have hreference : IsReference root r := ⟨fields, hreaches.occurs hvalue, href⟩
  rw [hdistinct.injective q r (hreaches.isReference hvalue hq hnot) hreference heq] at hnot
  exact hnot hr

theorem Stamps.asks {stack : List String} {value : Json} {r : String} {result : Resolved}
    (h : Stamps root stack value r) (hvalue : Occurs root value)
    (hresult : Inlines root stack value result) :
    ∃ fields, result.value = .object fields ∧ Asks fields (identifier r) := by
  obtain ⟨stack', inner, target, hfollows, href, hnot, htarget, hmeets⟩ := h
  generalize hend : Json.object inner = last at hfollows
  induction hfollows generalizing result with
  | refl =>
      cases hend
      obtain ⟨resolved, hresolved, hcomplete⟩ := hresult.of_target href hnot htarget
      have hoccurs := occurs_of_target? htarget
      have hdangles := hmeets.dangles hdistinct List.mem_cons_self hoccurs hresolved
      rcases complete_eq_ok hcomplete with ⟨hnone, -⟩ | ⟨-, copied, hcopied, -, -⟩
      · exact absurd (mem_recursive_of_meets hresolved List.mem_cons_self hmeets) hnone
      · rw [hcopied] at hdangles
        exact asks_of_complete hdistinct hoccurs hresolved hcomplete hcopied
          (asks_of_dangles hdangles)
  | target hsome hstack htarget' _ ih =>
      obtain ⟨resolved, hresolved, hcomplete⟩ := hresult.of_target hsome hstack htarget'
      have hoccurs := occurs_of_target? htarget'
      obtain ⟨copied, hcopied, hasks⟩ := ih hoccurs hresolved hnot hmeets hend
      exact asks_of_complete hdistinct hoccurs hresolved hcomplete hcopied hasks

omit hdistinct in
theorem Stamps.not_mem {stack : List String} {value : Json} {r : String}
    (h : Stamps root stack value r) : r ∉ stack := by
  obtain ⟨stack', inner, target, hfollows, -, hnot, -⟩ := h
  exact fun hr => hnot (hfollows.reaches.stack_subset hr)

omit hdistinct in
theorem Stamps.isReference {stack : List String} {value : Json} {r : String}
    (h : Stamps root stack value r) (hvalue : Occurs root value) : IsReference root r := by
  obtain ⟨stack', inner, target, hfollows, href, -⟩ := h
  exact ⟨inner, hfollows.reaches.occurs hvalue, href⟩

omit hdistinct in
theorem Follows.value_eq {stack stack' : List String} {value : Json} {s : String}
    {result : Resolved} (h : Follows root stack value stack' (.string s))
    (hresult : Inlines root stack value result) :
    result.value = .string s := by
  generalize hend : Json.string s = last at h
  induction h generalizing result with
  | refl =>
      cases hend
      cases hresult
      rfl
  | target hsome hstack htarget _ ih =>
      obtain ⟨resolved, hresolved, hcomplete⟩ := hresult.of_target hsome hstack htarget
      have hstring := ih hresolved hend
      rw [← hend] at hstring ⊢
      rcases complete_eq_ok hcomplete with ⟨-, rfl⟩ | ⟨-, copied, hcopied, -, -⟩
      · exact hstring
      · rw [hstring] at hcopied
        cases hcopied

/-- With distinct identifiers, a value of which the copy is self-contained keeps its references. -/
theorem keepsReferences_of_selfContained {stack : List String} {value : Json} {result : Resolved}
    (hvalue : Occurs root value) (hresult : Inlines root stack value result)
    (hself : SelfContained result.value) : KeepsReferences root stack value := by
  rw [selfContained_iff] at hself
  refine ⟨⟨fun stack' value' hreaches r r' hr hr' => ?_, ?_⟩, ?_⟩
  · by_contra hne
    obtain ⟨result', hresult', hwhole⟩ := hreaches.dangles hdistinct hvalue hresult
    have hoccurs := hreaches.occurs hvalue
    obtain ⟨fields, hfields, hasks⟩ := hr.asks hdistinct hoccurs hresult'
    obtain ⟨fields', hfields', hasks'⟩ := hr'.asks hdistinct hoccurs hresult'
    rw [hfields] at hfields' hwhole
    cases hfields'
    -- The copy asks for both identifiers and states at most one, so the other one would dangle.
    have hmissed : ∀ q, Stamps root stack' value' q → Asks fields (identifier q) →
        identifier? fields = some (identifier q) := by
      intro q hq hasksq
      by_contra hid
      refine hself _ (hwhole _ (dangles_of_asks hasksq hid) fun p hp hnot heq => ?_)
      have heq := hdistinct.injective p q (hreaches.isReference hvalue hp hnot)
        (hq.isReference hoccurs) heq
      exact hq.not_mem (heq ▸ hp)
    have hboth := (hmissed r hr hasks).symm.trans (hmissed r' hr' hasks')
    exact hne (Option.some.inj hboth)
  · intro stack' fields hreaches href held hheld stack'' s hfollows
    obtain ⟨result', hresult', hwhole⟩ := hreaches.dangles hdistinct hvalue hresult
    obtain ⟨inner, hinner, rfl⟩ := hresult'.of_object href
    have hmem := Fields.mem_of_lookup hheld
    have hoccurs := (hreaches.occurs hvalue).trans (.field hmem (.refl _))
    have hspelled : reference? (fields.map fun field => (field.1, (inner field.2).value)) =
        some s := by
      rw [reference?, Fields.lookup_map fun value => (inner value).value, hheld, Option.map_some,
        hfollows.value_eq (hinner _ hmem)]
      rfl
    refine hself s (hwhole s (.reference hspelled) fun q hq hnot => ?_)
    exact hdistinct.unspelled s q (hfollows.reaches.occurs hoccurs)
      (hreaches.isReference hvalue hq hnot)
  · intro r hr hmeets
    exact hself _ (hmeets.dangles hdistinct hr hvalue hresult)

end Whole

end Reference

end ChannelGateway
