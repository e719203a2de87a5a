import ChannelGateway.Proofs.Document.Inlining
/-!
# Identifiers of inlined copies

An inlined copy answers the references that were met inside it if its identifier stays the one that
these are aimed at.  This fails where two references that are both met inside their own targets end
on one copy, since the copy keeps the identifier of the outer one only.
-/

namespace ChannelGateway.Reference

open Json

variable {root : Json}

/-- The inlined copy of a value is stamped with the identifier of a reference, which is followed on
the way to the copy and met again inside it. -/
def Stamps (root : Json) (stack : List String) (value : Json) (r : String) : Prop :=
  ∃ stack' fields target, Follows root stack value stack' (.object fields) ∧
    reference? fields = some r ∧ r ∉ stack' ∧ target? root r = some target ∧
    Meets root (r :: stack') target r

structure Consistent (root : Json) (stack : List String) (value : Json) : Prop where
  single : ∀ stack' value', Reaches root stack value stack' value' → ∀ r r',
    Stamps root stack' value' r → Stamps root stack' value' r' → identifier r = identifier r'
  plain : ∀ stack' fields, Reaches root stack value stack' (.object fields) →
    reference? fields = none → ∀ held, fields.lookup referenceKey = some held →
      ∀ stack'' s, ¬ Follows root stack' held stack'' (.string s)

/-- Where a value is resolved consistently and gets to none of the references around it, its copy is
self-contained. -/
structure KeepsReferences (root : Json) (stack : List String) (value : Json) : Prop where
  consistent : Consistent root stack value
  independent : ∀ r ∈ stack, ¬ Meets root stack value r

section Stamps

variable {stack stack' : List String} {value value' : Json} {fields : Fields} {r q : String}
  {target : Json}

theorem Consistent.of_reaches (h : Consistent root stack value)
    (hreaches : Reaches root stack value stack' value') : Consistent root stack' value' :=
  ⟨fun _ _ hreaches' => h.single _ _ (hreaches.trans hreaches'),
    fun _ _ hreaches' => h.plain _ _ (hreaches.trans hreaches')⟩

theorem Stamps.of_target (href : reference? fields = some q) (hstack : q ∉ stack)
    (htarget : target? root q = some target) (h : Stamps root (q :: stack) target r) :
    Stamps root stack (.object fields) r := by
  obtain ⟨stack', inner, target', hfollows, hrest⟩ := h
  exact ⟨stack', inner, target', .target href hstack htarget hfollows, hrest⟩

/-- A copy is stamped for the reference by which it is asked for, or for one behind it. -/
theorem Stamps.cases (href : reference? fields = some q)
    (h : Stamps root stack (.object fields) r) :
    q ∉ stack ∧ ∃ target, target? root q = some target ∧
      (r = q ∧ Meets root (q :: stack) target q ∨ Stamps root (q :: stack) target r) := by
  obtain ⟨stack', inner, target', hfollows, href', hstack', htarget', hmeets⟩ := h
  cases hfollows with
  | refl =>
      rw [href] at href'
      cases href'
      exact ⟨hstack', target', htarget', Or.inl ⟨rfl, hmeets⟩⟩
  | target hsome hstack htarget hfollows =>
      rw [href] at hsome
      cases hsome
      exact ⟨hstack, _, htarget,
        Or.inr ⟨stack', inner, target', hfollows, href', hstack', htarget', hmeets⟩⟩

theorem not_stamps_of_none (href : reference? fields = none) :
    ¬ Stamps root stack (.object fields) r := by
  rintro ⟨stack', inner, target', hfollows, href', -⟩
  cases hfollows with
  | refl =>
      rw [href] at href'
      cases href'
  | target hsome =>
      rw [href] at hsome
      cases hsome

theorem not_stamps_of_not_object (h : ∀ fields, value ≠ .object fields) :
    ¬ Stamps root stack value r := by
  rintro ⟨stack', inner, target', hfollows, -⟩
  cases hfollows with
  | refl => exact h inner rfl
  | target => exact h _ rfl

end Stamps

theorem follows_of_string {stack : List String} {value : Json} {result : Resolved} {s : String}
    (h : Inlines root stack value result) (hs : result.value = .string s) :
    ∃ stack', Follows root stack value stack' (.string s) := by
  induction h with
  | @scalar stack value _ _ =>
      rw [show value = .string s from hs]
      exact ⟨stack, .refl _ _⟩
  | array => cases hs
  | object => cases hs
  | retained => cases hs
  | inlined href hstack htarget _ hcomplete ih =>
      rcases complete_eq_ok hcomplete with ⟨-, rfl⟩ | ⟨-, _, -, -, rfl⟩
      · obtain ⟨stack', hfollows⟩ := ih hs
        exact ⟨stack', .target href hstack htarget hfollows⟩
      · cases hs

/-! ## Consistent copies are self-contained -/

/-- What dangles in a copy that was resolved consistently is aimed at a pending reference.  Below
the identifier of the copy, it may also be aimed at that identifier. -/
structure Answers (root : Json) (stack : List String) (value : Json)
    (result : Resolved) : Prop where
  dangles : ∀ i, Dangles result.value i → ∃ r ∈ result.recursive, identifier r = i
  demands : ∀ fields, result.value = .object fields → ∀ i, Demands fields i →
    (∃ r ∈ result.recursive, identifier r = i) ∨ ∃ r, Stamps root stack value r ∧ identifier r = i
  stamped : ∀ r, Stamps root stack value r →
    ∃ fields, result.value = .object fields ∧ identifier? fields = some (identifier r)
  bare : ∀ fields i, result.value = .object fields → reference? fields = some i →
    isBare fields = true ∧ ∃ r ∈ result.recursive, identifier r = i

/-- In an object, what dangles follows from what its fields demand and from its identifier. -/
theorem Answers.of_object {stack : List String} {value : Json} {fields : Fields}
    {recursive : List String}
    (hdemands : ∀ i, Demands fields i →
      (∃ r ∈ recursive, identifier r = i) ∨ ∃ r, Stamps root stack value r ∧ identifier r = i)
    (hstamped : ∀ r, Stamps root stack value r → identifier? fields = some (identifier r))
    (hbare : ∀ i, reference? fields = some i →
      isBare fields = true ∧ ∃ r ∈ recursive, identifier r = i) :
    Answers root stack value ⟨.object fields, recursive⟩ := by
  refine ⟨fun i h => ?_, ?_, fun r hr => ⟨fields, rfl, hstamped r hr⟩, ?_⟩
  · rcases dangles_object.1 h with href | ⟨hid, hdemand⟩
    · exact (hbare i href).2
    · rcases hdemands i hdemand with hpending | ⟨r, hr, rfl⟩
      · exact hpending
      · exact absurd (hstamped r hr) hid
  · rintro _ ⟨⟩
    exact hdemands
  · rintro _ i ⟨⟩
    exact hbare i

section Answers

variable {stack : List String} {value : Json} {fields : Fields} {q : String}

theorem answers_scalar (harray : ∀ items, value ≠ .array items)
    (hobject : ∀ fields, value ≠ .object fields) : Answers root stack value ⟨value, []⟩ := by
  refine ⟨fun i hi => ?_, fun fields hfields => absurd hfields (hobject fields),
    fun r hr => absurd hr (not_stamps_of_not_object hobject),
    fun fields _ hfields => absurd hfields (hobject fields)⟩
  cases hi with
  | reference => exact absurd rfl (hobject _)
  | field => exact absurd rfl (hobject _)
  | item => exact absurd rfl (harray _)

theorem answers_array {items : List Json} {inner : Json → Resolved}
    (hanswers : ∀ item ∈ items, Answers root stack item (inner item)) :
    Answers root stack (.array items) ⟨.array (items.map fun item => (inner item).value),
      items.flatMap fun item => (inner item).recursive⟩ := by
  refine ⟨fun i hi => ?_, by simp, fun r hr => absurd hr (not_stamps_of_not_object (by simp)),
    by simp⟩
  cases hi with
  | item hmem hvalue =>
      obtain ⟨item, hitem, rfl⟩ := List.mem_map.1 hmem
      obtain ⟨r, hr, hid⟩ := (hanswers item hitem).dangles i hvalue
      exact ⟨r, List.mem_flatMap.2 ⟨item, hitem, hr⟩, hid⟩

theorem answers_object {inner : Json → Resolved} (href : reference? fields = none)
    (hinner : ∀ field ∈ fields, Inlines root stack field.2 (inner field.2))
    (hconsistent : Consistent root stack (.object fields))
    (hanswers : ∀ field ∈ fields, Answers root stack field.2 (inner field.2)) :
    Answers root stack (.object fields)
      ⟨.object (fields.map fun field => (field.1, (inner field.2).value)),
        fields.flatMap fun field => (inner field.2).recursive⟩ := by
  apply Answers.of_object
  · rintro i ⟨key, value, hmem, hvalue⟩
    obtain ⟨field, hfield, heq⟩ := List.mem_map.1 hmem
    cases heq
    obtain ⟨r, hr, hid⟩ := (hanswers field hfield).dangles i hvalue
    exact Or.inl ⟨r, List.mem_flatMap.2 ⟨field, hfield, hr⟩, hid⟩
  · intro r hr
    exact absurd hr (not_stamps_of_none href)
  · intro i hi
    rw [reference?, Fields.lookup_map fun value => (inner value).value] at hi
    obtain ⟨copy, hcopy, hstring⟩ := Option.bind_eq_some_iff.1 hi
    obtain ⟨held, hheld, rfl⟩ := Option.map_eq_some_iff.1 hcopy
    have hvalue : (inner held).value = .string i := by
      cases hcase : (inner held).value <;> rw [hcase] at hstring <;> cases hstring
      rfl
    obtain ⟨stack', hfollows⟩ := follows_of_string (hinner _ (Fields.mem_of_lookup hheld)) hvalue
    exact absurd hfollows (hconsistent.plain _ _ (.refl _ _) href held hheld _ _)

theorem answers_retained (href : reference? fields = some q) (hstack : q ∈ stack) :
    Answers root stack (.object fields)
      ⟨.object [(referenceKey, .string (identifier q))], [q]⟩ := by
  apply Answers.of_object
  · rintro i ⟨key, value, hmem, hvalue⟩
    cases List.mem_singleton.1 hmem
    exact absurd hvalue (not_dangles_string _ _)
  · intro r hr
    exact absurd hstack (hr.cases href).1
  · intro i hi
    cases hi
    exact ⟨rfl, q, List.mem_singleton.2 rfl, rfl⟩

section Inlined

variable {target : Json} {resolved : Resolved}

/-- The copy of a target in which its reference is not met is the copy for the reference, too. -/
theorem answers_unstamped (href : reference? fields = some q) (hstack : q ∉ stack)
    (htarget : target? root q = some target) (hresolved : Inlines root (q :: stack) target resolved)
    (hnot : q ∉ resolved.recursive) (hanswers : Answers root (q :: stack) target resolved) :
    Answers root stack (.object fields) resolved := by
  refine ⟨hanswers.dangles, fun copied hcopied i hi => ?_, fun r hr => ?_, hanswers.bare⟩
  · rcases hanswers.demands copied hcopied i hi with hpending | ⟨r, hr, hid⟩
    · exact Or.inl hpending
    · exact Or.inr ⟨r, hr.of_target href hstack htarget, hid⟩
  · obtain ⟨-, target', htarget', hbehind⟩ := hr.cases href
    cases htarget.symm.trans htarget'
    rcases hbehind with ⟨rfl, hmeets⟩ | hr
    · exact absurd (mem_recursive_of_meets hresolved List.mem_cons_self hmeets) hnot
    · exact hanswers.stamped r hr

/-- A stamped copy states the identifier of its reference and no other one, so the
references behind it for which the copy was stamped before are answered only because they
share that identifier. -/
theorem answers_stamped {copied : Fields} (href : reference? fields = some q) (hstack : q ∉ stack)
    (htarget : target? root q = some target) (hresolved : Inlines root (q :: stack) target resolved)
    (hmet : q ∈ resolved.recursive) (hcopied : resolved.value = .object copied)
    (hbare : isBare copied = false) (hconsistent : Consistent root stack (.object fields))
    (hanswers : Answers root (q :: stack) target resolved) :
    Answers root stack (.object fields)
      ⟨.object (Fields.insert identifierKey (.string (identifier q)) copied),
        resolved.recursive.filter (· ≠ q)⟩ := by
  have hstamps : Stamps root stack (.object fields) q :=
    ⟨stack, fields, target, .refl _ _, href, hstack, htarget,
      (meets_of_mem_recursive hresolved hmet).2⟩
  apply Answers.of_object
  · intro i hi
    rcases hanswers.demands copied hcopied i (demands_of_identify hi) with ⟨r, hr, hid⟩ |
      ⟨r, hr, hid⟩
    · by_cases heq : r = q
      · exact Or.inr ⟨q, hstamps, heq ▸ hid⟩
      · exact Or.inl ⟨r, List.mem_filter.2 ⟨hr, by simpa using heq⟩, hid⟩
    · exact Or.inr ⟨r, hr.of_target href hstack htarget, hid⟩
  · intro r hr
    rw [identifier?_identify, hconsistent.single _ _ (.refl _ _) q r hstamps hr]
  · intro i hi
    rw [reference?_identify] at hi
    rw [(hanswers.bare copied i hcopied hi).1] at hbare
    cases hbare

end Inlined

theorem answers_of_inlines {result : Resolved} (h : Inlines root stack value result)
    (hconsistent : Consistent root stack value) : Answers root stack value result := by
  induction h with
  | scalar harray hobject => exact answers_scalar harray hobject
  | array inner _ ih =>
      exact answers_array fun item hitem =>
        ih item hitem (hconsistent.of_reaches (.item hitem (.refl _ _)))
  | object inner href hinner ih =>
      exact answers_object href hinner hconsistent fun field hfield =>
        ih field hfield (hconsistent.of_reaches (.field href hfield (.refl _ _)))
  | retained href hstack => exact answers_retained href hstack
  | inlined href hstack htarget hresolved hcomplete ih =>
      have hanswers := ih (hconsistent.of_reaches (.target href hstack htarget (.refl _ _)))
      rcases complete_eq_ok hcomplete with ⟨hnot, rfl⟩ | ⟨hmet, copied, hcopied, hbare, rfl⟩
      · exact answers_unstamped href hstack htarget hresolved hnot hanswers
      · exact answers_stamped href hstack htarget hresolved hmet hcopied hbare hconsistent hanswers

end Answers

theorem KeepsReferences.selfContained {stack : List String} {value : Json} {result : Resolved}
    (h : KeepsReferences root stack value) (hresult : Inlines root stack value result) :
    SelfContained result.value := by
  rw [selfContained_iff]
  intro i hi
  obtain ⟨r, hr, -⟩ := (answers_of_inlines hresult h.consistent).dangles i hi
  obtain ⟨hstack, hmeets⟩ := meets_of_mem_recursive hresult hr
  exact h.independent r hstack hmeets

end ChannelGateway.Reference
