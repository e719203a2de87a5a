import ChannelGateway.Proofs.Document.Visits
/-!
# Why resolving fails

Resolving a value fails at a place that it gets to.  Either the reference there points at nothing,
or it was met again inside its target and the copy of the target cannot be stamped.
-/

namespace ChannelGateway.Reference

open Json

variable {root : Json}

/-- A copy that an identifier can be written in: an object that is more than a reference. -/
def Stampable (value : Json) : Prop := ∃ fields, value = .object fields ∧ isBare fields = false

theorem isBare_iff {fields : Fields} : isBare fields = true ↔
    ∃ held, fields = [(referenceKey, held)] := by
  constructor
  · intro h
    rw [isBare, Bool.and_eq_true, decide_eq_true_iff, List.length_eq_one_iff] at h
    obtain ⟨⟨field, rfl⟩, hcontains⟩ := h
    obtain ⟨held, hheld⟩ := Option.isSome_iff_exists.1 hcontains
    exact ⟨held, by rw [List.mem_singleton.1 (Fields.mem_of_lookup hheld)]⟩
  · rintro ⟨held, rfl⟩
    simp [isBare, Fields.contains]

theorem stampable_object {fields : Fields} :
    Stampable (.object fields) ↔ ∀ held, fields ≠ [(referenceKey, held)] := by
  rw [← not_exists, ← isBare_iff, Bool.not_eq_true]
  simp [Stampable]

theorem stampable_insert_identifierKey (stated : Json) (fields : Fields) :
    Stampable (.object (Fields.insert identifierKey stated fields)) := by
  rw [stampable_object]
  intro held heq
  have hstated := Fields.lookup_insert_self identifierKey stated fields
  rw [heq] at hstated
  cases hstated

theorem stampable_of_complete {r : String} {target result : Resolved}
    (h : complete r target = .ok result) (hr : r ∈ target.recursive) : Stampable target.value := by
  rcases complete_eq_ok h with ⟨hnot, -⟩ | ⟨-, fields, hfields, hbare, -⟩
  · exact absurd hr hnot
  · exact ⟨fields, hfields, hbare⟩

/-- A target is not completed only if its reference was met inside it and its copy
cannot be stamped. -/
theorem complete_eq_error {r : String} {target : Resolved} {e : ReferenceError}
    (h : complete r target = .error e) :
    r ∈ target.recursive ∧ ¬ Stampable target.value ∧ e = .circular r := by
  rw [complete] at h
  split at h
  · next hmem =>
      split at h
      · cases h
      · next hnone =>
          cases h
          refine ⟨hmem, ?_, rfl⟩
          rintro ⟨fields, hfields, hbare⟩
          rw [hfields, stamp?, hbare] at hnone
          cases hnone
  · cases h

/-- Resolving a value under a stack fails at a place that it gets to. -/
inductive Refuses (root : Json) (stack : List String) (value : Json) : ReferenceError → Prop
  | unresolved {stack' : List String} {fields : Fields} {r : String} :
      Reaches root stack value stack' (.object fields) → reference? fields = some r →
      target? root r = none → Refuses root stack value (.unresolved r)
  | circular {stack' : List String} {fields : Fields} {r : String} {target : Json}
      {resolved : Resolved} : Reaches root stack value stack' (.object fields) →
      reference? fields = some r → r ∉ stack' → target? root r = some target →
      Inlines root (r :: stack') target resolved → r ∈ resolved.recursive →
      ¬ Stampable resolved.value → Refuses root stack value (.circular r)

theorem Refuses.of_reaches {stack stack' : List String} {value value' : Json} {e : ReferenceError}
    (hreaches : Reaches root stack value stack' value') (h : Refuses root stack' value' e) :
    Refuses root stack value e := by
  cases h with
  | unresolved hplace href htarget => exact .unresolved (hreaches.trans hplace) href htarget
  | circular hplace href hstack htarget hresolved hmem hstamp =>
      exact .circular (hreaches.trans hplace) href hstack htarget hresolved hmem hstamp

mutual

theorem refuses_of_resolve {known : List String} {hroot : root.references ⊆ known}
    {stack : List String} {value : Json} {hvalue : value.references ⊆ known} {e : ReferenceError}
    (h : resolve root known hroot stack value hvalue = .error e) : Refuses root stack value e := by
  cases value with
  | object fields =>
      rw [resolve] at h
      split at h
      · next r href => exact refuses_of_resolveReference href h
      · next href =>
          split at h
          · cases h
          · next herror =>
              cases h
              obtain ⟨field, hmem, hrefuses⟩ := refuses_of_resolveFields herror
              exact .of_reaches (.field href hmem (.refl _ _)) hrefuses
  | array items =>
      rw [resolve] at h
      split at h
      · cases h
      · next herror =>
          cases h
          obtain ⟨item, hmem, hrefuses⟩ := refuses_of_resolveItems herror
          exact .of_reaches (.item hmem (.refl _ _)) hrefuses
  | null | bool | number | string =>
      rw [resolve] at h
      · cases h
      all_goals simp
termination_by (pending known stack, sizeOf value)

theorem refuses_of_resolveReference {known : List String} {hroot : root.references ⊆ known}
    {stack : List String} {r : String} {hr : r ∈ known} {e : ReferenceError} {fields : Fields}
    (href : reference? fields = some r)
    (h : resolveReference root known hroot stack r hr = .error e) :
    Refuses root stack (.object fields) e := by
  rw [resolveReference] at h
  split at h
  · next hpointer =>
      cases h
      exact .unresolved (.refl _ _) href (by rw [target?, hpointer, Option.bind_none])
  · next pointer hpointer =>
      split at h
      · cases h
      · next hstack =>
          split at h
          · next hlookup =>
              cases h
              exact .unresolved (.refl _ _) href
                (by rw [target?, hpointer, Option.bind_some, hlookup])
          · next target hlookup =>
              have htarget : target? root r = some target := by
                rw [target?, hpointer, Option.bind_some, hlookup]
              split at h
              · next resolved hresolved =>
                  obtain ⟨hmem, hstamp, rfl⟩ := complete_eq_error h
                  exact .circular (.refl _ _) href hstack htarget
                    (inlines_of_resolve hresolved) hmem hstamp
              · next herror =>
                  cases h
                  exact .of_reaches (.target href hstack htarget (.refl _ _))
                    (refuses_of_resolve herror)
termination_by (pending known stack, 0)
decreasing_by
  exact Prod.Lex.left _ _ (pending_cons_lt ‹r ∈ known› ‹r ∉ stack›)

theorem refuses_of_resolveItems {known : List String} {hroot : root.references ⊆ known}
    {stack : List String} {items : List Json} {hitems : referencesOfItems items ⊆ known}
    {e : ReferenceError} (h : resolveItems root known hroot stack items hitems = .error e) :
    ∃ item ∈ items, Refuses root stack item e := by
  cases items with
  | nil =>
      rw [resolveItems] at h
      cases h
  | cons item rest =>
      rw [resolveItems] at h
      split at h
      · next hfirst =>
          cases h
          exact ⟨item, List.mem_cons_self, refuses_of_resolve hfirst⟩
      · split at h
        · next hothers =>
            cases h
            obtain ⟨other, hmem, hrefuses⟩ := refuses_of_resolveItems hothers
            exact ⟨other, List.mem_cons_of_mem item hmem, hrefuses⟩
        · cases h
termination_by (pending known stack, sizeOf items)

theorem refuses_of_resolveFields {known : List String} {hroot : root.references ⊆ known}
    {stack : List String} {fields : List (String × Json)}
    {hfields : referencesOfFields fields ⊆ known} {e : ReferenceError}
    (h : resolveFields root known hroot stack fields hfields = .error e) :
    ∃ field ∈ fields, Refuses root stack field.2 e := by
  match fields, hfields, h with
  | [], _, h =>
      rw [resolveFields] at h
      cases h
  | (key, value) :: rest, _, h =>
      rw [resolveFields] at h
      split at h
      · next hfirst =>
          cases h
          exact ⟨(key, value), List.mem_cons_self, refuses_of_resolve hfirst⟩
      · split at h
        · next hothers =>
            cases h
            obtain ⟨other, hmem, hrefuses⟩ := refuses_of_resolveFields hothers
            exact ⟨other, List.mem_cons_of_mem _ hmem, hrefuses⟩
        · cases h
termination_by (pending known stack, sizeOf fields)

end

theorem refuses_of_resolveReferences {node : Json} {e : ReferenceError}
    (h : resolveReferences root node = .error e) : Refuses root [] node e := by
  rw [resolveReferences] at h
  cases hresolve : resolve root (root.references ++ node.references) (List.subset_append_left ..) []
      node (List.subset_append_right ..) with
  | error e' =>
      rw [hresolve] at h
      cases h
      exact refuses_of_resolve hresolve
  | ok result =>
      rw [hresolve] at h
      cases h

end ChannelGateway.Reference
