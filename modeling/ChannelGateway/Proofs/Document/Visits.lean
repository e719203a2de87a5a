import ChannelGateway.Proofs.Document.Inlining
/-!
# The graph of references

Walking a value gets to its parts, and through each reference to what it points at.  Resolving
walks the same way but keeps a stack, and stops at a reference that is on it.  It gets to every
value of the walk nevertheless: a reference on the stack was put there at another place, where its
target is walked.
-/

namespace ChannelGateway.Reference

open Json

variable {root : Json}

/-- Walking a value and the targets of its references gets to another value.  What stands beside a
reference is not walked. -/
inductive Visits (root : Json) : Json → Json → Prop
  | refl (value : Json) : Visits root value value
  | item {items : List Json} {item inner : Json} : item ∈ items → Visits root item inner →
      Visits root (.array items) inner
  | field {fields : Fields} {key : String} {value inner : Json} : reference? fields = none →
      (key, value) ∈ fields → Visits root value inner → Visits root (.object fields) inner
  | target {fields : Fields} {r : String} {target inner : Json} : reference? fields = some r →
      target? root r = some target → Visits root target inner → Visits root (.object fields) inner

/-- Walking a value gets to a reference. -/
def Refers (root value : Json) (r : String) : Prop :=
  ∃ fields, Visits root value (.object fields) ∧ reference? fields = some r

/-- Where the targets of some references hold no other ones, a value that holds no other ones
refers to no other ones. -/
theorem Refers.mem_of_closed {value : Json} {r : String} {known : List String}
    (h : Refers root value r) (hvalue : value.references ⊆ known)
    (hclosed : ∀ q ∈ known, ∀ target, target? root q = some target → target.references ⊆ known) :
    r ∈ known := by
  obtain ⟨fields, hvisits, href⟩ := h
  generalize hend : Json.object fields = last at hvisits
  induction hvisits with
  | refl =>
      rw [← hend, references] at hvalue
      exact hvalue (mem_references_of_reference? href)
  | item hmem _ ih =>
      rw [references] at hvalue
      exact ih (List.Subset.trans (references_subset_of_mem_items hmem) hvalue) hend
  | field _ hmem _ ih =>
      rw [references] at hvalue
      exact ih (List.Subset.trans (references_subset_of_mem_fields hmem) hvalue) hend
  | target hsome htarget _ ih =>
      rw [references] at hvalue
      exact ih (hclosed _ (hvalue (mem_references_of_reference? hsome)) _ htarget) hend

/-! ## Walking under a stack -/

section Reaches

variable {stack stack' : List String} {value value' : Json} {r : String}

theorem Reaches.visits (h : Reaches root stack value stack' value') : Visits root value value' := by
  induction h with
  | refl => exact .refl _
  | item hmem _ ih => exact .item hmem ih
  | field href hmem _ ih => exact .field href hmem ih
  | target href _ htarget _ ih => exact .target href htarget ih

theorem Reaches.suffix (h : Reaches root stack value stack' value') : stack <:+ stack' := by
  induction h with
  | refl => exact List.suffix_rfl
  | item _ _ ih => exact ih
  | field _ _ _ ih => exact ih
  | target _ _ _ _ ih => exact (List.suffix_cons _ _).trans ih

/-- On the way to a place, every reference that is put on the stack is followed once: there is an
object that is this reference, under a shorter stack without it. -/
theorem Reaches.exists_opened (h : Reaches root stack value stack' value') (hr : r ∈ stack')
    (hnot : r ∉ stack) :
    ∃ opened fields target, Reaches root stack value opened (.object fields) ∧
      reference? fields = some r ∧ r ∉ opened ∧ target? root r = some target ∧
      Reaches root (r :: opened) target stack' value' := by
  induction h with
  | refl => exact absurd hr hnot
  | item hmem _ ih =>
      obtain ⟨opened, fields, target, hopened, hrest⟩ := ih hr hnot
      exact ⟨opened, fields, target, .item hmem hopened, hrest⟩
  | field href hmem _ ih =>
      obtain ⟨opened, fields, target, hopened, hrest⟩ := ih hr hnot
      exact ⟨opened, fields, target, .field href hmem hopened, hrest⟩
  | @target stack _ outer q _ _ href hstack htarget hreaches ih =>
      by_cases heq : r = q
      · subst heq
        exact ⟨stack, outer, _, .refl _ _, href, hstack, htarget, hreaches⟩
      · obtain ⟨opened, fields, target, hopened, hrest⟩ := ih hr (by simp [heq, hnot])
        exact ⟨opened, fields, target, .target href hstack htarget hopened, hrest⟩

theorem Reaches.exists_target {node target : Json} {fields : Fields}
    (h : Reaches root [] node stack (.object fields)) (href : reference? fields = some r)
    (htarget : target? root r = some target) : ∃ stack', Reaches root [] node stack' target := by
  by_cases hstack : r ∈ stack
  -- The reference is not followed here, but it was where it was put on the stack.
  · obtain ⟨opened, fields', target', hopened, href', hnot, htarget', -⟩ :=
      h.exists_opened hstack List.not_mem_nil
    cases htarget.symm.trans htarget'
    exact ⟨_, hopened.trans (.target href' hnot htarget (.refl _ _))⟩
  · exact ⟨_, h.trans (.target href hstack htarget (.refl _ _))⟩

theorem Visits.exists_reaches {node inner : Json} (h : Visits root value inner)
    (hvalue : Reaches root [] node stack value) : ∃ stack', Reaches root [] node stack' inner := by
  induction h generalizing stack with
  | refl => exact ⟨stack, hvalue⟩
  | item hmem _ ih => exact ih (hvalue.trans (.item hmem (.refl _ _)))
  | field href hmem _ ih => exact ih (hvalue.trans (.field href hmem (.refl _ _)))
  | target href htarget _ ih =>
      obtain ⟨stack', htargetvalue⟩ := hvalue.exists_target href htarget
      exact ih htargetvalue

theorem Refers.exists_reaches {node : Json} (h : Refers root node r) :
    ∃ stack fields, Reaches root [] node stack (.object fields) ∧ reference? fields = some r := by
  obtain ⟨fields, hvisits, href⟩ := h
  obtain ⟨stack, hreaches⟩ := hvisits.exists_reaches (.refl [] node)
  exact ⟨stack, fields, hreaches, href⟩

end Reaches

end ChannelGateway.Reference
