import Mathlib.Data.List.Basic
/-!
# First and last members

Where not all members of a list have a property, there is a first and a last one without it.
-/

namespace ChannelGateway

variable {α : Type} {p : α → Prop} [DecidablePred p] {xs : List α}

theorem exists_first_of_not_all (h : ¬ ∀ x ∈ xs, p x) :
    ∃ before x behind, xs = before ++ x :: behind ∧ (∀ earlier ∈ before, p earlier) ∧ ¬ p x := by
  have hfound : (xs.find? fun x => decide (¬ p x)).isSome := by
    rw [List.find?_isSome]
    simpa using h
  obtain ⟨x, hx⟩ := Option.isSome_iff_exists.1 hfound
  obtain ⟨hnot, before, behind, hsplit, hbefore⟩ := List.find?_eq_some_iff_append.1 hx
  exact ⟨before, x, behind, hsplit, by simpa using hbefore, by simpa using hnot⟩

theorem exists_last_of_not_all (h : ¬ ∀ x ∈ xs, p x) :
    ∃ before x behind, xs = before ++ x :: behind ∧ ¬ p x ∧ ∀ later ∈ behind, p later := by
  have hreverse : ¬ ∀ x ∈ xs.reverse, p x := by simpa using h
  obtain ⟨behind, x, before, hsplit, hbehind, hx⟩ := exists_first_of_not_all hreverse
  refine ⟨before.reverse, x, behind.reverse, ?_, hx, by simpa using hbehind⟩
  rw [← List.reverse_reverse xs, hsplit, List.reverse_append, List.reverse_cons, List.append_assoc,
    List.singleton_append]

end ChannelGateway
