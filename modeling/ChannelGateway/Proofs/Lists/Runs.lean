import Mathlib.Data.List.TakeWhile
/-!
# Runs of characters

What a reader takes from a text is a run of characters of one kind: it ends where
another one follows.
-/

namespace ChannelGateway

variable {p : Char → Bool}

theorem takeWhile_append_of_head {rest : List Char} (h : ∀ c ∈ rest.head?, p c = false)
    (text : List Char) : (text ++ rest).takeWhile p = text.takeWhile p := by
  induction text with
  | nil =>
      cases rest with
      | nil => rfl
      | cons c rest => simp [h c rfl]
  | cons c text ih => rw [List.cons_append, List.takeWhile_cons, List.takeWhile_cons, ih]

theorem dropWhile_append_of_head {rest : List Char} (h : ∀ c ∈ rest.head?, p c = false)
    (text : List Char) : (text ++ rest).dropWhile p = text.dropWhile p ++ rest := by
  induction text with
  | nil =>
      cases rest with
      | nil => rfl
      | cons c rest => simp [h c rfl]
  | cons c text ih =>
      rw [List.cons_append, List.dropWhile_cons, List.dropWhile_cons, ih]
      split <;> rfl

theorem head?_dropWhile (text : List Char) : ∀ c ∈ (text.dropWhile p).head?, p c = false := by
  intro c hc
  have := List.head?_dropWhile_not p text
  rw [Option.mem_def.1 hc] at this
  simpa using this

theorem takeWhile_run {run rest : List Char} (hrun : ∀ c ∈ run, p c = true)
    (h : ∀ c ∈ rest.head?, p c = false) :
    (run ++ rest).takeWhile p = run ∧ (run ++ rest).dropWhile p = rest := by
  rw [takeWhile_append_of_head h, dropWhile_append_of_head h, List.takeWhile_eq_self_iff.2 hrun,
    List.dropWhile_eq_nil_iff.2 hrun, List.nil_append]
  exact ⟨rfl, rfl⟩

end ChannelGateway
