import ChannelGateway.Text.Segments
import Mathlib.Data.List.TakeWhile
/-!
# Segments of joined paths

A path that was joined from segments has those of them that are not empty.
-/

namespace ChannelGateway.Segments

theorem split_cons_slash (path : List Char) : split ('/' :: path) = split path := by
  have hsplit : ('/' :: path).splitOn '/' = [] :: path.splitOn '/' :=
    List.splitOn_append_cons_self [] path
  rw [split, hsplit, List.filter_cons_of_neg (by simp), ← split]

theorem split_append_slash (front back : List Char) :
    split (front ++ '/' :: back) = split front ++ split back := by
  rw [split, List.splitOn_append_cons_self, List.filter_append, ← split, ← split]

/-- Segments without slashes that were joined are split again; the empty ones are lost. -/
theorem split_join {segments : List (List Char)} (h : ∀ segment ∈ segments, '/' ∉ segment) :
    split (join segments) = segments.filter (!·.isEmpty) := by
  by_cases hnil : segments = []
  · rw [hnil]
    rfl
  · rw [split, join, List.splitOn_intercalate '/' h hnil]

theorem split_join_of_mem {segments : List (List Char)}
    (h : ∀ segment ∈ segments, segment ≠ [] ∧ '/' ∉ segment) :
    split (join segments) = segments := by
  rw [split_join fun segment hsegment => (h segment hsegment).2, List.filter_eq_self]
  intro segment hsegment
  simp [(h segment hsegment).1]

theorem join_splitOn (path : List Char) : join (path.splitOn '/') = path :=
  List.intercalate_splitOn '/'

theorem not_mem_of_mem_splitOn (path : List Char) :
    ∀ segment ∈ path.splitOn '/', '/' ∉ segment := by
  induction path with
  | nil => simp
  | cons c rest ih =>
      obtain ⟨first, others, hrest⟩ := List.exists_cons_of_ne_nil (List.splitOn_ne_nil '/' rest)
      rw [hrest] at ih
      rw [List.splitOn_cons_eq_if_modifyHead, hrest]
      split
      · rw [List.forall_mem_cons]
        exact ⟨List.not_mem_nil, ih⟩
      · next hc =>
          obtain ⟨hfirst, hothers⟩ := List.forall_mem_cons.1 ih
          rw [List.modifyHead_cons, List.forall_mem_cons]
          refine ⟨?_, hothers⟩
          rw [List.mem_cons, not_or]
          exact ⟨fun heq => hc (beq_iff_eq.2 heq.symm), hfirst⟩

/-- The segments of a path are not empty, and there are no slashes in them. -/
theorem mem_split {path segment : List Char} (h : segment ∈ split path) :
    segment ≠ [] ∧ '/' ∉ segment := by
  obtain ⟨hmem, hne⟩ := List.mem_filter.1 h
  exact ⟨by simpa using hne, not_mem_of_mem_splitOn path segment hmem⟩

theorem mem_join {c : Char} (hc : c ≠ '/') (segments : List (List Char)) :
    c ∈ join segments ↔ ∃ segment ∈ segments, c ∈ segment := by
  unfold join
  induction segments with
  | nil => simp [List.intercalate]
  | cons first rest ih =>
      cases rest with
      | nil => simp [List.intercalate_singleton]
      | cons second rest =>
          rw [List.intercalate_cons_cons, List.mem_append, ih]
          simp [hc]

theorem mem_iff_exists_split {c : Char} (hc : c ≠ '/') (path : List Char) :
    c ∈ path ↔ ∃ segment ∈ split path, c ∈ segment := by
  have hjoin := mem_join hc (path.splitOn '/')
  rw [join_splitOn] at hjoin
  rw [hjoin]
  constructor
  · rintro ⟨segment, hsegment, hmem⟩
    refine ⟨segment, List.mem_filter.2 ⟨hsegment, ?_⟩, hmem⟩
    simpa using List.ne_nil_of_mem hmem
  · rintro ⟨segment, hsegment, hmem⟩
    exact ⟨segment, (List.mem_filter.1 hsegment).1, hmem⟩

end ChannelGateway.Segments
