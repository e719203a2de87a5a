import ChannelGateway.Proofs.Schema.Reading
import ChannelGateway.Schema.Compiled
/-!
# Schemas that are compiled

What is known of a schema that was compiled: the document that it is was read, to a depth
beyond its size.
-/

namespace ChannelGateway.Schema

theorem Registry.size_le_of_mem {registry : Registry} {resource : Resource}
    (h : resource ∈ registry.resources) : resource.content.size ≤ registry.size := by
  rw [size]
  revert h
  generalize registry.resources = resources
  intro h
  induction resources with
  | nil => cases h
  | cons first rest ih =>
      rw [List.foldr_cons]
      rcases List.mem_cons.1 h with rfl | h
      · omega
      · have := ih h
        omega

theorem Registry.mem_resources_of_ofDocument {document : Resource} {registry : Registry}
    (h : ofDocument document = .ok registry) : document ∈ registry.resources := by
  obtain ⟨outer, -, h⟩ := exists_of_bind_eq_ok h
  split at h
  · cases h
  · cases h
    exact List.mem_append_right _ List.mem_cons_self

/-- A schema that was compiled was read as a document of its draft, which is no larger than what
is at hand. -/
theorem exists_resource_of_ofJson {schema : Json} {formats : Bool} {compiled : CompiledSchema}
    (h : CompiledSchema.ofJson schema formats = .ok compiled) :
    ∃ draft registry uri, draftOf .draft202012 schema = .ok draft ∧ schema.size ≤ registry.size ∧
      CompiledSchema.ofResource registry formats ⟨uri, draft, schema⟩ = .ok compiled := by
  obtain ⟨draft, hdraft, h⟩ := exists_of_bind_eq_ok h
  obtain ⟨uri, -, h⟩ := exists_of_bind_eq_ok h
  obtain ⟨registry, hregistry, h⟩ := exists_of_bind_eq_ok h
  have hsize := Registry.size_le_of_mem (Registry.mem_resources_of_ofDocument hregistry)
  refine ⟨draft, registry, uri, hdraft, hsize, ?_⟩
  dsimp only at h
  split at h
  · cases h
  · exact h

/-- The depth of reading reaches into a document and into the schemas inside it. -/
theorem exists_readingDepth_eq (registry : Registry) :
    ∃ n, CompiledSchema.readingDepth registry = n + 2 := by
  have hpow : 2 ^ 1 ≤ Nat.pow 2 60 := Nat.pow_le_pow_right (by omega) (by omega)
  exact ⟨CompiledSchema.readingDepth registry - 2, by rw [CompiledSchema.readingDepth]; omega⟩

end ChannelGateway.Schema
