import ChannelGateway.Json.Pointer
import ChannelGateway.Proofs.Json.Fields
/-!
# Parts of values

What occurs in a value, at any depth.
-/

namespace ChannelGateway.Json

/-- A value is a part of another one, or that value itself. -/
inductive Occurs : Json → Json → Prop
  | refl (value : Json) : Occurs value value
  | item {items : List Json} {item part : Json} : item ∈ items → Occurs item part →
      Occurs (.array items) part
  | field {fields : Fields} {key : String} {value part : Json} : (key, value) ∈ fields →
      Occurs value part → Occurs (.object fields) part

theorem Occurs.trans {whole part inner : Json} (h : Occurs whole part) (h' : Occurs part inner) :
    Occurs whole inner := by
  induction h with
  | refl => exact h'
  | item hmem _ ih => exact .item hmem (ih h')
  | field hmem _ ih => exact .field hmem (ih h')

theorem occurs_object {fields : Fields} {part : Json} :
    Occurs (.object fields) part ↔
      part = .object fields ∨ ∃ field ∈ fields, Occurs field.2 part := by
  constructor
  · intro h
    cases h with
    | refl => exact Or.inl rfl
    | field hmem hpart => exact Or.inr ⟨_, hmem, hpart⟩
  · rintro (rfl | ⟨⟨key, value⟩, hmem, hpart⟩)
    · exact .refl _
    · exact .field hmem hpart

theorem occurs_string {s : String} {part : Json} : Occurs (.string s) part ↔ part = .string s := by
  constructor
  · rintro ⟨⟩
    rfl
  · rintro rfl
    exact .refl _

theorem occurs_of_step? {value part : Json} {token : String}
    (h : Pointer.step? value token = some part) : Occurs value part := by
  unfold Pointer.step? at h
  split at h
  · exact .field (Fields.mem_of_lookup h) (.refl _)
  · obtain ⟨index, -, hindex⟩ := Option.bind_eq_some_iff.1 h
    exact .item (List.mem_of_getElem? hindex) (.refl _)
  · cases h

theorem occurs_of_steps? {tokens : List String} {value part : Json}
    (h : tokens.foldlM Pointer.step? value = some part) : Occurs value part := by
  induction tokens generalizing value with
  | nil =>
      cases h
      exact .refl _
  | cons token rest ih =>
      rw [List.foldlM_cons] at h
      obtain ⟨next, hnext, h⟩ := Option.bind_eq_some_iff.1 h
      exact (occurs_of_step? hnext).trans (ih h)

def HasDistinctKeys (value : Json) : Prop :=
  ∀ fields, Occurs value (.object fields) → (Fields.keys fields).Nodup

theorem HasDistinctKeys.part {value part : Json} (h : value.HasDistinctKeys)
    (hpart : Occurs value part) :
    part.HasDistinctKeys :=
  fun fields hfields => h fields (hpart.trans hfields)

theorem HasDistinctKeys.field {fields : Fields} (h : (Json.object fields).HasDistinctKeys)
    {key : String} {value : Json} (hmem : (key, value) ∈ fields) :
    fields.lookup key = some value ∧ value.HasDistinctKeys :=
  ⟨Fields.lookup_of_mem (h fields (.refl _)) hmem, h.part (.field hmem (.refl _))⟩

/-! ## Sizes -/

theorem size_le_sizeItems {items : List Json} {item : Json} (h : item ∈ items) :
    item.size ≤ sizeItems items := by
  induction items with
  | nil => cases h
  | cons first rest ih =>
      rw [sizeItems]
      rcases List.mem_cons.1 h with rfl | h
      · exact Nat.le_add_right _ _
      · exact Nat.le_trans (ih h) (Nat.le_add_left _ _)

theorem size_le_sizeFields {fields : Fields} {key : String} {value : Json}
    (h : (key, value) ∈ fields) :
    value.size ≤ sizeFields fields := by
  induction fields with
  | nil => cases h
  | cons first rest ih =>
      rw [sizeFields]
      rcases List.mem_cons.1 h with rfl | h
      · exact Nat.le_add_right _ _
      · exact Nat.le_trans (ih h) (Nat.le_add_left _ _)

theorem Occurs.size_le {whole part : Json} (h : Occurs whole part) : part.size ≤ whole.size := by
  induction h with
  | refl => exact Nat.le_refl _
  | item hmem _ ih =>
      have := size_le_sizeItems hmem
      rw [size]
      omega
  | field hmem _ ih =>
      have := size_le_sizeFields hmem
      rw [size]
      omega

end ChannelGateway.Json
