import Mathlib.Data.List.Forall2
/-!
# Lists that are related one by one

Readers and compilers of lists relate what they read to what they make, element by element.  These
lemmas look up the partner of an element, chain two such relations and build related lists.
-/

namespace ChannelGateway

theorem exists_left_of_forall₂ {α β : Type} {R : α → β → Prop} {as : List α} {bs : List β}
    (h : List.Forall₂ R as bs) {b : β} (hb : b ∈ bs) : ∃ a ∈ as, R a b := by
  induction h with
  | nil => cases hb
  | cons hab _ ih =>
      rcases List.mem_cons.1 hb with rfl | hb
      · exact ⟨_, List.mem_cons_self, hab⟩
      · obtain ⟨a, ha, hR⟩ := ih hb
        exact ⟨a, List.mem_cons_of_mem _ ha, hR⟩

theorem exists_right_of_forall₂ {α β : Type} {R : α → β → Prop} {as : List α} {bs : List β}
    (h : List.Forall₂ R as bs) {a : α} (ha : a ∈ as) : ∃ b ∈ bs, R a b :=
  exists_left_of_forall₂ h.flip ha

theorem exists_zip_of_forall₂ {α β γ : Type} {R : α → β → Prop} {as : List α} {bs : List β}
    (h : List.Forall₂ R as bs) {cs : List γ} {a : α} {c : γ} (hmem : (a, c) ∈ as.zip cs) :
    ∃ b, R a b ∧ (b, c) ∈ bs.zip cs := by
  induction h generalizing cs with
  | nil => cases hmem
  | cons hab _ ih =>
      cases cs with
      | nil => cases hmem
      | cons first rest =>
          rcases List.mem_cons.1 hmem with hfirst | hrest
          · cases hfirst
            exact ⟨_, hab, List.mem_cons_self⟩
          · obtain ⟨b, hb, hbc⟩ := ih hrest
            exact ⟨b, hb, List.mem_cons_of_mem _ hbc⟩

theorem forall₂_comp {α β γ : Type} {R : α → β → Prop} {S : β → γ → Prop} {as : List α}
    {bs : List β} {cs : List γ} (h : List.Forall₂ R as bs) (h' : List.Forall₂ S bs cs) :
    List.Forall₂ (fun a c => ∃ b, R a b ∧ S b c) as cs := by
  induction h generalizing cs with
  | nil =>
      cases h'
      exact .nil
  | cons hab _ ih =>
      cases h' with
      | cons hbc hrest => exact .cons ⟨_, hab, hbc⟩ (ih hrest)

theorem exists_forall₂ {α β : Type} {R : α → β → Prop} {as : List α} (h : ∀ a ∈ as, ∃ b, R a b) :
    ∃ bs, List.Forall₂ R as bs := by
  induction as with
  | nil => exact ⟨[], .nil⟩
  | cons a rest ih =>
      obtain ⟨⟨b, hb⟩, hrest⟩ := List.forall_mem_cons.1 h
      obtain ⟨bs, hbs⟩ := ih hrest
      exact ⟨b :: bs, .cons hb hbs⟩

theorem forall₂_exists_iff {α β γ : Type} {R : α → β → Prop} {f : β → γ} {as : List α}
    {cs : List γ} :
    List.Forall₂ (fun a c => ∃ b, R a b ∧ f b = c) as cs ↔
      ∃ bs, List.Forall₂ R as bs ∧ bs.map f = cs := by
  induction as generalizing cs with
  | nil =>
      simp only [List.forall₂_nil_left_iff, exists_eq_left, List.map_nil]
      exact eq_comm
  | cons a rest ih =>
      simp only [List.forall₂_cons_left_iff, ih]
      constructor
      · rintro ⟨_, _, ⟨b, hb, rfl⟩, ⟨bs, hbs, rfl⟩, rfl⟩
        exact ⟨b :: bs, ⟨b, bs, hb, hbs, rfl⟩, rfl⟩
      · rintro ⟨_, ⟨b, bs, hb, hbs, rfl⟩, rfl⟩
        exact ⟨f b, bs.map f, ⟨b, hb, rfl⟩, ⟨bs, hbs, rfl⟩, rfl⟩

end ChannelGateway
