import ChannelGateway.Json.Value
import Mathlib.Data.List.Nodup
/-!
# Reading and writing fields

How writing and removing fields show in look-ups and in the keys.  Every other module reads the
fields of objects through these lemmas.
-/

namespace ChannelGateway.Fields

theorem mem_of_lookup {α : Type} {key : String} {value : α} {fields : List (String × α)}
    (h : fields.lookup key = some value) : (key, value) ∈ fields := by
  obtain ⟨before, after, hfields, -⟩ := List.lookup_eq_some_iff.1 h
  rw [hfields]
  exact List.mem_append_right before List.mem_cons_self

@[simp] theorem keys_nil : keys [] = [] := rfl

@[simp] theorem keys_cons (field : String × Json) (rest : List (String × Json)) :
    keys (field :: rest) = field.1 :: keys rest := rfl

@[simp] theorem lookup_insert_self (key : String) (value : Json) (fields : Fields) :
    (insert key value fields).lookup key = some value := by
  induction fields with
  | nil => simp [insert]
  | cons field rest ih =>
      by_cases hkey : field.1 = key
      · simp [insert, hkey]
      · have hne : (key == field.1) = false := by simpa using Ne.symm hkey
        simp only [insert, hkey, if_false, List.lookup_cons, hne]
        exact ih

theorem lookup_insert_of_ne {key other : String} (hne : other ≠ key) (value : Json)
    (fields : Fields) : (insert key value fields).lookup other = fields.lookup other := by
  have hother : (other == key) = false := by simpa using hne
  induction fields with
  | nil => simp [insert, List.lookup_cons, hother]
  | cons field rest ih =>
      obtain ⟨name, old⟩ := field
      by_cases hkey : name = key
      · simp [insert, hkey, List.lookup_cons, hother]
      · simp [insert, hkey, List.lookup_cons, ih]

theorem lookup_insert (key other : String) (value : Json) (fields : Fields) :
    (insert key value fields).lookup other =
      if other = key then some value else fields.lookup other := by
  split
  · next h => rw [h, lookup_insert_self]
  · next h => exact lookup_insert_of_ne h value fields

theorem insert_of_lookup_none {key : String} {fields : Fields} (h : fields.lookup key = none)
    (value : Json) : insert key value fields = fields ++ [(key, value)] := by
  induction fields with
  | nil => rfl
  | cons field rest ih =>
      rw [List.lookup_cons] at h
      split at h
      · cases h
      · next hne =>
          have hkey : field.1 ≠ key := fun heq => by simp [heq] at hne
          simp [insert, hkey, ih h]

theorem isSome_lookup_iff {α : Type} {fields : List (String × α)} {key : String} :
    (fields.lookup key).isSome ↔ key ∈ fields.map Prod.fst := by
  rw [List.lookup_isSome_iff, List.mem_map]
  exact exists_congr fun field => and_congr_right fun _ => beq_iff_eq.trans eq_comm

theorem lookup_eq_none_of_not_mem {key : String} {fields : Fields} (h : key ∉ keys fields) :
    fields.lookup key = none := by
  rw [← Option.not_isSome_iff_eq_none, isSome_lookup_iff]
  exact h

theorem insert_of_not_mem_keys {key : String} {fields : Fields} (h : key ∉ keys fields)
    (value : Json) : insert key value fields = fields ++ [(key, value)] :=
  insert_of_lookup_none (lookup_eq_none_of_not_mem h) value

theorem foldl_insert {earlier pairs : Fields} (h : (keys earlier ++ keys pairs).Nodup) :
    pairs.foldl (fun fields pair => insert pair.1 pair.2 fields) earlier = earlier ++ pairs := by
  induction pairs generalizing earlier with
  | nil => rw [List.foldl_nil, List.append_nil]
  | cons pair rest ih =>
      obtain ⟨-, -, hdisjoint⟩ := List.nodup_append.1 h
      have hpair : pair.1 ∉ keys earlier := fun hmem => hdisjoint _ hmem _ List.mem_cons_self rfl
      rw [List.foldl_cons, insert_of_not_mem_keys hpair, ih, List.append_assoc,
        List.singleton_append]
      simpa [keys] using h

theorem ofList_of_nodup {pairs : Fields} (h : (keys pairs).Nodup) : ofList pairs = pairs :=
  foldl_insert h

theorem mem_insert {key : String} {value : Json} {field : String × Json} {fields : Fields}
    (h : field ∈ insert key value fields) : field = (key, value) ∨ field ∈ fields := by
  induction fields with
  | nil => exact Or.inl (List.mem_singleton.1 h)
  | cons first rest ih =>
      by_cases hkey : first.1 = key
      · simp only [insert, hkey, if_true, List.mem_cons] at h ⊢
        rcases h with h | h
        · exact Or.inl h
        · exact Or.inr (Or.inr h)
      · simp only [insert, hkey, if_false, List.mem_cons] at h ⊢
        rcases h with h | h
        · exact Or.inr (Or.inl h)
        · exact (ih h).imp_right Or.inr

theorem mem_insert_of_ne {key : String} {value : Json} {field : String × Json} {fields : Fields}
    (h : field ∈ fields) (hne : field.1 ≠ key) : field ∈ insert key value fields := by
  induction fields with
  | nil => cases h
  | cons first rest ih =>
      by_cases hkey : first.1 = key
      · simp only [insert, hkey, if_true, List.mem_cons] at h ⊢
        rcases h with rfl | h
        · exact absurd hkey hne
        · exact Or.inr h
      · simp only [insert, hkey, if_false, List.mem_cons] at h ⊢
        exact h.imp_right ih

theorem lookup_map (f : Json → Json) (key : String) (fields : Fields) :
    (fields.map fun field => (field.1, f field.2)).lookup key = (fields.lookup key).map f := by
  induction fields with
  | nil => rfl
  | cons field rest ih =>
      rw [List.map_cons, List.lookup_cons, List.lookup_cons, ih]
      split <;> rfl

theorem lookup_map_with_key (f : String → Json → Json) (key : String) (fields : Fields) :
    (fields.map fun field => (field.1, f field.1 field.2)).lookup key =
      (fields.lookup key).map (f key) := by
  induction fields with
  | nil => rfl
  | cons field rest ih =>
      rw [List.map_cons, List.lookup_cons, List.lookup_cons, ih]
      split
      · next hkey =>
          rw [beq_iff_eq.1 hkey]
          rfl
      · rfl

/-- Fields made of some names: a name that has a value is found under it. -/
theorem lookup_filterMap (value? : String → Option Json) (names : List String) (key : String) :
    (names.filterMap fun name => (value? name).map fun value => (name, value)).lookup key =
      if key ∈ names then value? key else none := by
  induction names with
  | nil => rfl
  | cons name rest ih =>
      by_cases hkey : key = name
      · subst hkey
        cases hvalue : value? key with
        | none => simp [hvalue, ih]
        | some value => simp [hvalue]
      · cases hvalue : value? name with
        | none => simp [hvalue, ih, hkey]
        | some value => simp [hvalue, ih, hkey, List.lookup_cons, beq_eq_false_iff_ne.2 hkey]

theorem keys_filterMap (value? : String → Option Json) (names : List String) :
    keys (names.filterMap fun name => (value? name).map fun value => (name, value)) =
      names.filter fun name => (value? name).isSome := by
  induction names with
  | nil => rfl
  | cons name rest ih => cases hvalue : value? name <;> simp [hvalue, ih]

theorem keys_insert (key : String) (value : Json) (fields : Fields) :
    keys (insert key value fields) =
      if key ∈ keys fields then keys fields else keys fields ++ [key] := by
  induction fields with
  | nil => simp [insert, keys]
  | cons field rest ih =>
      by_cases hkey : field.1 = key
      · simp [insert, hkey, keys]
      · have hne : key ≠ field.1 := Ne.symm hkey
        simp only [insert, hkey, if_false, keys_cons, List.mem_cons, hne, false_or, ih]
        split <;> simp

theorem mem_keys_insert {key other : String} {value : Json} {fields : Fields} :
    other ∈ keys (insert key value fields) ↔ other = key ∨ other ∈ keys fields := by
  rw [keys_insert]
  split
  · next h =>
      constructor
      · exact Or.inr
      · rintro (rfl | h')
        · exact h
        · exact h'
  · rw [List.mem_append, List.mem_singleton]
    exact or_comm

/-- If the keys are distinct, every field is the one that is looked up. -/
theorem lookup_of_mem {α : Type} {fields : List (String × α)} (h : (fields.map Prod.fst).Nodup)
    {key : String} {value : α} (hmem : (key, value) ∈ fields) : fields.lookup key = some value := by
  induction fields with
  | nil => cases hmem
  | cons first rest ih =>
      rw [List.map_cons, List.nodup_cons] at h
      rcases List.mem_cons.1 hmem with rfl | hrest
      · exact List.lookup_cons_self
      · have hne : (key == first.1) = false := by
          have hother : first.1 ≠ key := fun heq => h.1 (heq ▸ List.mem_map_of_mem hrest)
          simpa using Ne.symm hother
        rw [List.lookup_cons, hne]
        exact ih h.2 hrest

/-- Fields with distinct keys are determined by their keys and the values under them. -/
theorem ext_of_keys {fields others : Fields} (h : (keys fields).Nodup)
    (hkeys : keys fields = keys others) (hvalues : ∀ key, fields.lookup key = others.lookup key) :
    fields = others := by
  induction fields generalizing others with
  | nil => exact (List.map_eq_nil_iff.1 hkeys.symm).symm
  | cons field rest ih =>
      obtain ⟨key, value⟩ := field
      cases others with
      | nil => simp at hkeys
      | cons other rest' =>
          obtain ⟨key', value'⟩ := other
          obtain ⟨rfl, hrests⟩ : key = key' ∧ keys rest = keys rest' := by simpa using hkeys
          obtain ⟨hkey, hrest⟩ := List.nodup_cons.1 h
          obtain rfl : value = value' := by simpa using hvalues key
          have hlookup : ∀ name, rest.lookup name = rest'.lookup name := by
            intro name
            by_cases hname : name = key
            · rw [hname, lookup_eq_none_of_not_mem hkey, lookup_eq_none_of_not_mem (hrests ▸ hkey)]
            · simpa [List.lookup_cons, beq_eq_false_iff_ne.2 hname] using hvalues name
          rw [ih hrest hrests hlookup]

theorem nodup_keys_insert {fields : Fields} (h : (keys fields).Nodup) (key : String)
    (value : Json) :
    (keys (insert key value fields)).Nodup := by
  rw [keys_insert]
  split
  · exact h
  · next hkey => exact List.nodup_append.2 ⟨h, by simp, fun a ha b hb => by
      rw [List.mem_singleton] at hb
      rintro rfl
      exact hkey (hb ▸ ha)⟩

theorem keys_perm_erase {key : String} {fields : Fields} (h : key ∈ keys fields) :
    (keys fields).Perm (key :: keys (erase key fields)) := by
  induction fields with
  | nil => simp at h
  | cons field rest ih =>
      by_cases hkey : field.1 = key
      · rw [keys_cons, hkey]
        refine List.Perm.cons key ?_
        simp only [erase, hkey, if_true]
        rcases List.eq_nil_or_concat rest with rfl | ⟨front, last, rfl⟩
        · rfl
        · simp [keys]
      · have hrest : key ∈ keys rest := by
          rw [keys_cons, List.mem_cons] at h
          exact h.resolve_left (Ne.symm hkey)
        simp only [erase, hkey, if_false, keys_cons]
        exact (List.Perm.cons _ (ih hrest)).trans (List.Perm.swap _ _ _)

theorem erase_of_not_mem {key : String} {fields : Fields} (h : key ∉ keys fields) :
    erase key fields = fields := by
  induction fields with
  | nil => rfl
  | cons field rest ih =>
      rw [keys_cons, List.mem_cons, not_or] at h
      simp only [erase, Ne.symm h.1, if_false, ih h.2]

theorem mem_keys_erase {key other : String} {fields : Fields} (h : (keys fields).Nodup) :
    other ∈ keys (erase key fields) ↔ other ≠ key ∧ other ∈ keys fields := by
  by_cases hkey : key ∈ keys fields
  · have hperm := keys_perm_erase hkey
    have hnodup := hperm.nodup_iff.1 h
    rw [hperm.mem_iff, List.mem_cons]
    constructor
    · intro hother
      exact ⟨fun heq => (List.nodup_cons.1 hnodup).1 (heq ▸ hother), Or.inr hother⟩
    · rintro ⟨hne, heq | hother⟩
      · exact absurd heq hne
      · exact hother
  · rw [erase_of_not_mem hkey]
    exact ⟨fun hother => ⟨fun heq => hkey (heq ▸ hother), hother⟩, And.right⟩

end ChannelGateway.Fields
