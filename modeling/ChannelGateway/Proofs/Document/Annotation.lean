import ChannelGateway.Proofs.Document.Identifiers
/-!
# Annotated schemas

The identifiers that schemas get under the reserved key leave references and stated identifiers as
they are, so an annotated schema is self-contained if and only if the schema is.
-/

namespace ChannelGateway

open Json

namespace Json

theorem demands_cons {key r : String} {value : Json} {rest : Fields} :
    Demands ((key, value) :: rest) r ↔ Dangles value r ∨ Demands rest r := by
  constructor
  · rintro ⟨name, held, hmem, hheld⟩
    rcases List.mem_cons.1 hmem with heq | hmem
    · cases heq
      exact Or.inl hheld
    · exact Or.inr ⟨name, held, hmem, hheld⟩
  · rintro (hvalue | ⟨name, held, hmem, hheld⟩)
    · exact ⟨key, value, List.mem_cons_self, hvalue⟩
    · exact ⟨name, held, List.mem_cons_of_mem _ hmem, hheld⟩

theorem dangles_array_cons {item : Json} {rest : List Json} {r : String} :
    Dangles (.array (item :: rest)) r ↔ Dangles item r ∨ Dangles (.array rest) r := by
  constructor
  · intro h
    cases h with
    | item hmem hvalue =>
        rcases List.mem_cons.1 hmem with rfl | hmem
        · exact Or.inl hvalue
        · exact Or.inr (.item hmem hvalue)
  · rintro (hvalue | h)
    · exact .item List.mem_cons_self hvalue
    · cases h with
      | item hmem hvalue => exact .item (List.mem_cons_of_mem _ hmem) hvalue

end Json

namespace SchemaIds

/-- Two objects refer to the same, state the same identifier and demand the same of the
objects around them. -/
structure Agrees (a b : Fields) : Prop where
  reference : reference? a = reference? b
  identifier : identifier? a = identifier? b
  demands : ∀ r, Demands a r ↔ Demands b r

theorem Agrees.dangles {a b : Fields} (h : Agrees a b) (r : String) :
    Dangles (.object a) r ↔ Dangles (.object b) r := by
  rw [dangles_object, dangles_object, h.reference, h.identifier, h.demands]

namespace Omits

variable {p : Json → Prop} {a b : Json} {as bs : Fields}

theorem string?_eq (h : Omits p a b) : a.string? = b.string? := by
  cases h <;> rfl

theorem string?_lookup (h : Omits p (.object as) (.object bs)) {name : String}
    (hname : name ≠ key) :
    (as.lookup name).bind string? = (bs.lookup name).bind string? := by
  generalize hwhole : Json.object as = whole at h
  generalize hleft : Json.object bs = left at h
  induction h generalizing as bs with
  | refl =>
      obtain rfl := Json.object.inj (hwhole.trans hleft.symm)
      rfl
  | item => cases hwhole
  | field ha _ _ ih =>
      cases hwhole
      cases hleft
      rw [List.lookup_cons, List.lookup_cons]
      split
      · exact ha.string?_eq
      · exact ih rfl rfl
  | identifier _ _ ih =>
      cases hwhole
      have hne : (name == key) = false := by simpa using hname
      rw [List.lookup_cons, hne]
      exact ih rfl hleft

theorem agrees (h : Omits p (.object as) (.object bs))
    (hdemands : ∀ r, Demands as r ↔ Demands bs r) :
    Agrees as bs :=
  ⟨h.string?_lookup (by decide), h.string?_lookup (by decide), hdemands⟩

/-- Leaving out texts changes nothing for references.  What an object demands of those around it is
carried along, as it is not determined by what dangles in the object. -/
theorem dangles_and_demands (h : Omits IsText a b) : (∀ r, Dangles a r ↔ Dangles b r) ∧
    ∀ as bs, a = .object as → b = .object bs → ∀ r, Demands as r ↔ Demands bs r := by
  induction h with
  | refl value =>
      refine ⟨fun _ => Iff.rfl, ?_⟩
      rintro as bs rfl heq
      obtain rfl := Json.object.inj heq
      exact fun _ => Iff.rfl
  | item _ _ ha has =>
      refine ⟨fun r => ?_, by simp⟩
      rw [dangles_array_cons, dangles_array_cons, ha.1 r, has.1 r]
  | @field name a b as bs ha has iha ihas =>
      have hdemands (r : String) : Demands ((name, a) :: as) r ↔ Demands ((name, b) :: bs) r := by
        rw [demands_cons, demands_cons, iha.1 r, ihas.2 as bs rfl rfl r]
      refine ⟨((Omits.field ha has).agrees hdemands).dangles, ?_⟩
      rintro _ _ ⟨⟩ ⟨⟩
      exact hdemands
  | @identifier value as bs hvalue has ihas =>
      have hdemands (r : String) : Demands ((key, value) :: as) r ↔ Demands bs r := by
        obtain ⟨s, rfl⟩ := hvalue
        rw [demands_cons, or_iff_right (not_dangles_string s r)]
        exact ihas.2 as bs rfl rfl r
      refine ⟨((Omits.identifier hvalue has).agrees hdemands).dangles, ?_⟩
      rintro _ _ ⟨⟩ ⟨⟩
      exact hdemands

theorem selfContained_iff (h : Omits IsText a b) : SelfContained a ↔ SelfContained b := by
  rw [Json.selfContained_iff, Json.selfContained_iff]
  exact forall_congr' fun r => not_congr (h.dangles_and_demands.1 r)

end Omits

theorem selfContained_annotate (schema : Json) (n : Nat) :
    SelfContained (annotate schema n).1 ↔ SelfContained schema :=
  (omits_annotate schema n).selfContained_iff

end SchemaIds

end ChannelGateway
