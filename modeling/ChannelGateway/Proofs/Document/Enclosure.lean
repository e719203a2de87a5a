import ChannelGateway.Document.Reference
import ChannelGateway.Proofs.Json.Fields
/-!
# Enclosed references

A value is self-contained if every object with a reference lies inside an object that states the
identifier at which the reference is aimed.  A reference that lies in no such object dangles.  What
dangles in an object dangles in one of its fields, unless the object itself states the identifier.
-/

namespace ChannelGateway.Json

def identifier? (fields : Fields) : Option String := (fields.lookup identifierKey).bind string?

/-- An object inside a value, with the objects around it, the outermost first. -/
inductive Inside : Json → List Fields → Fields → Prop
  | self (fields : Fields) : Inside (.object fields) [] fields
  | field {fields : Fields} {key : String} {value : Json} {above : List Fields} {inner : Fields} :
      (key, value) ∈ fields → Inside value above inner →
        Inside (.object fields) (fields :: above) inner
  | item {items : List Json} {value : Json} {above : List Fields} {inner : Fields} :
      value ∈ items → Inside value above inner → Inside (.array items) above inner

def SelfContained (j : Json) : Prop :=
  ∀ above fields r, Inside j above fields → reference? fields = some r →
    ∃ outer ∈ above, identifier? outer = some r

/-- A reference in a value that no object around it answers. -/
inductive Dangles : Json → String → Prop
  | reference {fields : Fields} {r : String} : reference? fields = some r →
      Dangles (.object fields) r
  | field {fields : Fields} {key : String} {value : Json} {r : String} :
      (key, value) ∈ fields → Dangles value r → identifier? fields ≠ some r →
        Dangles (.object fields) r
  | item {items : List Json} {value : Json} {r : String} :
      value ∈ items → Dangles value r → Dangles (.array items) r

theorem dangles_iff_exists_inside {j : Json} {r : String} :
    Dangles j r ↔ ∃ above fields, Inside j above fields ∧ reference? fields = some r ∧
      ∀ outer ∈ above, identifier? outer ≠ some r := by
  constructor
  · intro h
    induction h with
    | @reference fields r href => exact ⟨[], fields, .self fields, href, by simp⟩
    | field hmem _ hne ih =>
        obtain ⟨above, inner, hinside, href, habove⟩ := ih
        exact ⟨_, inner, .field hmem hinside, href, by simpa using ⟨hne, habove⟩⟩
    | item hmem _ ih =>
        obtain ⟨above, inner, hinside, href, habove⟩ := ih
        exact ⟨above, inner, .item hmem hinside, href, habove⟩
  · rintro ⟨above, fields, hinside, href, habove⟩
    induction hinside with
    | self => exact .reference href
    | field hmem _ ih =>
        have houter := List.forall_mem_cons.1 habove
        exact .field hmem (ih href houter.2) houter.1
    | item hmem _ ih => exact .item hmem (ih href habove)

theorem selfContained_iff {j : Json} : SelfContained j ↔ ∀ r, ¬ Dangles j r := by
  constructor
  · intro h r hdangles
    obtain ⟨above, fields, hinside, href, habove⟩ := dangles_iff_exists_inside.1 hdangles
    obtain ⟨outer, houter, hid⟩ := h above fields r hinside href
    exact habove outer houter hid
  · intro h above fields r hinside href
    by_contra hnone
    refine h r
      (dangles_iff_exists_inside.2 ⟨above, fields, hinside, href, fun outer houter hid => ?_⟩)
    exact hnone ⟨outer, houter, hid⟩

theorem not_dangles_string (s r : String) : ¬ Dangles (.string s) r := by
  intro h
  cases h

theorem selfContained_empty : SelfContained (.object []) := by
  rw [selfContained_iff]
  intro r h
  cases h with
  | reference href => cases href
  | field hmem => cases hmem

/-- A reference in one of the fields that none of the objects in it answers. -/
def Demands (fields : Fields) (r : String) : Prop :=
  ∃ key value, (key, value) ∈ fields ∧ Dangles value r

theorem dangles_object {fields : Fields} {r : String} :
    Dangles (.object fields) r ↔
      reference? fields = some r ∨ identifier? fields ≠ some r ∧ Demands fields r := by
  constructor
  · intro h
    cases h with
    | reference href => exact Or.inl href
    | field hmem hvalue hne => exact Or.inr ⟨hne, _, _, hmem, hvalue⟩
  · rintro (href | ⟨hne, key, value, hmem, hvalue⟩)
    · exact .reference href
    · exact .field hmem hvalue hne

/-- A reference that dangles in an object unless the object states the identifier. -/
def Asks (fields : Fields) (r : String) : Prop := reference? fields = some r ∨ Demands fields r

theorem asks_of_dangles {fields : Fields} {r : String} (h : Dangles (.object fields) r) :
    Asks fields r :=
  (dangles_object.1 h).imp_right And.right

theorem dangles_of_asks {fields : Fields} {r : String} (h : Asks fields r)
    (hid : identifier? fields ≠ some r) : Dangles (.object fields) r :=
  dangles_object.2 (h.imp_right fun hdemands => ⟨hid, hdemands⟩)

/-! ## Stating another identifier -/

section Identify

variable {fields : Fields} {id r : String}

theorem reference?_identify :
    reference? (Fields.insert identifierKey (.string id) fields) = reference? fields := by
  rw [reference?, Fields.lookup_insert_of_ne (by decide)]
  rfl

theorem identifier?_identify :
    identifier? (Fields.insert identifierKey (.string id) fields) = some id := by
  rw [identifier?, Fields.lookup_insert_self]
  rfl

theorem demands_of_identify (h : Demands (Fields.insert identifierKey (.string id) fields) r) :
    Demands fields r := by
  obtain ⟨key, value, hmem, hvalue⟩ := h
  rcases Fields.mem_insert hmem with heq | hmem
  · cases heq
    exact absurd hvalue (not_dangles_string id r)
  · exact ⟨key, value, hmem, hvalue⟩

theorem demands_identify (hid : ∀ value, (identifierKey, value) ∈ fields → ∃ s, value = .string s)
    (h : Demands fields r) : Demands (Fields.insert identifierKey (.string id) fields) r := by
  obtain ⟨key, value, hmem, hvalue⟩ := h
  refine ⟨key, value, Fields.mem_insert_of_ne hmem fun hkey => ?_, hvalue⟩
  rw [show key = identifierKey from hkey] at hmem
  obtain ⟨s, rfl⟩ := hid value hmem
  exact not_dangles_string s r hvalue

theorem asks_identify (hid : ∀ value, (identifierKey, value) ∈ fields → ∃ s, value = .string s)
    (h : Asks fields r) : Asks (Fields.insert identifierKey (.string id) fields) r := by
  rcases h with href | hdemands
  · exact Or.inl (by rw [reference?_identify, href])
  · exact Or.inr (demands_identify hid hdemands)

end Identify

end ChannelGateway.Json
