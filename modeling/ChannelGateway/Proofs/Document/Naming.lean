import ChannelGateway.Proofs.Document.Expansion
import ChannelGateway.Proofs.Document.Recursion
/-!
# What an identifier names

A reference that is met again inside its own target is aimed at the identifier of the copy.  The
identifier is made of the name in the reference, but all characters that are neither letters or
digits nor `-` or `.` come out as one and the same.  So a reference names the right schema as long
as no two references that are met again, and point at different targets, have names that agree up
to such characters.
-/

namespace ChannelGateway

namespace Reference

open Json

variable {root node : Json}

/-! ## Names -/

def IsKept (c : Char) : Prop := c.isAlphanum = true ∨ c = '-' ∨ c = '.'

instance (c : Char) : Decidable (IsKept c) := inferInstanceAs (Decidable (_ ∨ _ ∨ _))

def nameOf (r : String) : List Char := r.toList.dropWhile fun c => c = '#' || c = '/'

def SameName (r q : String) : Prop :=
  List.Forall₂ (fun c d => c = d ∨ ¬ IsKept c ∧ ¬ IsKept d) (nameOf r) (nameOf q)

def spelled (c : Char) : Char := if IsKept c then c else ':'

theorem spelled_eq_iff {c d : Char} : spelled c = spelled d ↔ c = d ∨ ¬ IsKept c ∧ ¬ IsKept d := by
  have hcolon : ¬ IsKept ':' := by decide
  unfold spelled
  by_cases hc : IsKept c <;> by_cases hd : IsKept d
  · simp [hc, hd]
  · rw [if_pos hc, if_neg hd]
    exact ⟨fun h => absurd (h ▸ hc) hcolon, fun h => absurd hc (h.elim (· ▸ hd) And.left)⟩
  · rw [if_neg hc, if_pos hd]
    exact ⟨fun h => absurd (h ▸ hd) hcolon, fun h => absurd hd (h.elim (· ▸ hc) And.right)⟩
  · simp [hc, hd]

theorem identifier_eq (r : String) :
    identifier r = "urn:asyncgate:ref:" ++ String.ofList ((nameOf r).map spelled) := by
  have hspelled : spelled = fun c => if c.isAlphanum || c = '-' || c = '.' then c else ':' := by
    funext c
    exact if_congr (by simp [IsKept, or_assoc]) rfl rfl
  rw [hspelled]
  rfl

/-- Two references have the same identifier if and only if they have the same name. -/
theorem identifier_eq_iff {r q : String} : identifier r = identifier q ↔ SameName r q := by
  rw [identifier_eq, identifier_eq, String.append_right_inj, String.ofList_inj,
    ← List.forall₂_eq_eq_eq, List.forall₂_map_left_iff, List.forall₂_map_right_iff, SameName]
  simp only [spelled_eq_iff]

example : identifier "#/definitions/living_room" = identifier "#/definitions/living/room" := by
  decide

/-- References such as `#/components/schemas/pet`: in their names, all characters but
slashes are kept. -/
def IsPlainlyNamed (r : String) : Prop :=
  ∃ name, r.toList = '#' :: '/' :: name ∧ name.head? ≠ some '#' ∧ name.head? ≠ some '/' ∧
    ∀ c ∈ name, IsKept c ∨ c = '/'

theorem nameOf_eq {r : String} {name : List Char} (hr : r.toList = '#' :: '/' :: name)
    (hsign : name.head? ≠ some '#') (hslash : name.head? ≠ some '/') : nameOf r = name := by
  rw [nameOf, hr]
  cases name with
  | nil => rfl
  | cons c rest => simp_all

theorem SameName.eq_of_isPlainlyNamed {r q : String} (h : SameName r q) (hr : IsPlainlyNamed r)
    (hq : IsPlainlyNamed q) : r = q := by
  obtain ⟨name, hrname, hsign, hslash, hplain⟩ := hr
  obtain ⟨name', hqname, hsign', hslash', hplain'⟩ := hq
  rw [SameName, nameOf_eq hrname hsign hslash, nameOf_eq hqname hsign' hslash'] at h
  have hnames : name = name' := by
    clear hrname hqname hsign hslash hsign' hslash'
    induction h with
    | nil => rfl
    | cons hchar _ ih =>
        obtain ⟨hc, hplain⟩ := List.forall_mem_cons.1 hplain
        obtain ⟨hd, hplain'⟩ := List.forall_mem_cons.1 hplain'
        rw [ih hplain hplain']
        rcases hchar with rfl | ⟨hnc, hnd⟩
        · rfl
        · rw [hc.resolve_left hnc, hd.resolve_left hnd]
  rw [← String.toList_inj, hrname, hqname, hnames]

/-! ## Schemas -/

section StandsFor

variable {value schema schema' : Json} {fields : Fields} {r : String}

/-- The value behind one reference after the other, which is none itself. -/
inductive StandsFor (root : Json) : Json → Json → Prop
  | plain {value : Json} : IsPlain value → StandsFor root value value
  | reference {fields : Fields} {r : String} {target schema : Json} : reference? fields = some r →
      target? root r = some target → StandsFor root target schema →
        StandsFor root (.object fields) schema

def Names (root : Json) (r : String) (schema : Json) : Prop :=
  ∃ target, target? root r = some target ∧ StandsFor root target schema

theorem standsFor_reference (href : reference? fields = some r) :
    StandsFor root (.object fields) schema ↔ Names root r schema := by
  constructor
  · intro h
    cases h with
    | plain hplain => cases href.symm.trans (hplain fields rfl)
    | reference href' htarget hschema =>
        cases href.symm.trans href'
        exact ⟨_, htarget, hschema⟩
  · rintro ⟨target, htarget, hschema⟩
    exact .reference href htarget hschema

theorem StandsFor.unique (h : StandsFor root value schema) (h' : StandsFor root value schema') :
    schema = schema' := by
  induction h with
  | plain hplain =>
      cases h' with
      | plain => rfl
      | reference href => cases (hplain _ rfl).symm.trans href
  | reference href htarget _ ih =>
      obtain ⟨target, htarget', hschema⟩ := (standsFor_reference href).1 h'
      cases htarget.symm.trans htarget'
      exact ih hschema

theorem Names.unique (h : Names root r schema) (h' : Names root r schema') : schema = schema' := by
  obtain ⟨target, htarget, hschema⟩ := h
  obtain ⟨target', htarget', hschema'⟩ := h'
  cases htarget.symm.trans htarget'
  exact hschema.unique hschema'

theorem Follows.standsFor {stack stack' : List String} {value' : Json}
    (h : Follows root stack value stack' value') :
    StandsFor root value schema ↔ StandsFor root value' schema := by
  induction h with
  | refl => rfl
  | target href _ htarget _ ih =>
      rw [standsFor_reference href, ← ih]
      exact ⟨fun ⟨_, htarget', hschema⟩ => by cases htarget.symm.trans htarget'; exact hschema,
        fun hschema => ⟨_, htarget, hschema⟩⟩

/-- What is inlined stands for a schema, or else its copy is a reference and nothing else. -/
theorem Inlines.standsFor {stack : List String} {result : Resolved}
    (h : Inlines root stack value result) : (∃ schema, StandsFor root value schema) ∨
      ∃ i, result.value = .object [(referenceKey, .string i)] := by
  induction h with
  | scalar _ hobject => exact Or.inl ⟨_, .plain (isPlain_of_not_object hobject)⟩
  | array => exact Or.inl ⟨_, .plain (isPlain_of_not_object (by simp))⟩
  | object _ href => exact Or.inl ⟨_, .plain (isPlain_object.2 href)⟩
  | retained => exact Or.inr ⟨_, rfl⟩
  | inlined href _ htarget _ hcomplete ih =>
      rcases ih with ⟨schema, hschema⟩ | ⟨i, hi⟩
      · exact Or.inl ⟨schema, .reference href htarget hschema⟩
      · rcases complete_eq_ok hcomplete with ⟨-, rfl⟩ | ⟨-, copied, hcopied, hbare, -⟩
        · exact Or.inr ⟨i, hi⟩
        · cases hi.symm.trans hcopied
          cases hbare

end StandsFor

/-! ## Stamped copies -/

/-- Resolving meets a reference again, inside its own target. -/
def MeetsAgain (root node : Json) (r : String) : Prop :=
  ∃ stack fields, Reaches root [] node stack (.object fields) ∧
    reference? fields = some r ∧ r ∈ stack

def IsStampedCopy (root node : Json) (fields : Fields) (schema : Json) : Prop :=
  ∃ stack value result r, Reaches root [] node stack value ∧ Inlines root stack value result ∧
    result.value = .object fields ∧ Stamps root stack value r ∧ StandsFor root value schema

/-- Somewhere in what is resolved, a schema states an identifier itself. -/
def StatesIdentifier (root node : Json) : Prop :=
  ∃ stack fields, Reaches root [] node stack (.object fields) ∧ reference? fields = none ∧
    (fields.lookup identifierKey).isSome

section Stamped

variable {stack : List String} {value schema : Json} {result : Resolved} {fields : Fields}
  {r : String}

theorem Stamps.meetsAgain (h : Stamps root stack value r)
    (hvalue : Reaches root [] node stack value) :
    MeetsAgain root node r := by
  obtain ⟨stack', inner, target, hfollows, href, hstack, htarget, stack'', again,
    hagain, href'⟩ := h
  have hreaches := hvalue.trans (hfollows.reaches.trans (.target href hstack htarget hagain))
  exact ⟨stack'', again, hreaches, href', hagain.stack_subset List.mem_cons_self⟩

theorem Stamps.standsFor (h : Stamps root stack value r) :
    StandsFor root value schema ↔ Names root r schema := by
  obtain ⟨stack', inner, target, hfollows, href, -⟩ := h
  rw [hfollows.standsFor, standsFor_reference href]

/-- The identifier of a copy is the one that it was stamped with last.  A copy that was not stamped
has one only if its schema states it. -/
theorem Inlines.identifier_origin {i : String} (h : Inlines root stack value result)
    (hvalue : result.value = .object fields) (hid : identifier? fields = some i) :
    (∃ r, Stamps root stack value r ∧ identifier r = i) ∨ (∀ r, ¬ Stamps root stack value r) ∧
      ∃ stack' source, Follows root stack value stack' (.object source) ∧ reference? source = none ∧
        (source.lookup identifierKey).isSome := by
  induction h generalizing fields with
  | scalar _ hobject => exact absurd hvalue (hobject fields)
  | array => cases hvalue
  | @object stack source inner href _ _ =>
      cases hvalue
      refine Or.inr ⟨fun r => not_stamps_of_none href, stack, source, .refl _ _, href, ?_⟩
      rw [identifier?, Fields.lookup_map fun value => (inner value).value] at hid
      obtain ⟨copied, hcopied, -⟩ := Option.bind_eq_some_iff.1 hid
      exact Option.isSome_map.symm.trans (Option.isSome_of_eq_some hcopied)
  | retained =>
      cases hvalue
      cases hid
  | @inlined stack source q target resolved result href hstack htarget hresolved hcomplete ih =>
      rcases complete_eq_ok hcomplete with ⟨hnot, rfl⟩ | ⟨hmet, copied, hcopied, -, rfl⟩
      · rcases ih hvalue hid with ⟨r, hr, hri⟩ | ⟨hnone, stack', inner, hfollows, hinner⟩
        · exact Or.inl ⟨r, hr.of_target href hstack htarget, hri⟩
        · refine Or.inr ⟨fun r hr => ?_, stack', inner, .target href hstack htarget hfollows,
            hinner⟩
          obtain ⟨-, target', htarget', hcase⟩ := hr.cases href
          cases htarget.symm.trans htarget'
          rcases hcase with ⟨rfl, hmeets⟩ | hr
          · exact hnot (mem_recursive_of_meets hresolved List.mem_cons_self hmeets)
          · exact hnone r hr
      · cases hvalue
        rw [identifier?_identify] at hid
        exact Or.inl ⟨q, ⟨stack, source, target, .refl _ _, href, hstack, htarget,
          (meets_of_mem_recursive hresolved hmet).2⟩, Option.some.inj hid⟩

/-- Every object in a copy is the copy of a value that resolving gets to. -/
theorem Inlines.exists_place (h : Inlines root stack value result)
    (hoccurs : Occurs result.value (.object fields)) :
    ∃ stack' value' result', Reaches root stack value stack' value' ∧
      Inlines root stack' value' result' ∧
      result'.value = .object fields := by
  induction h with
  | @scalar stack value harray hobject =>
      cases hoccurs with
      | refl => exact absurd rfl (hobject fields)
      | item => exact absurd rfl (harray _)
      | field => exact absurd rfl (hobject _)
  | array inner _ ih =>
      cases hoccurs with
      | item hmem hpart =>
          obtain ⟨item, hitem, rfl⟩ := List.mem_map.1 hmem
          obtain ⟨stack', value', result', hreaches, hrest⟩ := ih item hitem hpart
          exact ⟨stack', value', result', .item hitem hreaches, hrest⟩
  | @object stack source inner href hinner ih =>
      cases hoccurs with
      | refl => exact ⟨stack, .object source, _, .refl _ _, .object inner href hinner, rfl⟩
      | field hmem hpart =>
          obtain ⟨field, hfield, heq⟩ := List.mem_map.1 hmem
          cases heq
          obtain ⟨stack', value', result', hreaches, hrest⟩ := ih field hfield hpart
          exact ⟨stack', value', result', .field href hfield hreaches, hrest⟩
  | @retained stack source q href hstack =>
      cases hoccurs with
      | refl => exact ⟨stack, .object source, _, .refl _ _, .retained href hstack, rfl⟩
      | field hmem hpart =>
          cases List.mem_singleton.1 hmem
          cases occurs_string.1 hpart
  | @inlined stack source q target resolved result href hstack htarget hresolved hcomplete ih =>
      have hinside (hpart : Occurs resolved.value (.object fields)) :
          ∃ stack' value' result', Reaches root stack (.object source) stack' value' ∧
            Inlines root stack' value' result' ∧ result'.value = .object fields := by
        obtain ⟨stack', value', result', hreaches, hrest⟩ := ih hpart
        exact ⟨stack', value', result', .target href hstack htarget hreaches, hrest⟩
      rcases complete_eq_ok hcomplete with ⟨-, rfl⟩ | ⟨-, copied, hcopied, -, heq⟩
      · exact hinside hoccurs
      · rw [heq] at hoccurs
        cases hoccurs with
        | refl =>
            exact ⟨stack, .object source, result, .refl _ _,
              .inlined href hstack htarget hresolved hcomplete, by rw [heq]⟩
        | field hmem hpart =>
            rcases Fields.mem_insert hmem with hid | hmem
            · cases hid
              cases occurs_string.1 hpart
            · exact hinside (hcopied ▸ .field hmem hpart)

/-- A reference that is met again has a copy that is stamped for it, and this is a copy of the
schema that the reference names. -/
theorem MeetsAgain.exists_stampedCopy (h : MeetsAgain root node r)
    (hresult : Inlines root [] node result) :
    ∃ fields schema, IsStampedCopy root node fields schema ∧
      identifier? fields = some (identifier r) ∧
      Names root r schema := by
  obtain ⟨stack', again, hagain, href', hmem⟩ := h
  obtain ⟨opened, source, target, hopened, href, hstack, htarget, hinside⟩ :=
    hagain.exists_opened hmem List.not_mem_nil
  obtain ⟨copy, hcopy, -⟩ := hopened.inlines hresult
  obtain ⟨resolved, hresolved, hcomplete⟩ := hcopy.of_target href hstack htarget
  have hmeets : Meets root (r :: opened) target r := ⟨stack', again, hinside, href'⟩
  rcases complete_eq_ok hcomplete with ⟨hnot, -⟩ | ⟨-, copied, hcopied, hbare, heq⟩
  · exact absurd (mem_recursive_of_meets hresolved List.mem_cons_self hmeets) hnot
  rcases hresolved.standsFor with ⟨schema, hschema⟩ | ⟨i, hi⟩
  · have hstamps : Stamps root opened (.object source) r :=
      ⟨opened, source, target, .refl _ _, href, hstack, htarget, hmeets⟩
    refine ⟨Fields.insert identifierKey (.string (identifier r)) copied, schema,
      ⟨opened, .object source, copy, r, hopened, hcopy, by rw [heq], hstamps,
        .reference href htarget hschema⟩, identifier?_identify, target, htarget, hschema⟩
  · cases hi.symm.trans hcopied
    cases hbare

/-- The identifier of a stamped copy is that of a reference which is met again and
names its schema. -/
theorem IsStampedCopy.exists_reference {i : String} (h : IsStampedCopy root node fields schema)
    (hid : identifier? fields = some i) :
    ∃ r, MeetsAgain root node r ∧ Names root r schema ∧ identifier r = i := by
  obtain ⟨stack', value', result', r, hreaches, hinlines, hvalue, hstamps, hschema⟩ := h
  rcases hinlines.identifier_origin hvalue hid with ⟨q, hq, hqi⟩ | ⟨hnone, -⟩
  · exact ⟨q, hq.meetsAgain hreaches, hq.standsFor.1 hschema, hqi⟩
  · exact absurd hstamps (hnone r)

/-- Where an object of the copy has an identifier, it is a stamped copy, or a schema
states an identifier. -/
theorem Inlines.stampedCopy_of_identifier? {i : String} (h : Inlines root [] node result)
    (hoccurs : Occurs result.value (.object fields)) (hid : identifier? fields = some i) :
    (∃ schema, IsStampedCopy root node fields schema) ∨ StatesIdentifier root node := by
  obtain ⟨stack', value', result', hreaches, hinlines, hvalue⟩ := h.exists_place hoccurs
  rcases hinlines.identifier_origin hvalue hid with ⟨r, hr, -⟩ |
    ⟨-, stack'', source, hfollows, hsource⟩
  · rcases hinlines.standsFor with ⟨schema, hschema⟩ | ⟨j, hj⟩
    · exact Or.inl ⟨schema, stack', value', result', r, hreaches, hinlines, hvalue, hr, hschema⟩
    · cases hj.symm.trans hvalue
      cases hid
  · exact Or.inr ⟨stack'', source, hreaches.trans hfollows.reaches, hsource⟩

end Stamped

/-! ## Which schema an identifier names -/

def NamesApart (root node : Json) : Prop :=
  ∀ r q, MeetsAgain root node r → MeetsAgain root node q → target? root r ≠ target? root q →
    ¬ SameName r q

/-- References that are met again name the right schemas by their identifiers. -/
structure NamesSchemas (root node : Json) : Prop where
  distinct : ∀ r q, MeetsAgain root node r → MeetsAgain root node q →
    target? root r ≠ target? root q →
    identifier r ≠ identifier q
  named : ∀ r fields schema, MeetsAgain root node r → IsStampedCopy root node fields schema →
    identifier? fields = some (identifier r) → Names root r schema
  single : ∀ i fields schema fields' schema', IsStampedCopy root node fields schema →
    IsStampedCopy root node fields' schema' → identifier? fields = some i →
      identifier? fields' = some i →
    schema = schema'

theorem namesApart_of_isPlainlyNamed (h : ∀ r, MeetsAgain root node r → IsPlainlyNamed r) :
    NamesApart root node := by
  intro r q hr hq hne hsame
  exact hne (congrArg (target? root) (hsame.eq_of_isPlainlyNamed (h r hr) (h q hq)))

theorem NamesApart.names {r q : String} {schema : Json} (h : NamesApart root node)
    (hr : MeetsAgain root node r) (hq : MeetsAgain root node q) (hid : identifier q = identifier r)
    (hschema : Names root q schema) : Names root r schema := by
  have htarget : target? root q = target? root r := by
    by_contra hne
    exact h q r hq hr hne (identifier_eq_iff.1 hid)
  obtain ⟨target, hq, hschema⟩ := hschema
  exact ⟨target, htarget.symm.trans hq, hschema⟩

theorem namesSchemas_iff : NamesSchemas root node ↔ NamesApart root node := by
  constructor
  · intro h r q hr hq hne hsame
    exact h.distinct r q hr hq hne (identifier_eq_iff.2 hsame)
  · intro h
    have hnamed (r : String) (fields : Fields) (schema : Json) (hr : MeetsAgain root node r)
        (hcopy : IsStampedCopy root node fields schema)
        (hid : identifier? fields = some (identifier r)) : Names root r schema := by
      obtain ⟨q, hq, hschema, hqid⟩ := hcopy.exists_reference hid
      exact h.names hr hq hqid hschema
    refine ⟨fun r q hr hq hne hid => h r q hr hq hne (identifier_eq_iff.1 hid), hnamed, ?_⟩
    intro i fields schema fields' schema' hcopy hcopy' hid hid'
    obtain ⟨r, hr, hschema, rfl⟩ := hcopy.exists_reference hid
    exact hschema.unique (hnamed r fields' schema' hr hcopy' hid')

end Reference

open Reference Json

/-- What resolving makes of references that are met again.  They name the right schemas by their
identifiers if and only if no two of them have the same name and different targets; so they do if
all are plainly named.  For each of them there is a stamped copy of the schema that it names, with
its identifier.  All objects in the copy that have an identifier are such copies, unless a schema
states an identifier itself. -/
theorem identifiers_name_schemas {root node copy : Json}
    (h : resolveReferences root node = .ok copy) :
    (NamesSchemas root node ↔ NamesApart root node) ∧
    ((∀ r, MeetsAgain root node r → IsPlainlyNamed r) → NamesSchemas root node) ∧
    (∀ r, MeetsAgain root node r → ∃ fields schema, IsStampedCopy root node fields schema ∧
      identifier? fields = some (identifier r) ∧ Names root r schema) ∧
    ∀ fields i, Occurs copy (.object fields) → identifier? fields = some i →
      (∃ schema, IsStampedCopy root node fields schema) ∨ StatesIdentifier root node := by
  obtain ⟨result, hresult, rfl⟩ := resolveReferences_eq_ok.1 h
  refine ⟨namesSchemas_iff,
    fun hplain => namesSchemas_iff.2 (namesApart_of_isPlainlyNamed hplain), ?_, ?_⟩
  · intro r hr
    exact hr.exists_stampedCopy hresult
  · intro fields i hoccurs hid
    exact hresult.stampedCopy_of_identifier? hoccurs hid

namespace Reference

open Document (referring)

/-! ## Lists of two kinds -/

def listSchema (entry r : String) : Json :=
  .object [("properties", .object [("next", referring r)]), ("required", .array [.string entry])]

def listCopy (entry r : String) : Json :=
  .object [("properties", .object [("next", referring (identifier r))]),
    ("required", .array [.string entry]), (identifierKey, .string (identifier r))]

def listSchemas (first r second q : String) : Json :=
  .object [("components", .object [("schemas", .object
    [(first, listSchema "name" r), (second, listSchema "id" q)])])]

def twoLists (r q : String) : Json := .object [("first", referring r), ("second", referring q)]

section Lists

variable {root node : Json} {entry r q : String}

theorem inlines_listSchema (htarget : target? root r = some (listSchema entry r)) :
    Inlines root [] (referring r) ⟨listCopy entry r, []⟩ := by
  have hnext : Inlines root [r] (referring r) ⟨referring (identifier r), [r]⟩ :=
    .retained rfl List.mem_cons_self
  have hrequired : Inlines root [r] (.array [.string entry]) ⟨.array [.string entry], []⟩ :=
    inlines_self (by simp [references, referencesOfItems])
  have hlist := (hnext.single "next" rfl).pair hrequired (by simp) "properties" "required" rfl
  refine .inlined rfl List.not_mem_nil htarget hlist ?_
  simp [complete, stamp?, isBare, Fields.insert, listCopy, referring, identifierKey]

theorem meetsAgain_listSchema (htarget : target? root r = some (listSchema entry r))
    (hreaches : Reaches root [] node [] (referring r)) : MeetsAgain root node r :=
  ⟨[r], _, hreaches.trans (.target rfl List.not_mem_nil htarget
    (.field rfl List.mem_cons_self (.field rfl List.mem_cons_self (.refl _ _)))), rfl,
      List.mem_cons_self⟩

theorem resolveReferences_twoLists (hne : q ≠ r) (hr : target? root r = some (listSchema "name" r))
    (hq : target? root q = some (listSchema "id" q)) :
    resolveReferences root (twoLists r q) =
        .ok (.object [("first", listCopy "name" r), ("second", listCopy "id" q)]) ∧
      MeetsAgain root (twoLists r q) r ∧ MeetsAgain root (twoLists r q) q := by
  have hpair := (inlines_listSchema hr).pair (inlines_listSchema hq)
    (by simpa [referring] using hne) "first" "second" rfl
  refine ⟨resolveReferences_eq_ok.2 ⟨_, hpair, rfl⟩, ?_, ?_⟩
  · exact meetsAgain_listSchema hr (.field rfl List.mem_cons_self (.refl _ _))
  · exact meetsAgain_listSchema hq
      (.field rfl (List.mem_cons_of_mem _ List.mem_cons_self) (.refl _ _))

end Lists

def clashingLists : Json :=
  listSchemas "a_b" "#/components/schemas/a_b" "a b" "#/components/schemas/a b"

/-- The references to the two schemas are both met again and point at different schemas, and the
copies get the same identifier. -/
theorem not_namesSchemas_clashingLists :
    resolveReferences clashingLists
      (twoLists "#/components/schemas/a_b" "#/components/schemas/a b") =
        .ok (.object [("first", listCopy "name" "#/components/schemas/a_b"),
          ("second", listCopy "id" "#/components/schemas/a b")]) ∧
      MeetsAgain clashingLists (twoLists "#/components/schemas/a_b" "#/components/schemas/a b")
        "#/components/schemas/a_b" ∧
      MeetsAgain clashingLists (twoLists "#/components/schemas/a_b" "#/components/schemas/a b")
        "#/components/schemas/a b" ∧
      target? clashingLists "#/components/schemas/a_b" ≠
        target? clashingLists "#/components/schemas/a b" ∧
      identifier "#/components/schemas/a_b" = identifier "#/components/schemas/a b" ∧
      ¬ NamesSchemas clashingLists
        (twoLists "#/components/schemas/a_b" "#/components/schemas/a b") := by
  have hfirst : target? clashingLists "#/components/schemas/a_b" =
      some (listSchema "name" "#/components/schemas/a_b") := by
    decide +kernel
  have hsecond : target? clashingLists "#/components/schemas/a b" =
      some (listSchema "id" "#/components/schemas/a b") := by
    decide +kernel
  have htargets : target? clashingLists "#/components/schemas/a_b" ≠
      target? clashingLists "#/components/schemas/a b" := by
    rw [hfirst, hsecond]
    simp [listSchema]
  have hidentifiers : identifier "#/components/schemas/a_b" =
      identifier "#/components/schemas/a b" := by
    decide
  obtain ⟨hcopy, hmeets, hmeets'⟩ := resolveReferences_twoLists (by decide) hfirst hsecond
  exact ⟨hcopy, hmeets, hmeets', htargets, hidentifiers,
    fun h => h.distinct _ _ hmeets hmeets' htargets hidentifiers⟩

def plainLists : Json :=
  listSchemas "a.b" "#/components/schemas/a.b" "a-b" "#/components/schemas/a-b"

/-- The references to the two schemas are both met again, and name them by their identifiers. -/
theorem namesSchemas_plainLists :
    (∃ copy, resolveReferences plainLists
        (twoLists "#/components/schemas/a.b" "#/components/schemas/a-b") = .ok copy) ∧
      MeetsAgain plainLists (twoLists "#/components/schemas/a.b" "#/components/schemas/a-b")
        "#/components/schemas/a.b" ∧
      MeetsAgain plainLists (twoLists "#/components/schemas/a.b" "#/components/schemas/a-b")
        "#/components/schemas/a-b" ∧
      NamesSchemas plainLists (twoLists "#/components/schemas/a.b" "#/components/schemas/a-b") := by
  have hfirst : target? plainLists "#/components/schemas/a.b" =
      some (listSchema "name" "#/components/schemas/a.b") := by
    decide +kernel
  have hsecond : target? plainLists "#/components/schemas/a-b" =
      some (listSchema "id" "#/components/schemas/a-b") := by
    decide +kernel
  obtain ⟨hcopy, hmeets, hmeets'⟩ := resolveReferences_twoLists (by decide) hfirst hsecond
  refine ⟨⟨_, hcopy⟩, hmeets, hmeets', (identifiers_name_schemas hcopy).2.1 fun r hr => ?_⟩
  obtain ⟨stack, fields, hreaches, href, -⟩ := hr
  have hrefers :
      Refers plainLists (twoLists "#/components/schemas/a.b" "#/components/schemas/a-b") r :=
    ⟨fields, hreaches.visits, href⟩
  have hknown : r ∈ ["#/components/schemas/a.b", "#/components/schemas/a-b"] := by
    refine hrefers.mem_of_closed (by decide) ?_
    simp only [List.forall_mem_cons, hfirst, hsecond, Option.some.injEq, forall_eq']
    exact ⟨by decide, by decide, by simp⟩
  rcases List.mem_pair.1 hknown with rfl | rfl
  · exact ⟨"components/schemas/a.b".toList, by decide, by decide, by decide, by simp [IsKept]⟩
  · exact ⟨"components/schemas/a-b".toList, by decide, by decide, by decide, by simp [IsKept]⟩

end Reference

end ChannelGateway
