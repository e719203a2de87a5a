import ChannelGateway.Proofs.Schema.Checking
import ChannelGateway.Proofs.Schema.Coercion
import ChannelGateway.Route.Spec
/-!
# Keywords without schemas

A keyword that holds no schemas is read without regard to the references that were followed.
For the keywords of parameters it is said what a value has to be to have no mismatches with
what was read.
-/

namespace ChannelGateway

namespace Schema

/-! ## Reading without references -/

theorem mapM_eq_ok_iff {ε α β : Type} {f : α → Except ε β} {as : List α} {bs : List β} :
    as.mapM f = .ok bs ↔ List.Forall₂ (fun a b => f a = .ok b) as bs := by
  refine ⟨forall₂_of_mapM_eq_ok, fun h => ?_⟩
  induction h with
  | nil => rfl
  | cons hfirst _ ih =>
      rw [List.mapM_cons, hfirst, ih]
      rfl

theorem flatMapM_eq_ok_iff {ε α β : Type} {f : α → Except ε (List β)} {as : List α} {bs : List β} :
    as.flatMapM f = .ok bs ↔
      ∃ owns, List.Forall₂ (fun a own => f a = .ok own) as owns ∧ bs = owns.flatten := by
  induction as generalizing bs with
  | nil =>
      rw [List.flatMapM_nil]
      constructor
      · intro h
        cases h
        exact ⟨[], .nil, rfl⟩
      · rintro ⟨_, ⟨⟩, rfl⟩
        rfl
  | cons a rest ih =>
      rw [List.flatMapM_cons]
      constructor
      · intro h
        obtain ⟨own, hown, h⟩ := exists_of_bind_eq_ok h
        obtain ⟨others, hothers, h⟩ := exists_of_bind_eq_ok h
        obtain ⟨owns, howns, rfl⟩ := ih.1 hothers
        cases h
        exact ⟨own :: owns, .cons hown howns, List.flatten_cons.symm⟩
      · rintro ⟨_, _ | ⟨hown, howns⟩, rfl⟩
        rw [hown, ih.2 ⟨_, howns, rfl⟩]
        rfl

theorem liftM_flatMapM {α β : Type} {read : α → SchemaReader (List β)}
    {plain : α → Except SchemaError (List β)} {as : List α}
    (h : ∀ a ∈ as, read a = liftM (plain a)) :
    as.flatMapM read = liftM (as.flatMapM plain) := by
  induction as with
  | nil => rw [List.flatMapM_nil, List.flatMapM_nil, liftM_pure]
  | cons a rest ih =>
      obtain ⟨ha, hrest⟩ := List.forall_mem_cons.1 h
      simp only [List.flatMapM_cons, ha, ih hrest, liftM_bind, liftM_pure]

theorem liftM_mapM {α β : Type} {read : α → SchemaReader β}
    {plain : α → Except SchemaError β} {as : List α} (h : ∀ a ∈ as, read a = liftM (plain a)) :
    as.mapM read = liftM (as.mapM plain) := by
  induction as with
  | nil => rw [List.mapM_nil, List.mapM_nil, liftM_pure]
  | cons a rest ih =>
      obtain ⟨ha, hrest⟩ := List.forall_mem_cons.1 h
      simp only [List.mapM_cons, ha, ih hrest, liftM_bind, liftM_pure]

def readOwn (s : Surroundings) (field : String × Json) : Except SchemaError (List Keyword) :=
  (readPlain? s [] field.1 field.2).getD (.ok [])

open RouteSpec in
theorem readKeyword_of_mem {read : ReadRule} {s : Surroundings} {fields : Fields} {key : String}
    {value : Json} (hhas : s.hasVocabularies = true) (hkey : key ∈ parameterKeywords) :
    readKeyword read s fields key value = liftM (readOwn s (key, value)) := by
  simp only [parameterKeywords, List.mem_cons, List.not_mem_nil, or_false] at hkey
  rcases hkey with rfl | rfl | rfl | rfl <;> simp [readKeyword, readPlain?, readOwn, hhas]

section Keywords

variable {read : ReadRule} {s : Surroundings} {fields : Fields} {value : Json}

theorem readKeyword_type (hhas : s.hasVocabularies = true) :
    readKeyword read s fields "type" value =
      liftM ((fun types => [Keyword.type types s.draft.countsWholeDoubles]) <$>
        readTypes value) := by
  simp [readKeyword, readPlain?, hhas]

theorem readKeyword_required (hhas : s.hasVocabularies = true) :
    readKeyword read s fields "required" value =
      liftM ((fun names => [Keyword.required names]) <$> readTexts value) := by
  simp [readKeyword, readPlain?, hhas]

theorem readKeyword_properties_of_closed (hhas : s.hasVocabularies = true)
    (hclosed : closesObjects fields = true) : readKeyword read s fields "properties" value =
      pure [] := by
  simp [readKeyword, readPlain?, hhas, readNested, hclosed]

theorem readKeyword_additionalProperties_false {schemas : Json} (hhas : s.hasVocabularies = true)
    (hpatterns : fields.lookup "patternProperties" = none)
    (hproperties : fields.lookup "properties" = some schemas) :
    readKeyword read s fields "additionalProperties" (.bool false) =
      (fun declared => [.additionalProperties (some declared) none none]) <$> readNamed read s
        schemas := by
  simp [readKeyword, readPlain?, hhas, readNested, readAdditionalProperties, hpatterns, hproperties]

end Keywords

theorem readTexts_strings (texts : List String) : readTexts (.array (texts.map .string)) =
    .ok texts := by
  have hread : readTexts (.array (texts.map .string)) = (texts.map Json.string).mapM readText := rfl
  rw [hread, mapM_eq_ok_iff, List.forall₂_map_left_iff, List.forall₂_same]
  exact fun text _ => rfl

/-- A schema without a draft and without an identifier of its own leaves the surroundings
as they are. -/
theorem Surroundings.enter_eq_self {s : Surroundings} {schema : Json}
    (hdraft : schema.get? "$schema" = none) (hid : schema.get? s.draft.idKeyword = none) :
    s.enter schema = .ok s := by
  simp only [enter, draftOf, hdraft, Option.bind_none, Scope.enter, baseOf, ownId?, hid, Except.map]
  rfl

/-! ## What keywords ask -/

def NamesType (declared : Json) (name : String) : Prop :=
  declared = .string name ∨ ∃ names, declared = .array names ∧ .string name ∈ names

theorem accepts_of_hasType {type : ValueType} {value : Json}
    (h : Coercion.hasType type.name value = true) : type.accepts true value = true := by
  cases type <;> cases value <;> try cases h
  case integer.number n =>
    cases n with
    | int n => rfl
    | double d => exact h
  all_goals rfl

theorem exists_type_of_readName {name : String} {refusal : SchemaError} {type : ValueType}
    (h : (do match ValueType.ofName? (← readText (.string name)) with
        | some type => return type
        | none => throw refusal : Except SchemaError ValueType) = .ok type) : type.name = name := by
  have hname := eq_string_of_readName h
  exact (Json.string.inj hname).symm

theorem exists_type_of_readTypes {declared : Json} {types : List ValueType}
    (h : readTypes declared = .ok types) {name : String} (hname : NamesType declared name) :
    ∃ type ∈ types, type.name = name := by
  unfold readTypes at h
  split at h
  · obtain ⟨type, htype, h⟩ := exists_of_bind_eq_ok h
    cases h
    rcases hname with hname | ⟨_, hname, -⟩
    · cases hname
      exact ⟨type, List.mem_cons_self, exists_type_of_readName htype⟩
    · cases hname
  · obtain ⟨type, htype, h⟩ := exists_of_bind_eq_ok h
    cases h
    rcases hname with hname | ⟨_, hname, hmem⟩
    · cases hname
    · cases hname
      rw [← List.mem_singleton.1 hmem] at htype
      exact ⟨type, List.mem_cons_self, exists_type_of_readName htype⟩
  · obtain ⟨read, hread, h⟩ := exists_of_bind_eq_ok h
    cases h
    rcases hname with hname | ⟨_, hname, hmem⟩
    · cases hname
    · cases hname
      obtain ⟨type, htype, hfound⟩ := exists_right_of_forall₂ (forall₂_of_mapM_eq_ok hread) hmem
      -- a list of types is kept in the order of all types, not in its own
      refine ⟨type, List.mem_filter.2 ⟨?_, List.contains_iff_mem.2 htype⟩,
        exists_type_of_readName hfound⟩
      cases type <;> decide
  · cases h

/-- A value has one of the types that were read if and only if it has one of those
that are named. -/
theorem any_accepts_iff {declared : Json} {types : List ValueType}
    (h : readTypes declared = .ok types) {value : Json} : types.any (·.accepts true value) = true ↔
      ∃ name, NamesType declared name ∧ Coercion.hasType name value = true := by
  rw [List.any_eq_true]
  constructor
  · rintro ⟨type, htype, haccepts⟩
    exact ⟨type.name, eq_or_mem_of_readTypes h htype, Coercion.hasType_of_accepts haccepts⟩
  · rintro ⟨name, hname, hvalue⟩
    obtain ⟨type, htype, rfl⟩ := exists_type_of_readTypes h hname
    exact ⟨type, htype, accepts_of_hasType hvalue⟩

def Asks (formats : Bool) (keyword : String) (declared value : Json) : Prop :=
  match keyword with
  | "type" => ∃ name, NamesType declared name ∧ Coercion.hasType name value = true
  | "format" => formats = true → ∀ name kind text, declared = .string name →
    Format.ofName? .draft202012 name = some kind → value = .string text → kind.accepts text = true
  | "enum" => ∃ options, declared = .array options ∧ ∃ option ∈ options, option.isSame value = true
  | "pattern" => ∃ source regex, declared = .string source ∧ Regex.ofPattern? source = some regex ∧
    ∀ text, value = .string text → regex.isMatch text = .ok true
  | _ => True

section Keywords

variable {s : Surroundings} {declared value : Json} {own : List Keyword} {check : Check}
  {names : Json → List String} {items : Json → List Nat} {position : Position}

theorem fits_type_iff (hdraft : s.draft = .draft202012)
    (h : readOwn s ("type", declared) = .ok own) :
    (∀ keyword ∈ own, keyword.mismatches check names items position value = []) ↔
      Asks s.formats "type" declared value := by
  have hread : readOwn s ("type", declared) =
      (fun types => [Keyword.type types s.draft.countsWholeDoubles]) <$> readTypes declared := by
    rw [map_eq_pure_bind]
    rfl
  rw [hread] at h
  obtain ⟨types, htypes, rfl⟩ := exists_of_map_eq_ok h
  rw [List.forall_mem_singleton]
  change require (types.any (·.accepts s.draft.countsWholeDoubles value)) _ _ _ = [] ↔ _
  rw [require_eq_nil_iff, hdraft]
  exact any_accepts_iff htypes

theorem fits_enum_iff (h : readOwn s ("enum", declared) = .ok own) :
    (∀ keyword ∈ own, keyword.mismatches check names items position value = []) ↔
      Asks s.formats "enum" declared value := by
  have hread : readOwn s ("enum", declared) =
      (fun options => [Keyword.enumeration options]) <$> readList declared := by
    rw [map_eq_pure_bind]
    rfl
  rw [hread] at h
  obtain ⟨options, hoptions, rfl⟩ := exists_of_map_eq_ok h
  have hdeclared : declared = .array options := by
    cases declared <;> cases hoptions
    rfl
  rw [List.forall_mem_singleton]
  change require (options.any (Json.isSame · value)) _ _ _ = [] ↔
    ∃ options, declared = .array options ∧ ∃ option ∈ options, option.isSame value = true
  rw [require_eq_nil_iff, List.any_eq_true, hdeclared]
  simp

theorem checkPattern_eq_nil_iff {source text : String} {regex : Regex} :
    checkPattern source regex position value text = [] ↔ regex.isMatch text = .ok true := by
  unfold checkPattern
  split <;> simp [*]

theorem fits_pattern_iff (h : readOwn s ("pattern", declared) = .ok own) :
    (∀ keyword ∈ own, keyword.mismatches check names items position value = []) ↔
      Asks s.formats "pattern" declared value := by
  obtain ⟨source, hsource, h⟩ := exists_of_bind_eq_ok h
  obtain ⟨regex, hregex, h⟩ := exists_of_bind_eq_ok h
  cases h
  have hdeclared : declared = .string source := eq_string_of_readText hsource
  have hread : Regex.ofPattern? source = some regex := by
    unfold readPattern at hregex
    split at hregex
    · next hsome =>
        cases hregex
        exact hsome
    · cases hregex
  have hfits : Keyword.mismatches check names items (.pattern source regex) position value = [] ↔
      ∀ text, value = .string text → regex.isMatch text = .ok true := by
    cases value with
    | string text =>
        change checkPattern source regex position (.string text) text = [] ↔ _
        simp [checkPattern_eq_nil_iff]
    | null | bool | number | array | object => exact iff_of_true rfl fun text h => by cases h
  rw [List.forall_mem_singleton, hfits]
  constructor
  · exact fun htext => ⟨source, regex, hdeclared, hread, htext⟩
  · rintro ⟨source', regex', hsource', hregex', htext⟩
    rw [hdeclared] at hsource'
    cases hsource'
    rw [hread] at hregex'
    cases hregex'
    exact htext

/-- A format asks something of texts only, if formats are checked and this one is known. -/
theorem fits_format_iff (hdraft : s.draft = .draft202012)
    (h : readOwn s ("format", declared) = .ok own) :
    (∀ keyword ∈ own, keyword.mismatches check names items position value = []) ↔
      Asks s.formats "format" declared value := by
  have hread : readOwn s ("format", declared) =
      if s.formats then
        (fun name => ((Format.ofName? s.draft name).map (Keyword.format name)).toList) <$>
          readText declared
      else .ok [] := by
    cases hformats : s.formats with
    | true =>
        simp only [readOwn, readPlain?, hformats, map_eq_pure_bind]
        rfl
    | false =>
        simp only [readOwn, readPlain?, hformats]
        rfl
  rw [hread] at h
  split at h
  · next hformats =>
      obtain ⟨name, hname, rfl⟩ := exists_of_map_eq_ok h
      have hasks : Asks s.formats "format" declared value ↔ ∀ kind text,
          Format.ofName? .draft202012 name = some kind → value = .string text →
            kind.accepts text = true := by
        rw [eq_string_of_readText hname]
        constructor
        · exact fun h kind text hkind htext => h hformats name kind text rfl hkind htext
        · rintro h - _ kind text ⟨⟩ hkind htext
          exact h kind text hkind htext
      rw [hasks, hdraft]
      cases Format.ofName? .draft202012 name with
      | none => simp
      | some kind =>
          simp only [Option.map_some, Option.toList_some, List.forall_mem_singleton,
            Option.some.injEq]
          cases value with
          | string text =>
              change require (kind.accepts text) _ _ _ = [] ↔ _
              simp [require_eq_nil_iff]
          | null | bool | number | array | object => exact iff_of_true rfl fun _ _ _ h => by cases h
  · next hformats =>
      cases h
      exact iff_of_true (fun keyword hkeyword => absurd hkeyword List.not_mem_nil)
        fun hon => absurd hon hformats

open RouteSpec in
/-- A value has no mismatches with a keyword of a parameter if and only if it is what
the keyword asks. -/
theorem fits_readOwn_iff {key : String} (hdraft : s.draft = .draft202012)
    (hkey : key ∈ parameterKeywords) (h : readOwn s (key, declared) = .ok own) :
    (∀ keyword ∈ own, keyword.mismatches check names items position value = []) ↔
      Asks s.formats key declared value := by
  simp only [parameterKeywords, List.mem_cons, List.not_mem_nil, or_false] at hkey
  rcases hkey with rfl | rfl | rfl | rfl
  · exact fits_type_iff hdraft h
  · exact fits_format_iff hdraft h
  · exact fits_enum_iff h
  · exact fits_pattern_iff h

end Keywords

end Schema

end ChannelGateway
