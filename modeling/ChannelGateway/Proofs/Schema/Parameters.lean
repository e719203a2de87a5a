import ChannelGateway.Proofs.Pipeline.Gate
import ChannelGateway.Proofs.Schema.Compiled
import ChannelGateway.Proofs.Schema.Keywords
/-!
# Schemas of parameters

The schema of a channel's parameters is put together from what the parameters declare.  It is
read as the rule of the objects that have exactly the declared members, each of which is what
its parameter asks.  So what the stage for the parameters leaves in the context has exactly
the declared names.
-/

namespace ChannelGateway

open Schema RouteSpec

def RouteSpec.propertyFields (p : Parameter) : Fields :=
  parameterKeywords.filterMap fun keyword =>
    (p.schema.get? keyword).map fun value => (keyword, value)

def RouteSpec.readDeclared (s : Surroundings) (parameters : List Parameter) :
    Except SchemaError (List (String × Rule)) :=
  parameters.mapM fun p =>
    (fun own => (p.name, Rule.keywords own)) <$> (propertyFields p).flatMapM (readOwn s)

/-- The rule of the objects that have all of some members and no others than the declared ones,
each of which fits its own rule. -/
def RouteSpec.exactRule (names : List String) (declared : List (String × Rule)) : Rule :=
  .keywords [.type [.object] true, .additionalProperties (some declared) none none, .required names]

/-- A value is what the keywords that a parameter declares ask. -/
def Parameter.Admits (formats : Bool) (p : Parameter) (value : Json) : Prop :=
  ∀ keyword ∈ parameterKeywords, ∀ declared, p.schema.get? keyword = some declared →
    Asks formats keyword declared value

/-- A value is an object that has exactly the parameters as members, each of which its
parameter admits. -/
def RouteSpec.HasExactly (formats : Bool) (parameters : List Parameter) (value : Json) : Prop :=
  ∃ members, value = .object members ∧
    (∀ name, name ∈ Fields.keys members ↔ name ∈ parameters.map (·.name)) ∧
    ∀ p ∈ parameters, ∀ item, (p.name, item) ∈ members → p.Admits formats item

def RouteSpec.ReadsParameters (formats : Bool) (parameters : List Parameter)
    (compiled : CompiledSchema) :
    Prop :=
  ∃ registry uri, CompiledSchema.ofResource registry formats
    ⟨uri, .draft202012, parametersSchemaOf parameters⟩ = .ok compiled

namespace RouteSpec

theorem propertySchema_eq (p : Parameter) : propertySchema p = .object (propertyFields p) := rfl

theorem lookup_propertyFields (p : Parameter) (keyword : String) :
    (propertyFields p).lookup keyword =
      if keyword ∈ parameterKeywords then p.schema.get? keyword else none :=
  Fields.lookup_filterMap p.schema.get? parameterKeywords keyword

theorem mem_propertyFields {p : Parameter} {field : String × Json} :
    field ∈ propertyFields p ↔
      field.1 ∈ parameterKeywords ∧ p.schema.get? field.1 = some field.2 := by
  simp only [propertyFields, List.mem_filterMap, Option.map_eq_some_iff]
  constructor
  · rintro ⟨keyword, hkeyword, value, hvalue, rfl⟩
    exact ⟨hkeyword, hvalue⟩
  · rintro ⟨hkeyword, hvalue⟩
    exact ⟨field.1, hkeyword, field.2, hvalue, rfl⟩

/-! ## Reading -/

section Read

variable {s : Surroundings} (hdraft : s.draft = .draft202012) (hhas : s.hasVocabularies = true)

include hdraft

theorem readPart_of_draft {schema : Fields} (read : ReadRule)
    (hschema : schema.lookup "$schema" = none) (hid : schema.lookup "$id" = none) :
    readPart read s (.object schema) = read s (.object schema) := by
  have henter : s.enter (.object schema) = .ok s := by
    apply Surroundings.enter_eq_self
    · exact hschema
    · rw [hdraft]
      exact hid
  rw [readPart, henter]
  rfl

theorem effectiveFields_of_draft (fields : Fields) : effectiveFields s.draft fields = fields := by
  rw [hdraft]
  rfl

include hhas

theorem readPart_propertySchema (n : Nat) (p : Parameter) :
    readPart (readRuleTo (n + 1)) s (propertySchema p) =
      liftM (Rule.keywords <$> (propertyFields p).flatMapM (readOwn s)) := by
  have hown : ∀ field ∈ propertyFields p,
      readKeyword (readRuleTo n) s (propertyFields p) field.1 field.2 = liftM (readOwn s field) :=
    fun field hfield => readKeyword_of_mem hhas (mem_propertyFields.1 hfield).1
  rw [propertySchema_eq,
    readPart_of_draft hdraft _ (lookup_propertyFields p _) (lookup_propertyFields p _),
    readRuleTo, effectiveFields_of_draft hdraft, liftM_flatMapM hown, liftM_map, map_eq_pure_bind]

theorem readNamed_parameters (n : Nat) (parameters : List Parameter) :
    readNamed (readRuleTo (n + 1)) s
      (.object (parameters.map fun p => (p.name, propertySchema p))) =
      liftM (readDeclared s parameters) := by
  have hown : ∀ p ∈ parameters,
      (do return (p.name, ← readPart (readRuleTo (n + 1)) s (propertySchema p)) :
        SchemaReader (String × Rule)) =
        liftM ((fun own => (p.name, Rule.keywords own)) <$> (propertyFields p).flatMapM
          (readOwn s)) := by
    intro p _
    rw [readPart_propertySchema hdraft hhas]
    simp only [map_eq_pure_bind, liftM_bind, liftM_pure, bind_assoc, pure_bind]
  have hfields : readNamed (readRuleTo (n + 1)) s
      (.object (parameters.map fun p => (p.name, propertySchema p))) =
        (parameters.map fun p => (p.name, propertySchema p)).mapM fun field => do
          return (field.1, ← readPart (readRuleTo (n + 1)) s field.2) := rfl
  rw [hfields, List.mapM_map]
  exact liftM_mapM hown

/-- The schema of parameters is read as the rule of the objects that have exactly these. -/
theorem readPart_parametersSchemaOf (n : Nat) {parameters : List Parameter}
    (hnames : (parameters.map (·.name)).Nodup) :
    readPart (readRuleTo (n + 2)) s (parametersSchemaOf parameters) =
      liftM (exactRule (parameters.map (·.name)) <$> readDeclared s parameters) := by
  let declared := parameters.map fun p => (p.name, propertySchema p)
  let fields : Fields := [("type", .string "object"), ("additionalProperties", .bool false),
    ("properties", .object declared), ("required", .array (parameters.map fun p => .string p.name))]
  have hfields : parametersSchemaOf parameters = .object fields := by
    rw [parametersSchemaOf, Fields.ofList_of_nodup]
    rwa [Fields.keys, List.map_map]
  have htype : readKeyword (readRuleTo (n + 1)) s fields "type" (.string "object") =
      pure [.type [.object] true] := by
    rw [readKeyword_type hhas, hdraft]
    rfl
  have hclosed : readKeyword (readRuleTo (n + 1)) s fields "additionalProperties" (.bool false) =
      liftM ((fun declared => [Keyword.additionalProperties (some declared) none none]) <$>
        readDeclared s parameters) := by
    rw [readKeyword_additionalProperties_false hhas rfl rfl, readNamed_parameters hdraft hhas]
    simp only [map_eq_pure_bind, liftM_bind, liftM_pure]
  -- the rules of the members belong to the keyword that excludes all others
  have hproperties : readKeyword (readRuleTo (n + 1)) s fields "properties" (.object declared) =
      pure [] :=
    readKeyword_properties_of_closed hhas rfl
  have hrequired : readKeyword (readRuleTo (n + 1)) s fields "required"
      (.array (parameters.map fun p => .string p.name)) =
        pure [.required (parameters.map (·.name))] := by
    have htexts : (parameters.map fun p => Json.string p.name) =
        (parameters.map (·.name)).map .string := by
      rw [List.map_map]
      rfl
    rw [readKeyword_required hhas, htexts, readTexts_strings]
    rfl
  rw [hfields, readPart_of_draft hdraft _ rfl rfl, readRuleTo, effectiveFields_of_draft hdraft]
  simp only [fields, List.flatMapM_cons, List.flatMapM_nil, htype, hclosed, hproperties, hrequired]
  simp only [map_eq_pure_bind, liftM_bind, liftM_pure, bind_assoc, pure_bind]
  rfl

end Read

/-! ## Checking -/

section Check

variable {s : Surroundings} {depth : Nat} {position : Position} {value : Json}

/-- A value fits what was read for a parameter if and only if the parameter admits it. -/
theorem fits_propertyFields_iff {p : Parameter} {own : List Keyword}
    (hdraft : s.draft = .draft202012) (h : (propertyFields p).flatMapM (readOwn s) = .ok own) :
    mismatchesTo (depth + 1) (.keywords own) position value = [] ↔ p.Admits s.formats value := by
  obtain ⟨owns, howns, rfl⟩ := flatMapM_eq_ok_iff.1 h
  rw [mismatchesTo_keywords_eq_nil_iff]
  constructor
  · intro hfits key hkey declared hdeclared
    obtain ⟨read, hread, hkeyword⟩ := exists_right_of_forall₂ howns
      (mem_propertyFields.2 ⟨hkey, hdeclared⟩ : (key, declared) ∈ propertyFields p)
    exact (fits_readOwn_iff hdraft hkey hkeyword).1 fun keyword hmem =>
      hfits keyword (List.mem_flatten.2 ⟨read, hread, hmem⟩)
  · intro hadmits keyword hmem
    obtain ⟨read, hread, hmem⟩ := List.mem_flatten.1 hmem
    obtain ⟨field, hfield, hkeyword⟩ := exists_left_of_forall₂ howns hread
    obtain ⟨hkey, hdeclared⟩ := mem_propertyFields.1 hfield
    exact (fits_readOwn_iff hdraft hkey hkeyword).2 (hadmits _ hkey _ hdeclared) keyword hmem

theorem fits_exactRule_iff {names : List String} {declared : List (String × Rule)} :
    mismatchesTo (depth + 1) (exactRule names declared) position value = [] ↔
      ∃ members, value = .object members ∧
        (∀ name ∈ Fields.keys members, (declared.lookup name).isSome) ∧
        (∀ name ∈ names, name ∈ Fields.keys members) ∧
        ∀ name item, (name, item) ∈ members → ∀ rule, declared.lookup name = some rule →
          mismatchesTo depth rule ((position.under ["properties", name]).inside name) item =
            [] := by
  rw [exactRule, mismatchesTo_keywords_eq_nil_iff]
  simp only [List.forall_mem_cons, List.not_mem_nil, false_implies, implies_true, and_true,
    fits_object_iff]
  constructor
  · rintro ⟨⟨members, rfl⟩, hclosed, hrequired⟩
    obtain ⟨hknown, hfits⟩ := checkClosed_declared_eq_nil_iff.1 hclosed
    exact ⟨members, rfl, hknown, fits_required_iff.1 hrequired, hfits⟩
  · rintro ⟨members, rfl, hknown, hrequired, hfits⟩
    exact ⟨⟨members, rfl⟩, checkClosed_declared_eq_nil_iff.2 ⟨hknown, hfits⟩,
      fits_required_iff.2 hrequired⟩

end Check

section Declared

variable {s : Surroundings} {parameters : List Parameter} {declared : List (String × Rule)}

theorem forall₂_of_readDeclared (h : readDeclared s parameters = .ok declared) :
    List.Forall₂ (fun p rule => ∃ own, (propertyFields p).flatMapM (readOwn s) = .ok own ∧
      rule = (p.name, Rule.keywords own)) parameters declared :=
  (mapM_eq_ok_iff.1 h).imp fun _ _ hrule => exists_of_map_eq_ok hrule

theorem map_fst_of_readDeclared (h : readDeclared s parameters = .ok declared) :
    declared.map Prod.fst = parameters.map (·.name) := by
  have hforall := forall₂_of_readDeclared h
  clear h
  induction hforall with
  | nil => rfl
  | cons hfirst _ ih =>
      obtain ⟨own, -, rfl⟩ := hfirst
      rw [List.map_cons, List.map_cons, ih]

/-- An object fits what was read for parameters if and only if it has exactly these. -/
theorem fits_readDeclared_iff {depth : Nat} {position : Position} {value : Json}
    (hdraft : s.draft = .draft202012) (hnames : (parameters.map (·.name)).Nodup)
    (h : readDeclared s parameters = .ok declared) :
    mismatchesTo (depth + 2) (exactRule (parameters.map (·.name)) declared) position value = [] ↔
      HasExactly s.formats parameters value := by
  have hforall := forall₂_of_readDeclared h
  have hkeys := map_fst_of_readDeclared h
  rw [fits_exactRule_iff]
  refine exists_congr fun members => and_congr_right fun _ => ?_
  constructor
  · rintro ⟨hknown, hrequired, hfits⟩
    refine ⟨fun name => ⟨fun hname => ?_, hrequired name⟩, fun p hp item hitem => ?_⟩
    · rw [← hkeys, ← Fields.isSome_lookup_iff]
      exact hknown name hname
    · obtain ⟨_, hrule, own, hown, rfl⟩ := exists_right_of_forall₂ hforall hp
      have hlookup := Fields.lookup_of_mem (hkeys ▸ hnames) hrule
      exact (fits_propertyFields_iff hdraft hown).1 (hfits p.name item hitem _ hlookup)
  · rintro ⟨hexact, hadmits⟩
    refine ⟨fun name hname => ?_, fun name => (hexact name).2, fun name item hitem rule hrule => ?_⟩
    · rw [Fields.isSome_lookup_iff, hkeys]
      exact (hexact name).1 hname
    · obtain ⟨p, hp, own, hown, heq⟩ := exists_left_of_forall₂ hforall (Fields.mem_of_lookup hrule)
      cases heq
      exact (fits_propertyFields_iff hdraft hown).2 (hadmits p hp item hitem)

end Declared

/-! ## Compiled schemas -/

section Compiled

variable {parameters : List Parameter} {formats : Bool} {compiled : CompiledSchema}

theorem readsParameters_of_ofJson
    (h : CompiledSchema.ofJson (parametersSchemaOf parameters) formats = .ok compiled) :
    ReadsParameters formats parameters compiled := by
  obtain ⟨draft, registry, uri, hdraft, -, hread⟩ := exists_resource_of_ofJson h
  have hlatest : draftOf .draft202012 (parametersSchemaOf parameters) = .ok .draft202012 := rfl
  rw [hlatest] at hdraft
  cases hdraft
  exact ⟨registry, uri, hread⟩

theorem mismatches_eq_nil_iff (hnames : (parameters.map (·.name)).Nodup)
    (h : ReadsParameters formats parameters compiled) (value : Json) :
    compiled.mismatches value = [] ↔ HasExactly formats parameters value := by
  obtain ⟨registry, uri, h⟩ := h
  obtain ⟨⟨rule, followed⟩, hrun, rfl⟩ := exists_of_map_eq_ok h
  obtain ⟨n, hn⟩ := exists_readingDepth_eq registry
  let s : Surroundings := ⟨registry, .draft202012, formats, true, ⟨uri, []⟩⟩
  have hyields : Yields (readPart (readRuleTo (n + 2)) s (parametersSchemaOf parameters)) rule := by
    rw [← hn]
    exact ⟨[], followed, hrun⟩
  rw [readPart_parametersSchemaOf rfl rfl n hnames] at hyields
  obtain ⟨declared, hdeclared, rfl⟩ := exists_of_map_eq_ok hyields.of_lift
  obtain ⟨depth, hdepth⟩ : ∃ depth, (value.size + 2) * (registry.size + 1) = depth + 2 :=
    ⟨value.size * (registry.size + 1) + 2 * registry.size, by rw [Nat.add_mul]; omega⟩
  rw [CompiledSchema.mismatches, hdepth]
  exact fits_readDeclared_iff rfl hnames hdeclared

end Compiled

/-! ## The stage for the parameters -/

theorem exists_coerce_parametersSchemaOf (parameters : List Parameter) (members : Fields) :
    ∃ coerced, Coercion.coerce (parametersSchemaOf parameters) (.object members) = .object coerced ∧
      Fields.keys coerced = Fields.keys members := by
  refine ⟨_, Coercion.coerce_object _ _, ?_⟩
  rw [Fields.keys, List.map_map]
  rfl

end RouteSpec

open RouteCompiler in
/-- The schema of parameters with distinct names accepts the objects that have exactly these
parameters as members, each with a value that is what the parameter's type, format, options and
pattern ask.  So the stage of a route that checks the parameters continues only with these,
whatever was captured: what it leaves in the context has exactly the names of the parameters, which
are those that were captured. -/
theorem parametersSchemaOf_accepts_exactly {parameters : List Parameter}
    (hnames : (parameters.map (·.name)).Nodup) (formats : Bool) :
    (∀ compiled, CompiledSchema.ofJson (parametersSchemaOf parameters) formats = .ok compiled →
      ReadsParameters formats parameters compiled) ∧
    (∀ compiled, ReadsParameters formats parameters compiled → ∀ value,
      compiled.mismatches value = [] ↔ HasExactly formats parameters value) ∧
    ∀ (c : RouteCompiler) (channel : Channel) (operation : Operation) (route : CompiledRoute),
      c.formats = formats → channel.parameters = parameters →
      (c.compileRoute (ofOperation channel operation)).outcome = .ok route →
      ∃ check behind, route.stages = check :: behind ∧ ∀ request,
        let given := Fields.erase RoutePattern.remainderKey request.params
        let coerced := Coercion.coerce (parametersSchemaOf parameters) (.object given)
        ((check.run request).outcome = .ok .continue ↔ HasExactly formats parameters coerced) ∧
        ((check.run request).outcome = .ok .continue →
          ∃ members, (check.run request).request.context.lookup "params" = some (.object members) ∧
            coerced = .object members ∧ Fields.keys members = Fields.keys given ∧
            ∀ name, name ∈ Fields.keys members ↔ name ∈ parameters.map (·.name)) := by
  refine ⟨fun compiled => readsParameters_of_ofJson,
    fun compiled h => mismatches_eq_nil_iff hnames h, ?_⟩
  intro c channel operation route hformats hparameters hroute
  let spec := ofOperation channel operation
  have hschema : spec.parametersSchema = parametersSchemaOf parameters := by rw [← hparameters]; rfl
  obtain ⟨compiled, handlers, status, hcompiled, -, rfl⟩ := compileRoute_eq_ok_iff.1 hroute
  have hread : CompiledSchema.ofJson (parametersSchemaOf parameters) formats =
      .ok (compiled .params) := by
    rw [← hschema, ← hformats]
    exact hcompiled .params
  refine ⟨_, _, rfl, fun request => ?_⟩
  intro given coerced
  have hcandidate : candidate spec request .params = coerced := by rw [candidate, hschema]
  have hcontinues :
    ((Stage.check .params (validatorOf spec compiled .params)).run request).outcome =
      .ok .continue ↔ Fits spec compiled request .params := check_continues_iff
  have hfits : Fits spec compiled request .params ↔ HasExactly formats parameters coerced := by
    rw [Fits, hcandidate]
    exact mismatches_eq_nil_iff hnames (readsParameters_of_ofJson hread) coerced
  refine ⟨hcontinues.trans hfits, fun h => ?_⟩
  obtain ⟨members, hmembers, hkeys⟩ := exists_coerce_parametersSchemaOf parameters given
  obtain ⟨members', hmembers', hexact, -⟩ := hfits.1 (hcontinues.1 h)
  have hsame : members = members' := Json.object.inj (hmembers.symm.trans hmembers')
  subst hsame
  refine ⟨members, ?_, hmembers, hkeys, hexact⟩
  rw [check_run_pass (.nil spec request) (hcontinues.1 h), hcandidate, hmembers']
  exact Fields.lookup_insert_self _ _ _

def laneParameters : List Parameter :=
  [⟨"lane", none, .object [("type", .string "integer"), ("minimum", .ofNat 7)], none⟩,
    ⟨"zone", none, .object [("enum", .array [.string "north", .string "south"])], none⟩]

theorem exists_readsParameters_lane : ∃ compiled, ReadsParameters true laneParameters compiled ∧
    compiled.mismatches (.object [("zone", .string "north"), ("lane", .ofNat 3)]) = [] := by
  let document : Resource := ⟨anonymousUri, .draft202012, parametersSchemaOf laneParameters⟩
  have hevaluated : (match CompiledSchema.ofResource ⟨[document], []⟩ true document with
      | .ok compiled =>
        (compiled.mismatches (.object [("zone", .string "north"), ("lane", .ofNat 3)])).isEmpty
      | .error _ => false) = true := by decide +kernel
  cases hcompiled : CompiledSchema.ofResource ⟨[document], []⟩ true document with
  | error e =>
      rw [hcompiled] at hevaluated
      cases hevaluated
  | ok compiled =>
      rw [hcompiled] at hevaluated
      exact ⟨compiled, ⟨_, _, hcompiled⟩, List.isEmpty_iff.1 hevaluated⟩

/-- A lane and a zone are accepted, in any order, and a zone alone is not. -/
theorem parametersSchemaOf_accepts_exactly_lane : ∃ compiled,
    ReadsParameters true laneParameters compiled ∧
    HasExactly true laneParameters (.object [("zone", .string "north"), ("lane", .ofNat 3)]) ∧
    compiled.mismatches (.object [("zone", .string "north")]) ≠ [] := by
  obtain ⟨compiled, hread, haccepted⟩ := exists_readsParameters_lane
  have hnames : (laneParameters.map (·.name)).Nodup := by decide
  obtain ⟨-, haccepts, -⟩ := parametersSchemaOf_accepts_exactly hnames true
  refine ⟨compiled, hread, (haccepts compiled hread _).1 haccepted, fun hzone => ?_⟩
  obtain ⟨members, hmembers, hnames, -⟩ := (haccepts compiled hread _).1 hzone
  cases hmembers
  exact absurd ((hnames "lane").2 (by decide)) (by decide)

end ChannelGateway
