import ChannelGateway.Proofs.Number.Spelling
import ChannelGateway.Schema.Coercion
/-!
# Coercing spelled numbers

A string that spells a number is coerced to it.  Digits that fit a signed integer are taken as they
are, and everything else by way of the nearest double.  So the number is kept if it is a double
itself, unless it is the one above the signed integers; and otherwise it is lost wherever the
nearest double is whole.
-/

namespace ChannelGateway

def Decimal.Literal.string (l : Decimal.Literal) : String := String.ofList l.text

namespace Coercion

open Decimal

def ofType (name : String) : Json := .object [("type", .string name)]

/-- What a numeric schema is to make of a spelled number: an integer that replaces the string is the
number, a fraction does not become an integer, and digits of up to 64 bits become their integer. -/
structure Lossless (l : Literal) : Prop where
  integer_eq : ∀ name ∈ ["integer", "number"], ∀ n : ℤ,
    coerce (ofType name) (.string l.string) = .number (.int n) → (n : ℚ) = l.value
  fraction_kept : l.value.den ≠ 1 → coerce (ofType "integer") (.string l.string) = .string l.string
  plain_eq : l.IsPlain → -2 ^ 63 ≤ l.value → l.value < 2 ^ 64 → ∀ name ∈ ["integer", "number"],
    ∃ n : ℤ, (n : ℚ) = l.value ∧ coerce (ofType name) (.string l.string) = .number (.int n)

/-! ## The number of a text -/

theorem coerce_ofType (name : String) (value : Json) :
    coerce (ofType name) value = coerceScalar [name] value := by
  have htypes : declaredTypes (.object [("type", .string name)]) = [name] := rfl
  rw [ofType, coerce, htypes]
  cases coerceScalar [name] value with
  | object members =>
      have hkept : members.map (fun member : String × Json => (member.1, member.2)) = members :=
        List.map_id _
      exact congrArg Json.object hkept
  | array items => rfl
  | _ => rfl

theorem coerce_number (text : String) :
    coerce (ofType "number") (.string text) = (number? text).elim (.string text) .number := by
  rw [coerce_ofType]
  cases h : number? text <;> simp [coerceScalar, hasType, convert?, h]

theorem coerce_integer (text : String) :
    coerce (ofType "integer") (.string text) =
      ((number? text).filter JsonNumber.isWhole).elim (.string text) .number := by
  rw [coerce_ofType]
  cases h : (number? text).filter JsonNumber.isWhole <;> simp [coerceScalar, hasType, convert?, h]

theorem coerce_eq_int_iff {name text : String} (hname : name ∈ ["integer", "number"]) {n : ℤ} :
    coerce (ofType name) (.string text) = .number (.int n) ↔ number? text = some (.int n) := by
  have hnumber : (number? text).elim (Json.string text) .number = .number (.int n) ↔
      number? text = some (.int n) := by
    cases number? text <;> simp
  have hinteger : ((number? text).filter JsonNumber.isWhole).elim (Json.string text) .number =
      .number (.int n) ↔ number? text = some (.int n) := by
    cases number? text with
    | none => simp
    | some number =>
        by_cases hwhole : number.isWhole = true
        · simp [Option.filter_some, hwhole]
        · have hne : number ≠ .int n := fun h => hwhole (h ▸ rfl)
          simp [Option.filter_some, hwhole, hne]
  rcases List.mem_pair.1 hname with rfl | rfl
  · rw [coerce_integer, hinteger]
  · rw [coerce_number, hnumber]

def FitsSigned (l : Literal) : Prop := l.IsPlain ∧ -2 ^ 63 ≤ l.value ∧ l.value < 2 ^ 63

theorem number?_of_fitsSigned {l : Literal} (h : FitsSigned l) :
    ∃ n : ℤ, (n : ℚ) = l.value ∧ number? l.string = some (.int n) := by
  obtain ⟨hplain, hlow, hhigh⟩ := h
  rw [Literal.value_of_plain hplain] at hlow hhigh
  refine ⟨_, (Literal.value_of_plain hplain).symm, ?_⟩
  have hmin : JsonNumber.minInt ≤ signed l.sign.isMinus (ofDigits l.whole : ℤ) := by
    exact_mod_cast hlow
  have hmax : signed l.sign.isMinus (ofDigits l.whole : ℤ) ≤ JsonNumber.maxSigned :=
    Int.lt_add_one_iff.1 (by exact_mod_cast hhigh)
  rw [number?, Literal.string, String.toList_ofList, Literal.readInt?_text_of_plain hplain]
  exact if_pos ⟨hmin, hmax⟩

theorem number?_of_not_fitsSigned {l : Literal} (h : ¬ FitsSigned l) :
    number? l.string = l.decimal.toDouble?.map ofDouble := by
  rw [number?, Literal.string, String.toList_ofList, Literal.read?_text]
  by_cases hplain : l.IsPlain
  · rw [Literal.readInt?_text_of_plain hplain]
    apply if_neg
    rintro ⟨hmin, hmax⟩
    apply h
    rw [FitsSigned, Literal.value_of_plain hplain]
    refine ⟨hplain, by exact_mod_cast hmin, ?_⟩
    exact_mod_cast Int.lt_add_one_iff.2 hmax
  · rw [Literal.readInt?_text_of_not_plain hplain]
    rfl

/-! ## The number of a double -/

/-- A double is held as an integer if it is whole and at most the number above the signed integers,
which is cut to the largest of them. -/
theorem ofDouble_eq (d : Double) :
    ofDouble d = if d.isWhole = true ∧ -2 ^ 63 ≤ d.toRat ∧ d.toRat ≤ 2 ^ 63 then
      .int (min d.toRat.num JsonNumber.maxSigned) else .double d := by
  have hrange (hwhole : d.toRat.den = 1) : (JsonNumber.minInt ≤ d.toRat.num ∧
      d.toRat.num ≤ JsonNumber.maxSigned + 1) ↔ -2 ^ 63 ≤ d.toRat ∧ d.toRat ≤ 2 ^ 63 := by
    rw [← Rat.coe_int_num_of_den_eq_one hwhole, Rat.num_intCast]
    norm_num [JsonNumber.minInt, JsonNumber.maxSigned]
    norm_cast
  unfold ofDouble
  by_cases hwhole : d.toRat.den = 1
  · have hisWhole : d.isWhole = true := beq_iff_eq.2 hwhole
    simp only [hwhole, hisWhole, true_and, hrange hwhole]
  · have hisWhole : ¬ d.isWhole = true := fun h => hwhole (beq_iff_eq.1 h)
    rw [if_neg fun h => hwhole h.1, if_neg fun h => hisWhole h.1]

theorem isWhole_ofDouble (d : Double) : (ofDouble d).isWhole = d.isWhole := by
  rw [ofDouble_eq]
  split
  · next h => exact h.1.symm
  · rfl

theorem cast_min_num {d : Double} (h : d.isWhole = true) :
    ((min d.toRat.num JsonNumber.maxSigned : ℤ) : ℚ) = min d.toRat (2 ^ 63 - 1) := by
  have hnum : ((d.toRat.num : ℤ) : ℚ) = d.toRat := Rat.coe_int_num_of_den_eq_one (beq_iff_eq.1 h)
  rw [Int.cast_min, hnum]
  norm_num [JsonNumber.maxSigned]

theorem ofDouble_eq_int_iff {d : Double} {n : ℤ} :
    ofDouble d = .int n ↔ d.isWhole = true ∧ (-2 ^ 63 ≤ d.toRat ∧ d.toRat ≤ 2 ^ 63) ∧
      (n : ℚ) = min d.toRat (2 ^ 63 - 1) := by
  rw [ofDouble_eq]
  split
  · next h =>
      rw [← cast_min_num h.1, Int.cast_inj, JsonNumber.int.injEq, eq_comm]
      simp only [h, true_and]
  · next h =>
      simp only [reduceCtorEq, false_iff]
      exact fun hint => h ⟨hint.1, hint.2.1⟩

/-! ## What is kept -/

/-- A number is kept by the double that it is read into: if the double is whole, so is the number,
and an integer that the double is held as is the number. -/
def KeptBy (q : ℚ) (d : Double) : Prop :=
  d.isWhole = true →
    q.den = 1 ∧ (-2 ^ 63 ≤ d.toRat → d.toRat ≤ 2 ^ 63 → min d.toRat (2 ^ 63 - 1) = q)

theorem keptBy_congr {q : ℚ} {a b : Double} (h : a.toRat = b.toRat) : KeptBy q a ↔ KeptBy q b := by
  unfold KeptBy Double.isWhole
  rw [h]

/-- Rounding determines the value, so it is enough that the double that is read keeps the number. -/
theorem forall_rounds_keptBy_iff (l : Literal) :
    (∀ d : Double, d.Rounds l.value → KeptBy l.value d) ↔
      ∀ d ∈ l.decimal.toDouble?, KeptBy l.value d := by
  rw [← l.toRat_decimal]
  constructor
  · intro h d hd
    exact h d (rounds_toDouble? hd)
  · intro h d hd
    cases hread : l.decimal.toDouble? with
    | none => exact absurd hd.bounded (not_lt.2 (overflowBound_le_of_toDouble? hread))
    | some read => exact (keptBy_congr ((rounds_toDouble? hread).toRat_unique hd)).1 (h read hread)

theorem lossless_of_fitsSigned {l : Literal} (h : FitsSigned l) : Lossless l := by
  obtain ⟨n, hn, hnumber⟩ := number?_of_fitsSigned h
  refine ⟨fun name hname m hcoerce => ?_, fun hfraction => ?_, fun _ _ _ name hname => ?_⟩
  · rw [coerce_eq_int_iff hname, hnumber, Option.some.injEq, JsonNumber.int.injEq] at hcoerce
    rw [← hcoerce, hn]
  · rw [← hn] at hfraction
    exact absurd (Rat.den_intCast n) hfraction
  · exact ⟨n, hn, (coerce_eq_int_iff hname).2 hnumber⟩

section NotSigned

variable {l : Literal} (hfits : ¬ FitsSigned l)

include hfits

theorem keptBy_of_lossless (h : Lossless l) {d : Double} (hd : l.decimal.toDouble? = some d) :
    KeptBy l.value d := by
  intro hwhole
  have hnumber : number? l.string = some (ofDouble d) := by
    rw [number?_of_not_fitsSigned hfits, hd, Option.map_some]
  by_cases hrange : -2 ^ 63 ≤ d.toRat ∧ d.toRat ≤ 2 ^ 63
  · rw [ofDouble_eq, if_pos ⟨hwhole, hrange⟩] at hnumber
    have hname : "number" ∈ ["integer", "number"] := by simp
    have hvalue := h.integer_eq "number" hname _ ((coerce_eq_int_iff hname).2 hnumber)
    refine ⟨?_, fun _ _ => ?_⟩
    · rw [← hvalue]
      exact Rat.den_intCast _
    · rw [← hvalue, cast_min_num hwhole]
  · refine ⟨by_contra fun hfraction => ?_, fun hlow hhigh => absurd ⟨hlow, hhigh⟩ hrange⟩
    have hkept := h.fraction_kept hfraction
    rw [coerce_integer, hnumber, Option.filter_some, isWhole_ofDouble, if_pos hwhole] at hkept
    cases hkept

theorem not_unsigned_of_lossless (h : Lossless l) :
    ¬ (l.IsPlain ∧ 2 ^ 63 ≤ l.value ∧ l.value < 2 ^ 64) := by
  rintro ⟨hplain, hlow, hhigh⟩
  have hname : "number" ∈ ["integer", "number"] := by simp
  obtain ⟨n, hn, hcoerce⟩ := h.plain_eq hplain (by linarith) hhigh "number" hname
  rw [coerce_eq_int_iff hname, number?_of_not_fitsSigned hfits, Option.map_eq_some_iff] at hcoerce
  obtain ⟨d, -, hd⟩ := hcoerce
  obtain ⟨hwhole, -, hcut⟩ := ofDouble_eq_int_iff.1 hd
  have hle : (n : ℚ) ≤ 2 ^ 63 - 1 := hcut ▸ min_le_right _ _
  linarith

theorem lossless_of_keptBy (hunsigned : ¬ (l.IsPlain ∧ 2 ^ 63 ≤ l.value ∧ l.value < 2 ^ 64))
    (hkept : ∀ d ∈ l.decimal.toDouble?, KeptBy l.value d) : Lossless l := by
  refine ⟨fun name hname n hcoerce => ?_, fun hfraction => ?_, fun hplain hlow hhigh => ?_⟩
  · rw [coerce_eq_int_iff hname, number?_of_not_fitsSigned hfits, Option.map_eq_some_iff] at hcoerce
    obtain ⟨d, hread, hd⟩ := hcoerce
    obtain ⟨hwhole, ⟨hlow, hhigh⟩, hcut⟩ := ofDouble_eq_int_iff.1 hd
    rw [hcut]
    exact (hkept d hread hwhole).2 hlow hhigh
  · rw [coerce_integer, number?_of_not_fitsSigned hfits]
    cases hread : l.decimal.toDouble? with
    | none => rfl
    | some d =>
        have hnotWhole : ¬ d.isWhole = true := fun hwhole => hfraction (hkept d hread hwhole).1
        rw [Option.map_some, Option.filter_some, isWhole_ofDouble, if_neg hnotWhole]
        rfl
  · -- digits below the unsigned ones would fit
    exact absurd ⟨hplain, hlow, not_le.1 fun hge => hunsigned ⟨hplain, hge, hhigh⟩⟩ hfits

end NotSigned

/-- A spelled number is kept by coercion if and only if its digits fit a signed integer, or it has
to be read as a double anyway and every double that it is rounded to keeps it. -/
theorem coercion_lossless_iff (l : Literal) :
    Lossless l ↔ FitsSigned l ∨
      (¬ (l.IsPlain ∧ 2 ^ 63 ≤ l.value ∧ l.value < 2 ^ 64) ∧
        ∀ d : Double, d.Rounds l.value → KeptBy l.value d) := by
  by_cases hfits : FitsSigned l
  · exact iff_of_true (lossless_of_fitsSigned hfits) (.inl hfits)
  · rw [forall_rounds_keptBy_iff]
    constructor
    · intro h
      exact .inr ⟨not_unsigned_of_lossless hfits h, fun d hd => keptBy_of_lossless hfits h hd⟩
    · intro h
      obtain ⟨hunsigned, hkept⟩ := h.resolve_left hfits
      exact lossless_of_keptBy hfits hunsigned hkept

def aboveSignificands : Literal :=
  ⟨.absent, "9007199254740993".toList, some ['0'], none, List.all_eq_true.1 (by decide), by decide⟩

def aboveSigned : Literal :=
  ⟨.absent, "9223372036854775808".toList, none, none, List.all_eq_true.1 (by decide), by decide⟩

def belowOne : Literal :=
  ⟨.absent, ['0'], some "99999999999999999999".toList, none,
    List.all_eq_true.1 (by decide), by decide⟩

/-- Neighbours of spelled numbers that replace them: the even one of two doubles, the largest signed
integer, and a whole number for a fraction. -/
theorem coercion_lossy :
    aboveSignificands.string = "9007199254740993.0" ∧ aboveSigned.string = "9223372036854775808" ∧
    belowOne.string = "0.99999999999999999999" ∧
    coerce (ofType "integer") (.string aboveSignificands.string) = .number (.int 9007199254740992) ∧
    coerce (ofType "integer") (.string aboveSigned.string) = .number (.int 9223372036854775807) ∧
    coerce (ofType "integer") (.string belowOne.string) = .number (.int 1) ∧
    ¬ Lossless aboveSignificands ∧ ¬ Lossless aboveSigned ∧ ¬ Lossless belowOne := by
  have hname : "integer" ∈ ["integer", "number"] := by simp
  have hsignificands : coerce (ofType "integer") (.string aboveSignificands.string) =
      .number (.int 9007199254740992) := (coerce_eq_int_iff hname).2 (by decide +kernel)
  have hsigned : coerce (ofType "integer") (.string aboveSigned.string) =
      .number (.int 9223372036854775807) := (coerce_eq_int_iff hname).2 (by decide +kernel)
  have hone : coerce (ofType "integer") (.string belowOne.string) = .number (.int 1) :=
    (coerce_eq_int_iff hname).2 (by decide +kernel)
  refine ⟨by decide +kernel, by decide +kernel, by decide +kernel, hsignificands, hsigned,
    hone, ?_, ?_, ?_⟩
  · intro h
    exact absurd (h.integer_eq "integer" hname _ hsignificands) (by decide +kernel)
  · intro h
    exact absurd (h.integer_eq "integer" hname _ hsigned) (by decide +kernel)
  · intro h
    exact absurd (h.integer_eq "integer" hname _ hone) (by decide +kernel)

end Coercion

end ChannelGateway
