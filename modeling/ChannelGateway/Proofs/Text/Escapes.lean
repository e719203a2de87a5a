import ChannelGateway.Proofs.Text.Percent
/-!
# What decoding takes for an escape

An escape is a percent sign with two hexadecimal digits behind it.  Decoding reads a text from left
to right and replaces its escapes; it also takes a percent sign with a plus sign and one digit for
an escape.  Texts without such a sequence are decoded as they should be, and no other texts are.
-/

namespace ChannelGateway

theorem Hex.lt_of_digit? {c : Char} {n : Nat} (h : digit? c = some n) : n < 16 := by
  have hle (a b : Char) : a ≤ b → a.toNat ≤ b.toNat := UInt32.le_iff_toNat_le.1
  have hbounds : '9'.toNat = 57 ∧ '0'.toNat = 48 ∧ 'f'.toNat = 102 ∧ 'a'.toNat = 97 ∧
      'F'.toNat = 70 ∧ 'A'.toNat = 65 := by decide
  unfold digit? at h
  split_ifs at h with h1 h2 h3
  · have := hle _ _ h1.2
    cases h
    omega
  · have := hle _ _ h2.2
    cases h
    omega
  · have := hle _ _ h3.2
    cases h
    omega

namespace Percent

def percent : UInt8 := byteOf '%'

def plus : UInt8 := byteOf '+'

def hex? (b : UInt8) : Option Nat := Hex.digit? (Char.ofNat b.toNat)

def hexadecimal? (high low : UInt8) : Option UInt8 :=
  (hex? high).bind fun h => (hex? low).map fun l => UInt8.ofNat (16 * h + l)

/-- The byte that a plus sign and a hexadecimal digit are taken for. -/
def signed? (high low : UInt8) : Option UInt8 :=
  if high = plus then (hex? low).map UInt8.ofNat else none

/-- A byte sequence is read from left to right: every percent sign with two bytes behind it that
spell a value is replaced, and every other byte is copied. -/
inductive Unescapes (spelled? : UInt8 → UInt8 → Option UInt8) : List UInt8 → List UInt8 → Prop
  | nil : Unescapes spelled? [] []
  | escape {high low value : UInt8} {rest out : List UInt8} : spelled? high low = some value →
      Unescapes spelled? rest out →
        Unescapes spelled? (percent :: high :: low :: rest) (value :: out)
  | copy {b : UInt8} {rest out : List UInt8} :
      (∀ high low behind, b :: rest = percent :: high :: low :: behind → spelled? high low = none) →
      Unescapes spelled? rest out → Unescapes spelled? (b :: rest) (b :: out)

/-- A byte sequence is written with escapes: every percent sign is escaped, and other bytes may be,
with digits of either case. -/
inductive Escapes : List UInt8 → List UInt8 → Prop
  | nil : Escapes [] []
  | escape {b high low : UInt8} {source written : List UInt8} : hexadecimal? high low = some b →
      Escapes source written → Escapes (b :: source) (percent :: high :: low :: written)
  | plain {b : UInt8} {source written : List UInt8} : b ≠ percent → Escapes source written →
      Escapes (b :: source) (b :: written)

def HasSignedEscape (bytes : List UInt8) : Prop :=
  ∃ low, (hex? low).isSome ∧ [percent, plus, low] <:+: bytes

theorem toNat_eq_percent {b : UInt8} : b.toNat = '%'.toNat ↔ b = percent := by
  rw [← UInt8.toNat_inj]
  rfl

theorem toNat_eq_plus {b : UInt8} : b.toNat = '+'.toNat ↔ b = plus := by
  rw [← UInt8.toNat_inj]
  rfl

theorem ofNat_ne_percent {b : UInt8} {n : Nat} (h : hex? b = some n) : UInt8.ofNat n ≠ percent := by
  have hlt : n < 16 := Hex.lt_of_digit? h
  rw [← UInt8.toNat_inj.ne, Utf8.toNat_ofNat_of_lt (by omega)]
  exact fun heq => absurd (heq ▸ hlt) (by decide)

theorem hex?_percent : hex? percent = none := by decide

theorem hex?_plus : hex? plus = none := by decide

/-! ## Two bytes behind a percent sign -/

theorem byte?_eq (high low : UInt8) :
    byte? high low = (hexadecimal? high low).or (signed? high low) := by
  simp only [byte?, hexadecimal?, signed?, hex?, toNat_eq_plus]
  by_cases hplus : high = plus
  · have hnone : Hex.digit? (Char.ofNat plus.toNat) = none := hex?_plus
    simp only [hplus, hnone, if_true, Option.bind_none, Option.none_or]
    cases Hex.digit? (Char.ofNat low.toNat) <;> rfl
  · simp only [hplus, if_false, Option.or_none]
    cases Hex.digit? (Char.ofNat low.toNat) <;> cases Hex.digit? (Char.ofNat high.toNat) <;> rfl

theorem isSome_hex?_of_hexadecimal? {high low value : UInt8}
    (h : hexadecimal? high low = some value) :
    (hex? high).isSome ∧ (hex? low).isSome := by
  obtain ⟨m, hm, hn⟩ := Option.bind_eq_some_iff.1 h
  obtain ⟨n, hn, -⟩ := Option.map_eq_some_iff.1 hn
  rw [hm, hn]
  exact ⟨rfl, rfl⟩

theorem byte?_of_hexadecimal? {high low value : UInt8} (h : hexadecimal? high low = some value) :
    byte? high low = some value := by
  rw [byte?_eq, h, Option.some_or]

theorem signed?_of_byte? {high low value : UInt8} (h : byte? high low = some value)
    (hnone : hexadecimal? high low = none) :
    high = plus ∧ ∃ l, hex? low = some l ∧ value = UInt8.ofNat l := by
  rw [byte?_eq, hnone, Option.none_or, signed?] at h
  split at h
  · next hplus =>
      obtain ⟨l, hl, heq⟩ := Option.map_eq_some_iff.1 h
      exact ⟨hplus, l, hl, heq.symm⟩
  · cases h

theorem byte?_plus {low : UInt8} {l : Nat} (h : hex? low = some l) :
    byte? plus low = some (UInt8.ofNat l) := by
  rw [byte?_eq, hexadecimal?, hex?_plus, Option.bind_none, Option.none_or, signed?, if_pos rfl, h,
    Option.map_some]

/-! ## Decoding as a reading of escapes -/

theorem decodeBytes_of_some {high low value : UInt8} (h : byte? high low = some value)
    (rest : List UInt8) :
    decodeBytes (percent :: high :: low :: rest) = value :: decodeBytes rest := by
  rw [decodeBytes.eq_def]
  simp only [h]
  rfl

theorem decodeBytes_of_copy {b : UInt8} {rest : List UInt8}
    (h : ∀ high low behind, b :: rest = percent :: high :: low :: behind → byte? high low = none) :
    decodeBytes (b :: rest) = b :: decodeBytes rest := by
  by_cases hb : b = percent
  · subst hb
    rw [decodeBytes.eq_def]
    match rest, h with
    | high :: low :: behind, h =>
        simp only [h high low behind rfl]
        rfl
    | [high], _ => rfl
    | [], _ => rfl
  · exact decodeBytes_cons (fun hnat => hb (toNat_eq_percent.1 hnat)) rest

theorem Unescapes.decodeBytes_eq {bytes out : List UInt8} (h : Unescapes byte? bytes out) :
    decodeBytes bytes = out := by
  induction h with
  | nil => rw [decodeBytes]
  | escape hvalue _ ih => rw [decodeBytes_of_some hvalue, ih]
  | copy hnone _ ih => rw [decodeBytes_of_copy hnone, ih]

theorem exists_unescapes (spelled? : UInt8 → UInt8 → Option UInt8) (bytes : List UInt8) :
    ∃ out, Unescapes spelled? bytes out := by
  induction hn : bytes.length using Nat.strongRecOn generalizing bytes with
  | ind n ih =>
    have hshorter (rest : List UInt8) (h : rest.length < n) : ∃ out, Unescapes spelled? rest out :=
      ih rest.length h rest rfl
    by_cases hescape : ∃ high low behind value, bytes = percent :: high :: low :: behind ∧
        spelled? high low = some value
    · obtain ⟨high, low, behind, value, rfl, hvalue⟩ := hescape
      obtain ⟨out, hout⟩ := hshorter behind (by simp only [List.length_cons] at hn; omega)
      exact ⟨value :: out, .escape hvalue hout⟩
    · cases bytes with
      | nil => exact ⟨[], .nil⟩
      | cons b rest =>
          obtain ⟨out, hout⟩ := hshorter rest (by simp only [List.length_cons] at hn; omega)
          refine ⟨b :: out, .copy (fun high low behind heq => ?_) hout⟩
          by_contra hsome
          obtain ⟨value, hvalue⟩ := Option.ne_none_iff_exists'.1 hsome
          exact hescape ⟨high, low, behind, value, heq, hvalue⟩

theorem unescapes_decodeBytes (bytes : List UInt8) : Unescapes byte? bytes (decodeBytes bytes) := by
  obtain ⟨out, hout⟩ := exists_unescapes byte? bytes
  rwa [hout.decodeBytes_eq]

/-! ## Signed escapes -/

theorem hasSignedEscape_cons {b : UInt8} {rest : List UInt8} :
    HasSignedEscape (b :: rest) ↔
      (b = percent ∧ ∃ low behind, rest = plus :: low :: behind ∧ (hex? low).isSome) ∨
        HasSignedEscape rest := by
  simp only [HasSignedEscape, List.infix_cons_iff, List.cons_prefix_cons]
  constructor
  · rintro ⟨low, hlow, ⟨rfl, front, rfl⟩ | hinfix⟩
    · exact Or.inl ⟨rfl, low, front, rfl, hlow⟩
    · exact Or.inr ⟨low, hlow, hinfix⟩
  · rintro (⟨rfl, low, behind, rfl, hlow⟩ | ⟨low, hlow, hinfix⟩)
    · exact ⟨low, hlow, Or.inl ⟨rfl, behind, rfl⟩⟩
    · exact ⟨low, hlow, Or.inr hinfix⟩

theorem hasSignedEscape_cons_of_ne {b : UInt8} (h : b ≠ percent) {rest : List UInt8} :
    HasSignedEscape (b :: rest) ↔ HasSignedEscape rest := by
  rw [hasSignedEscape_cons]
  simp [h]

theorem ne_percent_of_hex? {b : UInt8} (h : (hex? b).isSome) : b ≠ percent := by
  rintro rfl
  rw [hex?_percent] at h
  cases h

theorem hasSignedEscape_of_escape {high low value : UInt8} {rest : List UInt8}
    (h : hexadecimal? high low = some value)
    (hsigned : HasSignedEscape (percent :: high :: low :: rest)) : HasSignedEscape rest := by
  obtain ⟨hhigh, hlow⟩ := isSome_hex?_of_hexadecimal? h
  rcases hasSignedEscape_cons.1 hsigned with ⟨-, low', behind, heq, -⟩ | hsigned
  · obtain ⟨rfl, -⟩ := List.cons.inj heq
    rw [hex?_plus] at hhigh
    cases hhigh
  · rwa [hasSignedEscape_cons_of_ne (ne_percent_of_hex? hhigh),
      hasSignedEscape_cons_of_ne (ne_percent_of_hex? hlow)] at hsigned

theorem eq_plus_of_byte? {high low : UInt8} (h : byte? high low ≠ none)
    (hnone : hexadecimal? high low = none) : high = plus ∧ (hex? low).isSome := by
  obtain ⟨value, hvalue⟩ := Option.ne_none_iff_exists'.1 h
  obtain ⟨hplus, l, hl, -⟩ := signed?_of_byte? hvalue hnone
  rw [hl]
  exact ⟨hplus, rfl⟩

theorem Unescapes.of_hexadecimal {bytes out : List UInt8} (h : Unescapes hexadecimal? bytes out)
    (hsigned : ¬ HasSignedEscape bytes) : Unescapes byte? bytes out := by
  induction h with
  | nil => exact .nil
  | escape hvalue _ ih =>
      refine .escape (byte?_of_hexadecimal? hvalue) (ih fun hrest => hsigned ?_)
      simp only [hasSignedEscape_cons, hrest, or_true]
  | @copy b rest out hnone _ ih =>
      refine .copy (fun high low behind heq => ?_) (ih fun hrest => hsigned ?_)
      · by_contra hsome
        obtain ⟨rfl, hlow⟩ := eq_plus_of_byte? hsome (hnone high low behind heq)
        obtain ⟨rfl, rfl⟩ := List.cons.inj heq
        exact hsigned (hasSignedEscape_cons.2 (Or.inl ⟨rfl, low, behind, rfl, hlow⟩))
      · exact hasSignedEscape_cons.2 (Or.inr hrest)

/-- A signed escape takes a percent sign away that reading escapes would have copied. -/
theorem Unescapes.count_percent {bytes out : List UInt8} (h : Unescapes hexadecimal? bytes out) :
    (decodeBytes bytes).count percent ≤ out.count percent ∧
      (HasSignedEscape bytes → (decodeBytes bytes).count percent < out.count percent) := by
  induction h with
  | nil =>
      refine ⟨Nat.le_of_eq (by rw [decodeBytes]), ?_⟩
      rintro ⟨low, -, hinfix⟩
      exact absurd (List.eq_nil_of_infix_nil hinfix) (List.cons_ne_nil _ _)
  | @escape high low value rest out hvalue _ ih =>
      rw [decodeBytes_of_some (byte?_of_hexadecimal? hvalue), List.count_cons, List.count_cons]
      refine ⟨Nat.add_le_add_right ih.1 _, fun hsigned => ?_⟩
      exact Nat.add_lt_add_right (ih.2 (hasSignedEscape_of_escape hvalue hsigned)) _
  | @copy b rest out hnone _ ih =>
      by_cases hfront : b = percent ∧ ∃ low behind, rest = plus :: low :: behind ∧ (hex? low).isSome
      · obtain ⟨rfl, low, behind, rfl, hlow⟩ := hfront
        obtain ⟨l, hl⟩ := Option.isSome_iff_exists.1 hlow
        have hrest : decodeBytes (plus :: low :: behind) = plus :: low :: decodeBytes behind := by
          rw [decodeBytes_cons (by decide),
            decodeBytes_cons fun hnat => ne_percent_of_hex? hlow (toNat_eq_percent.1 hnat)]
        have hle := ih.1
        rw [hrest, List.count_cons_of_ne (by decide),
          List.count_cons_of_ne (ne_percent_of_hex? hlow)] at hle
        rw [decodeBytes_of_some (byte?_plus hl), List.count_cons_of_ne (ofNat_ne_percent hl),
          List.count_cons_self]
        exact ⟨Nat.le_succ_of_le hle, fun _ => Nat.lt_succ_of_le hle⟩
      · have hcopy : decodeBytes (b :: rest) = b :: decodeBytes rest := by
          refine decodeBytes_of_copy fun high low behind heq => ?_
          by_contra hsome
          obtain ⟨rfl, hlow⟩ := eq_plus_of_byte? hsome (hnone high low behind heq)
          obtain ⟨rfl, rfl⟩ := List.cons.inj heq
          exact hfront ⟨rfl, low, behind, rfl, hlow⟩
        rw [hcopy, List.count_cons, List.count_cons]
        refine ⟨Nat.add_le_add_right ih.1 _, fun hsigned => Nat.add_lt_add_right (ih.2 ?_) _⟩
        exact (hasSignedEscape_cons.1 hsigned).resolve_left hfront

/-! ## Escaped texts -/

theorem Escapes.decodeBytes_eq {source written : List UInt8} (h : Escapes source written) :
    decodeBytes written = source := by
  induction h with
  | nil => rw [decodeBytes]
  | escape hvalue _ ih => rw [decodeBytes_of_some (byte?_of_hexadecimal? hvalue), ih]
  | plain hne _ ih => rw [decodeBytes_cons (fun hnat => hne (toNat_eq_percent.1 hnat)), ih]

end Percent

open Percent

/-- A text is decoded by reading its bytes from left to right, where a percent sign starts an
escape if two hexadecimal digits follow, or a plus sign and one digit.  This is the reading of
escapes with two digits exactly if there is no such sequence with a sign.  A text that was written
with escapes, so that no percent sign stands for itself, is decoded to what it was written for. -/
theorem decode_reads_escapes (text : List Char) :
    (∃ bytes, Unescapes (fun high low => (hexadecimal? high low).or (signed? high low))
        (Utf8.encode text) bytes ∧ decode text = Utf8.decodeLossy bytes) ∧
    (∃ bytes, Unescapes hexadecimal? (Utf8.encode text) bytes) ∧
    (∀ bytes, Unescapes hexadecimal? (Utf8.encode text) bytes →
      (decode text = Utf8.decodeLossy bytes ↔ ¬ HasSignedEscape (Utf8.encode text))) ∧
    ∀ source, Escapes (Utf8.encode source) (Utf8.encode text) → decode text = source := by
  refine ⟨⟨_, ?_, rfl⟩, exists_unescapes _ _,
    fun bytes hbytes => ⟨fun heq hsigned => ?_, fun hsigned => ?_⟩, fun source hsource => ?_⟩
  · have hread := unescapes_decodeBytes (Utf8.encode text)
    rwa [funext₂ byte?_eq] at hread
  · have hcount := congrArg (List.count '%') heq
    have hpercent : 0 < '%'.toNat ∧ '%'.toNat < 128 := by decide
    rw [decode, Utf8.count_decodeLossy hpercent, Utf8.count_decodeLossy hpercent] at hcount
    exact absurd hcount (Nat.ne_of_lt (hbytes.count_percent.2 hsigned))
  · rw [decode, (hbytes.of_hexadecimal hsigned).decodeBytes_eq]
  · rw [decode, hsource.decodeBytes_eq, Utf8.decodeLossy_encode]

example : Escapes (Utf8.encode "é%".toList) (Utf8.encode "%c3%A9%25".toList) :=
  .escape (by decide) (.escape (by decide) (.escape (by decide) .nil))

namespace Percent

/-- A percent sign, a plus sign and a digit are no escape, but they are decoded as one. -/
theorem decode_signed_escape :
    Unescapes hexadecimal? (Utf8.encode "%+5".toList) (Utf8.encode "%+5".toList) ∧
      decode "%+5".toList = ['\x05'] ∧
      decode "%+5".toList ≠ Utf8.decodeLossy (Utf8.encode "%+5".toList) := by
  have hbytes : Utf8.encode "%+5".toList = [percent, plus, byteOf '5'] := by decide
  have hvalue : byte? plus (byteOf '5') = some 5 := by decide
  have hdecode : decode "%+5".toList = ['\x05'] := by
    rw [decode, hbytes, decodeBytes_of_some hvalue, decodeBytes]
    exact Utf8.decodeLossy_encode ['\x05']
  refine ⟨?_, hdecode, ?_⟩
  · have hnot (b : UInt8) (hb : b ≠ percent) (rest : List UInt8) (high low : UInt8)
        (behind : List UInt8) (heq : b :: rest = percent :: high :: low :: behind) :
        hexadecimal? high low = none := absurd (List.cons.inj heq).1 hb
    rw [hbytes]
    refine .copy (fun high low behind heq => ?_)
      (.copy (hnot plus (by decide) _) (.copy (hnot (byteOf '5') (by decide) _) .nil))
    cases heq
    decide
  · rw [hdecode, Utf8.decodeLossy_encode]
    decide

end Percent

end ChannelGateway
