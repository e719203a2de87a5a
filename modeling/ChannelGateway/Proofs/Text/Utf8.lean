import ChannelGateway.Text.Utf8
import Mathlib.Data.List.Basic
/-!
# Reading encoded text

The bytes of a text are well-formed, and reading them gives the text back.
-/

namespace ChannelGateway.Utf8

theorem encode_cons (c : Char) (text : List Char) :
    encode (c :: text) = String.utf8EncodeChar c ++ encode text := rfl

theorem encode_append (front back : List Char) :
    encode (front ++ back) = encode front ++ encode back := List.flatMap_append

theorem encodeChar_of_ascii {c : Char} (h : c.toNat < 128) :
    String.utf8EncodeChar c = [UInt8.ofNat c.toNat] := by
  have hle : c.val.toNat ≤ 127 := Nat.le_of_lt_succ h
  rw [String.utf8EncodeChar, if_pos hle]
  rfl

theorem two_le_length_encodeChar {c : Char} (h : 128 ≤ c.toNat) :
    2 ≤ (String.utf8EncodeChar c).length := by
  have hlt : ¬ c.val.toNat ≤ 127 := Nat.not_le_of_lt h
  rw [String.utf8EncodeChar, if_neg hlt]
  split_ifs <;> simp

theorem encode_of_ascii {text : List Char} (h : ∀ c ∈ text, c.toNat < 128) :
    encode text = text.map fun c => UInt8.ofNat c.toNat := by
  induction text with
  | nil => rfl
  | cons c text ih =>
      obtain ⟨hc, htext⟩ := List.forall_mem_cons.1 h
      rw [encode_cons, encodeChar_of_ascii hc, ih htext]
      rfl

theorem toNat_ofNat_of_lt {n : Nat} (h : n < 256) : (UInt8.ofNat n).toNat = n := by
  rw [UInt8.toNat_ofNat', Nat.mod_eq_of_lt h]

theorem isTail_iff {b : UInt8} : isTail b = true ↔ 0x80 ≤ b.toNat ∧ b.toNat ≤ 0xBF := by
  simp [isTail, UInt8.le_iff_toNat_le]

theorem isSecondOfThree_iff {a b : UInt8} : isSecondOfThree a b = true ↔
    (if a.toNat = 0xE0 then 0xA0 else 0x80) ≤ b.toNat ∧
      b.toNat ≤ (if a.toNat = 0xED then 0x9F else 0xBF) := by
  simp only [isSecondOfThree, isTail, ← UInt8.toNat_inj, UInt8.le_iff_toNat_le]
  split_ifs <;> simp_all

theorem isSecondOfFour_iff {a b : UInt8} : isSecondOfFour a b = true ↔
    (if a.toNat = 0xF0 then 0x90 else 0x80) ≤ b.toNat ∧
      b.toNat ≤ (if a.toNat = 0xF4 then 0x8F else 0xBF) := by
  simp only [isSecondOfFour, isTail, ← UInt8.toNat_inj, UInt8.le_iff_toNat_le]
  split_ifs <;> simp_all

section Units

variable {a b c d : UInt8} {rest : List UInt8}

theorem units_one (ha : a.toNat < 0x80) :
    units (a :: rest) = some (Char.ofNat a.toNat) :: units rest := by
  rw [units.eq_def]
  simp only [UInt8.lt_iff_toNat_lt, UInt8.reduceToNat]
  rw [if_pos ha]

theorem units_two (ha : 0xC2 ≤ a.toNat ∧ a.toNat ≤ 0xDF) (hb : isTail b = true) :
    units (a :: b :: rest) = some (ofTails [b.toNat % 64, a.toNat % 32]) :: units rest := by
  rw [units.eq_def]
  simp only [UInt8.lt_iff_toNat_lt, UInt8.le_iff_toNat_le, UInt8.reduceToNat]
  rw [if_neg (by omega), if_pos ha, if_pos hb]

theorem units_three (ha : 0xE0 ≤ a.toNat ∧ a.toNat ≤ 0xEF) (hb : isSecondOfThree a b = true)
    (hc : isTail c = true) :
    units (a :: b :: c :: rest) =
      some (ofTails [c.toNat % 64, b.toNat % 64, a.toNat % 16]) :: units rest := by
  rw [units.eq_def]
  simp only [UInt8.lt_iff_toNat_lt, UInt8.le_iff_toNat_le, UInt8.reduceToNat]
  rw [if_neg (by omega), if_neg (by omega), if_pos ha, if_pos hb, if_pos hc]

theorem units_four (ha : 0xF0 ≤ a.toNat ∧ a.toNat ≤ 0xF4) (hb : isSecondOfFour a b = true)
    (hc : isTail c = true) (hd : isTail d = true) :
    units (a :: b :: c :: d :: rest) =
      some (ofTails [d.toNat % 64, c.toNat % 64, b.toNat % 64, a.toNat % 8]) :: units rest := by
  rw [units.eq_def]
  simp only [UInt8.lt_iff_toNat_lt, UInt8.le_iff_toNat_le, UInt8.reduceToNat]
  rw [if_neg (by omega), if_neg (by omega), if_neg (by omega), if_pos ha, if_pos hb,
    if_pos hc, if_pos hd]

end Units

theorem ofTails_eq {c : Char} {digits : List Nat}
    (h : digits.foldr (fun d n => 64 * n + d) 0 = c.toNat) : ofTails digits = c := by
  rw [ofTails, h, Char.ofNat_toNat]

theorem units_encodeChar_append (c : Char) (rest : List UInt8) :
    units (String.utf8EncodeChar c ++ rest) = some c :: units rest := by
  -- The lengths of sequences and the ranges of their bytes follow the size of the
  -- character's number.
  have hbyte {n : Nat} (h : n < 256) : (UInt8.ofNat n).toNat = n := toNat_ofNat_of_lt h
  have hvalid : c.toNat < 0xD800 ∨ (0xDFFF < c.toNat ∧ c.toNat < 0x110000) := c.valid
  unfold String.utf8EncodeChar
  generalize hv : c.val.toNat = v
  have hcv : c.toNat = v := hv
  rw [hcv] at hvalid
  dsimp only
  split_ifs with h1 h2 h3
  · rw [List.singleton_append, units_one (by rw [hbyte (by omega)]; omega), hbyte (by omega), ← hcv,
      Char.ofNat_toNat]
  · have ha : (UInt8.ofNat (v / 64 % 32 + 192)).toNat = v / 64 % 32 + 192 := hbyte (by omega)
    have hb : (UInt8.ofNat (v % 64 + 128)).toNat = v % 64 + 128 := hbyte (by omega)
    rw [List.cons_append, List.cons_append, List.nil_append, units_two, ofTails_eq]
    · simp only [ha, hb, List.foldr_cons, List.foldr_nil, hcv]
      omega
    · omega
    · rw [isTail_iff]
      omega
  · have ha : (UInt8.ofNat (v / 4096 % 16 + 224)).toNat = v / 4096 % 16 + 224 := hbyte (by omega)
    have hb : (UInt8.ofNat (v / 64 % 64 + 128)).toNat = v / 64 % 64 + 128 := hbyte (by omega)
    have hc : (UInt8.ofNat (v % 64 + 128)).toNat = v % 64 + 128 := hbyte (by omega)
    rw [List.cons_append, List.cons_append, List.cons_append, List.nil_append,
      units_three, ofTails_eq]
    · simp only [ha, hb, hc, List.foldr_cons, List.foldr_nil, hcv]
      omega
    · omega
    · rw [isSecondOfThree_iff]
      split_ifs <;> omega
    · rw [isTail_iff]
      omega
  · have ha : (UInt8.ofNat (v / 262144 % 8 + 240)).toNat = v / 262144 % 8 + 240 := hbyte (by omega)
    have hb : (UInt8.ofNat (v / 4096 % 64 + 128)).toNat = v / 4096 % 64 + 128 := hbyte (by omega)
    have hc : (UInt8.ofNat (v / 64 % 64 + 128)).toNat = v / 64 % 64 + 128 := hbyte (by omega)
    have hd : (UInt8.ofNat (v % 64 + 128)).toNat = v % 64 + 128 := hbyte (by omega)
    rw [List.cons_append, List.cons_append, List.cons_append, List.cons_append, List.nil_append,
      units_four, ofTails_eq]
    · simp only [ha, hb, hc, hd, List.foldr_cons, List.foldr_nil, hcv]
      omega
    · omega
    · rw [isSecondOfFour_iff]
      split_ifs <;> omega
    · rw [isTail_iff]
      omega
    · rw [isTail_iff]
      omega

theorem units_encode (text : List Char) : units (encode text) = text.map some := by
  induction text with
  | nil => rw [encode, List.flatMap_nil, units, List.map_nil]
  | cons c text ih => rw [encode_cons, units_encodeChar_append, ih, List.map_cons]

theorem decodeLossy_encode (text : List Char) : decodeLossy (encode text) = text := by
  rw [decodeLossy, units_encode, List.map_map]
  exact List.map_id text

/-! ## ASCII characters -/

theorem le_of_isSecondOfThree {a b : UInt8} (h : isSecondOfThree a b = true) :
    128 ≤ b.toNat ∧ b.toNat ≤ 191 ∧ (a.toNat = 224 → 160 ≤ b.toNat) := by
  rw [isSecondOfThree_iff] at h
  split_ifs at h <;> omega

theorem le_of_isSecondOfFour {a b : UInt8} (h : isSecondOfFour a b = true) :
    128 ≤ b.toNat ∧ b.toNat ≤ 191 ∧ (a.toNat = 240 → 144 ≤ b.toNat) := by
  rw [isSecondOfFour_iff] at h
  split_ifs at h <;> omega

section Ascii

variable {c : Char} (hc : 0 < c.toNat ∧ c.toNat < 128)

include hc

theorem count_cons_of_le {b : UInt8} (hb : 128 ≤ b.toNat) (rest : List UInt8) :
    (b :: rest).count (UInt8.ofNat c.toNat) = rest.count (UInt8.ofNat c.toNat) := by
  refine List.count_cons_of_ne fun heq => ?_
  rw [heq, toNat_ofNat_of_lt (by omega)] at hb
  omega

theorem count_ofTails {digits : List Nat} (h : 128 ≤ digits.foldr (fun d n => 64 * n + d) 0)
    (rest : List (Option Char)) :
    (some (ofTails digits) :: rest).count (some c) = rest.count (some c) := by
  refine List.count_cons_of_ne fun heq => ?_
  obtain rfl := Option.some.inj heq
  rw [ofTails] at hc
  generalize digits.foldr (fun d n => 64 * n + d) 0 = n at h hc
  by_cases hn : n.isValidChar
  · have hnat : (Char.ofNat n).toNat = n := by rw [Char.ofNat, dif_pos hn]; rfl
    omega
  · rw [Char.ofNat, dif_neg hn] at hc
    exact absurd hc.1 (by decide)

omit hc in
theorem count_none (rest : List (Option Char)) :
    (none :: rest).count (some c) = rest.count (some c) :=
  List.count_cons_of_ne (by simp)

theorem ofNat_toNat_eq_iff {a : UInt8} (ha : a.toNat < 128) :
    some (Char.ofNat a.toNat) = some c ↔ a = UInt8.ofNat c.toNat := by
  have hvalid : a.toNat.isValidChar := Or.inl (by omega)
  have hnat : (Char.ofNat a.toNat).toNat = a.toNat := by rw [Char.ofNat, dif_pos hvalid]; rfl
  rw [Option.some_inj, ← Char.toNat_inj, hnat, ← UInt8.toNat_inj, toNat_ofNat_of_lt (by omega)]

/-- Reading keeps the ASCII characters, and nothing else is read as one of them. -/
theorem count_units (bytes : List UInt8) :
    (units bytes).count (some c) = bytes.count (UInt8.ofNat c.toNat) := by
  have hlt (a b : UInt8) : a < b ↔ a.toNat < b.toNat := UInt8.lt_iff_toNat_lt
  have hle (a b : UInt8) : a ≤ b ↔ a.toNat ≤ b.toNat := UInt8.le_iff_toNat_le
  fun_induction units bytes
  case case1 => rfl
  case case2 a rest ha ih =>
    rw [List.count_cons, List.count_cons, ih]
    simp only [beq_iff_eq, ofNat_toNat_eq_iff hc ha]
  -- All other bytes are beyond ASCII, and so are the characters that they make up.
  all_goals
    simp only [hlt, hle, UInt8.reduceToNat, isTail_iff] at *
    grind only [count_none, count_cons_of_le, count_ofTails, le_of_isSecondOfThree,
      le_of_isSecondOfFour, List.foldr_cons, List.foldr_nil, List.count_nil]

theorem count_decodeLossy (bytes : List UInt8) :
    (decodeLossy bytes).count c = bytes.count (UInt8.ofNat c.toNat) := by
  rw [← count_units hc, decodeLossy]
  induction units bytes with
  | nil => rfl
  | cons unit rest ih =>
      have hhead : unit.getD '\uFFFD' = c ↔ unit = some c := by
        cases unit with
        | some d => rw [Option.getD_some, Option.some_inj]
        | none =>
            rw [Option.getD_none]
            refine ⟨fun heq => ?_, nofun⟩
            rw [← heq] at hc
            exact absurd hc.2 (by decide)
      rw [List.map_cons, List.count_cons, List.count_cons, ih]
      simp only [beq_iff_eq, hhead]

end Ascii

end ChannelGateway.Utf8
