import ChannelGateway.Proofs.Text.Utf8
import ChannelGateway.Text.Percent
/-!
# Reading escaped text

Where every percent sign is escaped, an escaped text is read as the text itself, whatever else was
escaped.
-/

namespace ChannelGateway.Percent

def digit (n : Nat) : Char := (Nat.digitChar n).toUpper

theorem digit?_digit : ∀ n < 16, Hex.digit? (digit n) = some n := by decide

theorem toNat_digit : ∀ n < 16, (digit n).toNat < 128 ∧ (digit n).toNat ≠ '+'.toNat := by decide

def encodeByte (keep : UInt8 → Bool) (b : UInt8) : List Char :=
  if keep b then [Char.ofNat b.toNat] else escapeByte b

theorem encode_eq (keep : UInt8 → Bool) (text : List Char) :
    encode keep text = (Utf8.encode text).flatMap (encodeByte keep) := rfl

theorem encode_append (keep : UInt8 → Bool) (front back : List Char) :
    encode keep (front ++ back) = encode keep front ++ encode keep back := by
  rw [encode_eq, Utf8.encode_append, List.flatMap_append, ← encode_eq, ← encode_eq]

theorem escapeByte_eq (b : UInt8) :
    escapeByte b = ['%', digit (b.toNat / 16), digit (b.toNat % 16)] := rfl

def byteOf (c : Char) : UInt8 := UInt8.ofNat c.toNat

theorem toNat_byteOf {c : Char} (h : c.toNat < 128) : (byteOf c).toNat = c.toNat :=
  Utf8.toNat_ofNat_of_lt (by omega)

theorem toNat_ofNat : ∀ n < 128, (Char.ofNat n).toNat = n := by decide

theorem byte?_digits {m n : Nat} (hm : m < 16) (hn : n < 16) :
    byte? (byteOf (digit m)) (byteOf (digit n)) = some (UInt8.ofNat (16 * m + n)) := by
  obtain ⟨hlow, -⟩ := toNat_digit n hn
  obtain ⟨hhigh, hplus⟩ := toNat_digit m hm
  simp only [byte?, toNat_byteOf hlow, toNat_byteOf hhigh, Char.ofNat_toNat, digit?_digit n hn,
    digit?_digit m hm, if_neg hplus, Option.map_some]

theorem decodeBytes_cons {b : UInt8} (h : b.toNat ≠ '%'.toNat) (rest : List UInt8) :
    decodeBytes (b :: rest) = b :: decodeBytes rest := by
  rw [decodeBytes.eq_def]
  exact if_neg h

theorem decodeBytes_escape (b : UInt8) (rest : List UInt8) :
    decodeBytes ((escapeByte b).map byteOf ++ rest) = b :: decodeBytes rest := by
  have hb : b.toNat < 256 := b.toNat_lt
  have hbyte := byte?_digits (m := b.toNat / 16) (n := b.toNat % 16) (by omega) (by omega)
  rw [Nat.div_add_mod, UInt8.ofNat_toNat] at hbyte
  rw [escapeByte_eq, decodeBytes.eq_def]
  simp only [List.map_cons, List.map_nil, List.cons_append, List.nil_append, hbyte]
  rfl

section Keep

variable {keep : UInt8 → Bool}

/-- The bytes that are not escaped are ASCII, and the percent sign is not among them. -/
def Spares (keep : UInt8 → Bool) : Prop := ∀ b, keep b = true → b.toNat < 128 ∧ b.toNat ≠ '%'.toNat

theorem spares_isUnreserved : Spares isUnreserved := by
  intro b hb
  have hascii : b.toNat < 128 := by
    simp only [isUnreserved, Bool.and_eq_true, decide_eq_true_eq] at hb
    exact UInt8.lt_iff_toNat_lt.1 hb.1
  refine ⟨hascii, fun hpercent => ?_⟩
  rw [UInt8.toNat_inj.1 (hpercent.trans (by decide : '%'.toNat = (37 : UInt8).toNat))] at hb
  exact absurd hb (by decide)

theorem ascii_encodeByte (h : Spares keep) (b : UInt8) :
    ∀ c ∈ encodeByte keep b, c.toNat < 128 := by
  have hb : b.toNat < 256 := b.toNat_lt
  unfold encodeByte
  split
  · next hkeep =>
      rw [List.forall_mem_singleton, toNat_ofNat _ (h b hkeep).1]
      exact (h b hkeep).1
  · rw [escapeByte_eq]
    simp only [List.forall_mem_cons, List.not_mem_nil, false_implies, implies_true, and_true]
    exact ⟨by decide, (toNat_digit _ (by omega)).1, (toNat_digit _ (by omega)).1⟩

theorem decodeBytes_encodeByte (h : Spares keep) (b : UInt8) (rest : List UInt8) :
    decodeBytes ((encodeByte keep b).map byteOf ++ rest) = b :: decodeBytes rest := by
  unfold encodeByte
  split
  · next hkeep =>
      obtain ⟨hascii, hpercent⟩ := h b hkeep
      have hbyte : byteOf (Char.ofNat b.toNat) = b := by
        rw [byteOf, toNat_ofNat _ hascii, UInt8.ofNat_toNat]
      rw [List.map_singleton, List.singleton_append, hbyte, decodeBytes_cons hpercent]
  · exact decodeBytes_escape b rest

theorem decodeBytes_encodeBytes (h : Spares keep) (bytes : List UInt8) :
    decodeBytes ((bytes.flatMap (encodeByte keep)).map byteOf) = bytes := by
  induction bytes with
  | nil => rw [List.flatMap_nil, List.map_nil, decodeBytes]
  | cons b bytes ih => rw [List.flatMap_cons, List.map_append, decodeBytes_encodeByte h, ih]

variable (keep) in
theorem encodeByte_ne_nil (b : UInt8) : encodeByte keep b ≠ [] := by
  unfold encodeByte
  split
  · exact List.cons_ne_nil _ _
  · exact List.cons_ne_nil _ _

variable (keep) in
theorem encode_ne_nil {text : List Char} (h : text ≠ []) : encode keep text ≠ [] := by
  obtain ⟨c, rest, rfl⟩ := List.exists_cons_of_ne_nil h
  obtain ⟨b, bytes, hbytes⟩ := List.exists_cons_of_ne_nil (String.utf8EncodeChar_ne_nil (c := c))
  rw [encode_eq, Utf8.encode_cons, hbytes, List.cons_append, List.flatMap_cons]
  exact List.append_ne_nil_of_left_ne_nil (encodeByte_ne_nil keep b) _

theorem slash_not_mem_encode (h : Spares keep) (hslash : keep 0x2F = false) (text : List Char) :
    '/' ∉ encode keep text := by
  have hdigit : ∀ n < 16, '/' ≠ digit n := by decide
  intro hmem
  obtain ⟨b, -, hb⟩ := List.mem_flatMap.1 hmem
  have hlt : b.toNat < 256 := b.toNat_lt
  split at hb
  · next hkeep =>
      have hcode : '/'.toNat = b.toNat := by
        rw [List.mem_singleton.1 hb, toNat_ofNat _ (h b hkeep).1]
      rw [UInt8.toNat_inj.1 (hcode.symm.trans (by decide : '/'.toNat = (0x2F : UInt8).toNat)),
        hslash] at hkeep
      cases hkeep
  · rw [escapeByte_eq] at hb
    simp only [List.mem_cons, List.not_mem_nil, or_false] at hb
    rcases hb with hb | hb | hb
    · exact absurd hb (by decide)
    · exact hdigit _ (by omega) hb
    · exact hdigit _ (by omega) hb

theorem decode_encode (h : Spares keep) (text : List Char) : decode (encode keep text) = text := by
  have hascii : ∀ c ∈ encode keep text, c.toNat < 128 := by
    intro c hc
    obtain ⟨b, -, hb⟩ := List.mem_flatMap.1 hc
    exact ascii_encodeByte h b c hb
  have hbytes : decodeBytes (Utf8.encode (encode keep text)) = Utf8.encode text := by
    rw [Utf8.encode_of_ascii hascii]
    exact decodeBytes_encodeBytes h (Utf8.encode text)
  rw [decode, hbytes, Utf8.decodeLossy_encode]

/-! ## Characters that are written as they are -/

def Keeps (keep : UInt8 → Bool) (c : Char) : Prop := c.toNat < 128 ∧ keep (byteOf c) = true

theorem encode_cons (c : Char) (text : List Char) :
    encode keep (c :: text) = encode keep [c] ++ encode keep text := by
  rw [← encode_append, List.singleton_append]

theorem encode_of_keeps {text : List Char} (h : ∀ c ∈ text, Keeps keep c) :
    encode keep text = text := by
  induction text with
  | nil => rfl
  | cons c text ih =>
      obtain ⟨⟨hascii, hkeep⟩, htext⟩ := List.forall_mem_cons.1 h
      have hbytes : Utf8.encode [c] = [byteOf c] := Utf8.encode_of_ascii (by simpa using hascii)
      have hchar : Char.ofNat (byteOf c).toNat = c := by rw [toNat_byteOf hascii, Char.ofNat_toNat]
      rw [encode_cons, ih htext, encode_eq, hbytes, List.flatMap_singleton, encodeByte,
        if_pos hkeep, hchar, List.singleton_append]

theorem length_le_length_flatMap_encodeByte (bytes : List UInt8) :
    bytes.length ≤ (bytes.flatMap (encodeByte keep)).length := by
  induction bytes with
  | nil => exact Nat.zero_le _
  | cons b bytes ih =>
      have hb := List.length_pos_iff.2 (encodeByte_ne_nil keep b)
      rw [List.flatMap_cons, List.length_append, List.length_cons]
      omega

theorem one_lt_length_encode {c : Char} (h : ¬ Keeps keep c) : 1 < (encode keep [c]).length := by
  by_cases hascii : c.toNat < 128
  · have hkeep : ¬ keep (byteOf c) = true := fun hkeep => h ⟨hascii, hkeep⟩
    have hbytes : Utf8.encode [c] = [byteOf c] := Utf8.encode_of_ascii (by simpa using hascii)
    rw [encode_eq, hbytes, List.flatMap_singleton, encodeByte, if_neg hkeep, escapeByte_eq]
    simp
  · have hbytes : 1 < (Utf8.encode [c]).length := by
      rw [Utf8.encode_cons, List.length_append]
      have hlength := Utf8.two_le_length_encodeChar (Nat.le_of_not_lt hascii)
      omega
    exact Nat.lt_of_lt_of_le hbytes (length_le_length_flatMap_encodeByte _)

variable (keep) in
theorem length_le_length_encode (text : List Char) : text.length ≤ (encode keep text).length := by
  induction text with
  | nil => exact Nat.zero_le _
  | cons c text ih =>
      have hc := List.length_pos_iff.2 (encode_ne_nil keep (List.cons_ne_nil c []))
      rw [encode_cons, List.length_append, List.length_cons]
      omega

/-- A text that does not become longer consists of characters that are written as they are. -/
theorem keeps_of_length_encode_le {text : List Char} (h : (encode keep text).length ≤ text.length) :
    ∀ c ∈ text, Keeps keep c := by
  induction text with
  | nil => simp
  | cons c text ih =>
      have htext := length_le_length_encode keep text
      rw [encode_cons, List.length_append, List.length_cons] at h
      rw [List.forall_mem_cons]
      constructor
      · by_contra hc
        have hlength := one_lt_length_encode hc
        omega
      · have hc := List.length_pos_iff.2 (encode_ne_nil keep (List.cons_ne_nil c []))
        exact ih (by omega)

end Keep

end ChannelGateway.Percent
