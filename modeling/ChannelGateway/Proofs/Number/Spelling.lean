import ChannelGateway.Proofs.Lists.Runs
import ChannelGateway.Proofs.Number.Rounding
/-!
# The spelling of decimals

A decimal is spelled by a sign that may be missing, digits with an optional fraction, and an
optional exponent.  Such a spelling is read as the number that it stands for.
-/

namespace ChannelGateway.Decimal

inductive Sign where
  | absent
  | plus
  | minus
deriving DecidableEq

namespace Sign

def text : Sign → List Char
  | absent => []
  | plus => ['+']
  | minus => ['-']

def isMinus (sign : Sign) : Bool := sign == minus

end Sign

structure Exponent where
  letter : Char
  sign : Sign
  digits : List Char
  isLetter : letter = 'e' ∨ letter = 'E'
  areDigits : ∀ c ∈ digits, c.isDigit = true
  notEmpty : digits ≠ []

namespace Exponent

def text (e : Exponent) : List Char := e.letter :: (e.sign.text ++ e.digits)

def value (e : Exponent) : ℤ := signed e.sign.isMinus (ofDigits e.digits : ℤ)

end Exponent

/-- A decimal as it is spelled.  There are digits before the point or behind it. -/
structure Literal where
  sign : Sign
  whole : List Char
  fraction : Option (List Char)
  exponent : Option Exponent
  areDigits : ∀ c ∈ whole ++ fraction.getD [], c.isDigit = true
  notEmpty : whole ++ fraction.getD [] ≠ []

namespace Literal

def exponentText (l : Literal) : List Char := l.exponent.elim [] Exponent.text

def fractionText (l : Literal) : List Char := l.fraction.elim [] ('.' :: ·)

def text (l : Literal) : List Char := l.sign.text ++ (l.whole ++ (l.fractionText ++ l.exponentText))

def value (l : Literal) : ℚ :=
  let fraction := l.fraction.getD []
  signed l.sign.isMinus
    ((ofDigits l.whole + ofDigits fraction / 10 ^ fraction.length) *
      10 ^ (l.exponent.elim 0 Exponent.value))

def IsPlain (l : Literal) : Prop := l.fraction = none ∧ l.exponent = none

end Literal

/-! ## Reading -/

theorem readSign_text (sign : Sign) {rest : List Char} (h : ∀ c ∈ rest.head?, c ≠ '-' ∧ c ≠ '+') :
    readSign (sign.text ++ rest) = (sign.isMinus, rest) := by
  cases sign with
  | plus => rfl
  | minus => rfl
  | absent =>
      cases rest with
      | nil => rfl
      | cons c rest =>
          obtain ⟨hminus, hplus⟩ := h c rfl
          simp only [Sign.text, List.nil_append]
          unfold readSign
          split <;> simp_all [Sign.isMinus]

theorem foldl_digits (digits : List Char) (n : ℕ) :
    digits.foldl (fun n c => 10 * n + digitValue c) n =
      n * 10 ^ digits.length + ofDigits digits := by
  induction digits generalizing n with
  | nil => simp [ofDigits]
  | cons c rest ih =>
      have hfirst : ofDigits (c :: rest) = digitValue c * 10 ^ rest.length + ofDigits rest := by
        rw [ofDigits, List.foldl_cons, mul_zero, zero_add, ih]
      rw [List.foldl_cons, ih, hfirst, List.length_cons]
      ring

theorem ofDigits_append (a b : List Char) :
    ofDigits (a ++ b) = ofDigits a * 10 ^ b.length + ofDigits b := by
  rw [ofDigits, List.foldl_append, foldl_digits, ← ofDigits]

theorem ne_sign_of_isDigit {c : Char} (h : c.isDigit = true) : c ≠ '-' ∧ c ≠ '+' := by
  constructor <;> rintro rfl <;> cases h

theorem readInt?_digits (sign : Sign) {digits : List Char}
    (hdigits : ∀ c ∈ digits, c.isDigit = true) (hne : digits ≠ []) :
    readInt? (sign.text ++ digits) = some (signed sign.isMinus (ofDigits digits : ℤ)) := by
  have hsign : readSign (sign.text ++ digits) = (sign.isMinus, digits) :=
    readSign_text sign fun c hc => ne_sign_of_isDigit (hdigits c (List.mem_of_mem_head? hc))
  rw [readInt?, hsign]
  simp only [List.isEmpty_eq_false_iff.2 hne, List.all_eq_true.2 hdigits, signed, Bool.not_true,
    Bool.or_false, Bool.false_eq_true, if_false]

theorem readExponent?_text (exponent : Option Exponent) :
    readExponent? (exponent.elim [] Exponent.text) = some (exponent.elim 0 Exponent.value) := by
  cases exponent with
  | none => rfl
  | some e =>
      rw [Option.elim_some, Exponent.text, readExponent?, if_pos e.isLetter,
        readInt?_digits e.sign e.areDigits e.notEmpty]
      rfl

namespace Literal

theorem head?_exponentText (l : Literal) : ∀ c ∈ l.exponentText.head?, c = 'e' ∨ c = 'E' := by
  intro c hc
  unfold exponentText at hc
  cases hexponent : l.exponent with
  | none =>
      rw [hexponent] at hc
      cases hc
  | some e =>
      rw [hexponent] at hc
      cases hc
      exact e.isLetter

theorem head?_tail (l : Literal) :
    ∀ c ∈ (l.fractionText ++ l.exponentText).head?, c = '.' ∨ c = 'e' ∨ c = 'E' := by
  intro c hc
  unfold fractionText at hc
  cases hfraction : l.fraction with
  | none =>
      rw [hfraction] at hc
      exact .inr (l.head?_exponentText c hc)
  | some digits =>
      rw [hfraction] at hc
      cases hc
      exact .inl rfl

theorem whole_areDigits (l : Literal) : ∀ c ∈ l.whole, c.isDigit = true :=
  fun c hc => l.areDigits c (List.mem_append_left _ hc)

def decimal (l : Literal) : Decimal :=
  ⟨l.sign.isMinus, ofDigits (l.whole ++ l.fraction.getD []),
    l.exponent.elim 0 Exponent.value - (l.fraction.getD []).length⟩

theorem readSign_literal (l : Literal) :
    readSign l.text = (l.sign.isMinus, l.whole ++ (l.fractionText ++ l.exponentText)) := by
  apply readSign_text
  intro c hc
  cases hwhole : l.whole with
  | nil =>
      rw [hwhole] at hc
      rcases l.head?_tail c hc with rfl | rfl | rfl <;> decide
  | cons d rest =>
      rw [hwhole] at hc
      cases hc
      exact ne_sign_of_isDigit (l.whole_areDigits _ (hwhole ▸ List.mem_cons_self))

theorem read?_text (l : Literal) : read? l.text = some l.decimal := by
  have htail : ∀ c ∈ (l.fractionText ++ l.exponentText).head?, c.isDigit = false := by
    intro c hc
    rcases l.head?_tail c hc with rfl | rfl | rfl <;> rfl
  obtain ⟨htake, hdrop⟩ := takeWhile_run l.whole_areDigits htail
  have hempty : (l.whole.isEmpty && (l.fraction.getD []).isEmpty) = false := by
    have hne := l.notEmpty
    rw [Ne, List.append_eq_nil_iff, ← List.isEmpty_iff, ← List.isEmpty_iff,
      ← Bool.and_eq_true] at hne
    exact Bool.eq_false_of_not_eq_true hne
  have hvalue : readExponent? l.exponentText = some (l.exponent.elim 0 Exponent.value) :=
    readExponent?_text l.exponent
  unfold read?
  rw [readSign_literal]
  simp only [htake, hdrop]
  -- what follows the digits is the fraction, or the exponent if there is none
  cases hfraction : l.fraction with
  | some digits =>
      have hpoint : l.fractionText ++ l.exponentText = '.' :: (digits ++ l.exponentText) := by
        rw [fractionText, hfraction, Option.elim_some, List.cons_append]
      have hdigits : ∀ c ∈ digits, c.isDigit = true :=
        fun c hc => l.areDigits c (List.mem_append_right _ (hfraction ▸ hc))
      have hexponent : ∀ c ∈ l.exponentText.head?, c.isDigit = false := by
        intro c hc
        rcases l.head?_exponentText c hc with rfl | rfl <;> rfl
      obtain ⟨htake, hdrop⟩ := takeWhile_run hdigits hexponent
      rw [hfraction, Option.getD_some] at hempty
      simp only [hpoint, htake, hdrop, hempty, hvalue, Bool.false_eq_true, if_false,
        Option.map_some, decimal, hfraction, Option.getD_some]
  | none =>
      have hpoint : ∀ rest, l.fractionText ++ l.exponentText ≠ '.' :: rest := by
        intro rest h
        rw [fractionText, hfraction, Option.elim_none, List.nil_append] at h
        rcases l.head?_exponentText '.' (by rw [h]; rfl) with h | h <;> cases h
      have hsame : l.fractionText ++ l.exponentText = l.exponentText := by
        rw [fractionText, hfraction, Option.elim_none, List.nil_append]
      rw [hfraction, Option.getD_none] at hempty
      split
      · next rest h => exact absurd h (hpoint rest)
      · next => 
        simp only [hsame, hempty, hvalue, Bool.false_eq_true, if_false, Option.map_some,
          decimal, hfraction, Option.getD_none]

theorem toRat_decimal (l : Literal) : l.decimal.toRat = l.value := by
  rw [toRat_eq, decimal, value, ofDigits_append, zpow_sub₀ (by norm_num), zpow_natCast]
  push_cast
  congr 1
  field_simp

theorem readInt?_text_of_plain {l : Literal} (h : l.IsPlain) :
    readInt? l.text = some (signed l.sign.isMinus (ofDigits l.whole : ℤ)) := by
  have hne := l.notEmpty
  rw [h.1, Option.getD_none, List.append_nil] at hne
  rw [text, fractionText, exponentText, h.1, h.2, Option.elim_none, Option.elim_none,
    List.append_nil, List.append_nil]
  exact readInt?_digits l.sign l.whole_areDigits hne

theorem readInt?_text_of_not_plain {l : Literal} (h : ¬ l.IsPlain) : readInt? l.text = none := by
  have hcons : ∃ c rest, l.fractionText ++ l.exponentText = c :: rest := by
    unfold fractionText exponentText
    cases hfraction : l.fraction with
    | some digits => exact ⟨_, _, rfl⟩
    | none =>
        cases hexponent : l.exponent with
        | some e => exact ⟨_, _, rfl⟩
        | none => exact absurd ⟨hfraction, hexponent⟩ h
  obtain ⟨c, rest, hcons⟩ := hcons
  have hother : c.isDigit = false := by
    have hhead := l.head?_tail c (by rw [hcons]; rfl)
    rcases hhead with rfl | rfl | rfl <;> rfl
  rw [readInt?, readSign_literal, hcons]
  simp [hother]

theorem value_of_plain {l : Literal} (h : l.IsPlain) :
    l.value = ((signed l.sign.isMinus (ofDigits l.whole : ℤ) : ℤ) : ℚ) := by
  rw [cast_signed, value, h.1, h.2]
  simp [ofDigits]

end Literal

end ChannelGateway.Decimal
