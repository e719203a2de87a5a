import ChannelGateway.Json.Number
import ChannelGateway.Text.Hex
/-!
# JSON tokens

Splits JSON text into its tokens.  Blanks separate tokens, a string is decoded as it is read, and a
literal word or number runs until a character that cannot belong to one.
-/

namespace ChannelGateway.Json

inductive Token where
  | openObject
  | closeObject
  | openArray
  | closeArray
  | colon
  | comma
  | null
  | bool (value : Bool)
  | number (value : JsonNumber)
  | string (value : String)
deriving DecidableEq

def unescape? : Char → Option Char
  | '"' => some '"'
  | '\\' => some '\\'
  | '/' => some '/'
  | 'b' => some '\x08'
  | 'f' => some '\x0c'
  | 'n' => some '\n'
  | 'r' => some '\r'
  | 't' => some '\t'
  | _ => none

def isHighSurrogate (unit : Nat) : Bool := 0xD800 ≤ unit && unit < 0xDC00

def isLowSurrogate (unit : Nat) : Bool := 0xDC00 ≤ unit && unit < 0xE000

def ofSurrogates (high low : Nat) : Char :=
  Char.ofNat (0x10000 + (high - 0xD800) * 0x400 + (low - 0xDC00))

/-- Reads the rest of a string up to its closing quote: the decoded text and what follows it.
Control characters must be escaped, and surrogates must come in pairs. -/
def readString? : List Char → Option (List Char × List Char)
  | [] => none
  | '"' :: rest => some ([], rest)
  | '\\' :: 'u' :: a :: b :: c :: d :: rest =>
    match Hex.ofDigits? [a, b, c, d] with
    | none => none
    | some unit =>
      if isHighSurrogate unit then
        match rest with
        | '\\' :: 'u' :: e :: f :: g :: h :: rest =>
          match Hex.ofDigits? [e, f, g, h] with
          | none => none
          | some low =>
            if isLowSurrogate low then
              (readString? rest).map fun (text, rest) => (ofSurrogates unit low :: text, rest)
            else none
        | _ => none
      else if isLowSurrogate unit then none
      else (readString? rest).map fun (text, rest) => (Char.ofNat unit :: text, rest)
  | '\\' :: c :: rest =>
    match unescape? c with
    | none => none
    | some c => (readString? rest).map fun (text, rest) => (c :: text, rest)
  | c :: rest =>
    if c.toNat < 0x20 ∨ c = '\\' then none
    else (readString? rest).map fun (text, rest) => (c :: text, rest)

theorem length_of_readString? {s t r : List Char} (h : readString? s = some (t, r)) :
    r.length < s.length := by
  fun_induction readString? s generalizing t r <;>
    simp_all [Option.map_eq_some_iff] <;> grind

def isBlank (c : Char) : Bool := c = ' ' || c = '\n' || c = '\t' || c = '\r'

def isWordChar (c : Char) : Bool := c.isAlphanum || c = '-' || c = '+' || c = '.'

def Token.ofWord? (word : List Char) : Option Token :=
  if word = ['n', 'u', 'l', 'l'] then some .null
  else if word = ['t', 'r', 'u', 'e'] then some (.bool true)
  else if word = ['f', 'a', 'l', 's', 'e'] then some (.bool false)
  else (JsonNumber.read? word).map .number

def Token.ofPunctuation? : Char → Option Token
  | '\x7b' => some .openObject
  | '\x7d' => some .closeObject
  | '[' => some .openArray
  | ']' => some .closeArray
  | ':' => some .colon
  | ',' => some .comma
  | _ => none

def tokens? (text : List Char) : Option (List Token) :=
  match text with
  | [] => some []
  | c :: rest =>
    if isBlank c then tokens? rest
    else match Token.ofPunctuation? c with
      | some token => (tokens? rest).map (token :: ·)
      | none =>
        if c = '"' then
          match _read : readString? rest with
          | none => none
          | some (content, after) => (tokens? after).map (.string (String.ofList content) :: ·)
        else
          match Token.ofWord? (c :: rest.takeWhile isWordChar) with
          | none => none
          | some token => (tokens? (rest.dropWhile isWordChar)).map (token :: ·)
termination_by text.length
decreasing_by
  all_goals simp_wf
  · have := length_of_readString? ‹readString? rest = _›
    omega
  · have := (List.dropWhile_sublist (l := rest) isWordChar).length_le
    omega

end ChannelGateway.Json
