import ChannelGateway.Json.Value
/-!
# JSON pointers

A pointer is a sequence of reference tokens.  In its text every token follows a slash, with `~` and
`/` inside a token escaped as `~0` and `~1`.
-/

namespace ChannelGateway.Pointer

/-- Escapes a token: `~` becomes `~0` and `/` becomes `~1`. -/
def escape : List Char → List Char
  | [] => []
  | '~' :: rest => '~' :: '0' :: escape rest
  | '/' :: rest => '~' :: '1' :: escape rest
  | c :: rest => c :: escape rest

/-- Undoes `escape`; a `~` that starts no escape stands for itself. -/
def unescape : List Char → List Char
  | [] => []
  | '~' :: '0' :: rest => '~' :: unescape rest
  | '~' :: '1' :: rest => '/' :: unescape rest
  | c :: rest => c :: unescape rest

def escapeToken (token : String) : String := String.ofList (escape token.toList)

def text (tokens : List String) : String :=
  String.join (tokens.map fun token => "/" ++ escapeToken token)

/-- The tokens of a pointer's text.  The empty text has none; any other has to start
with a slash. -/
def tokens? : List Char → Option (List String)
  | [] => some []
  | '/' :: rest => some ((rest.splitOn '/').map fun token => String.ofList (unescape token))
  | _ :: _ => none

/-- The array index spelled by a token: decimal digits without a sign or a leading zero. -/
def index? (token : String) : Option Nat :=
  match token.toList with
  | [] => none
  | ['0'] => some 0
  | '0' :: _ => none
  | digits => if digits.all Char.isDigit then some (Decimal.ofDigits digits) else none

def step? (j : Json) (token : String) : Option Json :=
  match j with
  | .object fields => fields.lookup token
  | .array items => (index? token).bind (items[·]?)
  | _ => none

def lookup? (pointer : List Char) (j : Json) : Option Json :=
  (tokens? pointer).bind fun tokens => tokens.foldlM step? j

end ChannelGateway.Pointer
