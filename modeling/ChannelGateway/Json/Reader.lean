import ChannelGateway.Json.Token
import ChannelGateway.Json.Value
/-!
# Reading JSON text

Tokens are read one by one against the stack of containers that are still open.
-/

namespace ChannelGateway.Json

inductive Frame where
  /-- An array with its elements so far, the last one first. -/
  | elements (reversed : List Json)
  /-- An object with its fields so far and the key whose value is being read. -/
  | members (fields : Fields) (key : String)
  /-- An object with its fields so far, between two of them. -/
  | between (fields : Fields)

inductive Expectation where
  /-- A value. -/
  | value
  /-- The first element of an array, or its end. -/
  | elementOrClose
  /-- The first key of an object, or its end. -/
  | keyOrClose
  /-- A key. -/
  | key
  /-- A colon. -/
  | colon
  /-- A comma, or the end of the innermost container. -/
  | separator
  /-- Nothing: the text is complete. -/
  | finished (value : Json)

/-- The state between two tokens: open containers, the innermost first, and what may follow. -/
structure ReaderState where
  stack : List Frame
  expects : Expectation

namespace ReaderState

/-- Hands a complete value to the innermost open container. -/
def complete (stack : List Frame) (value : Json) : ReaderState :=
  match stack with
  | [] => ⟨[], .finished value⟩
  | .elements reversed :: rest => ⟨.elements (value :: reversed) :: rest, .separator⟩
  | .members fields key :: rest => ⟨.between (fields.insert key value) :: rest, .separator⟩
  | .between fields :: rest => ⟨.between fields :: rest, .separator⟩

def maxDepth : Nat := 127

def start (stack : List Frame) : Token → Option ReaderState
  | .null => some (complete stack .null)
  | .bool b => some (complete stack (.bool b))
  | .number n => some (complete stack (.number n))
  | .string s => some (complete stack (.string s))
  | .openArray =>
    if maxDepth ≤ stack.length then none else some ⟨.elements [] :: stack, .elementOrClose⟩
  | .openObject =>
    if maxDepth ≤ stack.length then none else some ⟨.between [] :: stack, .keyOrClose⟩
  | _ => none

def step (s : ReaderState) (token : Token) : Option ReaderState :=
  match s.expects, token, s.stack with
  | .value, token, stack => start stack token
  | .elementOrClose, .closeArray, .elements reversed :: rest =>
    some (complete rest (.array reversed.reverse))
  | .elementOrClose, token, stack => start stack token
  | .keyOrClose, .closeObject, .between fields :: rest => some (complete rest (.object fields))
  | .keyOrClose, .string key, .between fields :: rest => some ⟨.members fields key :: rest, .colon⟩
  | .key, .string key, .between fields :: rest => some ⟨.members fields key :: rest, .colon⟩
  | .colon, .colon, stack => some ⟨stack, .value⟩
  | .separator, .comma, .elements reversed :: rest => some ⟨.elements reversed :: rest, .value⟩
  | .separator, .comma, .between fields :: rest => some ⟨.between fields :: rest, .key⟩
  | .separator, .closeArray, .elements reversed :: rest =>
    some (complete rest (.array reversed.reverse))
  | .separator, .closeObject, .between fields :: rest => some (complete rest (.object fields))
  | _, _, _ => none

end ReaderState

def ofTokens? (tokens : List Token) : Option Json :=
  match tokens.foldlM ReaderState.step ⟨[], .value⟩ with
  | some ⟨_, .finished value⟩ => some value
  | _ => none

def read? (text : String) : Option Json := (tokens? text.toList).bind ofTokens?

end ChannelGateway.Json
