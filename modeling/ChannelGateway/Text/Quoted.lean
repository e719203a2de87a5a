import ChannelGateway.Unicode.Classes
/-!
# Quoted texts

A text in double quotes, as it is shown to people: what cannot be seen is written as an escape.
-/

namespace ChannelGateway.Quoted

def escape (c : Char) : List Char :=
  match c with
  | '\x00' => ['\\', '0']
  | '\t' => ['\\', 't']
  | '\r' => ['\\', 'r']
  | '\n' => ['\\', 'n']
  | '"' => ['\\', '"']
  | '\\' => ['\\', '\\']
  | c =>
    if Unicode.isPrintable c then [c]
    else ['\\', 'u', '\x7b'] ++ Nat.toDigits 16 c.toNat ++ ['\x7d']

def encode (text : String) : String := String.ofList ('"' :: text.toList.flatMap escape ++ ['"'])

end ChannelGateway.Quoted
