import ChannelGateway.Json.Value
/-!
# Drafts of JSON Schema
-/

namespace ChannelGateway.Schema

inductive Draft where
  | draft4
  | draft6
  | draft7
  | draft201909
  | draft202012
deriving DecidableEq, Repr

namespace Draft

def rank : Draft → Nat
  | draft4 => 4
  | draft6 => 6
  | draft7 => 7
  | draft201909 => 8
  | draft202012 => 9

def isAtLeast (draft other : Draft) : Bool := other.rank ≤ draft.rank

def site : String := "json-schema.org"

def folder : Draft → String
  | draft4 => "http:" ++ "//" ++ site ++ "/draft-04/"
  | draft6 => "http:" ++ "//" ++ site ++ "/draft-06/"
  | draft7 => "http:" ++ "//" ++ site ++ "/draft-07/"
  | draft201909 => "https:" ++ "//" ++ site ++ "/draft/2019-09/"
  | draft202012 => "https:" ++ "//" ++ site ++ "/draft/2020-12/"

def uri (draft : Draft) : String := draft.folder ++ "schema"

def all : List Draft := [draft4, draft6, draft7, draft201909, draft202012]

/-- An identifier without the empty fragment at its end. -/
def trimUri (text : String) : String :=
  String.ofList (text.toList.reverse.dropWhile (· = '#')).reverse

def ofUri? (uri : String) : Option Draft := all.find? (·.uri = uri)

def idKeyword : Draft → String
  | draft4 => "id"
  | _ => "$id"

/-- Whether a reference makes the keywords beside it void. -/
def isolatesReferences (draft : Draft) : Bool := !draft.isAtLeast draft201909

def countsWholeDoubles (draft : Draft) : Bool := draft.isAtLeast draft6

def checksOwnFormats (draft : Draft) : Bool := !draft.isAtLeast draft201909

end Draft

end ChannelGateway.Schema
