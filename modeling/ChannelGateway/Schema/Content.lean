import ChannelGateway.Json.Reader
import ChannelGateway.Text.Base64
import ChannelGateway.Text.Utf8
/-!
# Encoded content

Texts that carry another document: encoded bytes, a document of a media type, or both at once.
-/

namespace ChannelGateway.Schema

/-- What a text is asked to carry.  The only encoding that is checked is base64, and the only media
type is that of JSON. -/
inductive Content where
  | encoded
  | document
  | encodedDocument
deriving DecidableEq, Repr

inductive ContentFault where
  | encoding
  | mediaType
  /-- The decoded bytes are no text. -/
  | bytes (message : String)
deriving DecidableEq, Repr

namespace Content

def encodingName : String := "base64"

def mediaTypeName : String := "application/json"

def fault? (content : Content) (text : String) : Option ContentFault :=
  let decoded? := Base64.decode? text.toList
  let documentFault? (text : String) : Option ContentFault :=
    if (Json.read? text).isSome then none else some .mediaType
  match content, decoded? with
  | document, _ => documentFault? text
  | encoded, some _ => none
  | encoded, none | encodedDocument, none => some .encoding
  | encodedDocument, some bytes =>
    match Utf8.decode? bytes with
    | some text => documentFault? (String.ofList text)
    | none => some (.bytes (Utf8.faultMessage bytes))

end Content

end ChannelGateway.Schema
