import ChannelGateway.HostName.International
import ChannelGateway.Json.Pointer
import ChannelGateway.Regex.Search
import ChannelGateway.Schema.Draft
import ChannelGateway.Schema.Format.Mail
import ChannelGateway.Schema.Format.Template
import ChannelGateway.Schema.Format.Time
import ChannelGateway.Uri.Reference
/-!
# Formats

The formats that strings can be asked to have.
-/

namespace ChannelGateway.Schema

inductive Format where
  | dateTime
  | date
  | time
  | duration
  | email
  | internationalEmail
  | hostname
  | internationalHostname
  | ipv4
  | ipv6
  | uri
  | uriReference
  | uriTemplate
  | iri
  | iriReference
  | uuid
  | jsonPointer
  | relativeJsonPointer
  | regex
deriving DecidableEq, Repr

namespace Format

def ofName? (draft : Draft) (name : String) : Option Format :=
  let since (first : Draft) (format : Format) : Option Format :=
    if draft.isAtLeast first then some format else none
  match name with
  | "date-time" => some dateTime
  | "date" => some date
  | "time" => some time
  | "email" => some email
  | "idn-email" => some internationalEmail
  | "hostname" => some hostname
  | "ipv4" => some ipv4
  | "ipv6" => some ipv6
  | "uri" => some uri
  | "regex" => some regex
  | "json-pointer" => since .draft6 jsonPointer
  | "uri-reference" => since .draft6 uriReference
  | "uri-template" => since .draft6 uriTemplate
  | "iri" => since .draft7 iri
  | "iri-reference" => since .draft7 iriReference
  | "idn-hostname" => since .draft7 internationalHostname
  | "relative-json-pointer" => since .draft7 relativeJsonPointer
  | "uuid" => since .draft201909 uuid
  | "duration" => since .draft201909 duration
  | _ => none

/-- Whether a text is a UUID: groups of 8, 4, 4, 4 and 12 hexadecimal digits with
hyphens between. -/
def isUuid (text : List Char) : Bool :=
  let groups := text.splitOn '-'
  groups.map List.length = [8, 4, 4, 4, 12] && groups.all (·.all fun c => (Hex.digit? c).isSome)

def hasPointerEscapes : List Char → Bool
  | [] => true
  | '~' :: c :: rest => (c = '0' || c = '1') && hasPointerEscapes rest
  | ['~'] => false
  | _ :: rest => hasPointerEscapes rest

def isPointer (text : List Char) : Bool :=
  (text.isEmpty || text.head? = some '/') && hasPointerEscapes text

/-- Whether a text is a JSON pointer after a number of levels to climb, or such a number and `#`. -/
def isRelativePointer (text : List Char) : Bool :=
  let digits := text.takeWhile Char.isDigit
  let rest := text.drop digits.length
  !digits.isEmpty && (digits = ['0'] || digits.head? != some '0') &&
    (rest = ['#'] || isPointer rest)

def accepts (format : Format) (text : String) : Bool :=
  let chars := text.toList
  match format with
  | dateTime => Text.isDateTime chars
  | date => Text.isDate chars
  | time => Text.isTime chars
  | duration => Text.isDuration chars
  | email => Text.isMail HostName.isPlain chars
  | internationalEmail => Text.isMail HostName.isInternational chars
  | hostname => HostName.isPlain chars
  | internationalHostname => HostName.isInternational chars
  | ipv4 => IpAddress.isV4 chars
  | ipv6 => IpAddress.isV6 chars
  | uri => Uri.isIdentifier false chars
  | uriReference => Uri.isReference false chars
  | uriTemplate => Text.isTemplate chars
  | iri => Uri.isIdentifier true chars
  | iriReference => Uri.isReference true chars
  | uuid => isUuid chars
  | jsonPointer => isPointer chars
  | relativeJsonPointer => isRelativePointer chars
  | regex => Regex.isPattern text

end Format

end ChannelGateway.Schema
