import ChannelGateway.Document.Serialized
import ChannelGateway.Text.Utf8
/-!
# Where documents come from
-/

namespace ChannelGateway

/-- The last component of a path, if it names something: dots and the empty path do not. -/
def fileName? (path : String) : Option String :=
  let components := (path.toList.splitOn '/').filter fun part => !part.isEmpty && part != ['.']
  match components.getLast? with
  | none => none
  | some last => if last = ['.', '.'] then none else some (String.ofList last)

def readUtf8 (bytes : List UInt8) : Except FileError String :=
  match Utf8.decode? bytes with
  | some text => .ok (String.ofList text)
  | none => .error .notUtf8

inductive DocumentSource where
  /-- A document that has been read already. -/
  | document (document : Document)
  /-- YAML or JSON text. -/
  | text (text : String)
  /-- A JSON value. -/
  | value (value : Json)
  /-- A file, with the bytes that reading it gives. -/
  | file (path : String) (content : Except FileError (List UInt8))

namespace Document

def ofFile (path : String) (content : Except FileError (List UInt8)) :
    Except DocumentError Document :=
  match content.bind readUtf8 with
  | .error e => .error (.file e)
  | .ok text => (ofText text).map fun document => { document with filename := fileName? path }

def ofSource : DocumentSource → Except DocumentError Document
  | .document document => .ok document
  | .text text => ofText text
  | .value value => ofJson value
  | .file path content => ofFile path content

end Document

end ChannelGateway
