import ChannelGateway.Document.Issue
/-!
# Files

A directory tree in memory, seen from its root as the working directory.
-/

namespace ChannelGateway

abbrev ReadFile := String → Except FileError (List UInt8)

def ReadFile.finds (read : ReadFile) (path : String) : Bool :=
  match read path with
  | .error .notFound | .error .notADirectory => false
  | _ => true

abbrev FileTree := List (String × List UInt8)

namespace FileTree

def steps (path : String) : List (List Char) :=
  (path.toList.splitOn '/').filter fun step => !step.isEmpty && step != ['.']

def asksForDirectory (path : String) : Bool :=
  match (path.toList.splitOn '/').getLast? with
  | some last => last.isEmpty || last = ['.']
  | none => false

def read (tree : FileTree) : ReadFile := fun path =>
  let wanted := steps path
  let file? (steps' : List (List Char)) : Option (List UInt8) :=
    (tree.find? fun (name, _) => steps name = steps').map Prod.snd
  if path.isEmpty then .error .notFound
  else if wanted.all (· = ['.', '.']) then .error .isADirectory
  else if path.toList.head? = some '/' then .error .notFound
  else
    match file? wanted with
    | some content => if asksForDirectory path then .error .notADirectory else .ok content
    | none =>
      if tree.any fun (name, _) => wanted.isPrefixOf (steps name) then .error .isADirectory
      else if (List.range wanted.length).any fun n => (file? (wanted.take n)).isSome then
        .error .notADirectory
      else .error .notFound

end FileTree

end ChannelGateway
