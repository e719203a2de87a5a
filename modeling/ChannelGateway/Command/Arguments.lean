import ChannelGateway.Registration.Options
/-!
# Command lines

The commands and their options.  An option is written with two hyphens and its name, its value after
an equals sign or as the next argument; one option has a short form too.
-/

namespace ChannelGateway

structure RegistrationArguments where
  config : Option String
  tag : Option String
  controllers : Option String
  stub : Bool
  validateOnly : Bool
deriving DecidableEq, Repr

inductive Invocation where
  | help
  | version
  /-- Check documents. -/
  | validate (specs : List String) (format : String)
  /-- List the routes of a document. -/
  | routes (spec : String) (registration : RegistrationArguments) (format : String)
  /-- Serve the routes of a document. -/
  | serve (spec : String) (registration : RegistrationArguments) (listen : String) (dev : Bool)
      (logFormat : String)
deriving DecidableEq, Repr

namespace CommandLine

inductive Arity where
  | flag
  /-- One value; an empty one only if allowed. -/
  | one (allowEmpty : Bool)
  /-- One or more values, at every occurrence. -/
  | many
deriving DecidableEq, Repr

structure OptionForm where
  name : String
  arity : Arity
deriving DecidableEq, Repr

abbrev Given := List (String × List String)

inductive Refusal where
  | usage
  | help
deriving DecidableEq, Repr

def shortForm : Char := 's'

def specName : String := "spec"

/-- Whether an argument is the short form of an option.  What follows the letter is never looked at
where the option takes no value. -/
def isShort (letter : Char) (argument : String) : Bool :=
  "-".toList.isPrefixOf? argument.toList |>.any (·.head? = some letter)

def isOption (argument : String) : Bool :=
  match argument.toList with
  | '-' :: _ :: _ => true
  | _ => false

def takeValues (arity : Arity) (arguments : List String) : List String × List String :=
  match arity, arguments with
  | .flag, arguments => ([], arguments)
  | .one _, argument :: rest =>
    if isOption argument then ([], argument :: rest) else ([argument], rest)
  | .one _, [] => ([], [])
  | .many, arguments => (arguments.takeWhile (!isOption ·), arguments.dropWhile (!isOption ·))

/-- Adds an occurrence of an option; it may occur once, unless it takes many values. -/
def record? (form : OptionForm) (values : List String) (given : Given) : Option Given :=
  match form.arity, given.lookup form.name with
  | .many, earlier =>
    if values.isEmpty then none
    else some ((form.name, earlier.getD [] ++ values) :: given.filter (·.1 ≠ form.name))
  | .flag, none => if values.isEmpty then some ((form.name, []) :: given) else none
  | .one allowEmpty, none =>
    match values with
    | [value] => if value.isEmpty && !allowEmpty then none else some ((form.name, [value]) :: given)
    | _ => none
  | _, some _ => none

def readOption? (forms : List OptionForm) (argument : List Char) :
    Option (OptionForm × Option String) :=
  match argument with
  | '-' :: '-' :: rest =>
    let name := rest.takeWhile (· ≠ '=')
    let value := match rest.drop name.length with
      | _ :: value => some (String.ofList value)
      | [] => none
    (forms.find? (·.name = String.ofList name)).map fun form => (form, value)
  | '-' :: c :: rest =>
    if c = shortForm then
      let value := match rest with
        | [] => none
        | '=' :: value => some (String.ofList value)
        | value => some (String.ofList value)
      (forms.find? (·.name = specName)).map fun form => (form, value)
    else none
  | _ => none

def readOptions (forms : List OptionForm) (given : Given) : Nat → List String → Except Refusal Given
  | _, [] => .ok given
  | 0, _ => .error .usage
  | fuel + 1, argument :: rest =>
    if argument = "--help" ∨ isShort 'h' argument then .error .help
    else if argument = "--" then if rest.isEmpty then .ok given else .error .usage
    else
      match readOption? forms argument.toList with
      | none => .error .usage
      | some (form, attached) =>
        let (values, rest) := match attached with
          | some value => ([value], rest)
          | none => takeValues form.arity rest
        match record? form values given with
        | some given => readOptions forms given fuel rest
        | none => .error .usage

def value? (given : Given) (name : String) : Option String := (given.lookup name).bind List.head?

def has (given : Given) (name : String) : Bool := (given.lookup name).isSome

def registrationForms : List OptionForm :=
  [⟨"config", .one false⟩, ⟨"tag", .one true⟩, ⟨"controllers", .one true⟩, ⟨"stub", .flag⟩,
    ⟨"validate-only", .flag⟩]

def registrationOf (given : Given) : RegistrationArguments :=
  ⟨value? given "config", value? given "tag", value? given "controllers", has given "stub",
    has given "validate-only"⟩

def readValidate (arguments : List String) : Except Refusal Invocation := do
  let given ← readOptions [⟨specName, .many⟩, ⟨"format", .one true⟩] [] arguments.length arguments
  match given.lookup specName with
  | some specs => .ok (.validate specs ((value? given "format").getD "text"))
  | none => .error .usage

def readRoutes (arguments : List String) : Except Refusal Invocation := do
  let forms := [⟨specName, .one true⟩, ⟨"format", .one true⟩] ++ registrationForms
  let given ← readOptions forms [] arguments.length arguments
  match value? given specName with
  | some spec => .ok (.routes spec (registrationOf given) ((value? given "format").getD "text"))
  | none => .error .usage

def readServe (arguments : List String) : Except Refusal Invocation := do
  let forms := [⟨specName, .one true⟩, ⟨"listen", .one true⟩, ⟨"dev", .flag⟩,
    ⟨"log-level", .one true⟩, ⟨"log-format", .one true⟩] ++ registrationForms
  let given ← readOptions forms [] arguments.length arguments
  match value? given specName with
  | some spec =>
    .ok (.serve spec (registrationOf given) ((value? given "listen").getD "0.0.0.0:8080")
      (has given "dev") ((value? given "log-format").getD "json"))
  | none => .error .usage

def read? (arguments : List String) : Option Invocation :=
  let answer : Except Refusal Invocation → Option Invocation
    | .ok invocation => some invocation
    | .error .help => some .help
    | .error .usage => none
  match arguments with
  | "validate" :: rest => answer (readValidate rest)
  | "routes" :: rest => answer (readRoutes rest)
  | "serve" :: rest => answer (readServe rest)
  | "--version" :: _ => some .version
  | "--help" :: _ | ["help"] => some .help
  | ["help", topic] =>
    if ["validate", "routes", "serve", "help"].contains topic then some .help else none
  | argument :: _ =>
    if isShort 'V' argument then some .version else if isShort 'h' argument then some .help
    else none
  | [] => none

end CommandLine

end ChannelGateway
