import Csdl.Inspection

/-!
The arguments of the command line. Options come before their values; the value of an option may
also be written behind an equals sign or, for an option of one letter, right behind it. The option
for documents takes all values up to the next option.
-/

namespace Csdl.CommandLine

/-- What the command line asks for. -/
inductive Request where
  | version
  | help
  | inspect (options : InspectionOptions) (verbose : Bool)
  deriving DecidableEq, Repr

/-- Why the arguments of an inspection lead to none: help is asked for, or they are wrong. -/
inductive Halt where
  | help
  | wrongUsage
  deriving DecidableEq, Repr

/-- The options of an inspection. -/
inductive Flag where
  | metadata
  | url
  | settings
  | baseId
  | expand
  | verbose
  | help
  deriving DecidableEq, Repr

namespace Flag

/-- The option of a long name. -/
def ofName? (name : String) : Option Flag :=
  [("metadata", metadata), ("url", url), ("config", settings), ("base-id", baseId),
    ("expand", expand), ("verbose", verbose), ("help", help)].lookup name

/-- The option of a letter. -/
def ofLetter? (letter : Char) : Option Flag :=
  [('m', metadata), ('u', url), ('c', settings), ('e', expand), ('v', verbose),
    ('h', help)].lookup letter

/-- Whether an option has values. -/
def hasValue : Flag → Bool
  | verbose => false
  | help => false
  | _ => true

end Flag

/-- The options told so far. -/
structure Told where
  documents : List String := []
  url : Option String := none
  settingsPath : Option String := none
  baseId : Option String := none
  expansions : List Expansion := []
  verbose : Bool := false
  deriving DecidableEq, Repr

namespace Told

/-- Sets an option that may be told once. -/
def once (old : Option String) (value : String) : Except Halt (Option String) :=
  match old with
  | none => .ok (some value)
  | some _ => .error .wrongUsage

/-- Adds an option with one value. -/
def addValue (told : Told) (flag : Flag) (value : String) : Except Halt Told :=
  match flag with
  | .metadata => .ok { told with documents := told.documents ++ [value] }
  | .url => do return { told with url := ← once told.url value }
  | .settings =>
    if value.isEmpty then .error .wrongUsage
    else do return { told with settingsPath := ← once told.settingsPath value }
  | .baseId => do return { told with baseId := ← once told.baseId value }
  | .expand =>
    match Expansion.ofArgument value with
    | .ok expansion => .ok { told with expansions := told.expansions ++ [expansion] }
    | .error _ => .error .wrongUsage
  | .verbose => .error .wrongUsage
  | .help => .error .wrongUsage

/-- Adds an option without a value. -/
def addFlag (told : Told) (flag : Flag) : Except Halt Told :=
  match flag with
  | .verbose => if told.verbose then .error .wrongUsage else .ok { told with verbose := true }
  | .help => .error .help
  | _ => .error .wrongUsage

/-- The inspection that has been told. It has documents and a url. -/
def request? (told : Told) : Option Request :=
  match told.documents, told.url with
  | [], _ => none
  | _, none => none
  | documents, some url =>
    some (.inspect
      { documents
        serviceUrl := url
        settingsPath := told.settingsPath
        baseId := told.baseId
        expansions := told.expansions }
      told.verbose)

end Told

/-- Whether an argument is a value and not an option. A single dash is a value. -/
def isValue (argument : String) : Bool :=
  match argument.toList with
  | ['-'] => true
  | '-' :: _ => false
  | _ => true

/-- What one argument says: options without values, and then perhaps an option that has one, with
its value if it is in the same argument. -/
structure Said where
  told : Told
  pending : Option Flag := none

/-- Reads the letters behind a dash. The first one that has a value takes the rest for it. -/
def readLetters (told : Told) : List Char → Except Halt Said
  | [] => .ok { told }
  | letter :: rest =>
    match Flag.ofLetter? letter with
    | none => .error .wrongUsage
    | some flag =>
      if flag.hasValue then
        match rest with
        | [] => .ok { told, pending := some flag }
        | '=' :: value => do return { told := ← told.addValue flag (String.ofList value) }
        | value => do return { told := ← told.addValue flag (String.ofList value) }
      else do readLetters (← told.addFlag flag) rest

/-- Reads the name of an option behind two dashes, with its value if one follows. -/
def readLong (told : Told) (text : List Char) : Except Halt Said :=
  match Text.cutAtFirst? '=' text with
  | some (name, value) =>
    match Flag.ofName? (String.ofList name) with
    | some flag =>
      if flag.hasValue then do return { told := ← told.addValue flag (String.ofList value) }
      else .error .wrongUsage
    | none => .error .wrongUsage
  | none =>
    match Flag.ofName? (String.ofList text) with
    | some flag =>
      if flag.hasValue then .ok { told, pending := some flag }
      else do return { told := ← told.addFlag flag }
    | none => .error .wrongUsage

/-- Reads an option. A value in its place belongs to no option. -/
def readOption (told : Told) (argument : String) : Except Halt Said :=
  match argument.toList with
  | '-' :: '-' :: name => readLong told name
  | '-' :: letter :: letters => readLetters told (letter :: letters)
  | _ => .error .wrongUsage

/-- Adds the values of an option that has them in arguments of their own. There is at least one,
and only documents have more. -/
def addValues (told : Told) (flag : Flag) (values : List String) : Except Halt Told :=
  match flag, values with
  | _, [] => .error .wrongUsage
  | .metadata, values => values.foldlM (·.addValue .metadata) told
  | flag, value :: _ => told.addValue flag value

/-- How many of the values that follow an option belong to it. -/
def takenValues (flag : Flag) (values : List String) : List String :=
  match flag with
  | .metadata => values
  | _ => values.take 1

/-- Reads the arguments of an inspection. Nothing may follow two dashes alone. -/
def readArguments (told : Told) (arguments : List String) : Except Halt Told :=
  match arguments with
  | [] => .ok told
  | ["--"] => .ok told
  | argument :: rest => do
    let said ← readOption told argument
    match said.pending with
    | none => readArguments said.told rest
    | some flag =>
      let values := takenValues flag (rest.takeWhile isValue)
      readArguments (← addValues said.told flag values) (rest.drop values.length)
termination_by arguments.length
decreasing_by
  · simp
  · simp only [List.length_drop, List.length_cons]
    omega

/-- The request of the arguments behind `inspect`. -/
def readInspect? (arguments : List String) : Option Request :=
  match readArguments {} arguments with
  | .ok told => told.request?
  | .error .help => some .help
  | .error .wrongUsage => none

/-- The request of a cluster of letters before any command. The first letter decides. -/
def readFirstLetter? (letters : List Char) : Option Request :=
  match letters with
  | 'V' :: _ => some .version
  | 'h' :: _ => some .help
  | _ => none

/-- What all arguments ask for, if they are right. -/
def Request.read? (arguments : List String) : Option Request :=
  match arguments with
  | [] => none
  | "inspect" :: rest => readInspect? rest
  | "--version" :: _ => some .version
  | "--help" :: _ => some .help
  | ["help"] => some .help
  | ["help", "inspect"] => some .help
  | ["help", "help"] => some .help
  | argument :: _ =>
    match argument.toList with
    | '-' :: letters => readFirstLetter? letters
    | _ => none

end Csdl.CommandLine
