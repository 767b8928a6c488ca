import LintServer.Path

/-!
# Launch arguments

The server is launched with flags. A flag that takes a value has it attached behind an equals
sign, or as the next argument if that does not look like a flag. Arguments are read from left to
right; a value that stands in an argument of its own is taken in only when the next flag, or the
end, shows that the flag is complete, and what cannot be a flag or a value stops the reading at
once.
-/

namespace LintServer.Launch

/-- Why arguments are not accepted, or what is shown instead of serving. -/
inductive ArgumentError
  | unknownArgument
  | invalidValue
  | argumentConflict
  | tooManyValues
  | displayHelp
  | displayVersion
deriving DecidableEq, Repr

/-- A flag that takes a value. -/
inductive Flag
  | engine
  | node
  | moduleDir
  | watch
  | logLevel
deriving DecidableEq, Repr

/-- A flag that asks for a text instead of serving. -/
inductive Display
  | help
  | version
deriving DecidableEq, Repr

/-- The name of a flag, without its dashes. -/
def Flag.name : Flag → String
  | .engine => "engine"
  | .node => "node"
  | .moduleDir => "module-dir"
  | .watch => "watch"
  | .logLevel => "log-level"

/-- The flag of a name. -/
def Flag.ofName? (name : String) : Option Flag :=
  [Flag.engine, .node, .moduleDir, .watch, .logLevel].find? fun f => f.name == name

/-- The text a name asks for. -/
def Display.ofName? (name : String) : Option Display :=
  if name = "help" then some .help else if name = "version" then some .version else none

/-- The text a letter asks for. -/
def Display.ofLetter? (letter : Char) : Option Display :=
  if letter = 'h' then some .help else if letter = 'V' then some .version else none

/-- How reading ends when a text is asked for. -/
def Display.outcome : Display → ArgumentError
  | .help => .displayHelp
  | .version => .displayVersion

/-- What an argument looks like. -/
inductive Shape
  /-- Two dashes: only values without flag follow. -/
  | separator
  /-- Two dashes, a name, and perhaps a value behind an equals sign. -/
  | long (name : String) (value : Option String)
  /-- One dash and letters, of which the first counts. -/
  | short (letter : Char)
  /-- Anything else, a lone dash included. -/
  | plain
deriving DecidableEq, Repr

/-- The shape of an argument. -/
def Shape.ofChars : List Char → Shape
  | ['-', '-'] => .separator
  | '-' :: '-' :: rest =>
    let name := String.ofList (rest.takeWhile (· != '='))
    match rest.dropWhile (· != '=') with
    | [] => .long name none
    | _ :: value => .long name (some (String.ofList value))
  | '-' :: letter :: _ => .short letter
  | _ => .plain

/-- The values given so far. -/
structure Given where
  engine : Option String
  node : Option String
  moduleDirs : List String
  watch : List String
  logLevel : Option String
deriving DecidableEq, Repr

/-- No values. -/
def Given.nothing : Given := ⟨none, none, [], [], none⟩

/-- Takes the value of a flag in. Directories and watched names add up, and a directory is not
empty; every other flag is given once. -/
def Given.take (given : Given) (flag : Flag) (value : String) : Except ArgumentError Given :=
  match flag with
  | .engine =>
    if given.engine.isSome then .error .argumentConflict
    else .ok { given with engine := some value }
  | .node =>
    if given.node.isSome then .error .argumentConflict else .ok { given with node := some value }
  | .logLevel =>
    if given.logLevel.isSome then .error .argumentConflict
    else .ok { given with logLevel := some value }
  | .moduleDir =>
    if value = "" then .error .invalidValue
    else .ok { given with moduleDirs := given.moduleDirs ++ [value] }
  | .watch => .ok { given with watch := given.watch ++ [value] }

/-- A flag whose value stands in an argument of its own: not yet there, or not yet taken in. -/
inductive Pending
  | nothing
  | waiting (flag : Flag)
  | complete (flag : Flag) (value : String)
deriving DecidableEq, Repr

/-- Takes in what is pending; a flag without value is refused. -/
def Given.settle (given : Given) : Pending → Except ArgumentError Given
  | .nothing => .ok given
  | .waiting _ => .error .invalidValue
  | .complete flag value => given.take flag value

/-- Reads arguments from left to right. -/
def Given.read (given : Given) (pending : Pending) : List String → Except ArgumentError Given
  | [] => given.settle pending
  | argument :: more =>
    match Shape.ofChars argument.toList with
    | .separator => if more.isEmpty then given.settle pending else .error .unknownArgument
    | .short letter =>
      match Display.ofLetter? letter with
      | none => .error .unknownArgument
      | some display => (given.settle pending).bind fun _ => .error display.outcome
    | .long name value =>
      match Flag.ofName? name, value with
      | some flag, some value =>
        (given.settle pending).bind fun given =>
          (given.take flag value).bind fun given => given.read .nothing more
      | some flag, none => (given.settle pending).bind fun given => given.read (.waiting flag) more
      | none, value =>
        match Display.ofName? name, value with
        | none, _ => .error .unknownArgument
        | some _, some _ => .error .tooManyValues
        | some display, none => (given.settle pending).bind fun _ => .error display.outcome
    | .plain =>
      match pending with
      | .waiting flag => given.read (.complete flag argument) more
      | _ => .error .unknownArgument

/-- The values the server is launched with. -/
structure Arguments where
  engine : String
  node : String
  moduleDirs : List Path
  watch : List String
  logLevel : String
deriving DecidableEq, Repr

/-- The values given, with the defaults for those that are not. -/
def Given.complete (given : Given) : Arguments where
  engine := given.engine.getD "standard"
  node := given.node.getD "node"
  moduleDirs := given.moduleDirs.map Path.ofString
  watch := if given.watch.isEmpty then ["package.json"] else given.watch
  logLevel := given.logLevel.getD "info"

/-- **Reads launch arguments.** -/
def Arguments.parse (arguments : List String) : Except ArgumentError Arguments :=
  (Given.nothing.read .nothing arguments).map Given.complete

end LintServer.Launch
