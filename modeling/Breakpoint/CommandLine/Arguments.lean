import Breakpoint.CommandLine.Value

/-!
# Arguments of the command line

The arguments are queries and options. An option may be shortened as long as only one option
starts that way, and may carry its value after an equals sign. What starts with a dash is an
option unless it is a negative number or has a space in it; after two dashes everything is a
query. Two dashes after an equals sign leave the value of an option blank. The queries stand
together: once an option has followed them, further ones are not recognized.

Every argument is looked at for ambiguous options before the first is obeyed.
-/

namespace Breakpoint.CommandLine

/-- The options. -/
inductive OptionName where
  | help
  | size
  | override
  | overridesFile
  | settings
  | logDirectory
  | log
  | verbose
  deriving DecidableEq, Repr

/-- The spellings of the options. -/
def spellings : List (Text × OptionName) :=
  [("-h", .help), ("--help", .help), ("--size", .size), ("--override", .override),
   ("--overrides-file", .overridesFile), ("--settings", .settings),
   ("--log-dir", .logDirectory), ("--log", .log), ("--verbose", .verbose)]

/-- The name of an option in messages. -/
def OptionName.name : OptionName → Text
  | .help => "-h/--help"
  | .size => "--size"
  | .override => "--override"
  | .overridesFile => "--overrides-file"
  | .settings => "--settings"
  | .logDirectory => "--log-dir"
  | .log => "--log"
  | .verbose => "--verbose"

/-- Whether an option has a value. -/
def OptionName.takesValue : OptionName → Bool
  | .help | .log | .verbose => false
  | .size | .override | .overridesFile | .settings | .logDirectory => true

/-- Why a command line is refused. -/
inductive UsageFault where
  | ambiguous (argument : Text) (matching : List Text)
  | valueExpected (option : OptionName)
  | valueIgnored (option : OptionName) (value : Text)
  | badValue (option : OptionName) (fault : ValueFault)
  | required (names : List Text)
  | unrecognized (arguments : List Text)
  deriving DecidableEq, Repr

/-- The name of the program. -/
def programName : Text := "preview-media"

/-- The message for a refused command line. -/
def UsageFault.message (fault : UsageFault) : Text :=
  let argument (option : OptionName) (text : Text) : Text :=
    "argument " ++ option.name ++ ": " ++ text
  programName ++ ": error: " ++
    match fault with
    | .ambiguous text matching =>
      "ambiguous option: " ++ text ++ " could match " ++ List.intercalate ", " matching
    | .valueExpected option => argument option "expected one argument"
    | .valueIgnored option value =>
      argument option ("ignored explicit argument " ++ Text.quoted value)
    | .badValue option fault => argument option fault.text
    | .required names => "the following arguments are required: " ++ List.intercalate ", " names
    | .unrecognized arguments => "unrecognized arguments: " ++ List.intercalate " " arguments

/-- Why the program ends before it has begun. -/
inductive Stop where
  | usage (fault : UsageFault)
  | help
  deriving DecidableEq, Repr

/-- What an argument is taken for. -/
inductive Token where
  /-- Two dashes. -/
  | dashes
  | plain (text : Text)
  /-- An option, if it is a known one, with the value it carries. -/
  | option (text : Text) (option : Option OptionName) (value : Option Text)
  deriving DecidableEq, Repr

/-- What was written on the command line. The value of an option is blank if two dashes were
written for it. -/
structure Arguments where
  queries : List Text := []
  sizes : List (Option (Extent × Extent)) := []
  overrides : List (Option (Text × Text)) := []
  overridesFile : Option (Option Text) := none
  settings : Option Text := none
  logDirectory : Option (Option Text) := none
  log : Bool := false
  verbose : Bool := false

/-- Whether a text is a negative number without an exponent. -/
def isNegativeNumber (text : Text) : Bool :=
  let isDigit (c : CodePoint) := (Text.digitValue? c).isSome
  match text with
  | .char '-' :: rest =>
    let rest := if rest.getLast? = some (.char '\n') then rest.dropLast else rest
    match rest.dropWhile isDigit with
    | [] => !rest.isEmpty
    | .char '.' :: fraction => !fraction.isEmpty && fraction.all isDigit
    | _ => false
  | _ => false

/-- The options that a text may be short for, each with its spelling. -/
def completions (text : Text) : List (Text × Token) :=
  match text with
  | .char '-' :: .char '-' :: _ =>
    let (start, value) : Text × Option Text :=
      match cutAt '=' text with
      | some (start, value) => (start, some value)
      | none => (text, none)
    spellings.filterMap fun (spelling, option) =>
      if start.isPrefixOf spelling then some (spelling, .option text (some option) value) else none
  | .char '-' :: letter :: rest =>
    spellings.filterMap fun (spelling, option) =>
      if spelling = [.char '-', letter] then
        some (spelling, .option text (some option) (some rest))
      else none
  | _ => []

/-- What an argument is taken for, or the ambiguity that stops the program. -/
def tokenOf (argument : Text) : Except UsageFault Token :=
  if argument.head? ≠ some (.char '-') then .ok (.plain argument)
  else
    match spellings.lookup argument with
    | some option => .ok (.option argument (some option) none)
    | none =>
      if argument.length = 1 then .ok (.plain argument)
      else
        let exact := (cutAt '=' argument).bind fun (start, value) =>
          (spellings.lookup start).map fun option =>
            Token.option argument (some option) (some value)
        match exact, completions argument with
        | some token, _ => .ok token
        | none, [(_, token)] => .ok token
        | none, [] =>
          if isNegativeNumber argument || argument.contains (.char ' ') then
            .ok (.plain argument)
          else .ok (.option argument none none)
        | none, several => .error (.ambiguous argument (several.map (·.1)))

/-- Two dashes. -/
def twoDashes : Text := "--"

/-- What the arguments are taken for. After two dashes all are plain. -/
def tokensOf : List Text → Except UsageFault (List Token)
  | [] => .ok []
  | argument :: rest =>
    if argument = twoDashes then .ok (.dashes :: rest.map .plain)
    else do return (← tokenOf argument) :: (← tokensOf rest)

/-- The text of an argument. -/
def Token.text : Token → Text
  | .dashes => twoDashes
  | .plain text => text
  | .option text _ _ => text

/-- Whether an argument is an option. -/
def Token.isOption : Token → Bool
  | .option _ _ _ => true
  | _ => false

/-- What is known while the arguments are obeyed: what was written so far, and what was not
recognized. -/
structure Progress where
  arguments : Arguments := {}
  unrecognized : List Text := []

/-- Notes an option whose value is blank. -/
def Arguments.setBlank (arguments : Arguments) : OptionName → Arguments
  | .size => { arguments with sizes := arguments.sizes ++ [none] }
  | .override => { arguments with overrides := arguments.overrides ++ [none] }
  | .overridesFile => { arguments with overridesFile := some none }
  | .settings => { arguments with settings := none }
  | .logDirectory => { arguments with logDirectory := some none }
  | .help | .log | .verbose => arguments

/-- Obeys an option with its value. Two dashes are a blank value. -/
def Arguments.setValue (arguments : Arguments) (option : OptionName) (value : Text) :
    Except UsageFault Arguments :=
  if value = twoDashes then .ok (arguments.setBlank option)
  else
    match option with
    | .size =>
      match parseSize value with
      | .ok size => .ok { arguments with sizes := arguments.sizes ++ [some size] }
      | .error fault => .error (.badValue option fault)
    | .override =>
      match parseOverride value with
      | .ok pair => .ok { arguments with overrides := arguments.overrides ++ [some pair] }
      | .error fault => .error (.badValue option fault)
    | .overridesFile => .ok { arguments with overridesFile := some (some value) }
    | .settings => .ok { arguments with settings := some value }
    | .logDirectory => .ok { arguments with logDirectory := some (some value) }
    | .help | .log | .verbose => .ok arguments

/-- Obeys an option without a value. -/
def Arguments.setFlag (arguments : Arguments) : OptionName → Except Stop Arguments
  | .help => .error .help
  | .log => .ok { arguments with log := true }
  | .verbose => .ok { arguments with verbose := true }
  | .size | .override | .overridesFile | .settings | .logDirectory => .ok arguments

/-- What stops the program at the letters that follow the one for help in one argument: help if
each is that letter again, else the first that is not, which is refused with what follows it. -/
def stopAtLetters : Text → Stop
  | [] => .usage (.valueIgnored .help [])
  | [letter] => if letter = .char 'h' then .help else .usage (.valueIgnored .help [letter])
  | letter :: rest =>
    if letter = .char 'h' then stopAtLetters rest
    else .usage (.valueIgnored .help (letter :: rest))

/-- Takes the queries at the start of the arguments, unless they were taken before: everything
up to the next option, the first two dashes left out. -/
def takeQueries (progress : Progress) (tokens : List Token) : Progress :=
  let texts := tokens.map Token.text
  if progress.arguments.queries.isEmpty && tokens.any fun token => token matches .plain _ then
    let queries := if tokens.contains .dashes then texts.erase twoDashes else texts
    { progress with arguments := { progress.arguments with queries } }
  else { progress with unrecognized := progress.unrecognized ++ texts }

/-- Obeys the arguments from left to right; `run` holds those since the last option, the last
first. -/
def obey (progress : Progress) (run : List Token) : List Token → Except Stop Progress
  | [] => .ok (if run.isEmpty then progress else takeQueries progress run.reverse)
  | .option text option value :: rest =>
    let progress := if run.isEmpty then progress else takeQueries progress run.reverse
    match option, value with
    | none, _ => obey { progress with unrecognized := progress.unrecognized ++ [text] } [] rest
    | some option, some value =>
      if option.takesValue then
        match progress.arguments.setValue option value with
        | .ok arguments => obey { progress with arguments } [] rest
        | .error fault => .error (.usage fault)
      else if twoDashes.isPrefixOf text then .error (.usage (.valueIgnored option value))
      else .error (stopAtLetters value)
    | some option, none =>
      if option.takesValue then
        match rest with
        | .plain value :: rest =>
          match progress.arguments.setValue option value with
          | .ok arguments => obey { progress with arguments } [] rest
          | .error fault => .error (.usage fault)
        | _ => .error (.usage (.valueExpected option))
      else
        match progress.arguments.setFlag option with
        | .ok arguments => obey { progress with arguments } [] rest
        | .error stop => .error stop
  | token :: rest => obey progress (token :: run) rest

/-- The names of the required arguments that were not written. -/
def missingNames (arguments : Arguments) : List Text :=
  let queries : List Text := if arguments.queries.isEmpty then ["queries"] else []
  let size : List Text := if arguments.sizes.isEmpty then ["--size"] else []
  queries ++ size

/-- What is written on a command line. -/
def parseArguments (words : List Text) : Except Stop Arguments := do
  let tokens ← (tokensOf words).mapError .usage
  let { arguments, unrecognized } ← obey {} [] tokens
  if !(missingNames arguments).isEmpty then
    .error (.usage (.required (missingNames arguments)))
  else if !unrecognized.isEmpty then .error (.usage (.unrecognized unrecognized))
  else return arguments

end Breakpoint.CommandLine
