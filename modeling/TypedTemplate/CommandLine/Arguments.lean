import TypedTemplate.Text.Basic
/-!
# Command line arguments

The arguments are templates, switches and options with a value, in any order; behind `--` every argument is
a template. An option takes its value from the rest of its own argument or from the next one, and a next one
that starts with a hyphen is a value only for the separators. Only assignments may be given more than once.
-/

namespace TypedTemplate.CommandLine

/-- What the command line asks for. -/
structure Invocation where
  templates : List Text := []
  assignments : List Text := []
  settingsFile : Option Text := none
  group : Option Text := none
  decimal : Option Text := none
  language : Option Text := none
  messagesFile : Option Text := none
  listInputs : Bool := false
  showGrammar : Bool := false
  allowPlain : Bool := false
deriving DecidableEq, Repr

/-- Why the command line asks for nothing that can be done: help is wanted, or the arguments are wrong. -/
inductive Refusal where
  | help
  | usage
deriving DecidableEq, Repr

/-- The options with a value. -/
inductive ValueOption where
  | set
  | config
  | group
  | decimal
  | language
  | messages
deriving DecidableEq, Repr

inductive Switch where
  | inputs
  | grammar
  | allowPlain
  | help
deriving DecidableEq, Repr

inductive CliOption where
  | value (o : ValueOption)
  | switch (s : Switch)
deriving DecidableEq, Repr

def longNames : List (String × CliOption) :=
  [("set", .value .set), ("config", .value .config), ("group", .value .group),
   ("decimal", .value .decimal), ("language", .value .language), ("messages", .value .messages),
   ("inputs", .switch .inputs), ("grammar", .switch .grammar),
   ("allow-plain", .switch .allowPlain), ("help", .switch .help)]

def ofLong? (name : Text) : Option CliOption :=
  longNames.lookup (String.ofList name)

def ofShort? : Char → Option CliOption
  | 's' => some (.value .set)
  | 'c' => some (.value .config)
  | 'l' => some (.value .language)
  | 'g' => some (.switch .grammar)
  | 'h' => some (.switch .help)
  | _ => none

/-- Whether the value of an option may start with a hyphen. -/
def ValueOption.allowsHyphen : ValueOption → Bool
  | group => true
  | decimal => true
  | _ => false

/-- Fills a place that must be empty. -/
def once (place : Option Text) (v : Text) : Except Refusal (Option Text) :=
  if place.isSome then .error .usage else .ok (some v)

/-- Fills a place for the name of a file, which may not be empty. -/
def fileOnce (place : Option Text) (v : Text) : Except Refusal (Option Text) :=
  if v.isEmpty then .error .usage else once place v

def Invocation.give (i : Invocation) (o : ValueOption) (v : Text) : Except Refusal Invocation :=
  match o with
  | .set => .ok { i with assignments := i.assignments ++ [v] }
  | .config => (fileOnce i.settingsFile v).map fun place => { i with settingsFile := place }
  | .group => (once i.group v).map fun place => { i with group := place }
  | .decimal => (once i.decimal v).map fun place => { i with decimal := place }
  | .language => (once i.language v).map fun place => { i with language := place }
  | .messages => (fileOnce i.messagesFile v).map fun place => { i with messagesFile := place }

/-- Turns a switch on, once. -/
def Invocation.turnOn (i : Invocation) : Switch → Except Refusal Invocation
  | .inputs => if i.listInputs then .error .usage else .ok { i with listInputs := true }
  | .grammar => if i.showGrammar then .error .usage else .ok { i with showGrammar := true }
  | .allowPlain => if i.allowPlain then .error .usage else .ok { i with allowPlain := true }
  | .help => .error .help

/-- Reads an argument of a long option, without its hyphens; an option is left over that still needs its
value. -/
def readLong (i : Invocation) (argument : Text) :
    Except Refusal (Invocation × Option ValueOption) :=
  let (name, value) := argument.cut '='
  match ofLong? name, value with
  | some (.value o), some v => (i.give o v).map (·, none)
  | some (.value o), none => .ok (i, some o)
  | some (.switch s), none => (i.turnOn s).map (·, none)
  | _, _ => .error .usage

/-- Reads an argument of short options, without its hyphen. Switches may stand together, and an option
with a value ends the argument. -/
def readShort (i : Invocation) : Text → Except Refusal (Invocation × Option ValueOption)
  | [] => .ok (i, none)
  | c :: t =>
    match ofShort? c with
    | some (.switch s) => i.turnOn s >>= fun i => readShort i t
    | some (.value o) =>
      match t with
      | [] => .ok (i, some o)
      | '=' :: v => (i.give o v).map (·, none)
      | v => (i.give o v).map (·, none)
    | none => .error .usage

/-- Whether an argument has the form of options: a hyphen with something behind it. -/
def hasOptions : Text → Bool
  | '-' :: _ :: _ => true
  | _ => false

/-- Reads an argument where options may stand. -/
def readArgument (i : Invocation) (argument : Text) :
    Except Refusal (Invocation × Option ValueOption) :=
  match argument with
  | '-' :: '-' :: t => readLong i t
  | '-' :: c :: t => readShort i (c :: t)
  | t => .ok ({ i with templates := i.templates ++ [t] }, none)

/-- Reads arguments; `waiting` is an option that still needs its value. -/
def readArguments (i : Invocation) :
    (waiting : Option ValueOption) → List Text → Except Refusal Invocation
  | none, [] => .ok i
  | some _, [] => .error .usage
  | some o, argument :: rest =>
    if hasOptions argument && !o.allowsHyphen then .error .usage
    else do
      let i ← i.give o argument
      readArguments i none rest
  | none, argument :: rest =>
    if argument = ['-', '-'] then .ok { i with templates := i.templates ++ rest }
    else do
      let (i, waiting) ← readArgument i argument
      readArguments i waiting rest

def Invocation.ofArguments (arguments : List Text) : Except Refusal Invocation :=
  readArguments {} none arguments

end TypedTemplate.CommandLine
