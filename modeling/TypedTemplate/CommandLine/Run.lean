import TypedTemplate.CommandLine.Arguments
import TypedTemplate.CommandLine.Files
import TypedTemplate.CommandLine.Pages
import TypedTemplate.Messages.Localize
import TypedTemplate.Report.Basic
/-!
# Running the command line

The program as a function: from its arguments, the files it may read and its standard input to what it
prints and the status it ends with. Each step either goes on or ends the program with a message.
-/

namespace TypedTemplate.CommandLine

/-- What the program prints and how it ends. -/
structure Outcome where
  status : Nat := 0
  output : String := ""
  errors : String := ""
deriving DecidableEq, Repr

/-- What the program finds around it: files by name, and its standard input. -/
structure Surroundings where
  file : Text → Except FileError ByteArray
  input : ByteArray

def unlines (ls : List String) : String :=
  String.join (ls.map (· ++ "\n"))

def failure (message : String) : Outcome :=
  { status := 1, errors := "Error" ++ message ++ "\n" }

/-- The end of the program with a validation error: the message in the language of the settings, and a
report when the error belongs to a template. -/
def refused (c : Catalog) (language : String) (templates : List Text) (e : ValidationError) :
    Outcome :=
  let report :=
    match e.template? with
    | some index =>
      match templates[index]? with
      | some source => e.report source ("template " ++ ValidationError.ordinal index)
      | none => ""
    | none => ""
  { status := 1, errors := "Error: " ++ e.localized c language ++ "\n" ++ report }

/-- Loads a file that may be left out. -/
def loadFile {α : Type} (s : Surroundings) (what sort : String)
    (load : Except FileError ByteArray → Except LoadError α) (default : α) (name : Option Text) :
    Except Outcome α :=
  match name with
  | none => .ok default
  | some name =>
    (load (s.file name)).mapError fun e =>
      failure (" loading " ++ what ++ " '" ++ String.ofList name ++ "': " ++ e.message sort)

/-- The settings of the file and of the options, which win over the file. -/
def settings (s : Surroundings) (i : Invocation) : Except Outcome Settings := do
  let base ← loadFile s "config" Settings.sort Settings.load {} i.settingsFile
  return {
    separators := {
      group := i.group.getD base.separators.group
      decimal := i.decimal.getD base.separators.decimal }
    requirePlaceholders := base.requirePlaceholders && !i.allowPlain
    language := (i.language.map String.ofList).getD base.language }

/-- The built-in messages with those of the file laid over them. -/
def messages (s : Surroundings) (i : Invocation) : Except Outcome Catalog := do
  let custom ← loadFile s "messages" Catalog.sort Catalog.load [] i.messagesFile
  return Catalog.default.overlay custom

/-- A line without a carriage return at its end. -/
def dropReturn (line : Text) : Text :=
  if line.getLast? = some '\r' then line.dropLast else line

/-- The lines of a text; an end of line is a line feed or a carriage return with one, and what stands
behind the last one is a line unless it is empty. -/
def inputLines (t : Text) : List Text :=
  let (first, rest) := t.split '\n'
  let pieces := first :: rest
  pieces.dropLast.map dropReturn ++ (pieces.getLast?.toList.filter fun last => !last.isEmpty)

/-- The templates of the arguments or, when there are none, the lines of standard input. -/
def templates (s : Surroundings) (i : Invocation) : Except Outcome (List Text) :=
  if !i.templates.isEmpty then .ok i.templates
  else
    match decodeBytes s.input with
    | .ok t => .ok (inputLines t)
    | .error e => .error (failure (" reading from stdin: " ++ e.message))

/-- Carries out an assignment: a name, an equals sign, and a value as it is. -/
def assign (n : Node) (onRefusal : ValidationError → Outcome) (assignment : Text) :
    Except Outcome Node :=
  match assignment.cut '=' with
  | (_, none) =>
    .error (failure (": expected NAME=VALUE, got '" ++ String.ofList assignment ++ "'"))
  | (name, some raw) =>
    match n.setInput name.trim raw with
    | (.ok (), n) => .ok n
    | (.error e, _) => .error (onRefusal e)

def inputPage (n : Node) : List String :=
  n.inputNames.map fun (h, name) =>
    h.kind.name ++ "\t" ++ toString h.index ++ "\t" ++ String.ofList name

/-- Renders the templates, or lists their inputs. -/
def produce (s : Surroundings) (i : Invocation) : Except Outcome (List String) := do
  let settings ← settings s i
  let catalog ← messages s i
  let templates ← templates s i
  let onRefusal := refused catalog settings.language templates
  let n ← (Node.withTemplates settings templates).mapError onRefusal
  let n ← i.assignments.foldlM (fun n assignment => assign n onRefusal assignment) n
  if i.listInputs then return inputPage n
  else
    match n.renderAll with
    | .ok texts => return texts.map String.ofList
    | .error e => throw (failure (": " ++ e.message))

def perform (s : Surroundings) (i : Invocation) : Outcome :=
  if i.showGrammar then { output := unlines grammarPage }
  else
    match produce s i with
    | .ok page => { output := unlines page }
    | .error outcome => outcome

def run (s : Surroundings) (arguments : List Text) : Outcome :=
  match Invocation.ofArguments arguments with
  | .ok i => perform s i
  | .error .help => { output := unlines introPage }
  | .error .usage =>
    { status := 2, errors := "error: the arguments are not understood; try '--help'\n" }

end TypedTemplate.CommandLine
