import TypedTemplate.CommandLine.Run
/-!
# The program

The outer layer: it collects the arguments, the files that are asked for and standard input, and prints
what `CommandLine.run` says.
-/

namespace TypedTemplate.CommandLine

/-- The cause of a failed attempt to read a file. A file of the wrong type is named when its path leads
through another file and cannot be opened, and not named when it is a directory that is opened and then
cannot be read. -/
def fileError : IO.Error → FileError
  | .noFileOrDirectory .. => .notFound
  | .inappropriateType (some _) _ _ => .notDirectory
  | .inappropriateType none _ _ => .isDirectory
  | .permissionDenied .. => .permissionDenied
  | e => .other (toString e)

def readBytes (name : Text) : IO (Except FileError ByteArray) :=
  try
    return .ok (← IO.FS.readBinFile (String.ofList name))
  catch e => return .error (fileError e)

/-- Reads the bytes of a file when it is asked for. -/
def readWanted : Option Text → IO (List (Text × Except FileError ByteArray))
  | none => return []
  | some name => return [(name, ← readBytes name)]

/-- What the program finds when nothing is read. -/
def bareSurroundings : Surroundings :=
  { file := fun _ => .error .notFound, input := .empty }

def finish (o : Outcome) : IO UInt32 := do
  IO.print o.output
  IO.eprint o.errors
  return o.status.toUInt32

/-- Carries out an invocation with the files and the input it needs. -/
def carryOut (i : Invocation) : IO UInt32 := do
  let stdin ← IO.getStdin
  if i.showGrammar then finish (perform bareSurroundings i)
  else if i.templates.isEmpty && (← stdin.isTty) then finish { output := unlines introPage }
  else
    let files := (← readWanted i.settingsFile) ++ (← readWanted i.messagesFile)
    let input ← if i.templates.isEmpty then stdin.readBinToEnd else pure .empty
    finish (perform { file := fun name => (files.lookup name).getD (.error .notFound), input } i)

def start (arguments : List Text) : IO UInt32 :=
  match Invocation.ofArguments arguments with
  | .ok i => carryOut i
  | .error _ => finish (run bareSurroundings arguments)

end TypedTemplate.CommandLine

def main (arguments : List String) : IO UInt32 :=
  TypedTemplate.CommandLine.start (arguments.map String.toList)
