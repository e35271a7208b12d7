import TypedTemplate.Toml.Scalar
/-!
# TOML documents

Arrays, tables in braces, keys, and the lines of a document. A reader gives what it read with the text
behind it, or nothing; a document that breaks a rule anywhere has no reading at all. Containers nest up to
a fixed depth, which is also the bound of the recursion.
-/

namespace TypedTemplate.Toml

/-- Containers inside one another, and parts of a key, stay below this number. -/
def nestingLimit : Nat := 80

/-- The text behind a comment, if there is one. -/
def skipComment : Text → Text
  | '#' :: t => t.dropWhile isPrintable
  | t => t

/-- The text behind blanks, comments and ends of lines. -/
def skipLayout (inComment : Bool) : Text → Text
  | [] => []
  | c :: t =>
    if c = '\n' then skipLayout false t
    else if c = '\r' ∧ t.head? = some '\n' then skipLayout inComment t
    else if inComment then if isPrintable c then skipLayout true t else c :: t
    else if isInlineBlank c then skipLayout false t
    else if c = '#' then skipLayout true t
    else c :: t

/-- The text behind the end of a line, where blanks and a comment may stand before it; the document may
end instead. -/
def endLine? (t : Text) : Option Text :=
  match skipComment (skipBlanks t) with
  | [] => some []
  | t => newline? t

/-! ### Keys -/

/-- A character of a key without quotes. -/
def isBareKeyChar (c : Char) : Bool :=
  c.isAlphanum || c == '-' || c == '_'

def keyPart? (t : Text) : Option (Text × Text) :=
  if t.head? = some '"' ∨ t.head? = some '\'' then lineString? t
  else
    let (key, rest) := t.span isBareKeyChar
    if key.isEmpty then none else some (key, rest)

/-- Reads the parts of a key, at most `fuel` of them: all but the last, and the last. -/
def keyParts? : (fuel : Nat) → Text → Option ((List Text × Text) × Text)
  | 0, _ => none
  | fuel + 1, t =>
    match keyPart? (skipBlanks t) with
    | none => none
    | some (part, rest) =>
      match skipBlanks rest with
      | '.' :: rest =>
        (keyParts? fuel rest).map fun ((path, key), rest) => ((part :: path, key), rest)
      | rest => some (([], part), rest)

/-- Reads a key: the tables it goes through, and its last part. -/
def key? (t : Text) : Option ((List Text × Text) × Text) :=
  keyParts? (nestingLimit - 1) t

/-! ### Containers -/

/-- Reads a value of a kind that a container can hold. -/
abbrev Reader := Text → Option (Value × Text)

/-- Reads the elements of an array behind its bracket, given how an element is read. -/
def elements? (element : Reader) : (fuel : Nat) → Text → Option (List Value × Text)
  | 0, _ => none
  | fuel + 1, t =>
    match skipLayout false t with
    | ']' :: rest => some ([], rest)
    | t =>
      match element t with
      | none => none
      | some (v, rest) =>
        match skipLayout false rest with
        | ']' :: rest => some ([v], rest)
        | ',' :: rest => (elements? element fuel rest).map fun (vs, rest) => (v :: vs, rest)
        | _ => none

def pair? (element : Reader) (t : Text) : Option ((List Text × Text × Value) × Text) :=
  match key? t with
  | some ((path, key), '=' :: rest) =>
    (element (skipBlanks rest)).map fun (v, rest) => ((path, key, v), rest)
  | _ => none

/-- Reads the pairs of a table in braces, the first one still to come. -/
def pairs? (element : Reader) : (fuel : Nat) → Entries → Text → Option (Entries × Text)
  | 0, _, _ => none
  | fuel + 1, es, t =>
    match pair? element t with
    | none => none
    | some ((path, key, v), rest) =>
      match es.addDotted path key v, skipBlanks rest with
      | some es, '}' :: rest => some (es, rest)
      | some es, ',' :: rest => pairs? element fuel es rest
      | _, _ => none

/-- Reads a value; `depth` containers may still be opened. -/
def value? : (depth : Nat) → Reader
  | 0, t => if t.head? = some '[' ∨ t.head? = some '{' then none else scalar? t
  | depth + 1, t =>
    match t with
    | '[' :: t => (elements? (value? depth) (t.length + 1) t).map fun (vs, rest) =>
        (.array false vs, rest)
    | '{' :: t =>
      match skipBlanks t with
      | '}' :: rest => some (.table .closed [], rest)
      | t => (pairs? (value? depth) (t.length + 1) [] t).map fun (es, rest) =>
          (.table .closed es, rest)
    | t => scalar? t

/-! ### Lines -/

/-- A line of a document that says something. -/
inductive Statement where
  | tableHeader (path : List Text) (key : Text)
  | elementHeader (path : List Text) (key : Text)
  | pair (path : List Text) (key : Text) (v : Value)

/-- Reads a statement up to the end of its line. -/
def statement? (t : Text) : Option (Statement × Text) :=
  match t with
  | '[' :: '[' :: t =>
    match key? t with
    | some ((path, key), ']' :: ']' :: rest) =>
      (endLine? rest).map (Statement.elementHeader path key, ·)
    | _ => none
  | '[' :: t =>
    match key? t with
    | some ((path, key), ']' :: rest) => (endLine? rest).map (Statement.tableHeader path key, ·)
    | _ => none
  | t =>
    match pair? (value? (nestingLimit - 1)) t with
    | some ((path, key, v), rest) => (endLine? rest).map (Statement.pair path key v, ·)
    | none => none

/-- Applies a statement to the document so far and the path of its last header. -/
def Statement.apply (header : List Text) (es : Entries) : Statement → Option (List Text × Entries)
  | tableHeader path key => (es.openTable path key).map (path ++ [key], ·)
  | elementHeader path key => (es.openElement path key).map (path ++ [key], ·)
  | pair path key v => (es.addUnder header path key v).map (header, ·)

def statements? : (fuel : Nat) → (header : List Text) → Entries → Text → Option Entries
  | 0, _, _, _ => none
  | fuel + 1, header, es, t =>
    match skipLayout false t with
    | [] => some es
    | t =>
      match statement? t with
      | none => none
      | some (s, rest) =>
        match s.apply header es with
        | none => none
        | some (header, es) => statements? fuel header es rest

/-- The entries of a document, if it is well formed. A byte order mark at its start is not part of it. -/
def document? (t : Text) : Option Entries :=
  let t := (Text.dropStart? ['\uFEFF'] t).getD t
  statements? (t.length + 1) [] [] t

end TypedTemplate.Toml
