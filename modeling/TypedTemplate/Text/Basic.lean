/-!
# Texts

A text is the sequence of its characters. Templates, names, values and everything rendered are texts;
this module holds the operations the rest is made of: trimming, cutting at a character, and splitting
at every occurrence of one. Each is a structural recursion, so that what a piece holds and how the pieces
join again can be read off the definition.
-/

namespace TypedTemplate

/-- A text is the sequence of its characters. -/
abbrev Text := List Char

/-- The code points with the property `White_Space`. -/
def isBlank (c : Char) : Bool :=
  let n := c.toNat
  (0x9 ≤ n && n ≤ 0xD) || n == 0x20 || n == 0x85 || n == 0xA0 || n == 0x1680
    || (0x2000 ≤ n && n ≤ 0x200A) || n == 0x2028 || n == 0x2029 || n == 0x202F || n == 0x205F
    || n == 0x3000

/-- The printable ASCII characters that are neither letters, digits nor the space. -/
def isAsciiPunctuation (c : Char) : Bool :=
  let n := c.toNat
  (0x21 ≤ n && n ≤ 0x2F) || (0x3A ≤ n && n ≤ 0x40) || (0x5B ≤ n && n ≤ 0x60)
    || (0x7B ≤ n && n ≤ 0x7E)

/-- The lower-case form of an ASCII capital; every other character is kept. -/
def asciiLower (c : Char) : Char :=
  if 'A' ≤ c ∧ c ≤ 'Z' then Char.ofNat (c.toNat + 32) else c

/-- The capital of an ASCII lower-case letter; every other character is kept. -/
def asciiUpper (c : Char) : Char :=
  if 'a' ≤ c ∧ c ≤ 'z' then Char.ofNat (c.toNat - 32) else c

namespace Text

def trimStart (t : Text) : Text :=
  t.dropWhile isBlank

def trimEnd (t : Text) : Text :=
  (t.reverse.dropWhile isBlank).reverse

def trim (t : Text) : Text :=
  trimEnd (trimStart t)

/-- The number of bytes of the text in UTF-8. -/
def utf8Size : Text → Nat
  | [] => 0
  | c :: t => c.utf8Size + utf8Size t

/-- The text before the first `sep`, and the text after it when there is one. -/
def cut (sep : Char) : Text → Text × Option Text
  | [] => ([], none)
  | c :: t =>
    if c = sep then ([], some t)
    else
      let (before, after) := cut sep t
      (c :: before, after)

/-- The pieces between the occurrences of `sep`: the first, and one for each occurrence. -/
def split (sep : Char) : Text → Text × List Text
  | [] => ([], [])
  | c :: t =>
    let (piece, pieces) := split sep t
    if c = sep then ([], piece :: pieces) else (c :: piece, pieces)

/-- What is left of the text when it starts with the given one. -/
def dropStart? : (start t : Text) → Option Text
  | [], t => some t
  | _ :: _, [] => none
  | a :: start, c :: t => if a = c then dropStart? start t else none

/-- Replaces the occurrences of a non-empty text from left to right; `skip` characters still belong to
the occurrence replaced last. -/
def replaceFrom (pattern replacement : Text) : (skip : Nat) → Text → Text
  | _, [] => []
  | skip + 1, _ :: t => replaceFrom pattern replacement skip t
  | 0, c :: t =>
    if pattern.isPrefixOf (c :: t) then
      replacement ++ replaceFrom pattern replacement (pattern.length - 1) t
    else c :: replaceFrom pattern replacement 0 t

/-- Replaces every occurrence, the leftmost first and none overlapping another. An empty text occurs
before every character and at the end. -/
def replace (t pattern replacement : Text) : Text :=
  if pattern.isEmpty then t.flatMap (fun c => replacement ++ [c]) ++ replacement
  else replaceFrom pattern replacement 0 t

end Text

end TypedTemplate
