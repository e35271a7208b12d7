import TypedTemplate.Number.Decimal
import TypedTemplate.Toml.Value
/-!
# TOML scalars

Strings, numbers, truth values, dates and times as TOML 1.0 writes them. A reader takes the text at hand and
gives a value with the text behind it, or nothing when the text does not start with such a value. Strings
are read in two passes: up to the closing quotes first, then the escapes inside.
-/

namespace TypedTemplate.Toml

def isInlineBlank (c : Char) : Bool :=
  c == ' ' || c == '\t'

/-- A character that may stand in a comment or a string: no control character but the tab. -/
def isPrintable (c : Char) : Bool :=
  c == '\t' || (' ' ≤ c && c != '\x7F')

def skipBlanks (t : Text) : Text :=
  t.dropWhile isInlineBlank

/-- The text behind an end of line. -/
def newline? : Text → Option Text
  | '\n' :: t => some t
  | '\r' :: '\n' :: t => some t
  | _ => none

/-! ### Strings -/

def hexDigit? (c : Char) : Option Nat :=
  if '0' ≤ c ∧ c ≤ '9' then some (c.toNat - '0'.toNat)
  else if 'a' ≤ c ∧ c ≤ 'f' then some (c.toNat - 'a'.toNat + 10)
  else if 'A' ≤ c ∧ c ≤ 'F' then some (c.toNat - 'A'.toNat + 10)
  else none

def hexNumber? (digits : Text) : Option Nat :=
  digits.foldlM (fun n c => (hexDigit? c).map (16 * n + ·)) 0

/-- The character with the code point that the first `width` characters give in hexadecimal. -/
def codePoint? (width : Nat) (t : Text) : Option Char :=
  if t.length < width then none
  else
    match hexNumber? (t.take width) with
    | some n => if n.isValidChar then some (Char.ofNat n) else none
    | none => none

/-- What follows a backslash: the character it stands for, and how many characters that takes. -/
def escape? : Text → Option (Char × Nat)
  | 'b' :: _ => some ('\x08', 1)
  | 't' :: _ => some ('\t', 1)
  | 'n' :: _ => some ('\n', 1)
  | 'f' :: _ => some ('\x0C', 1)
  | 'r' :: _ => some ('\r', 1)
  | '"' :: _ => some ('"', 1)
  | '\\' :: _ => some ('\\', 1)
  | 'u' :: t => (codePoint? 4 t).map (·, 5)
  | 'U' :: t => (codePoint? 8 t).map (·, 9)
  | _ => none

def isLayout (c : Char) : Bool :=
  isInlineBlank c || c == '\n' || c == '\r'

/-- How many characters a backslash at the end of a line swallows; none when it does not end its line. -/
def swallowed (t : Text) : Nat :=
  if (newline? (skipBlanks t)).isSome then (t.takeWhile isLayout).length else 0

/-- Puts in what the escapes of a string stand for, the first `skip` characters being read already. In a
string of several lines an end of line is one line feed. -/
def unescape (lines : Bool) : (skip : Nat) → Text → Option Text
  | _, [] => some []
  | skip + 1, _ :: t => unescape lines skip t
  | 0, c :: t =>
    if c = '\\' then
      if lines && swallowed t != 0 then unescape lines (swallowed t) t
      else
        match escape? t with
        | some (e, width) => (unescape lines width t).map (e :: ·)
        | none => none
    else if c = '\r' then unescape lines 0 t
    else (unescape lines 0 t).map (c :: ·)

/-- The body of a string of one line up to its closing quote. -/
def closeBasic? : Text → Option (Text × Text)
  | [] => none
  | '"' :: t => some ([], t)
  | '\\' :: c :: t => (closeBasic? t).map fun (body, rest) => ('\\' :: c :: body, rest)
  | c :: t =>
    if isPrintable c then (closeBasic? t).map fun (body, rest) => (c :: body, rest) else none

/-- The body of a literal string of one line up to its closing quote. -/
def closeLiteral? : Text → Option (Text × Text)
  | [] => none
  | '\'' :: t => some ([], t)
  | c :: t =>
    if isPrintable c then (closeLiteral? t).map fun (body, rest) => (c :: body, rest) else none

/-- Whether a character may stand in a string of several lines, given what follows it. -/
def isLineChar (c : Char) (t : Text) : Bool :=
  isPrintable c || c == '\n' || (c == '\r' && t.head? == some '\n')

/-- The body of a string of several lines up to its three closing quotes; one or two more quotes before
them belong to the body. -/
def closeLines? (quote : Char) (escapes : Bool) : Text → Option (Text × Text)
  | [] => none
  | c :: t =>
    if c = quote ∧ t.take 4 = [quote, quote, quote, quote] then some ([quote, quote], t.drop 4)
    else if c = quote ∧ t.take 3 = [quote, quote, quote] then some ([quote], t.drop 3)
    else if c = quote ∧ t.take 2 = [quote, quote] then some ([], t.drop 2)
    else if escapes && c = '\\' then
      match t with
      | [] => none
      | e :: t =>
        if isLineChar e t then
          (closeLines? quote escapes t).map fun (body, rest) => (c :: e :: body, rest)
        else none
    else if isLineChar c t then
      (closeLines? quote escapes t).map fun (body, rest) => (c :: body, rest)
    else none

def dropNewline (t : Text) : Text :=
  (newline? t).getD t

/-- Decodes the body of a string, keeping the text behind it. -/
def decodeBody (decode : Text → Option Text) : Text × Text → Option (Text × Text)
  | (body, rest) => (decode body).map (·, rest)

/-- A body in which only ends of line change. -/
def joinLines (body : Text) : Text :=
  body.filter (· != '\r')

def lineString? : Text → Option (Text × Text)
  | '"' :: t => (closeBasic? t).bind (decodeBody (unescape false 0))
  | '\'' :: t => closeLiteral? t
  | _ => none

def string? : Text → Option (Text × Text)
  | '"' :: '"' :: '"' :: t =>
    (closeLines? '"' true (dropNewline t)).bind (decodeBody (unescape true 0))
  | '\'' :: '\'' :: '\'' :: t =>
    (closeLines? '\'' false (dropNewline t)).bind (decodeBody fun body => some (joinLines body))
  | t => lineString? t

/-! ### Numbers -/

/-- Digits with single underscores between them, without the underscores. -/
def digits? (isDigit : Char → Bool) : Text → Option Text
  | [] => none
  | [c] => if isDigit c then some [c] else none
  | c :: '_' :: t => if isDigit c then (digits? isDigit t).map (c :: ·) else none
  | c :: t => if isDigit c then (digits? isDigit t).map (c :: ·) else none

/-- Decimal digits without a zero in front. -/
def wholeDigits? (t : Text) : Option Text :=
  match digits? Char.isDigit t with
  | some ('0' :: _ :: _) => none
  | digits => digits

/-- Reads digits of a base in front of which `0` and a letter stand. -/
def based? (isDigit : Char → Bool) (base : Nat) (t : Text) : Option Int :=
  match digits? isDigit t with
  | some digits =>
    let n : Int := digits.foldl (fun n c => base * n + (hexDigit? c).getD 0) 0
    if n ≤ Int64.maxValue.toInt then some n else none
  | none => none

def integer? : Text → Option Int
  | '0' :: 'x' :: t => based? (fun c => (hexDigit? c).isSome) 16 t
  | '0' :: 'o' :: t => based? (fun c => '0' ≤ c && c ≤ '7') 8 t
  | '0' :: 'b' :: t => based? (fun c => c == '0' || c == '1') 2 t
  | t =>
    let (negative, unsigned) := Decimal.takeSign t
    match wholeDigits? unsigned with
    | some digits =>
      let n : Int := Nat.ofDigitChars 10 digits 0
      let n := if negative then -n else n
      if Int64.minValue.toInt ≤ n ∧ n ≤ Int64.maxValue.toInt then some n else none
    | none => none

def isExponent (t : Text) : Bool :=
  (digits? Char.isDigit (Decimal.takeSign t).2).isSome

def isExponentMark (c : Char) : Bool :=
  c == 'e' || c == 'E'

/-- Whether a text is the decimals of a number and an exponent that may be missing. -/
def isFraction (t : Text) : Bool :=
  let (decimals, exponent) := t.span fun c => !isExponentMark c
  (digits? Char.isDigit decimals).isSome && (exponent.isEmpty || isExponent (exponent.drop 1))

def isFloat (t : Text) : Bool :=
  let (whole, rest) := (Decimal.takeSign t).2.span fun c => c != '.' && !isExponentMark c
  (wholeDigits? whole).isSome &&
    match rest with
    | '.' :: rest => isFraction rest
    | _ :: rest => isExponent rest
    | [] => false

/-- Reads a number with decimals or an exponent, an infinity, or `nan`. A numeral too large for 64 bits is
refused unless it is negative. -/
def float? (t : Text) : Option Binary64 :=
  let (negative, word) := Decimal.takeSign t
  if word = ['i', 'n', 'f'] then some (.infinite negative)
  else if word = ['n', 'a', 'n'] then some .nan
  else if isFloat t then
    match (Decimal.read? (t.filter (· != '_'))).map Binary64.ofDecimal with
    | some x => if x = .infinite false then none else some x
    | none => none
  else none

/-! ### Dates and times -/

/-- Reads a number of exactly `width` digits that is at most `max`. -/
def field? (width max : Nat) (t : Text) : Option (Nat × Text) :=
  let digits := t.take width
  let n := Nat.ofDigitChars 10 digits 0
  if digits.length = width && digits.all Char.isDigit && n ≤ max then some (n, t.drop width)
  else none

def daysIn (year month : Nat) : Nat :=
  if month = 2 then
    if year % 4 = 0 ∧ (year % 100 ≠ 0 ∨ year % 400 = 0) then 29 else 28
  else if month = 4 ∨ month = 6 ∨ month = 9 ∨ month = 11 then 30
  else 31

def date? (t : Text) : Option (Text × Text) := do
  let (year, rest) ← field? 4 9999 t
  let rest ← Text.dropStart? ['-'] rest
  let (month, rest) ← field? 2 12 rest
  let rest ← Text.dropStart? ['-'] rest
  let (day, rest) ← field? 2 31 rest
  if month = 0 ∨ day = 0 ∨ daysIn year month < day then none
  else some (t.take 10, rest)

/-- Reads a fraction of a second; nine digits of it count, and zeros at its end are not written. -/
def secondFraction? : Text → Option (Text × Text)
  | '.' :: t =>
    let (digits, rest) := t.span Char.isDigit
    if digits.isEmpty then none
    else
      let kept := ((digits.take 9).reverse.dropWhile (· == '0')).reverse
      some (if kept.isEmpty then [] else '.' :: kept, rest)
  | t => some ([], t)

def time? (t : Text) : Option (Text × Text) := do
  let (_, rest) ← field? 2 23 t
  let rest ← Text.dropStart? [':'] rest
  let (_, rest) ← field? 2 59 rest
  let rest ← Text.dropStart? [':'] rest
  let (_, rest) ← field? 2 60 rest
  let (fraction, rest) ← secondFraction? rest
  some (t.take 8 ++ fraction, rest)

/-- Reads the distance of a time zone, which may be missing. -/
def offset? (t : Text) : Option (Text × Text) :=
  match t with
  | 'Z' :: rest => some (['Z'], rest)
  | 'z' :: rest => some (['Z'], rest)
  | c :: rest =>
    if c = '+' ∨ c = '-' then do
      let (hour, rest) ← field? 2 23 rest
      let rest ← Text.dropStart? [':'] rest
      let (minute, rest) ← field? 2 59 rest
      let written := t.take 6
      some (if hour = 0 ∧ minute = 0 then '+' :: written.drop 1 else written, rest)
    else some ([], t)
  | [] => some ([], [])

def zonedTime? (t : Text) : Option (Text × Text) := do
  let (time, rest) ← time? t
  let (zone, rest) ← offset? rest
  some (time ++ zone, rest)

def startsDate (t : Text) : Bool :=
  (t.take 4).all Char.isDigit && (t.drop 4).head? == some '-'

def startsTime (t : Text) : Bool :=
  (t.take 2).all Char.isDigit && (t.drop 2).head? == some ':'

/-- Reads a date, a time, or both. A blank divides them only when a time follows it. -/
def dateTime? (t : Text) : Option (Text × Text) :=
  if startsTime t then time? t
  else do
    let (date, rest) ← date? t
    match rest with
    | c :: behind =>
      if c = 'T' ∨ c = 't' ∨ (c = ' ' ∧ startsTime behind) then do
        let (time, rest) ← zonedTime? behind
        some (date ++ 'T' :: time, rest)
      else some (date, rest)
    | [] => some (date, [])

/-- A character of a word that is not a string. -/
def isWordChar (c : Char) : Bool :=
  c.isAlphanum || c == '+' || c == '-' || c == '_' || c == '.'

/-- Reads a truth value or a number that fills a whole word. -/
def word? (w : Text) : Option Value :=
  if w = ['t', 'r', 'u', 'e'] then some (.boolean true)
  else if w = ['f', 'a', 'l', 's', 'e'] then some (.boolean false)
  else
    match integer? w with
    | some n => some (.integer n)
    | none => (float? w).map .float

/-- Reads a scalar. -/
def scalar? (t : Text) : Option (Value × Text) :=
  if t.head? = some '"' ∨ t.head? = some '\'' then
    (string? t).map fun (s, rest) => (.string s, rest)
  else if startsDate t || startsTime t then
    (dateTime? t).map fun (d, rest) => (.dateTime d, rest)
  else
    let (w, rest) := t.span isWordChar
    (word? w).map (·, rest)

end TypedTemplate.Toml
