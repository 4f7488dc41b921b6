import TrackResolver.Text.Digits

/-!
# Blanks, texts and keys

The parts of a TOML document that have no structure of their own. A `Scan` reads one at the front of
a text and hands on what is left; it has no answer where the part is not well-formed.
-/
namespace TrackResolver.Toml

open Text (isHexDigit digitsValue)

/-- Reads something at the front of a text. -/
abbrev Scan (α : Type) := List Char → Option (α × List Char)

/-! ## Blanks -/

def isBlank (c : Char) : Bool := c = ' ' || c = '\t'

/-- A character that stands for itself in comments and texts. -/
def isPlain (c : Char) : Bool := c = '\t' || (0x20 ≤ c.toNat && c.toNat ≠ 0x7f)

def skipBlanks (cs : List Char) : List Char := cs.dropWhile isBlank

/-- The text behind a line break. -/
def newline? : List Char → Option (List Char)
  | '\n' :: cs => some cs
  | '\r' :: '\n' :: cs => some cs
  | _ => none

/-- The text behind a comment, if one begins here. -/
def skipComment : List Char → List Char
  | '#' :: cs => cs.dropWhile isPlain
  | cs => cs

/-- The text behind the rest of a line on which nothing stands but a comment. -/
def lineEnd? (cs : List Char) : Option (List Char) :=
  match skipComment (skipBlanks cs) with
  | [] => some []
  | cs => newline? cs

/-- The text behind blanks, line breaks and comments; `fuel` bounds the number of lines. -/
def skipLines : Nat → List Char → List Char
  | 0, cs => cs
  | fuel + 1, cs =>
    let cs := skipBlanks cs
    match newline? (skipComment cs) with
    | some cs => skipLines fuel cs
    | none => cs

def skipGap (cs : List Char) : List Char := skipLines (cs.length + 1) cs

/-! ## Texts -/

/-- The character whose code point is written in `n` digits. -/
def codePoint (n : Nat) : Scan Char := fun cs =>
  let digits := cs.take n
  let code := digitsValue 16 digits
  if digits.length = n && digits.all isHexDigit && code.isValidChar then
    some (Char.ofNat code, cs.drop n)
  else none

/-- What stands behind a backslash. -/
def escape : Scan Char
  | 'b' :: cs => some ('\x08', cs)
  | 'f' :: cs => some ('\x0c', cs)
  | 'n' :: cs => some ('\n', cs)
  | 'r' :: cs => some ('\r', cs)
  | 't' :: cs => some ('\t', cs)
  | '"' :: cs => some ('"', cs)
  | '\\' :: cs => some ('\\', cs)
  | 'u' :: cs => codePoint 4 cs
  | 'U' :: cs => codePoint 8 cs
  | _ => none

/-- The rest of a text in double quotes, after the characters `done`, latest first. -/
def basicRest : Nat → List Char → Scan String
  | 0, _, _ => none
  | fuel + 1, done, cs =>
    match cs with
    | [] => none
    | '"' :: cs => some (String.ofList done.reverse, cs)
    | '\\' :: cs => do
      let (c, cs) ← escape cs
      basicRest fuel (c :: done) cs
    | c :: cs => if isPlain c then basicRest fuel (c :: done) cs else none

/-- The text behind blanks and line breaks; `fuel` bounds the number of lines. -/
def skipBlankLines : Nat → List Char → List Char
  | 0, cs => cs
  | fuel + 1, cs =>
    let cs := skipBlanks cs
    match newline? cs with
    | some cs => skipBlankLines fuel cs
    | none => cs

/-- The text behind the line break that a backslash takes away, with all blanks and line breaks that
follow. -/
def foldedLine? (cs : List Char) : Option (List Char) :=
  (newline? (skipBlanks cs)).map fun cs => skipBlankLines (cs.length + 1) cs

/-- The closing of a text in three quotes, before which up to two more may stand: how many, and what
is left. -/
def closing? (quote : Char) : List Char → Option (Nat × List Char)
  | a :: b :: c :: cs =>
    if a = quote && b = quote && c = quote then
      let more := (cs.take 2).takeWhile (· = quote)
      some (more.length, cs.drop more.length)
    else none
  | _ => none

/-- The rest of a text in three double quotes. -/
def longBasicRest : Nat → List Char → Scan String
  | 0, _, _ => none
  | fuel + 1, done, cs =>
    match closing? '"' cs with
    | some (n, cs) => some (String.ofList (List.replicate n '"' ++ done).reverse, cs)
    | none =>
      match newline? cs with
      | some cs => longBasicRest fuel ('\n' :: done) cs
      | none =>
        match cs with
        | [] => none
        | '\\' :: cs =>
          match foldedLine? cs with
          | some cs => longBasicRest fuel done cs
          | none => do
            let (c, cs) ← escape cs
            longBasicRest fuel (c :: done) cs
        | c :: cs => if isPlain c then longBasicRest fuel (c :: done) cs else none

/-- The rest of a text in single quotes. -/
def literalRest : Nat → List Char → Scan String
  | 0, _, _ => none
  | fuel + 1, done, cs =>
    match cs with
    | [] => none
    | '\x27' :: cs => some (String.ofList done.reverse, cs)
    | c :: cs => if isPlain c then literalRest fuel (c :: done) cs else none

/-- The rest of a text in three single quotes. -/
def longLiteralRest : Nat → List Char → Scan String
  | 0, _, _ => none
  | fuel + 1, done, cs =>
    match closing? '\x27' cs with
    | some (n, cs) => some (String.ofList (List.replicate n '\x27' ++ done).reverse, cs)
    | none =>
      match newline? cs with
      | some cs => longLiteralRest fuel ('\n' :: done) cs
      | none =>
        match cs with
        | [] => none
        | c :: cs => if isPlain c then longLiteralRest fuel (c :: done) cs else none

/-- A text on one line, behind its first quote. -/
def basic (cs : List Char) : Option (String × List Char) := basicRest (cs.length + 1) [] cs

def literal (cs : List Char) : Option (String × List Char) := literalRest (cs.length + 1) [] cs

/-- A text in three quotes, behind them; a line break at its beginning does not count. -/
def longBasic (cs : List Char) : Option (String × List Char) :=
  let cs := (newline? cs).getD cs
  longBasicRest (cs.length + 1) [] cs

def longLiteral (cs : List Char) : Option (String × List Char) :=
  let cs := (newline? cs).getD cs
  longLiteralRest (cs.length + 1) [] cs

/-- A text of any kind. -/
def quotedText : Scan String
  | '"' :: '"' :: '"' :: cs => longBasic cs
  | '"' :: cs => basic cs
  | '\x27' :: '\x27' :: '\x27' :: cs => longLiteral cs
  | '\x27' :: cs => literal cs
  | _ => none

/-! ## Keys -/

def isBare (c : Char) : Bool := c.isAlphanum || c = '_' || c = '-'

/-- One part of a key. -/
def simpleKey : Scan String
  | '"' :: cs => basic cs
  | '\x27' :: cs => literal cs
  | cs =>
    let name := cs.takeWhile isBare
    if name.isEmpty then none else some (String.ofList name, cs.dropWhile isBare)

/-- The parts of a key between dots, at most `limit`. Blanks may stand around each. -/
def keyParts : Nat → Scan (List String)
  | 0, _ => none
  | limit + 1, cs => do
    let (part, cs) ← simpleKey (skipBlanks cs)
    match skipBlanks cs with
    | '.' :: cs => do
      let (parts, cs) ← keyParts limit cs
      return (part :: parts, cs)
    | cs => return ([part], cs)

/-- How deep keys and values may go. -/
def depthLimit : Nat := 79

def key : Scan (List String) := keyParts depthLimit

end TrackResolver.Toml
