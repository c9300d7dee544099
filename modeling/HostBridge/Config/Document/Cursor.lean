/-!
# Places in a document

A cursor is a place in the text of a document: what is still to be read, and the line and column of it.
Lines end with a line feed or with one of three other characters; the mark of the byte order takes up no
column.
-/

namespace HostBridge.Config.Document

/-- Does the character end a line? -/
def isBreak (c : Char) : Bool :=
  c == '\n' || c == '\x85' || c == '\u2028' || c == '\u2029'

/-- What the end of a line stands for in a text. -/
def lineBreak (c : Char) : Char :=
  if c = '\x85' then '\n' else c

/-- A blank within a line. -/
def isSpace (c : Char) : Bool := c == ' ' || c == '\t'

/-- Does the character separate words? -/
def isSeparator (c : Char) : Bool := isSpace c || isBreak c

/-- Is there nothing, or a separator, at the beginning? -/
def startsSeparated : List Char → Bool
  | [] => true
  | c :: _ => isSeparator c

/-- Is there nothing, or a blank or the end of a line, at the beginning? A tab does not count. -/
def startsBlank : List Char → Bool
  | [] => true
  | c :: _ => c == ' ' || isBreak c

/-- Is this the end of a line or of the text? -/
def atLineEnd : List Char → Bool
  | [] => true
  | c :: _ => isBreak c

/-- Does a word of three characters stand here, apart from what follows? -/
def startsMark (word : String) (cs : List Char) : Bool :=
  cs.take 3 == word.toList && startsSeparated (cs.drop 3)

/-- Does a mark between documents stand here? -/
def startsBoundary (cs : List Char) : Bool :=
  startsMark "---" cs || startsMark "..." cs

/-- A place in a text. -/
structure Cursor where
  /-- What is still to be read. -/
  rest : List Char
  /-- How many characters have been read. -/
  index : Nat
  /-- The line, from zero. -/
  line : Nat
  /-- The column, from zero. -/
  column : Nat

namespace Cursor

/-- The beginning of a text. -/
def ofText (cs : List Char) : Cursor := { rest := cs, index := 0, line := 0, column := 0 }

/-- The place after the next character. -/
def next (k : Cursor) : Cursor :=
  match k.rest with
  | [] => k
  | c :: rest =>
    if isBreak c then { rest, index := k.index + 1, line := k.line + 1, column := 0 }
    else if c = '\ufeff' then { k with rest, index := k.index + 1 }
    else { k with rest, index := k.index + 1, column := k.column + 1 }

/-- The place after some more characters. -/
def skip : Nat → Cursor → Cursor
  | 0, k => k
  | n + 1, k => skip n k.next

/-- The characters from here on that satisfy a condition, and the place after them. -/
def span (p : Char → Bool) (k : Cursor) : List Char × Cursor :=
  let taken := k.rest.takeWhile p
  (taken, k.skip taken.length)

/-- The place after blanks. -/
def skipBlanks (k : Cursor) : Cursor := (k.span (· == ' ')).2

/-- The place after a comment, if one starts here. -/
def skipComment (k : Cursor) : Cursor :=
  match k.rest with
  | '#' :: _ => (k.span fun c => !isBreak c).2
  | _ => k

/-- The end of a line that stands here, and the place after it. -/
def takeBreak? (k : Cursor) : Option (Char × Cursor) :=
  match k.rest with
  | c :: _ => if isBreak c then some (lineBreak c, k.next) else none
  | [] => none

end Cursor

end HostBridge.Config.Document
