import HostBridge.Text.Word

/-!
# Source fragments

A piece of source may be given in several fragments. Source text is often written inside an indented block, so
every line carries an indentation that is not part of it. The margin is the longest row of spaces and tabs that
all lines with other characters begin with; dedenting removes it and empties the lines that hold nothing else.
Each fragment is dedented and stripped, blank ones are dropped, and the rest become one text, a line feed between
them.
-/

namespace HostBridge.Source

/-- Indentation is made of spaces and tabs; the two are different characters. -/
def isIndent (c : Char) : Bool :=
  c == ' ' || c == '\t'

/-- Split a text at its line feeds; there is always at least one line. -/
def lines : List Char → List (List Char)
  | [] => [[]]
  | c :: rest =>
    if c = '\n' then [] :: lines rest
    else match lines rest with
      | [] => [[c]]
      | line :: others => (c :: line) :: others

/-- Put the lines together again. -/
def unlines (ls : List (List Char)) : List Char :=
  Text.join ['\n'] ls

/-- The row of spaces and tabs at the start of a line. -/
def indentation (line : List Char) : List Char :=
  line.takeWhile isIndent

/-- Does the line hold anything but spaces and tabs? -/
def hasContent (line : List Char) : Bool :=
  line.any fun c => !isIndent c

/-- The longest text that both begin with. -/
def commonStart : List Char → List Char → List Char
  | a :: as, b :: bs => if a = b then a :: commonStart as bs else []
  | _, _ => []

/-- The longest text that all of several begin with; empty for none at all. -/
def commonStarts : List (List Char) → List Char
  | [] => []
  | first :: rest => rest.foldl commonStart first

/-- What every line with content begins with. -/
def margin (ls : List (List Char)) : List Char :=
  commonStarts ((ls.filter hasContent).map indentation)

/-- Remove a margin from one line, or empty a line without content. -/
def dedentLine (m line : List Char) : List Char :=
  if hasContent line then line.drop m.length else []

/-- Remove the margin from every line. -/
def dedent (text : List Char) : List Char :=
  let ls := lines text
  unlines (ls.map (dedentLine (margin ls)))

/-- One fragment without its margin and without blanks at its ends. -/
def tidy (fragment : List Char) : List Char :=
  Text.strip (dedent fragment)

/-- The fragments that hold more than blanks, each tidied. -/
def tidied (fragments : List (List Char)) : List (List Char) :=
  (fragments.filter fun f => !Text.allBlank f).map tidy

/-- One source text from several fragments. -/
def joinFragments (fragments : List (List Char)) : List Char :=
  unlines (tidied fragments)

/-- One source text from several fragments, as strings (`join_forms`). -/
def joinForms (fragments : List String) : String :=
  String.ofList (joinFragments (fragments.map String.toList))

end HostBridge.Source
