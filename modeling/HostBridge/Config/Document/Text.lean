import HostBridge.Config.Document.Cursor
import HostBridge.Config.Document.Kind
import HostBridge.Fault

/-!
# Texts in a document

A text is written plain, between quotes, or as a block of lines. Lines that are folded are joined by a
blank, and empty lines between them stay as line breaks. Double quotes know escapes; a block keeps its
lines, or folds them too.
-/

namespace HostBridge.Config.Document

/-- A text that was read, and the place after it. -/
abbrev TextReading := Except Fault (List Char × Cursor)

/-- What a break between two lines stands for, together with the breaks of the empty lines after it. -/
def folded (first : Char) (breaks : List Char) : List Char :=
  (if first ≠ '\n' then [first] else if breaks.isEmpty then [' '] else []) ++ breaks

/-! ## Plain texts -/

/-- A part of a plain text within a line and without blanks. Inside brackets more characters end it. -/
def plainWord (flow : Bool) : List Char → List Char
  | [] => []
  | c :: rest =>
    let closes (c : Char) : Bool := flow && ",[]\x7b\x7d".toList.contains c
    if isSeparator c || closes c || (flow && c == '?') ||
        (c == ':' && (startsSeparated rest || rest.head?.any closes)) then []
    else c :: plainWord flow rest

/-- The breaks of empty lines, and the place after them and after the blanks of the next line. A mark
between documents ends them; then there are none. -/
def plainBreaks : Nat → List Char → Cursor → Option (List Char) × Cursor
  | 0, breaks, k => (some breaks.reverse, k)
  | rounds + 1, breaks, k =>
    let k := k.skipBlanks
    match k.takeBreak? with
    | none => (some breaks.reverse, k)
    | some (b, k) =>
      if startsBoundary k.rest then (none, k) else plainBreaks rounds (b :: breaks) k

/-- What stands between two words of a plain text, the place after it, and whether a line ended there.
Nothing at all, or a mark between documents, ends the text. -/
def plainGap (k : Cursor) : Option (List Char) × Bool × Cursor :=
  let (blanks, k) := k.span (· == ' ')
  match k.takeBreak? with
  | none => (if blanks.isEmpty then none else some blanks, false, k)
  | some (b, k) =>
    if startsBoundary k.rest then (none, true, k)
    else match plainBreaks (k.rest.length + 1) [] k with
      | (none, k) => (none, true, k)
      | (some breaks, k) => (some (folded b breaks), true, k)

/-- What a plain text came to. -/
structure PlainText where
  /-- The text. -/
  text : List Char
  /-- Has a line ended after its last word? -/
  lineEnded : Bool
  /-- The place after it. -/
  cursor : Cursor

/-- Read a plain text whose lines are indented at least so far, after the words in `text`. -/
def plainText (flow : Bool) (indent : Int) : Nat → List Char → List Char → Bool → Cursor → PlainText
  | 0, text, _, lineEnded, k => { text, lineEnded, cursor := k }
  | rounds + 1, text, gap, lineEnded, k =>
    match plainWord flow k.rest with
    | [] => { text, lineEnded, cursor := k }
    | word =>
      let text := text ++ gap ++ word
      match plainGap (k.skip word.length) with
      | (none, ended, k) => { text, lineEnded := ended, cursor := k }
      | (some gap, ended, k) =>
        if k.rest.head? = some '#' || (!flow && k.column < indent) then
          { text, lineEnded := ended, cursor := k }
        else plainText flow indent rounds text gap ended k

/-! ## Quoted texts -/

/-- The breaks of empty lines within quotes, and the place after them. -/
def quotedBreaks : Nat → List Char → Cursor → TextReading
  | 0, _, _ => .error .malformed
  | rounds + 1, breaks, k =>
    if startsBoundary k.rest then .error .malformed
    else
      let k := (k.span isSpace).2
      match k.takeBreak? with
      | none => .ok (breaks.reverse, k)
      | some (b, k) => quotedBreaks rounds (b :: breaks) k

/-- The character that a backslash and a letter stand for. -/
def escape? : Char → Option Char
  | '0' => some '\x00'
  | 'a' => some '\x07'
  | 'b' => some '\x08'
  | 't' | '\t' => some '\t'
  | 'n' => some '\n'
  | 'v' => some '\x0b'
  | 'f' => some '\x0c'
  | 'r' => some '\r'
  | 'e' => some '\x1b'
  | ' ' => some ' '
  | '"' => some '"'
  | '\\' => some '\\'
  | '/' => some '/'
  | 'N' => some '\x85'
  | '_' => some '\u00a0'
  | 'L' => some '\u2028'
  | 'P' => some '\u2029'
  | _ => none

/-- How many digits follow a letter that starts the number of a character. -/
def escapeWidth? : Char → Option Nat
  | 'x' => some 2
  | 'u' => some 4
  | 'U' => some 8
  | _ => none

/-- The value of a digit in base sixteen. -/
def hexDigit? (c : Char) : Option Nat :=
  if c.isDigit then some (c.toNat - '0'.toNat)
  else if 'a' ≤ c ∧ c ≤ 'f' then some (c.toNat - 'a'.toNat + 10)
  else if 'A' ≤ c ∧ c ≤ 'F' then some (c.toNat - 'A'.toNat + 10)
  else none

/-- The number that so many digits in base sixteen spell. -/
def hexNumber? (width : Nat) (cs : List Char) : Option Nat :=
  let ds := (cs.take width).filterMap hexDigit?
  if ds.length = width then some (ds.foldl (fun n d => 16 * n + d) 0) else none

/-- The second half of a character that is written in two halves. -/
def secondHalf? : List Char → Option Nat
  | '\\' :: 'u' :: rest => (hexNumber? 4 rest).filter fun n => 0xdc00 ≤ n ∧ n < 0xe000
  | _ => none

/-- The character with a number. -/
def characterOf (n : Nat) : Except Fault Char :=
  if n < 0x110000 then .ok (Char.ofNat n)
  else if n < 0x80000000 then .error (.standard .value "chr() arg not in range(0x110000)")
  else .error (.standard .overflow "Python int too large to convert to C int")

/-- What the escape after a backslash stands for, and the place after it. -/
def escaped (k : Cursor) : TextReading :=
  match k.rest with
  | [] => .error .malformed
  | c :: rest =>
    match escape? c, escapeWidth? c with
    | some d, _ => .ok ([d], k.next)
    | none, some width =>
      match hexNumber? width rest with
      | none => .error .malformed
      | some n =>
        let k := k.skip (1 + width)
        match (if 0xd800 ≤ n ∧ n < 0xdc00 then secondHalf? k.rest else none) with
        | some low => .ok ([Char.ofNat (0x10000 + (n - 0xd800) * 0x400 + (low - 0xdc00))], k.skip 6)
        | none => (characterOf n).map fun d => ([d], k)
    | none, none =>
      match k.takeBreak? with
      | some (_, k) => quotedBreaks (k.rest.length + 1) [] k
      | none => .error .malformed

/-- Read a text up to its closing quote, after the characters in `text`, which stand in reverse. -/
def quotedText (double : Bool) : Nat → List Char → Cursor → TextReading
  | 0, _, _ => .error .malformed
  | rounds + 1, text, k =>
    match k.rest with
    | [] => .error .malformed
    | c :: rest =>
      if c = (if double then '"' else '\'') then
        if !double && rest.head? = some '\'' then quotedText double rounds ('\'' :: text) (k.skip 2)
        else .ok (text.reverse, k.next)
      else if double && c = '\\' then do
        let (part, k) ← escaped k.next
        quotedText double rounds (part.reverse ++ text) k
      else if isSeparator c then do
        let (blanks, k) := k.span isSpace
        match k.takeBreak? with
        | none => quotedText double rounds (blanks.reverse ++ text) k
        | some (b, k) =>
          let (breaks, k) ← quotedBreaks (k.rest.length + 1) [] k
          quotedText double rounds ((folded b breaks).reverse ++ text) k
      else quotedText double rounds (c :: text) k.next

/-! ## Blocks of lines -/

/-- What becomes of the line breaks at the end of a block. -/
inductive Chomping where
  /-- All are dropped. -/
  | strip
  /-- One is kept. -/
  | clip
  /-- All are kept. -/
  | keep
deriving DecidableEq, Repr

/-- The header of a block: what becomes of its last breaks, and its indentation if that is given. -/
def blockHeader (k : Cursor) : Except Fault ((Chomping × Option Nat) × Cursor) :=
  let chomping? : Char → Option Chomping
    | '+' => some .keep
    | '-' => some .strip
    | _ => none
  let step (k : Cursor) (c : Char) : Except Fault (Option (Nat × Cursor)) :=
    if c = '0' then .error .malformed
    else if c.isDigit then .ok (some (c.toNat - '0'.toNat, k.next))
    else .ok none
  match k.rest with
  | [] => .ok ((.clip, none), k)
  | c :: _ =>
    match chomping? c with
    | some chomping => do
      let k := k.next
      match ← step k (k.rest.head?.getD ' ') with
      | some (n, k) => .ok ((chomping, some n), k)
      | none => .ok ((chomping, none), k)
    | none => do
      match ← step k c with
      | some (n, k) => match k.rest.head?.bind chomping? with
        | some chomping => .ok ((chomping, some n), k.next)
        | none => .ok ((.clip, some n), k)
      | none => .ok ((.clip, none), k)

/-- The place after the rest of a line, on which only a comment may stand. -/
def skipLine (k : Cursor) : Except Fault Cursor :=
  let k := k.skipBlanks.skipComment
  if atLineEnd k.rest then .ok ((k.takeBreak?.map (·.2)).getD k) else .error .malformed

/-- The breaks of the empty lines before a block, its indentation, and the place of its first line. -/
def blockIndentation : Nat → List Char → Nat → Cursor → (List Char × Nat) × Cursor
  | 0, breaks, indent, k => ((breaks.reverse, indent), k)
  | rounds + 1, breaks, indent, k =>
    let k := k.skipBlanks
    let indent := max indent k.column
    match k.takeBreak? with
    | some (b, k) => blockIndentation rounds (b :: breaks) indent k
    | none => ((breaks.reverse, indent), k)

/-- The place at an indentation, or where the blanks end before it. -/
def skipIndent (indent : Nat) (k : Cursor) : Cursor :=
  k.skip (min (indent - k.column) (k.rest.takeWhile (· == ' ')).length)

/-- The breaks of empty lines within a block, and the place after them. -/
def blockBreaks (indent : Nat) : Nat → List Char → Cursor → List Char × Cursor
  | 0, breaks, k => (breaks.reverse, k)
  | rounds + 1, breaks, k =>
    let k := skipIndent indent k
    match k.takeBreak? with
    | some (b, k) => blockBreaks indent rounds (b :: breaks) k
    | none => (breaks.reverse, k)

/-- The lines of a block after the text so far and the breaks before the next line: the text, the break of
its last line, the breaks of the empty lines after it, and the place after them. -/
def blockLines (fold : Bool) (indent : Nat) :
    Nat → List Char → List Char → Option Char → Cursor →
    (List Char × List Char × List Char) × Cursor
  | 0, text, breaks, last, k => ((text, last.toList, breaks), k)
  | rounds + 1, text, breaks, last, k =>
    if k.column ≠ indent || k.rest.isEmpty then ((text, last.toList, breaks), k)
    else
      let flush := !(k.rest.head?.any isSpace)
      let (line, k) := k.span fun c => !isBreak c
      let text := text ++ breaks ++ line
      let (last, k) := match k.takeBreak? with
        | some (b, k) => (some b, k)
        | none => (none, k)
      let (breaks, k) := blockBreaks indent (k.rest.length + 1) [] k
      if k.column ≠ indent || k.rest.isEmpty then ((text, last.toList, breaks), k)
      else
        let between :=
          if fold && last = some '\n' && flush && !(k.rest.head?.any isSpace) then
            if breaks.isEmpty then [' '] else []
          else last.toList
        blockLines fold indent rounds (text ++ between) breaks none k

/-- Read a block inside an indentation. -/
def blockText (fold : Bool) (outer : Int) (k : Cursor) : TextReading := do
  let ((chomping, given?), k) ← blockHeader k
  if !startsBlank k.rest then throw .malformed
  let k ← skipLine k
  let least : Nat := max 1 (outer + 1).toNat
  let rounds := k.rest.length + 1
  let (breaks, indent, k) := match given? with
    | none =>
      let ((breaks, found), k) := blockIndentation rounds [] 0 k
      (breaks, max least found, k)
    | some n =>
      let indent := least + n - 1
      let (breaks, k) := blockBreaks indent rounds [] k
      (breaks, indent, k)
  let ((text, last, breaks), k) := blockLines fold indent rounds [] breaks none k
  return (text ++ (if chomping = .strip then [] else last) ++ (if chomping = .keep then breaks else []), k)

end HostBridge.Config.Document
