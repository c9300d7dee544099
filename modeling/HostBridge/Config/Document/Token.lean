import HostBridge.Config.Document.Text

/-!
# Tokens of a document

A document is cut into tokens. In block style the structure lies in the indentation, so the beginning and
the end of blocks are tokens of their own. That a word is a key shows only at the colon after it; the token
of the key is put in front of it then, which is why a word that may be a key is kept in mind, until its
line ends or it has become too long.
-/

namespace HostBridge.Config.Document

/-- A directive before a document. -/
inductive Directive where
  | version (major minor : Nat)
  | tagBeginning (handle beginning : String)
  | other
deriving DecidableEq, Repr

/-- A token. -/
inductive Token where
  | documentStart
  | documentEnd
  | directive (d : Directive)
  | blockSequenceStart
  | blockMappingStart
  | blockEnd
  | flowSequenceStart
  | flowSequenceEnd
  | flowMappingStart
  | flowMappingEnd
  | blockEntry
  | flowEntry
  | key
  | value
  | alias (name : String)
  | anchor (name : String)
  /-- A tag: its handle, unless it is written out, and the rest of it. -/
  | tag (handle? : Option String) (suffix : String)
  | text (text : String) (plain : Bool)
  /-- The end of the text. -/
  | finish
  /-- Nothing can be read from here on. -/
  | broken (fault : Fault)
deriving Repr

/-! ## Names, tags and directives -/

/-- May the character stand in the name of an anchor or of a tag handle? -/
def isNameChar (c : Char) : Bool := c.isAlphanum || c == '-' || c == '_'

/-- May the character stand in a tag? -/
def isTagChar (c : Char) : Bool := c.isAlphanum || "-;/?:@&=+$,_.!~*'()[]%".toList.contains c

/-- The name of an anchor. -/
def anchorName (k : Cursor) : Except Fault (String × Cursor) :=
  let (name, k) := k.span isNameChar
  let closed := startsSeparated k.rest || k.rest.head?.any fun c => "?:,]\x7d%@\x60".toList.contains c
  if name.isEmpty || !closed then .error .malformed else .ok (String.ofList name, k)

/-- The bytes that escapes at the beginning stand for, and how many escapes there are. -/
def tagEscapes : List Char → Option (List UInt8)
  | '%' :: rest => match rest with
    | a :: b :: rest =>
      match hexNumber? 2 [a, b], tagEscapes rest with
      | some n, some bytes => some (UInt8.ofNat n :: bytes)
      | _, _ => none
    | _ => none
  | _ => some []

/-- The characters of a tag from here on. Escaped bytes have to spell characters. -/
def tagText : Nat → List Char → Cursor → TextReading
  | 0, _, _ => .error .malformed
  | rounds + 1, text, k =>
    match k.rest with
    | '%' :: _ => match tagEscapes k.rest with
      | some bytes => match String.fromUTF8? (ByteArray.mk bytes.toArray) with
        | some s => tagText rounds (text ++ s.toList) (k.skip (3 * bytes.length))
        | none => .error .malformed
      | none => .error .malformed
    | _ =>
      match k.span fun c => isTagChar c && c != '%' with
      | ([], k) => if text.isEmpty then .error .malformed else .ok (text, k)
      | (part, k) => tagText rounds (text ++ part) k

/-- The handle of a tag: an exclamation mark, or a name between two of them. -/
def tagHandle (k : Cursor) : Except Fault (String × Cursor) :=
  match k.rest with
  | '!' :: rest =>
    let name := rest.takeWhile isNameChar
    if rest.head? = some ' ' then .ok ("!", k.next)
    else match rest.drop name.length with
      | '!' :: _ => .ok (String.ofList ('!' :: name ++ ['!']), k.skip (name.length + 2))
      | _ => .error .malformed
  | _ => .error .malformed

/-- A tag. -/
def tagToken (k : Cursor) : Except Fault (Token × Cursor) := do
  let rest := k.rest.drop 1
  let (token, k) ← match rest with
    | '<' :: _ => do
      let (suffix, k) ← tagText (rest.length + 1) [] (k.skip 2)
      match k.rest with
      | '>' :: _ => pure (Token.tag none (String.ofList suffix), k.next)
      | _ => throw Fault.malformed
    | rest =>
      if startsSeparated rest then pure (Token.tag none "!", k.next)
      else do
        let named := (rest.takeWhile fun c => !(c == ' ' || isBreak c)).contains '!'
        let (handle, k) ← if named then tagHandle k else pure ("!", k.next)
        let (suffix, k) ← tagText (rest.length + 1) [] k
        pure (Token.tag (some handle) (String.ofList suffix), k)
  if startsBlank k.rest then return (token, k) else throw .malformed

/-- A number of a version. -/
def versionNumber (k : Cursor) : Except Fault (Nat × Cursor) :=
  match k.span Char.isDigit with
  | ([], _) => .error .malformed
  | (ds, k) => .ok (number ds, k)

/-- A directive and the rest of its line. -/
def directiveToken (k : Cursor) : Except Fault (Token × Cursor) := do
  let (name, k) := k.next.span isNameChar
  if name.isEmpty || !startsBlank k.rest then throw .malformed
  let (directive, k) ←
    if name = "YAML".toList then do
      let (major, k) ← versionNumber k.skipBlanks
      if k.rest.head? ≠ some '.' then throw Fault.malformed
      let (minor, k) ← versionNumber k.next
      if !startsBlank k.rest then throw Fault.malformed
      pure (Directive.version major minor, k)
    else if name = "TAG".toList then do
      let (handle, k) ← tagHandle k.skipBlanks
      if k.rest.head? ≠ some ' ' then throw Fault.malformed
      let k := k.skipBlanks
      let (beginning, k) ← tagText (k.rest.length + 1) [] k
      if !startsBlank k.rest then throw Fault.malformed
      pure (Directive.tagBeginning handle (String.ofList beginning), k)
    else pure (Directive.other, (k.span fun c => !isBreak c).2)
  return (.directive directive, ← skipLine k)

/-! ## Cutting -/

/-- A place where a word begins that may turn out to be a key. -/
structure Candidate where
  /-- How many tokens stand before it. -/
  position : Nat
  /-- Does the indentation demand a key here? -/
  required : Bool
  /-- How many characters stand before it. -/
  index : Nat
  /-- Its line. -/
  line : Nat
  /-- Its column. -/
  column : Nat

/-- How far cutting has come. -/
structure Cutting where
  /-- The place in the text. -/
  cursor : Cursor
  /-- The tokens so far, latest first. -/
  tokens : List Token
  /-- How many tokens there are. -/
  count : Nat
  /-- How many brackets are open. -/
  flow : Nat
  /-- The indentation of the innermost block. -/
  indent : Int
  /-- The indentations of the blocks around it. -/
  indents : List Int
  /-- May a word that begins here be a key? -/
  keyAllowed : Bool
  /-- The words that may be keys: at most one for each number of open brackets. -/
  candidates : List (Nat × Candidate)

namespace Cutting

/-- Nothing has been cut yet. -/
def start (cs : List Char) : Cutting :=
  { cursor := .ofText cs, tokens := [], count := 0, flow := 0, indent := -1, indents := []
    keyAllowed := true, candidates := [] }

/-- Add a token. -/
def emit (c : Cutting) (token : Token) : Cutting :=
  { c with tokens := token :: c.tokens, count := c.count + 1 }

/-- Put a token behind the first `position` ones. -/
def insert (c : Cutting) (position : Nat) (token : Token) : Cutting :=
  let later := c.count - position
  { c with tokens := c.tokens.take later ++ token :: c.tokens.drop later, count := c.count + 1 }

/-- Close the blocks that are indented more than a column. Inside brackets indentation means nothing. -/
def closeBlocks (column : Int) : List Int → Cutting → Cutting
  | [], c => c
  | outer :: rest, c =>
    if c.flow = 0 ∧ column < c.indent then
      closeBlocks column rest { c.emit .blockEnd with indent := outer, indents := rest }
    else c

/-- Close the blocks that are indented more than a column. -/
def unwind (c : Cutting) (column : Int) : Cutting := closeBlocks column c.indents c

/-- Open a block at a column, unless one is open there: its first token stands behind `position` ones. -/
def openBlock (c : Cutting) (column position : Nat) (token : Token) : Cutting :=
  if c.indent < column then
    { c.insert position token with indent := column, indents := c.indent :: c.indents }
  else c

/-- Forget the words that cannot be keys any more. One that has to be a key is a fault. -/
def forgetStale (c : Cutting) : Except Fault Cutting :=
  let stale (e : Nat × Candidate) : Bool :=
    e.2.line != c.cursor.line || 1024 < c.cursor.index - e.2.index
  if c.candidates.any fun e => stale e && e.2.required then .error .malformed
  else .ok { c with candidates := c.candidates.filter fun e => !stale e }

/-- Forget the word that may be a key between these brackets. -/
def forgetCandidate (c : Cutting) : Except Fault Cutting :=
  match c.candidates.lookup c.flow with
  | some candidate =>
    if candidate.required then .error .malformed
    else .ok { c with candidates := c.candidates.filter (·.1 != c.flow) }
  | none => .ok c

/-- Keep in mind that a word begins here, if it may be a key. -/
def noteCandidate (c : Cutting) : Except Fault Cutting := do
  if !c.keyAllowed then return c
  let required := c.flow == 0 && c.indent == c.cursor.column
  let c ← c.forgetCandidate
  let candidate : Candidate :=
    { position := c.count, required, index := c.cursor.index, line := c.cursor.line
      column := c.cursor.column }
  return { c with candidates := (c.flow, candidate) :: c.candidates }

/-- Move on by some characters and add a token. -/
def step (c : Cutting) (length : Nat) (token : Token) : Cutting :=
  { c.emit token with cursor := c.cursor.skip length }

/-- The end of the text. -/
def finish (c : Cutting) : Except Fault Cutting := do
  let c ← (c.unwind (-1)).forgetCandidate
  return { c.emit .finish with keyAllowed := false, candidates := [] }

/-- A mark between documents. -/
def boundary (c : Cutting) (token : Token) : Except Fault Cutting := do
  let c ← (c.unwind (-1)).forgetCandidate
  return { c.step 3 token with keyAllowed := false }

/-- A directive. -/
def directive (c : Cutting) : Except Fault Cutting := do
  let c ← (c.unwind (-1)).forgetCandidate
  let (token, cursor) ← directiveToken c.cursor
  return { c.emit token with keyAllowed := false, cursor }

/-- An opening bracket. -/
def openFlow (c : Cutting) (token : Token) : Except Fault Cutting := do
  let c ← c.noteCandidate
  return { c.step 1 token with flow := c.flow + 1, keyAllowed := true }

/-- A closing bracket. -/
def closeFlow (c : Cutting) (token : Token) : Except Fault Cutting := do
  let c ← c.forgetCandidate
  return { c.step 1 token with flow := c.flow - 1, keyAllowed := false }

/-- A comma between brackets. -/
def flowEntry (c : Cutting) : Except Fault Cutting := do
  let c ← c.forgetCandidate
  return { c.step 1 .flowEntry with keyAllowed := true }

/-- A dash before an item. -/
def blockEntry (c : Cutting) : Except Fault Cutting := do
  if c.flow = 0 ∧ !c.keyAllowed then throw .malformed
  let c := if c.flow = 0 then c.openBlock c.cursor.column c.count .blockSequenceStart else c
  let c ← c.forgetCandidate
  return { c.step 1 .blockEntry with keyAllowed := true }

/-- A question mark before a key. -/
def keyMark (c : Cutting) : Except Fault Cutting := do
  if c.flow = 0 ∧ !c.keyAllowed then throw .malformed
  let c := if c.flow = 0 then c.openBlock c.cursor.column c.count .blockMappingStart else c
  let c ← c.forgetCandidate
  return { c.step 1 .key with keyAllowed := c.flow == 0 }

/-- A colon before a value. The word before it is a key if it may be one. -/
def valueMark (c : Cutting) : Except Fault Cutting := do
  match c.candidates.lookup c.flow with
  | some candidate =>
    let c := { c with candidates := c.candidates.filter (·.1 != c.flow) }
    let c := c.insert candidate.position .key
    let c :=
      if c.flow = 0 then c.openBlock candidate.column candidate.position .blockMappingStart else c
    return { c.step 1 .value with keyAllowed := false }
  | none =>
    if c.flow = 0 ∧ !c.keyAllowed then throw .malformed
    let c := if c.flow = 0 then c.openBlock c.cursor.column c.count .blockMappingStart else c
    let c ← c.forgetCandidate
    return { c.step 1 .value with keyAllowed := c.flow == 0 }

/-- A token that may begin a key. -/
def word (c : Cutting) (read : Cursor → Except Fault (Token × Cursor)) : Except Fault Cutting := do
  let c ← c.noteCandidate
  let (token, cursor) ← read c.cursor
  return { c.emit token with keyAllowed := false, cursor }

/-- A plain text. Behind it a key may begin if its line has ended. -/
def plain (c : Cutting) : Except Fault Cutting := do
  let c ← c.noteCandidate
  let k := c.cursor
  let read := plainText (c.flow != 0) (c.indent + 1) (k.rest.length + 1) [] [] false k
  return { c.emit (.text (String.ofList read.text) true) with
    keyAllowed := read.lineEnded, cursor := read.cursor }

/-- A block of lines. -/
def block (c : Cutting) (fold : Bool) : Except Fault Cutting := do
  let c ← c.forgetCandidate
  let (text, cursor) ← blockText fold c.indent c.cursor.next
  return { c.emit (.text (String.ofList text) false) with keyAllowed := true, cursor }

/-- Skip blanks, comments and the ends of lines. -/
def skipToToken : Nat → Cutting → Cutting
  | 0, c => c
  | rounds + 1, c =>
    let k := c.cursor.skipBlanks.skipComment
    match k.takeBreak? with
    | none => { c with cursor := k }
    | some (_, k) => skipToToken rounds { c with cursor := k, keyAllowed := c.keyAllowed || c.flow == 0 }

/-- Does a plain text begin here? -/
def startsPlain (flow : Bool) : List Char → Bool
  | [] => false
  | c :: rest =>
    !(isSeparator c || "-?:,[]\x7b\x7d#&*!|>'\"%@\x60".toList.contains c) ||
      (!startsSeparated rest && (c == '-' || (!flow && (c == '?' || c == ':'))))

/-- Read the name of an alias or an anchor. -/
def nameToken (make : String → Token) (k : Cursor) : Except Fault (Token × Cursor) :=
  (anchorName k.next).map fun r => (make r.1, r.2)

/-- Read a quoted text. -/
def quotedToken (double : Bool) (k : Cursor) : Except Fault (Token × Cursor) :=
  (quotedText double (k.rest.length + 1) [] k.next).map fun r => (.text (String.ofList r.1) false, r.2)

/-- Cut the next token off, which is not the last one. -/
def cut (c : Cutting) : Except Fault Cutting :=
  let rest := c.cursor.rest
  let inFlow := c.flow != 0
  let apart := inFlow || startsSeparated (rest.drop 1)
  let atStart := c.cursor.column == 0
  match rest.head? with
  | some '%' => if atStart then c.directive else .error .malformed
  | some '[' => c.openFlow .flowSequenceStart
  | some '\x7b' => c.openFlow .flowMappingStart
  | some ']' => c.closeFlow .flowSequenceEnd
  | some '\x7d' => c.closeFlow .flowMappingEnd
  | some ',' => c.flowEntry
  | some '*' => c.word (nameToken .alias)
  | some '&' => c.word (nameToken .anchor)
  | some '!' => c.word tagToken
  | some '\'' => c.word (quotedToken false)
  | some '"' => c.word (quotedToken true)
  | some first =>
    if atStart && startsMark "---" rest then c.boundary .documentStart
    else if atStart && startsMark "..." rest then c.boundary .documentEnd
    else if first = '-' ∧ startsSeparated (rest.drop 1) then c.blockEntry
    else if first = '?' ∧ apart then c.keyMark
    else if first = ':' ∧ apart then c.valueMark
    else if first = '|' ∧ !inFlow then c.block false
    else if first = '>' ∧ !inFlow then c.block true
    else if startsPlain inFlow rest then c.plain
    else .error .malformed
  | none => c.finish

/-- Cut a text to its end, in at most so many rounds. -/
def run : Nat → Cutting → List Token
  | 0, c => (c.emit (.broken .malformed)).tokens
  | rounds + 1, c =>
    let c := skipToToken (rounds + 1) c
    match c.forgetStale with
    | .error fault => (c.emit (.broken fault)).tokens
    | .ok c =>
      let c := c.unwind c.cursor.column
      match c.cut with
      | .error fault => (c.emit (.broken fault)).tokens
      | .ok next => if c.cursor.rest.isEmpty then next.tokens else run rounds next

end Cutting

/-- The tokens of a text. -/
def Token.ofText (cs : List Char) : List Token :=
  let cs := match cs with
    | '\ufeff' :: rest => rest
    | cs => cs
  (Cutting.run (cs.length + 2) (.start cs)).reverse

end HostBridge.Config.Document
