import HostBridge.Logging.Record
import HostBridge.Text.Word
import HostBridge.Time.Pattern
import HostBridge.Value.Equality

/-!
# Line formats

A line format turns a record into a line of text: a template whose conversions name the fields of the
record, a date pattern, and whether levels are coloured. A template that names no field is refused. The time of a
record is a moment in a place, written under the date pattern. Not every number is a moment, and not every moment
has a text: years have thirty-two bits.
-/

namespace HostBridge.Logging

open Number (twoTo)

/-! ## Times -/

/-- The fault of a number of seconds that no clock counts. -/
def beyondClock : Fault :=
  .standard .overflow "timestamp out of range for platform time_t"

/-- The whole second of a number of seconds. -/
def wholeSecond (v : Value) : Except Fault Int :=
  match v.plain with
  | .int n =>
    if -(twoTo 63 : Int) ≤ n ∧ n < twoTo 63 then .ok n else .error beyondClock
  | .bool b => .ok (if b then 1 else 0)
  | .float x =>
    if x.isNaN then .error (.standard .value "Invalid value NaN (not a number)")
    else if !x.isFinite then .error beyondClock
    else
      let n := x.truncate
      let n := if x.isNegative && !x.equalsInt n then n - 1 else n
      if -(twoTo 63 : Int) ≤ n ∧ n < twoTo 63 then .ok n else .error beyondClock
  | _ => .error (.misuse .type ("'" ++ v.typeName ++ "' object cannot be interpreted as an integer"))

/-- The moment of a number of seconds in a zone. The calendar counts years from 1900, in thirty-two bits. -/
def momentOf (zone : Time.Zone) (seconds : Value) : Except Fault Time.Moment := do
  let moment := Time.Moment.ofEpoch zone (← wholeSecond seconds)
  if -(twoTo 31 : Int) ≤ moment.year - 1900 ∧ moment.year - 1900 < twoTo 31 then return moment
  else throw (.standard .os "[Errno 75] Value too large for defined data type")

/-- The text of a moment under a pattern in a place. -/
def dateText (place : Time.Place) (m : Time.Moment) (pattern : String) : Except Fault String :=
  if (twoTo 31 : Int) ≤ m.year then
    .error (.standard .overflow "signed integer is greater than maximum")
  else if pattern.contains '\x00' then .error (.standard .value "embedded null character")
  else .ok (m.render place pattern)

/-! ## Lines -/

/-- A line format. -/
structure LineFormat where
  /-- The template. -/
  template : String
  /-- The pattern for dates, if any. -/
  datePattern? : Option String
  /-- Are levels coloured? -/
  coloured : Bool
deriving DecidableEq, Repr

namespace LineFormat

/-- The template that an empty one stands for. -/
def messageOnly : String := "%(message)s"

/-- Is this a letter of a conversion, in either case? Dotted and dotless letters count as the same, and so
does the long form of a letter. -/
def isConversionLetter (c : Char) : Bool :=
  "diouxefgcrsa%İıſ".toList.contains c.toLower

/-- What follows a width or precision; none may stand here. -/
def skipCount : List Char → List Char
  | '*' :: rest => rest
  | cs => cs.dropWhile fun c => (Text.digitValue? c).isSome

/-- Does a complete conversion with a name start after this percent sign? -/
def startsField : List Char → Bool
  | '(' :: rest =>
    match rest.dropWhile Text.isWord with
    | ')' :: after =>
      let cs := skipCount (after.dropWhile fun c => "#0+ -".toList.contains c)
      let cs := match cs with
        | '.' :: digits =>
          let rest := skipCount digits
          if rest.length < digits.length then rest else cs
        | cs => cs
      (rest.head?.any Text.isWord) && cs.head?.any isConversionLetter
    | _ => false
  | _ => false

/-- Does a template name a field? -/
def namesField : List Char → Bool
  | [] => false
  | '%' :: rest => startsField rest || namesField rest
  | _ :: rest => namesField rest

/-- Make a line format. -/
def make (template : String) (datePattern? : Option String) (coloured : Bool) :
    Except Fault LineFormat :=
  let template := if template.isEmpty then messageOnly else template
  if namesField template.toList then .ok { template, datePattern?, coloured }
  else .error (.standard .value ("Invalid format '" ++ template ++ "' for '%' style"))

/-- The colours of levels, as terminals understand them. -/
def colours : List (String × String) :=
  [("DEBUG", "\x1b[37m"), ("INFO", "\x1b[32m"), ("WARNING", "\x1b[33m"), ("ERROR", "\x1b[31m"),
    ("CRITICAL", "\x1b[41m")]

/-- Ends a colour. -/
def colourEnd : String := "\x1b[0m"

/-- The name of a level in its colour. Other names have none. -/
def colourLevel (coloured : Bool) (name : Value) : Except Fault Value :=
  if coloured then
    match name.plain with
    | .text s => match colours.lookup s with
      | some colour => .ok (.text (colour ++ s ++ colourEnd))
      | none => .ok name
    | _ =>
      if name.hashable then .ok name
      else .error (.misuse .type ("unhashable type: '" ++ name.typeName ++ "'"))
  else .ok name

/-- Does a list occur in another one, without gaps? -/
def occursIn (part : List Char) : List Char → Bool
  | [] => part.isEmpty
  | c :: rest => part.isPrefixOf (c :: rest) || occursIn part rest

/-- Does the template ask for the time? -/
def usesTime (f : LineFormat) : Bool :=
  occursIn "%(asctime)".toList f.template.toList

/-- The pattern for dates when there is none. -/
def usualDatePattern : String := "%Y-%m-%d %H:%M:%S"

/-- The time of a record: under the pattern, or to the millisecond. -/
def timeText (f : LineFormat) (r : Record) : Except Fault String := do
  let moment ← momentOf r.place.zone r.created
  let pattern := f.datePattern?.getD ""
  if pattern.isEmpty then
    Text.Template.fill "%s,%03d" [.text (← dateText r.place moment usualDatePattern), r.milliseconds]
  else dateText r.place moment pattern

/-- The fields of a record with its message, its level in colour and its time. -/
def fields (r : Record) (message : String) (levelInColour : Value) (time? : Option String) :
    List (String × Value) :=
  [("message", .text message), ("levelname_color", levelInColour)] ++
  (match time? with
    | some time => [("asctime", .text time)]
    | none => []) ++
  [("name", r.logger), ("msg", r.template), ("args", r.arguments), ("levelname", r.levelName),
    ("levelno", r.level), ("threadName", r.thread), ("created", r.created),
    ("msecs", r.milliseconds)] ++ r.others

/-- Fill the template with fields. -/
def fillFields (template : String) (fields : List (String × Value)) : Except Fault String :=
  match Text.Template.fillFrom template (.dict (fields.map fun e => (.text e.1, e.2)))
      (fun name => fields.lookup name) with
  | .error (.standard .key name) =>
    .error (.standard .value ("Formatting field not found in record: " ++ Text.quote name))
  | result => result

/-- A text with another one on the next line. -/
def withNextLine (text : String) (v : Value) : Except Fault String :=
  match v.plain with
  | .text next => .ok ((if text.toList.getLast? = some '\n' then text else text ++ "\n") ++ next)
  | _ => .error (.misuse .type ("can only concatenate str (not \"" ++ v.typeName ++ "\") to str"))

/-- Does a record say that something was thrown? -/
def hasThrown (r : Record) : Bool := r.trace?.isSome || (r.other "exc_info").truthy

/-- The text of what was thrown. Where nothing was, an attribute may still say so: then it should hold a kind, a
thing thrown and a trace, and there is nothing to show. -/
def thrownText (r : Record) : Except Fault Value :=
  match r.trace?, r.other "exc_info" with
  | some trace, _ => .ok (.text trace)
  | none, .list items | none, .tuple items => match items with
    | [_, .nil, .nil] => .ok (.text "NoneType: None")
    | _ :: _ :: _ :: _ => .error (.misuse .absentAttribute "no trace")
    | _ => .error (.standard (.named "IndexError") ((r.other "exc_info").typeName ++ " index out of range"))
  | none, v => .error (.misuse .type ("'" ++ v.typeName ++ "' object is not subscriptable"))

/-- The line of a record (`_LevelColorFormatter.format`), with what was thrown and the stack on lines of their own. -/
def format (f : LineFormat) (r : Record) : Except Fault String := do
  let levelInColour ← colourLevel f.coloured r.levelName
  let message ← r.message
  let time? ← if f.usesTime then (f.timeText r).map some else pure none
  let line ← fillFields f.template (fields r message levelInColour time?)
  let thrown ← if hasThrown r && !(r.other "exc_text").truthy then thrownText r else pure (r.other "exc_text")
  let line ← if thrown.truthy then withNextLine line thrown else pure line
  let stack := r.other "stack_info"
  if stack.truthy then withNextLine line stack else return line

end LineFormat

end HostBridge.Logging
