import HostBridge.Config.Document.Token

/-!
# The tree of a document

Tokens make up a tree of texts, rows and mappings, each with the kind that its tag names or its place and
spelling imply. A node may be given a name and used again under it.
-/

namespace HostBridge.Config.Document

/-- A node. -/
inductive Node where
  | text (kind : Kind) (text : String)
  | row (kind : Kind) (items : List Node)
  | mapping (kind : Kind) (entries : List (Node × Node))
deriving Repr, Inhabited

/-- The kind of a node. -/
def Node.kind : Node → Kind
  | .text kind _ | .row kind _ | .mapping kind _ => kind

/-- What reading a tree depends on and changes. -/
structure Growing where
  /-- The tokens that are left. -/
  tokens : List Token
  /-- What the handles of tags stand for. -/
  handles : List (String × String)
  /-- The named nodes; those that are still being read have no content yet. -/
  names : List (String × Option Node)

/-- Reading a tree. -/
abbrev Grow := StateT Growing (Except Fault)

namespace Grow

/-- The next token. -/
def peek : Grow Token := do
  match (← get).tokens with
  | token :: _ => return token
  | [] => return .finish

/-- Pass the next token. -/
def pass : Grow Unit := modify fun g => { g with tokens := g.tokens.drop 1 }

/-- The next token does not fit here. -/
def refuse {α : Type} : Grow α := do
  match ← peek with
  | .broken fault => throw fault
  | _ => throw Fault.malformed

/-- A text without content. -/
def nothing : Node := .text .absent ""

/-- Give a node a name. -/
def remember (name? : Option String) (node? : Option Node) : Grow Unit :=
  match name? with
  | some name => modify fun g => { g with names := (name, node?) :: g.names }
  | none => return

/-- The name and the tag before a node, in either order. -/
def properties : Grow (Option String × Option (Option String × String)) := do
  match ← peek with
  | .anchor name =>
    pass
    match ← peek with
    | .tag handle? suffix =>
      pass
      return (some name, some (handle?, suffix))
    | _ => return (some name, none)
  | .tag handle? suffix =>
    pass
    match ← peek with
    | .anchor name =>
      pass
      return (some name, some (handle?, suffix))
    | _ => return (none, some (handle?, suffix))
  | _ => return (none, none)

/-- The kind that a tag names, unless it leaves the kind open. -/
def kindOfTag (tag? : Option (Option String × String)) : Grow (Option Kind) := do
  match tag? with
  | none => return none
  | some (handle?, suffix) =>
    let tag ← match handle? with
      | none => pure suffix
      | some handle => match (← get).handles.lookup handle with
        | some beginning => pure (beginning ++ suffix)
        | none => throw Fault.malformed
    return if tag = "!" then none else some (.ofTag tag)

/-- The kind of a text: by its tag, by its spelling if it is plain or its tag leaves it open, or else a
text. -/
def textKind (tagged : Bool) (kind? : Option Kind) (text : String) (plain : Bool) : Kind :=
  match kind? with
  | some kind => kind
  | none => if plain || tagged then .ofWord text.toList else .text

mutual

/-- A node, in `rounds` rounds at most. Blocks may only stand in some places, and rows that are not indented
only as values of mappings. -/
def node : Nat → Bool → Bool → Grow Node
  | 0, _, _ => throw Fault.malformed
  | rounds + 1, block, unindented => do
    match ← peek with
    | .alias name =>
      match (← get).names.lookup name with
      | some node? =>
        pass
        return node?.getD nothing
      | none => throw Fault.malformed
    | _ =>
      let (name?, tag?) ← properties
      let kind? ← kindOfTag tag?
      match name? with
      | some name => if ((← get).names.lookup name).isSome then throw Fault.malformed
      | none => pure ()
      let made ← content rounds block unindented name? tag?.isSome kind?
      return made

/-- The content of a node whose name and tag have been read. -/
def content : Nat → Bool → Bool → Option String → Bool → Option Kind → Grow Node
  | 0, _, _, _, _, _ => throw Fault.malformed
  | rounds + 1, block, unindented, name?, tagged, kind? => do
    let rowOf (items : Grow (List Node)) : Grow Node := do
      remember name? none
      let made := Node.row (kind?.getD .row) (← items)
      remember name? (some made)
      return made
    let mappingOf (entries : Grow (List (Node × Node))) : Grow Node := do
      remember name? none
      let made := Node.mapping (kind?.getD .mapping) (← entries)
      remember name? (some made)
      return made
    match ← peek with
    | .text text plain =>
      pass
      let made := Node.text (textKind tagged kind? text plain) text
      remember name? (some made)
      return made
    | .flowSequenceStart =>
      pass
      rowOf (flowItems rounds true)
    | .flowMappingStart =>
      pass
      mappingOf (flowEntries rounds true)
    | .blockEntry => if unindented then rowOf (plainItems rounds) else nameOnly name? tagged kind?
    | .blockSequenceStart =>
      if block then
        pass
        rowOf (blockItems rounds)
      else nameOnly name? tagged kind?
    | .blockMappingStart =>
      if block then
        pass
        mappingOf (blockEntries rounds)
      else nameOnly name? tagged kind?
    | _ => nameOnly name? tagged kind?

/-- A node of which only the name or the tag is written. -/
def nameOnly (name? : Option String) (tagged : Bool) (kind? : Option Kind) : Grow Node := do
  if name?.isNone && !tagged then refuse
  else
    let made := Node.text (textKind true kind? "" true) ""
    remember name? (some made)
    return made

/-- The items of a block. -/
def blockItems : Nat → Grow (List Node)
  | 0 => throw Fault.malformed
  | rounds + 1 => do
    match ← peek with
    | .blockEntry =>
      pass
      let item ← match ← peek with
        | .blockEntry | .blockEnd => pure nothing
        | _ => node rounds true false
      return item :: (← blockItems rounds)
    | .blockEnd =>
      pass
      return []
    | _ => refuse

/-- The items of a row that is not indented. -/
def plainItems : Nat → Grow (List Node)
  | 0 => throw Fault.malformed
  | rounds + 1 => do
    match ← peek with
    | .blockEntry =>
      pass
      let item ← match ← peek with
        | .blockEntry | .key | .value | .blockEnd => pure nothing
        | _ => node rounds true false
      return item :: (← plainItems rounds)
    | _ => return []

/-- The entries of a block. A key may lack its value. -/
def blockEntries : Nat → Grow (List (Node × Node))
  | 0 => throw Fault.malformed
  | rounds + 1 => do
    let part : Grow Node := do
      pass
      match ← peek with
      | .key | .value | .blockEnd => return nothing
      | _ => node rounds true true
    let value : Grow Node := do
      match ← peek with
      | .value => part
      | _ => return nothing
    match ← peek with
    | .key =>
      let k ← part
      let v ← value
      return (k, v) :: (← blockEntries rounds)
    | .blockEnd =>
      pass
      return []
    | _ => refuse

/-- The items between brackets. A key in front of an item makes a mapping of it. -/
def flowItems : Nat → Bool → Grow (List Node)
  | 0, _ => throw Fault.malformed
  | rounds + 1, first => do
    match ← peek with
    | .flowSequenceEnd =>
      pass
      return []
    | token =>
      if !first then
        match token with
        | .flowEntry => pass
        | _ => refuse
      match ← peek with
      | .flowSequenceEnd =>
        pass
        return []
      | .key =>
        pass
        let k ← match ← peek with
          | .value | .flowEntry | .flowSequenceEnd => pure nothing
          | _ => node rounds false false
        let v ← match ← peek with
          | .value => do
            pass
            match ← peek with
            | .flowEntry | .flowSequenceEnd => pure nothing
            | _ => node rounds false false
          | _ => pure nothing
        return .mapping .mapping [(k, v)] :: (← flowItems rounds false)
      | _ =>
        let item ← node rounds false false
        return item :: (← flowItems rounds false)

/-- The entries between braces. -/
def flowEntries : Nat → Bool → Grow (List (Node × Node))
  | 0, _ => throw Fault.malformed
  | rounds + 1, first => do
    match ← peek with
    | .flowMappingEnd =>
      pass
      return []
    | token =>
      if !first then
        match token with
        | .flowEntry => pass
        | _ => refuse
      match ← peek with
      | .flowMappingEnd =>
        pass
        return []
      | .key =>
        pass
        let k ← match ← peek with
          | .value | .flowEntry | .flowMappingEnd => pure nothing
          | _ => node rounds false false
        let v ← match ← peek with
          | .value => do
            pass
            match ← peek with
            | .flowEntry | .flowMappingEnd => pure nothing
            | _ => node rounds false false
          | _ => pure nothing
        return (k, v) :: (← flowEntries rounds false)
      | _ =>
        let k ← node rounds false false
        return (k, nothing) :: (← flowEntries rounds false)

end

/-- What the handles of tags stand for without directives. -/
def usualHandles : List (String × String) := [("!", "!"), ("!!", commonTag)]

/-- Read directives: at most one version, and that a known one, and each handle once. -/
def directives : Nat → Bool → List (String × String) → Grow (List (String × String))
  | 0, _, handles => return handles
  | rounds + 1, versioned, handles => do
    match ← peek with
    | .directive d =>
      pass
      match d with
      | .version major _ =>
        if versioned || major != 1 then throw Fault.malformed
        directives rounds true handles
      | .tagBeginning handle beginning =>
        if (handles.lookup handle).isSome then throw Fault.malformed
        directives rounds versioned ((handle, beginning) :: handles)
      | .other => directives rounds versioned handles
    | _ => return handles

/-- Pass the marks that end a document. -/
def passEnds : Nat → Grow Unit
  | 0 => return
  | rounds + 1 => do
    match ← peek with
    | .documentEnd =>
      pass
      passEnds rounds
    | _ => return

/-- The only document of a text, if there is one. -/
def document (rounds : Nat) : Grow (Option Node) := do
  let explicitly : Grow (Option Node) := do
    passEnds rounds
    match ← peek with
    | .finish => return none
    | _ =>
      let handles ← directives rounds false []
      modify fun g => { g with handles := handles ++ usualHandles }
      match ← peek with
      | .documentStart => pass
      | _ => refuse
      match ← peek with
      | .directive _ | .documentStart | .documentEnd | .finish => return some nothing
      | _ => return some (← node rounds true false)
  let made? ← match ← peek with
    | .directive _ | .documentStart | .finish => explicitly
    | _ => do
      let made ← node rounds true false
      pure (some made)
  passEnds rounds
  match ← peek with
  | .finish => return made?
  | _ => refuse

end Grow

/-- The tree of the only document in a text; there is none in an empty text. -/
def Node.ofText (cs : List Char) : Except Fault (Option Node) :=
  let tokens := Token.ofText cs
  (Grow.document (2 * tokens.length + 2)).run' { tokens, handles := Grow.usualHandles, names := [] }

end HostBridge.Config.Document
