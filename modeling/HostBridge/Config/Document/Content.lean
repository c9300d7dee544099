import HostBridge.Config.Document.Node
import HostBridge.Config.Document.Scalar
import HostBridge.Value.Equality

/-!
# Values of documents

A tree of nodes means a value. Values are made level by level: of several faults the one that is nearest to
the root counts, and of those on one level the first one. So the faults are collected together with their
levels while the value is made, and one of them is chosen at the end.
-/

namespace HostBridge.Config.Document

/-- A fault and its level. -/
abbrev Finding := Nat × Fault

/-- Making a value, and collecting faults meanwhile. -/
abbrev Making := StateM (List Finding)

namespace Node

/-- Note a fault on a level. The absent value takes the place of the one that cannot be made. -/
def fail (level : Nat) (fault : Fault) : Making Value :=
  modifyGet fun findings => (.nil, findings ++ [(level, fault)])

/-- The text of a node where a text is wanted; a mapping may have an entry that stands in for it. -/
def textOf : Nat → Node → Except Fault String
  | 0, _ => .error .malformed
  | _ + 1, .text _ word => .ok word
  | _ + 1, .row .. => .error .malformed
  | rounds + 1, .mapping _ entries =>
    match entries.find? fun e => e.1.kind == .standIn with
    | some e => textOf rounds e.2
    | none => .error .malformed

/-- The entries of mappings that are to be merged: those of a mapping, or of all mappings of a row, where the
first one counts most. -/
def mergedEntries (flatten : List (Node × Node) → Option (List (Node × Node))) :
    Node → Option (List (Node × Node))
  | .mapping _ entries => flatten entries
  | .row _ items => do
    let parts ← items.mapM fun item => match item with
      | .mapping _ entries => flatten entries
      | _ => none
    return parts.reverse.flatten
  | .text .. => none

/-- The entries of a mapping: first those that are merged into it, then its own ones. -/
def flatten : Nat → List (Node × Node) → Option (List (Node × Node))
  | 0, _ => none
  | rounds + 1, entries => do
    let merged ← (entries.filter fun e => e.1.kind == .merge).mapM fun e =>
      mergedEntries (flatten rounds) e.2
    let own := entries.filter fun e => e.1.kind != .merge
    return merged.flatten ++ own.map fun e => match e.1 with
      | .text .standIn word => (.text .text word, e.2)
      | .row .standIn items => (.row .text items, e.2)
      | .mapping .standIn entries => (.mapping .text entries, e.2)
      | _ => e

mutual

/-- The value of a node on a level, in at most so many rounds. -/
def make : Nat → Nat → Node → Making Value
  | 0, level, _ => fail level .malformed
  | rounds + 1, level, node =>
    match node.kind with
    | .row => match node with
      | .row _ items => return .list (← items.mapM (make rounds (level + 1)))
      | _ => fail (level + 1) .malformed
    | .mapping => return .dict (← makeEntries rounds (level + 1) node)
    | .set => return .set ((← makeEntries rounds (level + 1) node).map (·.1))
    | .ordered | .pairs => match node with
      | .row _ items => return .list (← items.mapM (makePair rounds (level + 1)))
      | _ => fail (level + 1) .malformed
    | kind => match (textOf (rounds + 1) node).bind (Scalar.valueAs kind) with
      | .ok v => return v
      | .error fault => fail level fault

/-- The entries of a mapping. Values that can change cannot be keys. -/
def makeEntries : Nat → Nat → Node → Making (List (Value × Value))
  | 0, level, _ => do
    discard <| fail level .malformed
    return []
  | rounds + 1, level, node => do
    let entries? := match node with
      | .mapping _ entries => flatten rounds entries
      | _ => none
    match entries? with
    | none =>
      discard <| fail level .malformed
      return []
    | some entries =>
      entries.foldlM (fun made e => do
        let k ← make rounds level e.1
        if !k.hashable then discard <| fail level .malformed
        let v ← make rounds level e.2
        return Value.putEntry made k v) []

/-- The only entry of a mapping, as a pair. -/
def makePair : Nat → Nat → Node → Making Value
  | 0, level, _ => fail level .malformed
  | rounds + 1, level, node =>
    match node with
    | .mapping _ [(k, v)] => return .tuple [← make rounds level k, ← make rounds level v]
    | _ => fail level .malformed

end

/-- The fault that counts: the nearest to the root, and of those the first. -/
def decisive : List Finding → Option Finding
  | [] => none
  | finding :: rest => match decisive rest with
    | none => some finding
    | some other => if other.1 < finding.1 then some other else some finding

/-- The value of a tree of at most so many levels. -/
def value (levels : Nat) (node : Node) : Except Fault Value :=
  match (make (2 * levels + 2) 0 node).run [] with
  | (v, findings) => match decisive findings with
    | some finding => .error finding.2
    | none => .ok v

end Node

end HostBridge.Config.Document
