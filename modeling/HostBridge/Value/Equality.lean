import HostBridge.Value

/-!
# Equality of values

The equality that a host compares with. Numbers are equal when they have one value, whatever their kind,
and a truth value counts as zero or one. Containers are equal item by item. Other objects equal only
themselves. A not-a-number equals nothing, but as an item of a container it matches itself.
-/

namespace HostBridge

namespace Primitive

/-- The integer that a truth value or an integer stands for. -/
def integer? : Primitive → Option Int
  | .bool b => some (if b then 1 else 0)
  | .int n => some n
  | _ => none

/-- Equality of primitives. -/
def equal (p q : Primitive) : Bool :=
  match p, q with
  | .nil, .nil => true
  | .text s, .text t => s == t
  | .float x, .float y => x.sameValue y
  | .float x, q => q.integer?.any x.equalsInt
  | p, .float y => p.integer?.any y.equalsInt
  | p, q => match p.integer?, q.integer? with
    | some m, some n => m == n
    | _, _ => false

end Primitive

namespace Value

open Number (twoTo)

mutual

/-- Equality of values; as items of a container, two floating-point numbers with the same bits match
whatever they are. -/
def equalAs (item : Bool) : Value → Value → Bool
  | .prim p, .prim q => p.equal q || (item && p == q)
  | .prim p, .derived _ b => p.equal b.primitive
  | .derived _ a, .prim q => a.primitive.equal q
  | .derived c a, .derived d b => a.primitive.equal b.primitive || (item && c == d && a == b)
  | .bytes a, .bytes b => a == b
  | .list as, .list bs => equalItems as bs
  | .tuple as, .tuple bs => equalItems as bs
  | .dict as, .dict bs => as.length == bs.length && entriesWithin as bs
  | .set as, .set bs => as.length == bs.length && itemsWithin as bs
  | .date a, .date b => a == b
  | .dateTime a, .dateTime b => a.same b
  | .object i, .object j => i == j
  | .symbol s, .symbol t => s == t
  | .keyword s, .keyword t => s == t
  | .coll k as, .coll l bs => k == l && equalItems as bs
  | .var ns s, .var ms t => ns == ms && s == t
  | .function i _, .function j _ => i == j
  | .scope s, .scope t => s == t
  | .fixture f, .fixture g => f == g
  | .counter i, .counter j => i == j
  | .javaClass s, .javaClass t => s == t
  | .javaObject s v, .javaObject t w => s == t && equalAs true v w
  | .javaMethod _ c s, .javaMethod _ d t => c == d && s == t
  | .owner i, .owner j => i == j
  | .callable f, .callable g => f == g
  | .argument a, .argument b => a == b
  | .namespaceHandle s, .namespaceHandle t => s == t
  | .namespaceHandle s, .core => s == "clojure.core"
  | .core, .namespaceHandle t => t == "clojure.core"
  | .core, .core => true
  | .handle i, .handle j => i == j
  | .backend i, .backend j => i == j
  | .other _ i, .other _ j => i == j
  | _, _ => false

/-- Equality of rows of items. -/
def equalItems : List Value → List Value → Bool
  | [], [] => true
  | v :: vs, w :: ws => equalAs true v w && equalItems vs ws
  | _, _ => false

/-- Does every entry of the first dictionary have an equal one in the second? -/
def entriesWithin : List (Value × Value) → List (Value × Value) → Bool
  | [], _ => true
  | (k, v) :: rest, others =>
    others.any (fun e => equalAs true k e.1 && equalAs true v e.2) && entriesWithin rest others

/-- Is every item of the first row equal to one of the second? -/
def itemsWithin : List Value → List Value → Bool
  | [], _ => true
  | v :: rest, others => others.any (fun w => equalAs true v w) && itemsWithin rest others

end

/-- Equality of values. -/
def equal : Value → Value → Bool :=
  equalAs false

/-- Texts are equal character by character. -/
@[simp] theorem equal_text (s t : String) : (text s).equal (text t) = (s == t) := by
  simp [equal, equalAs, Primitive.equal]

mutual

/-- Can the value be a key? Containers that can change cannot, nor can rows that hold one. -/
def hashable : Value → Bool
  | .list _ | .dict _ | .set _ => false
  | .tuple items | .coll _ items => allHashable items
  | _ => true

/-- Can all of the values be keys? -/
def allHashable : List Value → Bool
  | [] => true
  | v :: rest => hashable v && allHashable rest

end

/-- What integers are reduced by when they are hashed. -/
def hashModulus : Nat := twoTo 61 - 1

/-- What the hash of an integer depends on. The hash of minus one is that of minus two. -/
def hashedInteger (n : Int) : Value :=
  let rest : Int := n.natAbs % hashModulus
  let signed := if n < 0 then -rest else rest
  .int (if signed = -1 then -2 else signed)

/-- What the hash of a value depends on: namespace handles are hashed by name, numbers by their value. -/
def hashed (v : Value) : Value :=
  match v.plain with
  | .namespaceHandle name => .text name
  | .core => .text "clojure.core"
  | .int n => hashedInteger n
  | .float x => if x.isFinite && x.equalsInt x.truncate then hashedInteger x.truncate else .float x
  | v => v

/-- Put an entry into a dictionary. Of equal keys the first one stays, with the latest value. -/
def putEntry (entries : List (Value × Value)) (k v : Value) : List (Value × Value) :=
  if entries.any fun e => equalAs true e.1 k then
    entries.map fun e => if equalAs true e.1 k then (e.1, v) else e
  else entries ++ [(k, v)]

end Value

end HostBridge
