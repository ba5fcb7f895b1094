import DesignTokens.Yaml.Node
import DesignTokens.Yaml.Scalar

/-! # The value of a YAML document

`Yaml.parse` reads a text that holds one document. Every node is made into a part once, however
many places it has. A collection is first made empty and filled later, in the order in which the
collections were met, so of several faults the one nearest to the root is told. Filling a mapping
carries out its merges, and both that and the mark of a value change the nodes themselves, for all
their places that are met later. -/
namespace DesignTokens.Yaml

namespace Graph

def node (g : Graph) (n : Ref) : Node := (g[n]?).getD ⟨.null, .scalar ""⟩

def tag (g : Graph) (n : Ref) : Tag := (g.node n).tag

def content (g : Graph) (n : Ref) : Content := (g.node n).content

/-- The entries of a node that is a mapping. -/
def entries? (g : Graph) (n : Ref) : Option (List (Ref × Ref)) :=
  match g.content n with
  | .mapping entries => some entries
  | _ => none

def retag (g : Graph) (n : Ref) (t : Tag) : Graph := g.modify n fun x => { x with tag := t }

def setEntries (g : Graph) (n : Ref) (entries : List (Ref × Ref)) : Graph :=
  g.modify n fun x => { x with content := .mapping entries }

/-- The text that a node stands for under a tag of scalars: its own, or in a mapping that of the
first value whose key is the mark of a value. -/
def text? (g : Graph) : Nat → Ref → Option Text
  | 0, _ => none
  | fuel + 1, n =>
    match g.content n with
    | .scalar text => some text
    | .sequence _ => none
    | .mapping entries =>
      match entries.find? fun e => g.tag e.1 = .value with
      | some e => text? g fuel e.2
      | none => none

mutual

/-- A mapping with its merges carried out: the entries that they add stand in front of its own.
The mark of a value is text from here on. -/
def mergeInto : Nat → Graph → Ref → Except Fault Graph
  | 0, _, _ => malformed
  | fuel + 1, g, n =>
    match g.entries? n with
    | none => malformed
    | some entries => do
      let (g, added, own) ← mergeEntries fuel entries g [] []
      return g.setEntries n (added ++ own)

/-- Goes through the entries of a mapping; `added` and `own` are those so far. -/
def mergeEntries : Nat → List (Ref × Ref) → Graph → List (Ref × Ref) → List (Ref × Ref) →
    Except Fault (Graph × List (Ref × Ref) × List (Ref × Ref))
  | _, [], g, added, own => .ok (g, added, own.reverse)
  | fuel, (k, v) :: rest, g, added, own =>
    match g.tag k with
    | .merge => do
      let (g, entries) ← mergedEntries fuel g v
      mergeEntries fuel rest g (added ++ entries) own
    | .value => mergeEntries fuel rest (g.retag k .text) added ((k, v) :: own)
    | _ => mergeEntries fuel rest g added ((k, v) :: own)

/-- The entries that a merge of a mapping or of a list of mappings adds; of several mappings the
last one comes first. -/
def mergedEntries : Nat → Graph → Ref → Except Fault (Graph × List (Ref × Ref))
  | 0, _, _ => malformed
  | fuel + 1, g, v =>
    match g.content v with
    | .mapping _ => do
      let g ← mergeInto fuel g v
      return (g, (g.entries? v).getD [])
    | .sequence items => do
      let (g, parts) ← items.foldlM
        (fun (g, parts) n => do
          let g ← mergeInto fuel g n
          return (g, (g.entries? n).getD [] :: parts))
        (g, ([] : List (List (Ref × Ref))))
      return (g, parts.flatten)
    | .scalar _ => malformed

end

end Graph

/-- A key of a mapping. A "not a number" that is spelt with its own name is one key wherever it
stands; any other is a key of its own for each node, which is its origin. -/
structure Key where
  atom : Atom
  origin : Option Ref

def Key.same (a b : Key) : Bool :=
  a.atom.sameKey b.atom ||
    (a.atom = .float .nan && b.atom = .float .nan && a.origin = b.origin)

/-- What a node is made into. Collections name their members by their nodes. -/
inductive Part
  | atom (key : Key)
  | list (items : List Ref)
  | pairs (items : List (Ref × Ref))
  | set (members : List Key)
  | map (entries : List (Key × Ref))

/-- The empty collection of a tag. -/
def Part.empty? : Tag → Option Part
  | .seq => some (.list [])
  | .omap | .pairs => some (.pairs [])
  | .set => some (.set [])
  | .map => some (.map [])
  | _ => none

/-- Replaces the value of a key that is present and adds the entry at the end otherwise. -/
def putEntry (entries : List (Key × Ref)) (k : Key) (v : Ref) : List (Key × Ref) :=
  if entries.any fun e => e.1.same k then
    entries.map fun e => if e.1.same k then (e.1, v) else e
  else entries ++ [(k, v)]

/-- The nodes as they are by now, the parts made so far by number, and the collections that are
still to be filled, the latest first. -/
structure Building where
  graph : Graph
  parts : Array (Option Part)
  unfilled : List Ref

namespace Building

def start (g : Graph) : Building := ⟨g, Array.replicate g.size none, []⟩

def part? (b : Building) (n : Ref) : Option Part := (b.parts[n]?).join

def setPart (b : Building) (n : Ref) (p : Part) : Building :=
  { b with parts := b.parts.setIfInBounds n (some p) }

/-- The part of a node under a tag of scalars. A date is looked for in the text of the node itself,
so a mapping that stands for a text cannot be one. -/
def scalarPart (g : Graph) (n : Ref) : Except Fault Part :=
  let tag := g.tag n
  match g.text? g.size n with
  | none => malformed
  | some text =>
    if tag = .timestamp && (g.entries? n).isSome then .error .notText
    else do
      let a ← scalarValue tag text
      let named := match doubleParts text with
        | .ok (_, letters) => letters = nanName.toList
        | .error _ => false
      return .atom ⟨a, if a = .float .nan && !named then some n else none⟩

/-- Makes a node into a part, unless that has been done. -/
def make (b : Building) (n : Ref) : Except Fault (Part × Building) :=
  match b.part? n with
  | some p => .ok (p, b)
  | none =>
    match Part.empty? (b.graph.tag n) with
    | some p => .ok (p, { b.setPart n p with unfilled := n :: b.unfilled })
    | none => do
      let p ← scalarPart b.graph n
      return (p, b.setPart n p)

def makeAll (b : Building) (ns : List Ref) : Except Fault Building :=
  ns.foldlM (fun b n => do return (← b.make n).2) b

/-- The one entry of each of some mappings. -/
def makePairs (b : Building) (ns : List Ref) : Except Fault (List (Ref × Ref) × Building) :=
  ns.foldlM
    (fun (done, b) n =>
      match b.graph.entries? n with
      | some [(k, v)] => do
        let b ← b.makeAll [k, v]
        return (done ++ [(k, v)], b)
      | _ => malformed)
    ([], b)

/-- The entries of a mapping behind its merges; collections are no keys. -/
def makeEntries (b : Building) (n : Ref) : Except Fault (List (Key × Ref) × Building) := do
  let g ← b.graph.mergeInto (2 * b.graph.size + 1) n
  ((g.entries? n).getD []).foldlM
    (fun (done, b) (k, v) => do
      let (p, b) ← b.make k
      match p with
      | .atom key => do
        let (_, b) ← b.make v
        return (putEntry done key v, b)
      | _ => malformed)
    (([] : List (Key × Ref)), { b with graph := g })

/-- Fills the collection of a node; nodes of another kind do not fit its tag. -/
def fill (b : Building) (n : Ref) : Except Fault Building :=
  match b.graph.tag n, b.graph.content n with
  | .seq, .sequence items => do return (← b.makeAll items).setPart n (.list items)
  | .omap, .sequence items | .pairs, .sequence items => do
    let (ps, b) ← b.makePairs items
    return b.setPart n (.pairs ps)
  | .set, .mapping _ => do
    let (es, b) ← b.makeEntries n
    return b.setPart n (.set (es.map Prod.fst))
  | .map, .mapping _ => do
    let (es, b) ← b.makeEntries n
    return b.setPart n (.map es)
  | _, _ => malformed

/-- Fills collections until none is left; each round fills those that were met in the last one. -/
def fillAll : Nat → Building → Except Fault Building
  | 0, b => .ok b
  | fuel + 1, b =>
    if b.unfilled.isEmpty then .ok b
    else do
      let b ← b.unfilled.reverse.foldlM fill { b with unfilled := [] }
      fillAll fuel b

/-- The value of a node that has been made, with its members to a depth of `fuel`. -/
def value (b : Building) : Nat → Ref → Value
  | 0, _ => .null
  | fuel + 1, n =>
    match b.part? n with
    | none => .null
    | some (.atom k) => .atom k.atom
    | some (.list items) => .list (items.map (b.value fuel))
    | some (.pairs ps) => .list (ps.map fun p => .tuple [b.value fuel p.1, b.value fuel p.2])
    | some (.set members) => .set (members.map Key.atom)
    | some (.map entries) => .map (entries.map fun e => (e.1.atom, b.value fuel e.2))

end Building

/-- The value of a node, or the first fault that is met while it is made. -/
def Graph.value (g : Graph) (root : Ref) : Except Fault Value := do
  let (_, b) ← (Building.start g).make root
  let b ← b.fillAll (g.size + 1)
  return b.value g.size root

/-- The value of a text; a text without a document is null. -/
def parse (cs : List Char) : Except Fault Value := do
  match ← document (tokens cs) with
  | none => return .null
  | some (root, g) => Graph.value g root

end DesignTokens.Yaml
