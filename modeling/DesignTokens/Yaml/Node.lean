import DesignTokens.Yaml.Plain
import DesignTokens.Yaml.Token

/-! # The nodes of a YAML document

`document` reads the tokens of a text that holds one document into a graph of nodes with resolved
tags. An alias is one more place for the node that its anchor names, so the graph has neither
aliases nor anchors, and a node may stand in several places. No token is looked at before it is
needed, so that of two mistakes the one that is met first is told. -/
namespace DesignTokens.Yaml

/-- A node is named by its number. It is numbered when it has been read, so all that it holds has
smaller numbers. -/
abbrev Ref := Nat

inductive Content
  | scalar (text : Text)
  | sequence (items : List Ref)
  | mapping (entries : List (Ref × Ref))
  deriving DecidableEq, Repr

structure Node where
  tag : Tag
  content : Content
  deriving DecidableEq, Repr

/-- The nodes by number. -/
abbrev Graph := Array Node

/-- What remains to be read, the nodes read so far, and those that anchors name. The node of an
anchor is unknown as long as it is being read. -/
structure Reading where
  rest : List Token
  nodes : Graph
  anchors : List (String × Option Ref)

/-- The expansions of tag handles. -/
abbrev Handles := List (List Char × List Char)

namespace Reading

def ofTokens (ts : List Token) : Reading := ⟨ts, #[], []⟩

/-- The next token; where the text could not be split further there is none. -/
def next (r : Reading) : Except Fault Token :=
  match r.rest with
  | .fault f :: _ => .error f
  | t :: _ => .ok t
  | [] => .ok .streamEnd

def skip (r : Reading) : Reading := { r with rest := r.rest.tail }

def expect (r : Reading) (t : Token) : Except Fault Reading := do
  if (← r.next) = t then return r.skip else malformed

/-- Numbers a node that has been read. -/
def add (r : Reading) (tag : Tag) (content : Content) : Ref × Reading :=
  (r.nodes.size, { r with nodes := r.nodes.push ⟨tag, content⟩ })

/-- A node that is left out. -/
def addEmpty (r : Reading) : Ref × Reading := r.add .null (.scalar "")

/-- What may stand in front of a node: an anchor, a tag, both in either order or none. -/
structure Header where
  anchor : Option String
  tag : Option TagText

def header (r : Reading) : Except Fault (Header × Reading) := do
  match ← r.next with
  | .anchor a =>
    match ← r.skip.next with
    | .tag t => return (⟨some a, some t⟩, r.skip.skip)
    | _ => return (⟨some a, none⟩, r.skip)
  | .tag t =>
    match ← r.skip.next with
    | .anchor a => return (⟨some a, some t⟩, r.skip.skip)
    | _ => return (⟨none, some t⟩, r.skip)
  | _ => return (⟨none, none⟩, r)

/-- A tag in full; its handle has to be known. -/
def fullTag (handles : Handles) (t : TagText) : Except Fault (List Char) :=
  match t.handle with
  | none => .ok t.suffix
  | some h =>
    match handles.lookup h with
    | some expansion => .ok (expansion ++ t.suffix)
    | none => malformed

/-- Names a node that is about to be read. -/
def reserve (r : Reading) : Option String → Except Fault Reading
  | none => .ok r
  | some a =>
    if (r.anchors.lookup a).isSome then malformed
    else .ok { r with anchors := (a, none) :: r.anchors }

/-- Names a node that has been read. -/
def name (r : Reading) (anchor : Option String) (n : Ref) : Reading :=
  match anchor with
  | none => r
  | some a => { r with anchors := (a, some n) :: r.anchors }

/-- The node that an alias stands for. -/
def aliased (r : Reading) (a : String) : Except Fault Ref :=
  match r.anchors.lookup a with
  | some (some n) => .ok n
  | _ => malformed

end Reading

/-- Where a node stands: block collections may start only in a block, and behind a key a sequence
needs no indentation. -/
inductive Position
  | block
  | afterKey
  | flow
  deriving DecidableEq, Repr

/-- The given tag of a collection, or the usual one. -/
def collectionTag (given : Option (List Char)) (usual : Tag) : Tag :=
  match given with
  | none => usual
  | some t => if t = ['!'] then usual else .ofText t

/-- The given tag of a scalar, or the one that its look gives; between quotes it is text. -/
def scalarTag (given : Option (List Char)) (plain : Bool) (text : Text) : Tag :=
  match given with
  | none => if plain then .ofLook text else .text
  | some t => if t = ['!'] then .ofLook text else .ofText t

/-- The tokens behind which a node is left out. -/
def endsEntry (t : Token) : Bool := t = .key || t = .value || t = .blockEnd

def endsFlowItem (t : Token) : Bool := t = .flowEntry || t = .flowSequenceEnd

def endsFlowEntry (t : Token) : Bool := t = .flowEntry || t = .flowMappingEnd

mutual

/-- A node at a position; `fuel` bounds the steps, of which there are fewer than three a token. -/
def node (handles : Handles) (position : Position) :
    Nat → Reading → Except Fault (Ref × Reading)
  | 0, _ => malformed
  | fuel + 1, r => do
    match ← r.next with
    | .alias a => return (← r.aliased a, r.skip)
    | _ => do
      let (header, r) ← r.header
      let given ← header.tag.mapM (Reading.fullTag handles)
      let (n, r) ←
        match ← r.next with
        | .blockEntry =>
          if position = .afterKey then do
            let (items, r) ← looseItems handles fuel (← r.reserve header.anchor)
            Except.ok (r.add (collectionTag given .seq) (.sequence items))
          else missing header given r
        | .scalar text plain => do
          let r ← r.reserve header.anchor
          Except.ok (r.skip.add (scalarTag given plain text) (.scalar text))
        | .flowSequenceStart => do
          let (items, r) ← flowItems handles true fuel (← r.skip.reserve header.anchor)
          Except.ok (r.add (collectionTag given .seq) (.sequence items))
        | .flowMappingStart => do
          let (entries, r) ← flowEntries handles true fuel (← r.skip.reserve header.anchor)
          Except.ok (r.add (collectionTag given .map) (.mapping entries))
        | .blockSequenceStart =>
          if position = .flow then missing header given r
          else do
            let (items, r) ← blockItems handles fuel (← r.skip.reserve header.anchor)
            Except.ok (r.add (collectionTag given .seq) (.sequence items))
        | .blockMappingStart =>
          if position = .flow then missing header given r
          else do
            let (entries, r) ← blockEntries handles fuel (← r.skip.reserve header.anchor)
            Except.ok (r.add (collectionTag given .map) (.mapping entries))
        | _ => missing header given r
      return (n, r.name header.anchor n)
where
  /-- A node may be left out behind an anchor or a tag. -/
  missing (header : Reading.Header) (given : Option (List Char)) (r : Reading) :
      Except Fault (Ref × Reading) :=
    if header.anchor.isNone && header.tag.isNone then malformed
    else do
      let r ← r.reserve header.anchor
      return r.add (scalarTag given true "") (.scalar "")

/-- The items of a block sequence and its end. -/
def blockItems (handles : Handles) : Nat → Reading → Except Fault (List Ref × Reading)
  | 0, _ => malformed
  | fuel + 1, r => do
    if (← r.next) = .blockEntry then
      let r := r.skip
      let t ← r.next
      let (n, r) ←
        if t = .blockEntry || t = .blockEnd then Except.ok r.addEmpty
        else node handles .block fuel r
      let (more, r) ← blockItems handles fuel r
      return (n :: more, r)
    else return ([], ← r.expect .blockEnd)

/-- The items of a sequence without an indentation of its own; what follows them ends it. -/
def looseItems (handles : Handles) : Nat → Reading → Except Fault (List Ref × Reading)
  | 0, _ => malformed
  | fuel + 1, r => do
    if (← r.next) = .blockEntry then
      let r := r.skip
      let t ← r.next
      let (n, r) ←
        if t = .blockEntry || endsEntry t then Except.ok r.addEmpty
        else node handles .block fuel r
      let (more, r) ← looseItems handles fuel r
      return (n :: more, r)
    else return ([], r)

/-- The entries of a block mapping and its end. -/
def blockEntries (handles : Handles) : Nat → Reading → Except Fault (List (Ref × Ref) × Reading)
  | 0, _ => malformed
  | fuel + 1, r => do
    if (← r.next) = .key then
      let r := r.skip
      let (k, r) ←
        if endsEntry (← r.next) then Except.ok r.addEmpty else node handles .afterKey fuel r
      let (v, r) ←
        if (← r.next) = .value then do
          let r := r.skip
          if endsEntry (← r.next) then Except.ok r.addEmpty else node handles .afterKey fuel r
        else Except.ok r.addEmpty
      let (more, r) ← blockEntries handles fuel r
      return ((k, v) :: more, r)
    else return ([], ← r.expect .blockEnd)

/-- The entry of a mapping in a flow collection, behind the mark of its key; `ends` are the tokens
behind which its parts may be left out. -/
def flowEntry (handles : Handles) (ends : Token → Bool) :
    Nat → Reading → Except Fault ((Ref × Ref) × Reading)
  | 0, _ => malformed
  | fuel + 1, r => do
    let t ← r.next
    let (k, r) ← if t = .value || ends t then Except.ok r.addEmpty else node handles .flow fuel r
    let (v, r) ←
      if (← r.next) = .value then do
        let r := r.skip
        if ends (← r.next) then Except.ok r.addEmpty else node handles .flow fuel r
      else Except.ok r.addEmpty
    return ((k, v), r)

/-- The items of a flow sequence and its end. An item may be a single entry of a mapping. -/
def flowItems (handles : Handles) (first : Bool) :
    Nat → Reading → Except Fault (List Ref × Reading)
  | 0, _ => malformed
  | fuel + 1, r => do
    if (← r.next) = .flowSequenceEnd then return ([], r.skip)
    else
      let r ← if first then Except.ok r else r.expect .flowEntry
      let t ← r.next
      if t = .flowSequenceEnd then return ([], r.skip)
      else
        let (n, r) ←
          if t = .key then do
            let (entry, r) ← flowEntry handles endsFlowItem fuel r.skip
            Except.ok (r.add .map (.mapping [entry]))
          else node handles .flow fuel r
        let (more, r) ← flowItems handles false fuel r
        return (n :: more, r)

/-- The entries of a flow mapping and its end. A key alone has an empty value. -/
def flowEntries (handles : Handles) (first : Bool) :
    Nat → Reading → Except Fault (List (Ref × Ref) × Reading)
  | 0, _ => malformed
  | fuel + 1, r => do
    if (← r.next) = .flowMappingEnd then return ([], r.skip)
    else
      let r ← if first then Except.ok r else r.expect .flowEntry
      let t ← r.next
      if t = .flowMappingEnd then return ([], r.skip)
      else
        let (entry, r) ←
          if t = .key then flowEntry handles endsFlowEntry fuel r.skip
          else do
            let (k, r) ← node handles .flow fuel r
            let (v, r) := r.addEmpty
            Except.ok ((k, v), r)
        let (more, r) ← flowEntries handles false fuel r
        return (entry :: more, r)

end

/-- The handles that need no directive. -/
def usualHandles : Handles := [(['!'], ['!']), (['!', '!'], coreTag)]

/-- Directives in front of a document: one version at most, of the first major number, and each
handle once. -/
def directives : List Token → Bool → Handles → Except Fault (Handles × List Token)
  | .directive (.version major) :: rest, versioned, handles =>
    if versioned || major ≠ 1 then malformed else directives rest true handles
  | .directive (.handle h expansion) :: rest, versioned, handles =>
    if (handles.lookup h).isSome then malformed
    else directives rest versioned ((h, expansion) :: handles)
  | .directive .unknown :: rest, versioned, handles => directives rest versioned handles
  | rest, _, handles => .ok (handles ++ usualHandles, rest)

/-- What may stand in front of a document: its directives and the mark of its start. -/
def documentHead (r : Reading) : Except Fault (Handles × Reading) := do
  let (handles, rest) ← directives r.rest false []
  return (handles, ← ({ r with rest := rest } : Reading).expect .documentStart)

/-- Behind the document there is nothing but marks of its end; the head of another one is read
before it is refused. -/
def documentEnd (r : Reading) : Except Fault Unit := do
  let r := { r with rest := r.rest.dropWhile (· = .documentEnd) }
  if (← r.next) = .streamEnd then return ()
  else
    let _ ← documentHead r
    malformed

/-- A document may have a head and no node. -/
def isBare : Token → Bool
  | .directive _ | .documentStart | .documentEnd | .streamEnd => true
  | _ => false

/-- The node of the one document of a text among all its nodes; a text without a document has
none. -/
def document (ts : List Token) : Except Fault (Option (Ref × Graph)) := do
  let fuel := 4 * ts.length + 4
  let r := Reading.ofTokens ts
  let read (handles : Handles) (r : Reading) : Except Fault (Option (Ref × Graph)) := do
    let (n, r) ← node handles .block fuel r
    documentEnd r
    return some (n, r.nodes)
  match ← r.next with
  | .streamEnd => return none
  | .directive _ | .documentStart => do
    let (handles, r) ← documentHead r
    if isBare (← r.next) then
      documentEnd r
      let (n, r) := r.addEmpty
      return some (n, r.nodes)
    else read handles r
  | _ => read usualHandles r

end DesignTokens.Yaml
