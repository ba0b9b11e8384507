/-
Module: Lectern.Yaml.Node
Purpose: The tree of a YAML document: scalars, sequences and mappings with their tags. An alias
  stands for a copy of what it names.
Main exports: Node, Node.ofTokens
-/
import Lectern.Yaml.Plain
import Lectern.Yaml.Scan

namespace Lectern.Yaml

/-- A node of a document. -/
inductive Node where
  | scalar (tag : Tag) (text : String)
  | sequence (tag : Tag) (items : List Node)
  | mapping (tag : Tag) (members : List (Node × Node))
  deriving Repr, Inhabited

/-- A node without any text. -/
def Node.empty : Node := .scalar .null ""

/-- The tokens that are left, the anchors so far and the handles of the document. -/
structure Feed where
  tokens : List Token
  anchors : List (String × Node) := []
  handles : List (String × String) := []

/-- Reading nodes off tokens. -/
abbrev Reading := StateT Feed (Except Fault)

namespace Reading

/-- Something that must not stand here. -/
def refuse {α : Type} : Reading α := fun _ => .error .malformed

/-- The next token. -/
def next? : Reading (Option Token) := do return (← get).tokens.head?

/-- Past the next token. -/
def drop : Reading Unit := modify fun feed => { feed with tokens := feed.tokens.drop 1 }

/-- Past a token, which must come next. -/
def expect (token : Token) : Reading Unit := do
  if (← next?) == some token then drop else refuse

/-- Past a token, if it comes next. -/
def passes (token : Token) : Reading Bool := do
  if (← next?) == some token then
    drop
    return true
  else return false

/-- Does one of some tokens come next? -/
def atAny (tokens : List Token) : Reading Bool := do
  match ← next? with
  | some token => return tokens.contains token
  | none => return false

/-! ## Names and tags -/

/-- Name a node. -/
def define (anchor : Option String) (node : Node) : Reading Unit :=
  match anchor with
  | some name => modify fun feed => { feed with anchors := (name, node) :: feed.anchors }
  | none => return ()

/-- The node with a name. -/
def named (name : String) : Reading Node := do
  match (← get).anchors.lookup name with
  | some node => return node
  | none => refuse

/-- A name is given once. -/
def ensureNew (anchor : Option String) : Reading Unit := do
  match anchor with
  | some name => if ((← get).anchors.lookup name).isSome then refuse
  | none => return ()

/-- The tag that a handle and a suffix make. One exclamation mark alone says nothing. -/
def tagOf (handle : Option String) (suffix : String) : Reading Tag := do
  let text ← match handle with
    | none => pure suffix
    | some handle =>
      match (← get).handles.lookup handle with
      | some start => pure (start ++ suffix)
      | none => refuse
  return if text == "!" then .bare else .ofText text

/-- The name in front of a node, if it has one. -/
def anchor? : Reading (Option String) := do
  match ← next? with
  | some (.anchor name) =>
    drop
    return some name
  | _ => return none

/-- The tag in front of a node, if it has one. -/
def tag? : Reading (Option Tag) := do
  match ← next? with
  | some (.tag handle suffix) =>
    drop
    return some (← tagOf handle suffix)
  | _ => return none

/-- The name and the tag in front of a node, in either order. -/
def properties : Reading (Option String × Option Tag) := do
  match ← anchor? with
  | some name => return (some name, ← tag?)
  | none =>
    let tag ← tag?
    if tag.isSome then return (← anchor?, tag) else return (none, tag)

/-- The tag of a scalar: the one it has, or the one that its text says if it is plain. -/
def scalarTag (tag : Option Tag) (plain : Bool) (text : String) : Tag :=
  match tag with
  | some .bare => plainTag text.toList
  | some tag => tag
  | none => if plain then plainTag text.toList else .text

/-- The tag of a sequence or a mapping. -/
def collectionTag (tag : Option Tag) (usual : Tag) : Tag :=
  match tag with
  | some .bare => usual
  | some tag => tag
  | none => usual

/-- A scalar with the name and the tag in front of it. -/
def scalar (anchor : Option String) (tag : Option Tag) (text : String) (plain : Bool) :
    Reading Node := do
  let node := Node.scalar (scalarTag tag plain text) text
  define anchor node
  return node

/-- A collection with the name in front of it. Within itself it counts as empty. -/
def collect {α : Type} (anchor : Option String) (make : List α → Node)
    (parts : Reading (List α)) : Reading Node := do
  define anchor (make [])
  let node := make (← parts)
  define anchor node
  return node

/-- Nothing, where a node is due: a name or a tag is enough. -/
def absent (anchor : Option String) (tag : Option Tag) : Reading Node :=
  if anchor.isSome || tag.isSome then scalar anchor tag "" true else refuse

/-! ## Nodes -/

mutual

/-- A node. Blocks stand outside of flows alone; where `bare` holds, the entries of a sequence may
stand without an indentation of their own. -/
def node (block bare : Bool) : Nat → Reading Node
  | 0 => refuse
  | fuel + 1 => do
    match ← next? with
    | some (.alias name) =>
      drop
      named name
    | _ =>
      let (anchor, tag) ← properties
      ensureNew anchor
      let sequence := Node.sequence (collectionTag tag .sequence)
      let mapping := Node.mapping (collectionTag tag .mapping)
      match ← next? with
      | some (.scalar text plain) =>
        drop
        scalar anchor tag text plain
      | some .flowSequenceStart =>
        drop
        collect anchor sequence (flowItems true fuel)
      | some .flowMappingStart =>
        drop
        collect anchor mapping (flowMembers true fuel)
      | some .blockEntry =>
        if bare then collect anchor sequence (bareItems fuel) else absent anchor tag
      | some .blockSequenceStart =>
        if block then
          drop
          collect anchor sequence (blockItems fuel)
        else absent anchor tag
      | some .blockMappingStart =>
        if block then
          drop
          collect anchor mapping (blockMembers fuel)
        else absent anchor tag
      | _ => absent anchor tag

/-- A node, or an empty one if one of some tokens comes instead. -/
def nodeUnless (tokens : List Token) (block bare : Bool) : Nat → Reading Node
  | 0 => refuse
  | fuel + 1 => do
    if ← atAny tokens then return .empty else node block bare fuel

/-- What stands behind a colon, or an empty node. -/
def valueUnless (tokens : List Token) (block bare : Bool) : Nat → Reading Node
  | 0 => refuse
  | fuel + 1 => do
    if ← passes .value then nodeUnless tokens block bare fuel else return .empty

/-- The entries of a sequence in a block, up to its end. -/
def blockItems : Nat → Reading (List Node)
  | 0 => refuse
  | fuel + 1 => do
    if ← passes .blockEntry then
      let first ← nodeUnless [.blockEntry, .blockEnd] true false fuel
      return first :: (← blockItems fuel)
    else
      expect .blockEnd
      return []

/-- The entries of a sequence without an indentation of its own. -/
def bareItems : Nat → Reading (List Node)
  | 0 => refuse
  | fuel + 1 => do
    if ← passes .blockEntry then
      let first ← nodeUnless [.blockEntry, .key, .value, .blockEnd] true false fuel
      return first :: (← bareItems fuel)
    else return []

/-- The members of a mapping in a block, up to its end. -/
def blockMembers : Nat → Reading (List (Node × Node))
  | 0 => refuse
  | fuel + 1 => do
    if ← passes .key then
      let key ← nodeUnless [.key, .value, .blockEnd] true true fuel
      let value ← valueUnless [.key, .value, .blockEnd] true true fuel
      return (key, value) :: (← blockMembers fuel)
    else
      expect .blockEnd
      return []

/-- The entries of a sequence in a flow, up to its end. A key makes a mapping with one member. -/
def flowItems (first : Bool) : Nat → Reading (List Node)
  | 0 => refuse
  | fuel + 1 => do
    if ← passes .flowSequenceEnd then return []
    if !first then expect .flowEntry
    if ← passes .key then
      let key ← nodeUnless [.value, .flowEntry, .flowSequenceEnd] false false fuel
      let value ← valueUnless [.flowEntry, .flowSequenceEnd] false false fuel
      return .mapping .mapping [(key, value)] :: (← flowItems false fuel)
    else if ← passes .flowSequenceEnd then return []
    else
      let item ← node false false fuel
      return item :: (← flowItems false fuel)

/-- The members of a mapping in a flow, up to its end. A node alone is a key without a value. -/
def flowMembers (first : Bool) : Nat → Reading (List (Node × Node))
  | 0 => refuse
  | fuel + 1 => do
    if ← passes .flowMappingEnd then return []
    if !first then expect .flowEntry
    if ← passes .key then
      let key ← nodeUnless [.value, .flowEntry, .flowMappingEnd] false false fuel
      let value ← valueUnless [.flowEntry, .flowMappingEnd] false false fuel
      return (key, value) :: (← flowMembers false fuel)
    else if ← passes .flowMappingEnd then return []
    else
      let key ← node false false fuel
      return (key, .empty) :: (← flowMembers false fuel)

end

/-! ## Documents -/

/-- The handles of a document that has no directives. -/
def usualHandles : List (String × String) := [("!", "!"), ("!!", "tag:yaml.org,2002:")]

/-- The directives in front of a document. The version is given once, as is each handle. -/
def directives (versioned : Bool) : List Token → Reading Unit
  | .directive (.version major) :: rest => do
    if versioned || major != 1 then refuse
    drop
    directives true rest
  | .directive (.tag handle start) :: rest => do
    if ((← get).handles.lookup handle).isSome then refuse
    modify fun feed => { feed with handles := feed.handles ++ [(handle, start)] }
    drop
    directives versioned rest
  | .directive .other :: rest => do
    drop
    directives versioned rest
  | _ => modify fun feed => { feed with handles := feed.handles ++ usualHandles }

/-- A document with what stands in front of it. -/
def document (fuel : Nat) : Reading Node := do
  let tokens := (← get).tokens
  directives false tokens
  match tokens with
  | .directive _ :: _ | .documentStart :: _ =>
    expect .documentStart
    match ← next? with
    | none | some (.directive _) | some .documentStart | some .documentEnd => return .empty
    | _ => node true false fuel
  | _ => node true false fuel

end Reading

/-- The one document that tokens make, if there is one. -/
def Node.ofTokens (tokens : List Token) : Except Fault (Option Node) :=
  if tokens.isEmpty then .ok none
  else do
    let (node, feed) ← (Reading.document (4 * tokens.length + 8)).run { tokens }
    if (feed.tokens.dropWhile (· == .documentEnd)).isEmpty then return some node
    else .error .malformed

end Lectern.Yaml
