import NavFactory.Document.Lexer
import NavFactory.Document.Implicit

/-!
# Nodes of documents

The tree that the tokens of a document spell.  An alias of a node that is complete stands for a copy of it; one of
a collection that it stands in itself is kept as a reference.
-/

namespace NavFactory.Document

/-- A node of a document. -/
inductive Node
  | scalar (tag : Tag) (text : String)
  | sequence (tag : Tag) (items : List Node)
  | mapping (tag : Tag) (entries : List (Node × Node))
  /-- The collection around this node that has a given number. -/
  | enclosing (id : Nat)
deriving Inhabited

/-- What a name of an anchor stands for. -/
inductive AnchorTarget
  | open (id : Nat)
  | closed (n : Node)

/-- What the parser knows between two tokens. -/
structure Parser where
  tokens : List Token
  handles : List (String × String) := []
  anchors : List (String × AnchorTarget) := []
  /-- Collections with an anchor, by number. -/
  collections : List (Nat × Node) := []

/-- The handles of tags that every document knows. -/
def defaultHandles : List (String × String) := [("!", "!"), ("!!", tagNamespace)]

abbrev Parse := StateT Parser (Except DocumentFault)

namespace Parse

/-- The next token; a fault in its place ends the reading. -/
def peek : Parse Token := do
  match (← get).tokens with
  | .fault f :: _ => throw f
  | t :: _ => pure t
  | [] => pure .streamEnd

/-- Passes over the next token. -/
def skip : Parse Unit := modify fun p => { p with tokens := p.tokens.tail }

/-- Passes over the next token if it is a given one. -/
def accept (t : Token) : Parse Bool := do
  if (← peek) == t then
    skip
    pure true
  else pure false

/-- Passes over a token that must come next. -/
def expect (t : Token) : Parse Unit := do
  if !(← accept t) then throw .malformed

/-! ### Anchors and tags -/

/-- The node that an alias stands for. -/
def aliasNode (name : String) : Parse Node := do
  match (← get).anchors.lookup name with
  | some (.open id) => pure (.enclosing id)
  | some (.closed n) => pure n
  | none => throw .malformed

/-- Gives a node a name, which must be new. -/
def nameNode (anchor : Option String) (target : AnchorTarget) : Parse Unit := do
  match anchor with
  | none => pure ()
  | some name =>
    if ((← get).anchors.lookup name).isSome then throw .malformed
    else modify fun p => { p with anchors := (name, target) :: p.anchors }

/-- Reads a collection whose parts may refer to it by its name. -/
def namedCollection (anchor : Option String) (body : Parse Node) : Parse Node := do
  match anchor with
  | none => body
  | some name =>
    let id := (← get).anchors.length
    nameNode anchor (.open id)
    let n ← body
    modify fun p => { p with
      anchors := p.anchors.map fun (m, t) => if m == name then (m, .closed n) else (m, t)
      collections := (id, n) :: p.collections }
    pure n

/-- The full form of a tag. -/
def fullTag (handle : Option String) (suffix : String) : Parse String := do
  match handle with
  | none => pure suffix
  | some handle =>
    match (← get).handles.lookup handle with
    | some replacement => pure (replacement ++ suffix)
    | none => throw .malformed

/-- Anchor and tag in front of a node, in any order. -/
def properties : Parse (Option String × Option String) := do
  match ← peek with
  | .anchor name => do
    skip
    match ← peek with
    | .tag handle suffix => do
      skip
      pure (some name, some (← fullTag handle suffix))
    | _ => pure (some name, none)
  | .tag handle suffix => do
    skip
    let anchor ← match ← peek with
      | .anchor name => do
        skip
        pure (some name)
      | _ => pure none
    pure (anchor, some (← fullTag handle suffix))
  | _ => pure (none, none)

/-- The tag that leaves the choice to the text. -/
def openTag : String := "!"

/-- The tag of a scalar: the given one, or that which its text implies if it is plain. -/
def scalarTag (tag : Option String) (plain : Bool) (text : String) : Tag :=
  match tag with
  | none => if plain then impliedTag text else .text
  | some tag => if tag == openTag then impliedTag text else Tag.ofText tag

/-- The tag of a collection. -/
def collectionTag (tag : Option String) (default : Tag) : Tag :=
  match tag with
  | none => default
  | some tag => if tag == openTag then default else Tag.ofText tag

/-- The scalar that stands where nothing is written. -/
def emptyNode : Node := .scalar .null ""

/-! ### The grammar -/

mutual

/-- A node.  Blocks count only if `block` holds, and a sequence without an indent of its own only if `indentless`
does. -/
def node : Nat → Bool → Bool → Parse Node
  | 0, _, _ => throw .malformed
  | fuel + 1, block, indentless => do
    match ← peek with
    | .alias name => do
      skip
      aliasNode name
    | _ => do
      let (anchor, tag) ← properties
      match ← peek with
      | .scalar text plain => do
        skip
        let n := Node.scalar (scalarTag tag plain text) text
        nameNode anchor (.closed n)
        pure n
      | .flowSequenceStart => do
        skip
        namedCollection anchor (Node.sequence (collectionTag tag .sequence) <$> flowItems fuel true)
      | .flowMappingStart => do
        skip
        namedCollection anchor (Node.mapping (collectionTag tag .mapping) <$> flowEntries fuel true)
      | t =>
        if t == .blockEntry && indentless then
          namedCollection anchor (Node.sequence (collectionTag tag .sequence) <$> indentlessItems fuel)
        else if t == .blockSequenceStart && block then do
          skip
          namedCollection anchor (Node.sequence (collectionTag tag .sequence) <$> blockItems fuel)
        else if t == .blockMappingStart && block then do
          skip
          namedCollection anchor (Node.mapping (collectionTag tag .mapping) <$> blockEntries fuel)
        else if anchor.isSome || tag.isSome then do
          let n := Node.scalar (scalarTag tag true "") ""
          nameNode anchor (.closed n)
          pure n
        else throw .malformed

/-- A node of a block, or nothing if one of several tokens comes next. -/
def blockNodeUnless : Nat → Bool → List Token → Parse Node
  | 0, _, _ => throw .malformed
  | fuel + 1, indentless, stops => do
    if stops.contains (← peek) then pure emptyNode else node fuel true indentless

/-- A node between brackets, or nothing if one of several tokens comes next. -/
def flowNodeUnless : Nat → List Token → Parse Node
  | 0, _ => throw .malformed
  | fuel + 1, stops => do
    if stops.contains (← peek) then pure emptyNode else node fuel false false

/-- The items of a block sequence, up to its end. -/
def blockItems : Nat → Parse (List Node)
  | 0 => throw .malformed
  | fuel + 1 => do
    if ← accept .blockEntry then do
      let item ← blockNodeUnless fuel false [.blockEntry, .blockEnd]
      pure (item :: (← blockItems fuel))
    else do
      expect .blockEnd
      pure []

/-- The items of a sequence without an indent of its own. -/
def indentlessItems : Nat → Parse (List Node)
  | 0 => throw .malformed
  | fuel + 1 => do
    if ← accept .blockEntry then do
      let item ← blockNodeUnless fuel false [.blockEntry, .key, .value, .blockEnd]
      pure (item :: (← indentlessItems fuel))
    else pure []

/-- The entries of a block mapping, up to its end. -/
def blockEntries : Nat → Parse (List (Node × Node))
  | 0 => throw .malformed
  | fuel + 1 => do
    let stops : List Token := [.key, .value, .blockEnd]
    if ← accept .key then do
      let key ← blockNodeUnless fuel true stops
      let value ← if ← accept .value then blockNodeUnless fuel true stops else pure emptyNode
      pure ((key, value) :: (← blockEntries fuel))
    else do
      expect .blockEnd
      pure []

/-- The items of a sequence in brackets, up to its end; behind the first, each follows a comma. -/
def flowItems : Nat → Bool → Parse (List Node)
  | 0, _ => throw .malformed
  | fuel + 1, first => do
    if ← accept .flowSequenceEnd then pure []
    else do
      if !first then expect .flowEntry
      if ← accept .key then do
        let key ← flowNodeUnless fuel [.value, .flowEntry, .flowSequenceEnd]
        let value ← if ← accept .value then flowNodeUnless fuel [.flowEntry, .flowSequenceEnd] else pure emptyNode
        pure (.mapping .mapping [(key, value)] :: (← flowItems fuel false))
      else if ← accept .flowSequenceEnd then pure []
      else do
        let item ← node fuel false false
        pure (item :: (← flowItems fuel false))

/-- The entries of a mapping in brackets, up to its end; behind the first, each follows a comma. -/
def flowEntries : Nat → Bool → Parse (List (Node × Node))
  | 0, _ => throw .malformed
  | fuel + 1, first => do
    if ← accept .flowMappingEnd then pure []
    else do
      if !first then expect .flowEntry
      if ← accept .key then do
        let key ← flowNodeUnless fuel [.value, .flowEntry, .flowMappingEnd]
        let value ← if ← accept .value then flowNodeUnless fuel [.flowEntry, .flowMappingEnd] else pure emptyNode
        pure ((key, value) :: (← flowEntries fuel false))
      else if ← accept .flowMappingEnd then pure []
      else do
        let key ← node fuel false false
        pure ((key, emptyNode) :: (← flowEntries fuel false))

end

/-! ### Documents -/

/-- The directives in front of a document; `version` tells whether one has named a version.  `fuel` bounds their
number. -/
def directives : Nat → Bool → Parse Unit
  | 0, _ => throw .malformed
  | fuel + 1, version => do
    match ← peek with
    | .directive (.version major) => do
      skip
      if version || major != 1 then throw .malformed
      directives fuel true
    | .directive (.tagHandle handle replacement) => do
      skip
      if ((← get).handles.lookup handle).isSome then throw .malformed
      modify fun p => { p with handles := (handle, replacement) :: p.handles }
      directives fuel version
    | .directive .other => do
      skip
      directives fuel version
    | _ => modify fun p => { p with handles := p.handles ++ defaultHandles }

/-- Passes over the marks at the end of a document. -/
def skipDocumentEnds : Nat → Parse Unit
  | 0 => pure ()
  | fuel + 1 => do
    if ← accept .documentEnd then skipDocumentEnds fuel

/-- Whether a token cannot start the content of a document. -/
def isDocumentMark : Token → Bool
  | .directive _ => true
  | .documentStart => true
  | .documentEnd => true
  | .streamEnd => true
  | _ => false

/-- The only document of a text, if it holds one. -/
def document (fuel : Nat) : Parse (Option Node) := do
  match ← peek with
  | .streamEnd => pure none
  | t => do
    let n ←
      match t with
      | .directive _ | .documentStart => do
        directives fuel false
        expect .documentStart
        if isDocumentMark (← peek) then pure emptyNode else node fuel true false
      | _ => do
        modify fun p => { p with handles := defaultHandles }
        node fuel true false
    skipDocumentEnds fuel
    expect .streamEnd
    pure (some n)

end Parse

/-- A document as a tree, with the collections that can be referred to from inside. -/
structure Graph where
  root : Option Node
  collections : List (Nat × Node)
  /-- A bound on the depth of the tree. -/
  depth : Nat

/-- The graph that a text spells. -/
def Graph.ofText (text : String) : Except DocumentFault Graph :=
  let tokens := tokensOf text
  let fuel := 3 * tokens.length + 3
  match (Parse.document fuel).run { tokens := tokens } with
  | .ok (root, p) => .ok ⟨root, p.collections, tokens.length + 1⟩
  | .error f => .error f

end NavFactory.Document
