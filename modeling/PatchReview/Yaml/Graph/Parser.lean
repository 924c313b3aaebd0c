import PatchReview.Yaml.Graph.Basic
import PatchReview.Yaml.Lexer

/-!
Reading a document from tokens. A collection gets its number and its name before its parts are
read, so that an alias inside it may stand for it.
-/

namespace PatchReview.Yaml.Graph

/-- What is left to read, the nodes that have a name, and all nodes so far. -/
structure Reading where
  tokens : List Token
  names : List (String × NodeId)
  graph : Graph

/-- Tag handles with their meanings. -/
abbrev Handles := List (String × String)

/-- A reader takes a part off the tokens. -/
abbrev Reader (α : Type) := StateT Reading (Except Failure) α

/-- The next token. -/
def peek : Reader Token := do
  match (← get).tokens with
  | [] => return .streamEnd
  | .failed failure :: _ => throw failure
  | token :: _ => return token

/-- Passes the next token. -/
def advance : Reader Unit := modify fun reading => { reading with tokens := reading.tokens.tail }

/-- Adds a node and gives its number. -/
def place (node : Node) : Reader NodeId := do
  let id := (← get).graph.size
  modify fun reading => { reading with graph := reading.graph.add node }
  return id

/-- Adds the scalar that stands where nothing is written. -/
def placeEmpty : Reader NodeId := place .empty

/-- The anchor and tag before a node, each once and in either order. -/
structure Properties where
  anchor : Option String
  tag : Option WrittenTag

/-- Reads the properties of a node. -/
def properties : Reader Properties := do
  match ← peek with
  | .anchor name =>
      advance
      match ← peek with
      | .tag tag => do advance; return ⟨some name, some tag⟩
      | _ => return ⟨some name, none⟩
  | .tag tag =>
      advance
      match ← peek with
      | .anchor name => do advance; return ⟨some name, some tag⟩
      | _ => return ⟨none, some tag⟩
  | _ => return ⟨none, none⟩

/-- The full text of a tag. -/
def fullTag (handles : Handles) (tag : WrittenTag) : Except Failure String :=
  match tag.handle with
  | none => .ok tag.suffix
  | some handle =>
      match Assoc.get? handle handles with
      | none => .error .yaml
      | some meaning => .ok (meaning ++ tag.suffix)

/-- The tag of a collection: its own, or that of its kind. -/
def collectionTag (own : Option String) (kind : Tag) : Tag :=
  match own with
  | none | some "!" => kind
  | some text => Tag.ofText text

/-- The tag of a scalar. Without a tag of its own a plain one goes by its spelling, another one is
a text; an exclamation mark makes any go by its spelling. -/
def scalarTag (own : Option String) (plain : Bool) (text : String) : Tag :=
  match own with
  | none => if plain then Tag.ofPlain text else .str
  | some "!" => Tag.ofPlain text
  | some tag => Tag.ofText tag

/-- Gives a node its name. -/
def register (anchor : Option String) (id : NodeId) : Reader Unit := do
  match anchor with
  | none => return ()
  | some name => modify fun reading => { reading with names := (name, id) :: reading.names }

/-- Adds a node with its name. -/
def placeNamed (anchor : Option String) (node : Node) : Reader NodeId := do
  let id ← place node
  register anchor id
  return id

/-- Refuses a name that is taken. -/
def checkFresh (anchor : Option String) : Reader Unit := do
  match anchor with
  | none => return ()
  | some name =>
      if (Assoc.get? name (← get).names).isSome then throw .yaml

/-- Where a node stands: in a block, as the value of a mapping, where dashes need no indentation
of their own, or in a flow collection. -/
inductive Position where
  | block
  | mapped
  | flow
  deriving DecidableEq

mutual

/-- Reads a node. Every two steps take a token. -/
def read (handles : Handles) : Nat → Position → Reader NodeId
  | 0, _ => throw .yaml
  | steps + 1, position => do
      match ← peek with
      | .alias name =>
          advance
          match Assoc.get? name (← get).names with
          | some id => return id
          | none => throw .yaml
      | _ =>
          let written ← properties
          let tag ← (written.tag.mapM (fullTag handles) : Except Failure _)
          let token ← peek
          checkFresh written.anchor
          let collect := fun (kind : Tag) (content : Reader Content) => do
            let id ← placeNamed written.anchor ⟨collectionTag tag kind, .seq []⟩
            let content ← content
            modify fun reading => { reading with graph := reading.graph.setContent id content }
            return id
          match token with
          | .blockEntry =>
              if position = .mapped then
                collect .seq do return .seq (← readIndentless handles steps)
              else readEmpty written tag
          | .scalar text plain =>
              advance
              placeNamed written.anchor ⟨scalarTag tag plain text, .scalar text⟩
          | .flowSequence =>
              advance
              collect .seq do return .seq (← readFlowItems handles steps true)
          | .flowMapping =>
              advance
              collect .map do return .map (← readFlowPairs handles steps true)
          | .blockSequence =>
              if position = .flow then readEmpty written tag
              else
                advance
                collect .seq do return .seq (← readBlockItems handles steps)
          | .blockMapping =>
              if position = .flow then readEmpty written tag
              else
                advance
                collect .map do return .map (← readBlockPairs handles steps)
          | _ => readEmpty written tag

/-- A node of which only properties are written. -/
def readEmpty (written : Properties) (tag : Option String) : Reader NodeId := do
  if written.anchor.isNone && written.tag.isNone then throw .yaml
  placeNamed written.anchor ⟨scalarTag tag true "", .scalar ""⟩

/-- Reads the items of a block sequence, each behind a dash. -/
def readBlockItems (handles : Handles) : Nat → Reader (List NodeId)
  | 0 => throw .yaml
  | steps + 1 => do
      match ← peek with
      | .blockEntry =>
          advance
          let item ← match ← peek with
            | .blockEntry | .blockEnd => placeEmpty
            | _ => read handles steps .block
          return item :: (← readBlockItems handles steps)
      | .blockEnd => do advance; return []
      | _ => throw .yaml

/-- Reads the items of a sequence that is indented no further than its mapping. -/
def readIndentless (handles : Handles) : Nat → Reader (List NodeId)
  | 0 => throw .yaml
  | steps + 1 => do
      match ← peek with
      | .blockEntry =>
          advance
          let item ← match ← peek with
            | .blockEntry | .key | .value | .blockEnd => placeEmpty
            | _ => read handles steps .block
          return item :: (← readIndentless handles steps)
      | _ => return []

/-- Reads the pairs of a block mapping. -/
def readBlockPairs (handles : Handles) : Nat → Reader (List Pair)
  | 0 => throw .yaml
  | steps + 1 => do
      match ← peek with
      | .key =>
          advance
          let key ← readPart handles steps
          let value ← readBlockValue handles steps
          return (key, value) :: (← readBlockPairs handles steps)
      | .blockEnd => do advance; return []
      | _ => throw .yaml

/-- Reads a key or a value of a block mapping, which may be left out. -/
def readPart (handles : Handles) : Nat → Reader NodeId
  | 0 => throw .yaml
  | steps + 1 => do
      match ← peek with
      | .key | .value | .blockEnd => placeEmpty
      | _ => read handles steps .mapped

/-- Reads a value of a block mapping with its colon, which may both be left out. -/
def readBlockValue (handles : Handles) : Nat → Reader NodeId
  | 0 => throw .yaml
  | steps + 1 => do
      match ← peek with
      | .value => do advance; readPart handles steps
      | _ => placeEmpty

/-- Reads the comma between items of a flow collection. -/
def readComma (first : Bool) : Reader Unit := do
  if first then return ()
  match ← peek with
  | .flowEntry => advance
  | _ => throw .yaml

/-- Reads the items of a flow sequence. An item may be a single pair. -/
def readFlowItems (handles : Handles) : Nat → Bool → Reader (List NodeId)
  | 0, _ => throw .yaml
  | steps + 1, first => do
      match ← peek with
      | .flowSequenceEnd => do advance; return []
      | _ =>
          readComma first
          match ← peek with
          | .key =>
              advance
              let key ← match ← peek with
                | .value | .flowEntry | .flowSequenceEnd => placeEmpty
                | _ => read handles steps .flow
              let value ← match ← peek with
                | .value => do
                    advance
                    match ← peek with
                    | .flowEntry | .flowSequenceEnd => placeEmpty
                    | _ => read handles steps .flow
                | _ => placeEmpty
              let pair ← place ⟨.map, .map [(key, value)]⟩
              return pair :: (← readFlowItems handles steps false)
          | .flowSequenceEnd => do advance; return []
          | _ =>
              let item ← read handles steps .flow
              return item :: (← readFlowItems handles steps false)

/-- Reads the pairs of a flow mapping. A key without a mark has no value. -/
def readFlowPairs (handles : Handles) : Nat → Bool → Reader (List Pair)
  | 0, _ => throw .yaml
  | steps + 1, first => do
      match ← peek with
      | .flowMappingEnd => do advance; return []
      | _ =>
          readComma first
          match ← peek with
          | .key =>
              advance
              let key ← match ← peek with
                | .value | .flowEntry | .flowMappingEnd => placeEmpty
                | _ => read handles steps .flow
              let value ← match ← peek with
                | .value => do
                    advance
                    match ← peek with
                    | .flowEntry | .flowMappingEnd => placeEmpty
                    | _ => read handles steps .flow
                | _ => placeEmpty
              return (key, value) :: (← readFlowPairs handles steps false)
          | .flowMappingEnd => do advance; return []
          | _ =>
              let key ← read handles steps .flow
              let value ← placeEmpty
              return (key, value) :: (← readFlowPairs handles steps false)

end

/-- The meanings that handles have without a directive. -/
def defaultHandles : Handles := [("!", "!"), ("!!", Tag.standard)]

/-- Reads the directives before a document: at most one version, which has to be of the first
generation, and a meaning for each handle at most once. -/
def readDirectives : Nat → Bool → Handles → Reader Handles
  | 0, _, _ => throw .yaml
  | steps + 1, versioned, handles => do
      match ← peek with
      | .directive (.version major) =>
          advance
          if versioned || major != 1 then throw .yaml
          readDirectives steps true handles
      | .directive (.tag handle meaning) =>
          advance
          if (Assoc.get? handle handles).isSome then throw .yaml
          readDirectives steps versioned (handles ++ [(handle, meaning)])
      | .directive .other => do advance; readDirectives steps versioned handles
      | _ =>
          return handles ++ defaultHandles.filter fun entry =>
            (Assoc.get? entry.1 handles).isNone

/-- Reads what is left when a document is complete: marks of its end alone. Of another document the
directives are read, and the token after them, before it is refused. -/
def readRest : Nat → Reader Unit
  | 0 => throw .yaml
  | steps + 1 => do
      match ← peek with
      | .documentEnd => do advance; readRest steps
      | .streamEnd => return ()
      | _ =>
          let _ ← readDirectives steps false []
          let _ ← peek
          throw .yaml

/-- Reads the only document of a text, if there is one. -/
def readDocument (steps : Nat) : Reader (Option NodeId) := do
  match ← peek with
  | .streamEnd => return none
  | .directive _ | .documentStart =>
      let handles ← readDirectives steps false []
      match ← peek with
      | .documentStart => advance
      | _ => throw .yaml
      let root ← match ← peek with
        | .directive _ | .documentStart | .documentEnd | .streamEnd => placeEmpty
        | _ => read handles steps .block
      readRest steps
      return some root
  | _ =>
      let root ← read defaultHandles steps .block
      readRest steps
      return some root

/-- The only document of a text, if there is one, with the number of its root. -/
def ofText (text : List Char) : Except Failure (Option (Graph × NodeId)) := do
  let tokens := Token.ofText text
  let (root, reading) ← (readDocument (4 * tokens.length + 4)).run ⟨tokens, [], .empty⟩
  return root.map fun id => (reading.graph, id)

end PatchReview.Yaml.Graph
