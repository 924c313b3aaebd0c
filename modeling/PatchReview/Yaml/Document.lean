import PatchReview.Text.Lines
import PatchReview.Yaml.Graph.Merge
import PatchReview.Yaml.Graph.Parser
import PatchReview.Yaml.Meaning

/-!
What a YAML document says. The root is looked at first and the parts of each collection in turn
after it, breadth first, so that of several faults the one nearest to the root counts.
-/

namespace PatchReview.Yaml

/-- A part of a document: a scalar, or the collection of a node. -/
inductive Part where
  | scalar (s : PatchReview.Scalar)
  | collection (id : NodeId)

/-- What a collection holds. -/
inductive Filling where
  | seq (items : List Part)
  | map (entries : List (PatchReview.Scalar × Part))
  | set (elements : List PatchReview.Scalar)
  | pairs (items : List (Part × Part))

namespace Document

/-- A document under way: its nodes, the parts and fillings that are known by now, and the
collections still to be filled, the latest first. -/
structure Draft where
  graph : Graph
  parts : Array (Option Part)
  fillings : Array (Option Filling)
  waiting : List NodeId

/-- The start of a document. -/
def Draft.start (graph : Graph) : Draft :=
  ⟨graph, Array.replicate graph.size none, Array.replicate graph.size none, []⟩

/-- A step on a document. -/
abbrev Step (α : Type) := StateT Draft (Except Failure) α

/-- What a node with the tag of a scalar says. A mapping may stand for its value entry, but not where
the tag is that of a timestamp. -/
def scalar (graph : Graph) (id : NodeId) : Except Failure PatchReview.Scalar := do
  let node := graph.node id
  if !node.tag.isScalar then throw .yaml
  let text ← graph.text (graph.size + 1) id
  match node.tag, node.content with
  | .timestamp, .map _ => throw (.misuse (.search "list"))
  | tag, _ => Scalar.ofTag tag text

/-- The part that a node is. A collection is filled later. -/
def part (id : NodeId) : Step Part := do
  let draft ← get
  match (draft.parts[id]?).join with
  | some found => return found
  | none =>
      match (draft.graph.node id).tag with
      | .seq | .map | .set | .omap | .pairs =>
          let found := Part.collection id
          modify fun draft => { draft with
            parts := draft.parts.setIfInBounds id (some found)
            waiting := id :: draft.waiting }
          return found
      | _ =>
          let found := Part.scalar (← scalar draft.graph id)
          modify fun draft => { draft with parts := draft.parts.setIfInBounds id (some found) }
          return found

/-- A key of a mapping. One that is no number, though it is read as one, has its node for a mark,
and is the same key as no other. -/
structure Key where
  value : PatchReview.Scalar
  mark : Option NodeId

/-- Same key. -/
def Key.same (a b : Key) : Bool := a.mark == b.mark && (a.mark.isSome || a.value == b.value)

instance : BEq Key := ⟨Key.same⟩

/-- The key with the scalar of a node. The word for what is no number always is the same key. -/
def key (graph : Graph) (id : NodeId) (value : PatchReview.Scalar) : Key :=
  match value, graph.text (graph.size + 1) id with
  | .float .nan, .ok text => ⟨value, if Scalar.isNaNWord text then none else some id⟩
  | _, _ => ⟨value, none⟩

/-- The entry of a pair, whose key has to be a scalar. -/
def entry (pair : Pair) : Step (Key × Part) := do
  match ← part pair.1 with
  | .scalar value => return (key (← get).graph pair.1 value, ← part pair.2)
  | .collection _ => throw .yaml

/-- The entries of a mapping, after its merge keys are resolved. -/
def entries (merges : Nat) (id : NodeId) : Step (List (PatchReview.Scalar × Part)) := do
  let draft ← get
  let (_, graph) ← (Graph.resolveMerges merges id).run draft.graph
  set { draft with graph }
  let entries := Assoc.ofList (← (graph.pairs id).mapM entry)
  return entries.map fun (key, value) => (key.value, value)

/-- An item of a list of pairs: a mapping with a single entry. -/
def singlePair (id : NodeId) : Step (Part × Part) := do
  match ((← get).graph.node id).content with
  | .map [(first, second)] => return (← part first, ← part second)
  | _ => throw .yaml

/-- What the collection of a node holds. -/
def filling (merges : Nat) (id : NodeId) : Step Filling := do
  let node := (← get).graph.node id
  match node.tag, node.content with
  | .seq, .seq items => return .seq (← items.mapM part)
  | .map, .map _ => return .map (← entries merges id)
  | .set, .map _ => return .set (Assoc.keys (← entries merges id))
  | .omap, .seq items | .pairs, .seq items => return .pairs (← items.mapM singlePair)
  | _, _ => throw .yaml

/-- Fills a collection. -/
def fill (merges : Nat) (id : NodeId) : Step Unit := do
  let found ← filling merges id
  modify fun draft => { draft with fillings := draft.fillings.setIfInBounds id (some found) }

/-- Fills the collections that wait, then those that came up meanwhile, and so on. Every collection
waits once. -/
def fillAll (merges : Nat) : Nat → Step Unit
  | 0 => throw .yaml
  | rounds + 1 => do
      let waiting := (← get).waiting.reverse
      if waiting.isEmpty then return ()
      modify fun draft => { draft with waiting := [] }
      waiting.forM (fill merges)
      fillAll merges rounds

/-- Collections whose data are known. -/
abbrev Known := Array (Option Datum)

mutual

/-- The datum of a collection that lies within others. -/
def collectionDatum (draft : Draft) (around : List NodeId) : Nat → NodeId → StateM Known Datum
  | 0, _ => return .null
  | depth + 1, id => do
      if let some datum := ((← get)[id]?).join then return datum
      let filling := ((draft.fillings[id]?).join).getD (.seq [])
      if around.contains id then
        return .again (match filling with
          | .map _ => true
          | _ => false)
      let datum := partDatum draft (id :: around) depth
      let found ← match filling with
        | .seq items => do pure (.seq (← items.mapM datum))
        | .map found => do pure (.map (← found.mapM fun (key, value) => do return (key, ← datum value)))
        | .set elements => pure (.set elements)
        | .pairs items => do
            pure (.seq (← items.mapM fun (first, second) => do
              return .seq [← datum first, ← datum second]))
      modify fun known => known.setIfInBounds id (some found)
      return found

/-- The datum of a part. -/
def partDatum (draft : Draft) (around : List NodeId) : Nat → Part → StateM Known Datum
  | _, .scalar s => return .scalar s
  | 0, .collection _ => return .null
  | depth + 1, .collection id => collectionDatum draft around depth id

end

/-- What the document with a root says. -/
def datum (graph : Graph) (root : NodeId) : Except Failure Datum := do
  let (found, draft) ← (part root).run (.start graph)
  let (_, draft) ← (fillAll (graph.pairCount + 1) (graph.size + 1)).run draft
  return ((partDatum draft [] (2 * graph.size + 2) found).run
    (Array.replicate graph.size none)).1

end Document

end PatchReview.Yaml

namespace PatchReview

/-- The value of a YAML text: what its only document says, or nothing. -/
def Datum.ofYaml (text : String) : Except Failure Datum := do
  match ← Yaml.Graph.ofText text.toList with
  | none => return .null
  | some (graph, root) => Yaml.Document.datum graph root

/-- Where the part of a file starts in which the character of a number is read. -/
def Yaml.partStart (index : Nat) : Nat := if index < 8192 then 0 else index / 4096 * 4096

/-- The value of a file. It is read in parts, and a character that a text may not hold counts only
when its part is read: what is wrong before, and is not the notation, counts first. -/
def Datum.ofYamlFile (text : String) : Except Failure Datum :=
  let cs := Text.plainBreaks text.toList
  match cs.findIdx? fun c => !Yaml.isAllowed c with
  | none => Datum.ofYaml (String.ofList cs)
  | some index => do
      let _ ← Yaml.Graph.ofText (cs.take (Yaml.partStart index - 1))
      throw .yaml

end PatchReview
