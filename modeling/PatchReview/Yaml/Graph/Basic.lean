import PatchReview.Assoc
import PatchReview.Failure
import PatchReview.Yaml.Tag

/-!
YAML documents as graphs. Nodes have numbers, and a collection holds the numbers of its parts, so
that aliases share what they stand for and a collection may be a part of itself.
-/

namespace PatchReview.Yaml

/-- The number of a node. -/
abbrev NodeId := Nat

/-- A key and its value. -/
abbrev Pair := NodeId × NodeId

/-- What a node holds. -/
inductive Content where
  | scalar (text : String)
  | seq (items : List NodeId)
  | map (pairs : List Pair)
  deriving DecidableEq

/-- A node of a document. -/
structure Node where
  tag : Tag
  content : Content
  deriving DecidableEq

/-- The scalar that stands where nothing is written. -/
def Node.empty : Node := ⟨.null, .scalar ""⟩

/-- Nodes by number. -/
structure Graph where
  nodes : Array Node

namespace Graph

/-- A graph without nodes. -/
def empty : Graph := ⟨#[]⟩

/-- How many nodes there are. -/
def size (graph : Graph) : Nat := graph.nodes.size

/-- The node of a number. -/
def node (graph : Graph) (id : NodeId) : Node := graph.nodes.getD id .empty

/-- Adds a node, whose number is the size before. -/
def add (graph : Graph) (node : Node) : Graph := ⟨graph.nodes.push node⟩

/-- Changes the node of a number. -/
def setNode (graph : Graph) (id : NodeId) (node : Node) : Graph := ⟨graph.nodes.setIfInBounds id node⟩

/-- Gives a node other content. -/
def setContent (graph : Graph) (id : NodeId) (content : Content) : Graph :=
  graph.setNode id { graph.node id with content }

/-- Gives a node another tag. -/
def setTag (graph : Graph) (id : NodeId) (tag : Tag) : Graph :=
  graph.setNode id { graph.node id with tag }

/-- The pairs of a mapping. -/
def pairs (graph : Graph) (id : NodeId) : List Pair :=
  match (graph.node id).content with
  | .map pairs => pairs
  | _ => []

/-- How many pairs the mappings hold together. -/
def pairCount (graph : Graph) : Nat :=
  graph.nodes.foldl (fun count node =>
    match node.content with
    | .map pairs => count + pairs.length
    | _ => count) 0

/-- The text of a scalar. A mapping stands for its value entry, which may lead back to it. -/
def text (graph : Graph) : Nat → NodeId → Except Failure String
  | 0, _ => .error .recursion
  | steps + 1, id =>
      match (graph.node id).content with
      | .scalar text => .ok text
      | .seq _ => .error .yaml
      | .map pairs =>
          match pairs.find? fun pair => (graph.node pair.1).tag == .value with
          | some (_, value) => graph.text steps value
          | none => .error .yaml

end Graph

end PatchReview.Yaml
