import PatchReview.Yaml.Graph.Basic

/-!
Merge keys. The pairs of the mappings that a merge key names come before the mapping's own, so
that its own count. Of several mappings under one key the last one named comes first of all.
-/

namespace PatchReview.Yaml.Graph

/-- A computation over a graph that it changes. -/
abbrev Change (α : Type) := StateT Graph (Except Failure) α

/-- The pairs before the first merge key, what it names, and the pairs after it. -/
def splitAtMerge? (graph : Graph) : List Pair → Option (List Pair × NodeId × List Pair)
  | [] => none
  | pair :: rest =>
      if (graph.node pair.1).tag == .merge then some ([], pair.2, rest)
      else (splitAtMerge? graph rest).map fun (before, found) => (pair :: before, found)

/-- Makes a text of each key that is the mark for a value. -/
def nameValueKeys (graph : Graph) (pairs : List Pair) : Graph :=
  pairs.foldl (fun graph pair =>
    if (graph.node pair.1).tag == .value then graph.setTag pair.1 .str else graph) graph

/-- The pairs of a mapping, after its own merge keys are resolved. -/
def mergedPairs (resolve : NodeId → Change Unit) (id : NodeId) : Change (List Pair) := do
  match ((← get).node id).content with
  | .map _ =>
      resolve id
      return (← get).pairs id
  | _ => throw .yaml

/-- The pairs that the value of a merge key brings in. -/
def brought (resolve : NodeId → Change Unit) (id : NodeId) : Change (List Pair) := do
  match ((← get).node id).content with
  | .seq items =>
      let parts ← items.mapM (mergedPairs resolve)
      return parts.reverse.flatten
  | _ => mergedPairs resolve id

/-- Resolves the merge keys of a mapping. A key is dropped before what it names is resolved, so
that a mapping may name itself; every step drops one. -/
def resolveMerges : Nat → NodeId → Change Unit
  | 0, _ => throw .yaml
  | steps + 1, id => do
      let graph ← get
      match splitAtMerge? graph (graph.pairs id) with
      | none => set (graph.nameValueKeys (graph.pairs id))
      | some (before, named, after) =>
          set (graph.setContent id (.map (before ++ after)))
          let more ← brought (resolveMerges steps) named
          resolveMerges steps id
          modify fun graph => graph.setContent id (.map (more ++ graph.pairs id))

end PatchReview.Yaml.Graph
