/-!
Association lists in insertion order. Writing an existing key keeps its place and takes the new
value; a new key goes to the end, so keys stay distinct.
-/

namespace PatchReview.Assoc

variable {κ ν : Type}

/-- The value of a key. -/
def get? [BEq κ] (key : κ) : List (κ × ν) → Option ν
  | [] => none
  | (k, v) :: rest => if k == key then some v else get? key rest

/-- Writes one entry. -/
def set [BEq κ] (key : κ) (value : ν) : List (κ × ν) → List (κ × ν)
  | [] => [(key, value)]
  | (k, v) :: rest => if k == key then (k, value) :: rest else (k, v) :: set key value rest

/-- Writes entries one after the other. -/
def setAll [BEq κ] (entries : List (κ × ν)) (more : List (κ × ν)) : List (κ × ν) :=
  more.foldl (fun acc entry => set entry.1 entry.2 acc) entries

/-- Reads a list in which a key may repeat: the first place and the last value count. -/
def ofList [BEq κ] (entries : List (κ × ν)) : List (κ × ν) := setAll [] entries

/-- The keys in order. -/
def keys (entries : List (κ × ν)) : List κ := entries.map Prod.fst

/-- The values in order. -/
def values (entries : List (κ × ν)) : List ν := entries.map Prod.snd

end PatchReview.Assoc
