import Mathlib.Data.List.Induction
import PatchReview.Assoc

/-! Lookups in association lists, against membership and against the places of keys. A list in which
keys repeat is read as their first places with their last values.
-/

namespace PatchReview

-----------------------------------------------------------------------------------------
-- Items, each once
-----------------------------------------------------------------------------------------

section Items

variable {α : Type} [BEq α] [LawfulBEq α]

/-- A list with each item once has none twice, by induction on its length. -/
theorem nodup_eraseDups (items : List α) : items.eraseDups.Nodup := by
  generalize size : items.length = length
  induction length using Nat.strongRecOn generalizing items with
  | ind length ih =>
      cases items with
      | nil => exact .nil
      | cons item rest =>
          rw [List.eraseDups_cons]
          have shorter : (rest.filter fun other => !other == item).length < length := by
            have kept := List.length_filter_le (fun other => !other == item) rest
            rw [← size, List.length_cons]
            omega
          refine List.nodup_cons.mpr ⟨?_, ih _ shorter _ rfl⟩
          simp [List.mem_eraseDups]

/-- An item at the end of a list stays when it is new. -/
theorem eraseDups_concat (items : List α) (item : α)
    : (items ++ [item]).eraseDups = items.eraseDups ++ if item ∈ items then [] else [item] := by
  rw [List.eraseDups_append]
  by_cases known : item ∈ items
  · simp [List.removeAll, known]
  · simp [List.removeAll, known, List.eraseDups_cons]

end Items

-----------------------------------------------------------------------------------------
-- Entries
-----------------------------------------------------------------------------------------

namespace Assoc

variable {κ ν : Type} [BEq κ]

/-- Writing an entry adds this entry, or gives its value to a key that is equal, by induction on the
entries.
-/
theorem mem_set {key other : κ} {value content : ν} {entries : List (κ × ν)}
    (member : (other, content) ∈ set key value entries)
    : (other, content) ∈ entries
      ∨ content = value ∧ (other = key ∨ other == key ∧ ∃ held, (other, held) ∈ entries) := by
  induction entries with
  | nil =>
      obtain ⟨rfl, rfl⟩ := by simpa [set] using member
      exact Or.inr ⟨rfl, Or.inl rfl⟩
  | cons entry rest ih =>
      obtain ⟨first, held⟩ := entry
      simp only [set] at member
      split at member
      · next same =>
          rcases List.mem_cons.mp member with here | below
          · obtain ⟨rfl, rfl⟩ := Prod.mk.inj here
            exact Or.inr ⟨rfl, Or.inr ⟨same, held, List.mem_cons_self⟩⟩
          · exact Or.inl (List.mem_cons_of_mem _ below)
      · rcases List.mem_cons.mp member with here | below
        · exact Or.inl (here ▸ List.mem_cons_self)
        · rcases ih below with before | ⟨same, written | ⟨equal, old, before⟩⟩
          · exact Or.inl (List.mem_cons_of_mem _ before)
          · exact Or.inr ⟨same, Or.inl written⟩
          · exact Or.inr ⟨same, Or.inr ⟨equal, old, List.mem_cons_of_mem _ before⟩⟩

variable [LawfulBEq κ]

/-- A value that is found belongs to an entry, by induction on the entries. -/
theorem mem_of_get? {key : κ} {value : ν} {entries : List (κ × ν)}
    (found : get? key entries = some value)
    : (key, value) ∈ entries := by
  induction entries with
  | nil => simp [get?] at found
  | cons entry rest ih =>
      simp only [get?] at found
      split at found
      · next same =>
          obtain rfl := Option.some.inj found
          exact List.mem_cons.mpr (Or.inl (Prod.ext (eq_of_beq same).symm rfl))
      · exact List.mem_cons_of_mem entry (ih found)

/-- Writing an entry leaves the values of other keys, by induction on the entries. -/
theorem get?_set_of_ne {key other : κ} (differs : other ≠ key) (value : ν) (entries : List (κ × ν))
    : get? other (set key value entries) = get? other entries := by
  induction entries with
  | nil => simp [set, get?, Ne.symm differs]
  | cons entry rest ih =>
      simp only [set]
      split
      · next same =>
          obtain rfl := eq_of_beq same
          simp [get?, Ne.symm differs]
      · simp only [get?, ih]

/-- Writing an entry gives its key the value, by induction on the entries. -/
theorem get?_set_self (key : κ) (value : ν) (entries : List (κ × ν))
    : get? key (set key value entries) = some value := by
  induction entries with
  | nil => simp [set, get?]
  | cons entry rest ih =>
      simp only [set]
      split
      · next same => rw [get?, if_pos same]
      · next differs => simpa only [get?, if_neg differs] using ih

/-- A key without an entry is not found, and no other, by induction on the entries. -/
theorem get?_eq_none_iff {key : κ} {entries : List (κ × ν)}
    : get? key entries = none ↔ ∀ value, (key, value) ∉ entries := by
  induction entries with
  | nil => simp [get?]
  | cons entry rest ih =>
      obtain ⟨first, value⟩ := entry
      simp only [get?]
      split
      · next same =>
          obtain rfl := eq_of_beq same
          simp only [reduceCtorEq, false_iff]
          intro absent
          exact absent value (by simp)
      · next differs =>
          have other : key ≠ first := fun same => differs (by simp [same])
          simp [ih, other]

/-- Where no key repeats, the value of a key is that of its entry. -/
theorem get?_eq_some_iff_mem {key : κ} {value : ν} {entries : List (κ × ν)}
    (distinct : (keys entries).Nodup)
    : get? key entries = some value ↔ (key, value) ∈ entries := by
  refine ⟨mem_of_get?, ?_⟩
  intro member
  induction entries with
  | nil => simp at member
  | cons entry rest ih =>
      obtain ⟨first, content⟩ := entry
      obtain ⟨fresh, later⟩ := List.nodup_cons.mp distinct
      rcases List.mem_cons.mp member with same | below
      · obtain ⟨rfl, rfl⟩ := Prod.mk.inj same
        simp [get?]
      · have differs : first ≠ key := by
          rintro rfl
          exact fresh (List.mem_map.mpr ⟨_, below, rfl⟩)
        simpa [get?, differs] using ih later below

/-- Writing an entry keeps the keys, or puts a new key at the end, by induction on the entries. -/
theorem keys_set (key : κ) (value : ν) (entries : List (κ × ν))
    : keys (set key value entries) = keys entries ++ if key ∈ keys entries then [] else [key] := by
  induction entries with
  | nil => simp [set, keys]
  | cons entry rest ih =>
      obtain ⟨first, content⟩ := entry
      simp only [set]
      split
      · next same =>
          obtain rfl := eq_of_beq same
          simp [keys]
      · next differs =>
          have other : key ≠ first := fun same => differs (by simp [same])
          have split : keys ((first, content) :: rest) = first :: keys rest := rfl
          rw [split]
          simp only [List.mem_cons, other, false_or, List.cons_append]
          exact congrArg (List.cons first) ih

/-- Writing an entry gives its key the value and leaves the other keys, by induction on the entries. -/
theorem mem_set_iff {key other : κ} {value content : ν} {entries : List (κ × ν)}
    (distinct : (keys entries).Nodup)
    : (other, content) ∈ set key value entries
      ↔ other = key ∧ content = value ∨ other ≠ key ∧ (other, content) ∈ entries := by
  induction entries with
  | nil => simp [set]
  | cons entry rest ih =>
      obtain ⟨first, held⟩ := entry
      obtain ⟨fresh, later⟩ := List.nodup_cons.mp distinct
      have absent : (first, content) ∉ rest := fun below => fresh (List.mem_map.mpr ⟨_, below, rfl⟩)
      simp only [set]
      split
      · next same =>
          obtain rfl := eq_of_beq same
          grind
      · next differs =>
          have unequal : first ≠ key := fun same => differs (by simp [same])
          simp only [List.mem_cons, Prod.mk.injEq, ih later]
          grind

omit [LawfulBEq κ] in
/-- Reading one entry more writes this entry. -/
theorem ofList_concat (entries : List (κ × ν)) (key : κ) (value : ν)
    : ofList (entries ++ [(key, value)]) = set key value (ofList entries) := by
  simp [ofList, setAll]

/-- Reading a list keeps each of its keys once, by induction on the entries from their end. -/
theorem keys_ofList (entries : List (κ × ν)) : keys (ofList entries) = (keys entries).eraseDups := by
  induction entries using List.reverseRecOn with
  | nil => rfl
  | append_singleton entries entry ih =>
      have joined : keys (entries ++ [entry]) = keys entries ++ [entry.1] := by simp [keys]
      rw [ofList_concat, keys_set, ih, joined, eraseDups_concat]
      simp only [List.mem_eraseDups]

theorem nodup_keys_ofList (entries : List (κ × ν)) : (keys (ofList entries)).Nodup := by
  rw [keys_ofList]
  exact nodup_eraseDups _

/-- Reading a list keeps the last entry of each key, by induction on the entries from their end. -/
theorem mem_ofList_iff {key : κ} {value : ν} {entries : List (κ × ν)}
    : (key, value) ∈ ofList entries
      ↔ ∃ before after, entries = before ++ (key, value) :: after ∧ key ∉ keys after := by
  induction entries using List.reverseRecOn with
  | nil => simp [ofList, setAll]
  | append_singleton entries entry ih =>
      obtain ⟨last, content⟩ := entry
      rw [ofList_concat, mem_set_iff (nodup_keys_ofList entries), ih]
      constructor
      · rintro (⟨rfl, rfl⟩ | ⟨differs, before, after, rfl, fresh⟩)
        · exact ⟨entries, [], rfl, List.not_mem_nil⟩
        · refine ⟨before, after ++ [(last, content)], by simp, ?_⟩
          simpa [keys] using ⟨by simpa [keys] using fresh, differs⟩
      · rintro ⟨before, after, split, fresh⟩
        rcases List.eq_nil_or_concat after with rfl | ⟨between, final, rfl⟩
        · obtain ⟨rfl, same⟩ := List.append_inj' split rfl
          simp only [List.cons.injEq, Prod.mk.injEq, and_true] at same
          exact Or.inl ⟨same.1.symm, same.2.symm⟩
        · rw [List.concat_eq_append, ← List.cons_append, ← List.append_assoc] at split
          obtain ⟨rfl, same⟩ := List.append_inj' split rfl
          obtain rfl := (List.cons.inj same).1
          simp only [keys, List.concat_eq_append, List.map_append, List.mem_append, not_or] at fresh
          exact Or.inr ⟨by simpa using fresh.2, before, between, rfl, fresh.1⟩

theorem mem_keys_iff {key : κ} {entries : List (κ × ν)}
    : key ∈ keys entries ↔ ∃ value, get? key entries = some value := by
  rw [← Option.ne_none_iff_exists', ne_eq, get?_eq_none_iff]
  simp [keys]

/-- Entries with the same keys in the same order are the same when each key has the same value in both, by
induction on the entries.
-/
theorem eq_of_keys_eq {left right : List (κ × ν)} (same : keys left = keys right)
    (distinct : (keys left).Nodup) (each : ∀ key ∈ keys left, get? key left = get? key right)
    : left = right := by
  induction left generalizing right with
  | nil => exact (List.map_eq_nil_iff.mp same.symm).symm
  | cons entry left ih =>
      obtain ⟨key, value⟩ := entry
      cases right with
      | nil => simp [keys] at same
      | cons other right =>
          obtain ⟨otherKey, otherValue⟩ := other
          obtain ⟨rfl, later⟩ := List.cons.inj same
          obtain ⟨fresh, distinct⟩ := List.nodup_cons.mp distinct
          obtain rfl : value = otherValue := by simpa [get?] using each key List.mem_cons_self
          refine congrArg (List.cons (key, value)) (ih later distinct ?_)
          intro next member
          have differs : ¬ key = next := fun same => fresh (same ▸ member)
          simpa [get?, differs] using each next (List.mem_cons_of_mem key member)

/-- A new key is written at the end, by induction on the entries. -/
theorem set_of_not_mem {key : κ} {value : ν} {entries : List (κ × ν)} (fresh : key ∉ keys entries)
    : set key value entries = entries ++ [(key, value)] := by
  induction entries with
  | nil => rfl
  | cons entry rest ih =>
      obtain ⟨first, held⟩ := entry
      simp only [keys, List.map_cons, List.mem_cons, not_or] at fresh
      have differs : (first == key) = false := by simpa using Ne.symm fresh.1
      rw [set, differs, ih (by simpa [keys] using fresh.2)]
      rfl

/-- Entries with different keys are read as they are, by induction on the entries from their end. -/
theorem ofList_of_nodup {entries : List (κ × ν)} (distinct : (keys entries).Nodup)
    : ofList entries = entries := by
  induction entries using List.reverseRecOn with
  | nil => rfl
  | append_singleton entries entry ih =>
      obtain ⟨key, value⟩ := entry
      have joined : keys (entries ++ [(key, value)]) = keys entries ++ [key] := by simp [keys]
      rw [joined, List.nodup_append] at distinct
      have fresh : key ∉ keys entries := fun member => distinct.2.2 key member key (by simp) rfl
      rw [ofList_concat, ih distinct.1, set_of_not_mem fresh]

end PatchReview.Assoc
