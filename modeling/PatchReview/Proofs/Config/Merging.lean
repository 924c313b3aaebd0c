import PatchReview.Config.Merge
import PatchReview.Proofs.Assoc

/-! Merged configurations, path by path. A path of keys leads through objects; what the second object has at
a path is written over what the first one has there, unless both have objects, which are merged in turn.
-/

namespace PatchReview

-----------------------------------------------------------------------------------------
-- Paths
-----------------------------------------------------------------------------------------

namespace Json

/-- The value at a path of keys, through objects only. -/
def atPath? : List String → Json → Option Json
  | [], value => some value
  | key :: path, value => (value.field? key).bind (atPath? path)

/-- Whether a value is an object. -/
def IsObject (value : Json) : Prop := ∃ fields, value = .obj fields

/-- In all objects of a value, those within objects included, no key stands twice. -/
inductive HasDistinctKeys : Json → Prop
  | obj {fields} (distinct : (Assoc.keys fields).Nodup) (each : ∀ field ∈ fields, HasDistinctKeys field.2)
    : HasDistinctKeys (.obj fields)
  | other {value} (none : ¬ value.IsObject) : HasDistinctKeys value

variable {value : Json} {path below : List String} {fields : Json.Fields}

/-- A path goes on from where its first part leads, by induction on that. -/
theorem atPath?_append (path below : List String) (value : Json)
    : atPath? (path ++ below) value = (atPath? path value).bind (atPath? below) := by
  induction path generalizing value with
  | nil => rfl
  | cons key path ih =>
      rw [List.cons_append, atPath?, atPath?, Option.bind_assoc]
      congr 1
      funext next
      exact ih next

/-- Below a value that is no object there is nothing. -/
theorem atPath?_of_not_isObject (none : ¬ value.IsObject) (key : String) (path : List String)
    : atPath? (key :: path) value = Option.none := by
  cases value with
  | obj fields => exact absurd ⟨fields, rfl⟩ none
  | null | bool | int | float | str | arr => rfl

theorem hasDistinctKeys_obj_iff
    : (Json.obj fields).HasDistinctKeys
      ↔ (Assoc.keys fields).Nodup ∧ ∀ field ∈ fields, field.2.HasDistinctKeys := by
  constructor
  · intro keyed
    cases keyed with
    | obj distinct each => exact ⟨distinct, each⟩
    | other none => exact absurd ⟨fields, rfl⟩ none
  · exact fun keyed => .obj keyed.1 keyed.2

theorem HasDistinctKeys.nodup (keyed : (Json.obj fields).HasDistinctKeys) : (Assoc.keys fields).Nodup :=
  (hasDistinctKeys_obj_iff.mp keyed).1

theorem HasDistinctKeys.of_get? (keyed : (Json.obj fields).HasDistinctKeys) {key : String}
    (found : Assoc.get? key fields = some value)
    : value.HasDistinctKeys :=
  (hasDistinctKeys_obj_iff.mp keyed).2 (key, value) (Assoc.mem_of_get? found)

/-- A value at a path has distinct keys when the whole has, by induction on the path. -/
theorem HasDistinctKeys.atPath? {found : Json} (keyed : value.HasDistinctKeys)
    (here : Json.atPath? path value = some found)
    : found.HasDistinctKeys := by
  induction path generalizing value with
  | nil => exact Option.some.inj here ▸ keyed
  | cons key path ih =>
      obtain ⟨next, entry, later⟩ := Option.bind_eq_some_iff.mp here
      cases value with
      | obj fields => exact ih (keyed.of_get? entry) later
      | null | bool | int | float | str | arr => cases entry

end Json

-----------------------------------------------------------------------------------------
-- One level
-----------------------------------------------------------------------------------------

namespace Config

open Json

variable {base override fields : Json.Fields} {key : String} {old : Option Json} {value : Json}

/-- Over a value that is no object, any value is written as it is. -/
theorem mergeValue_of_not_object (plain : ¬ ∃ base, old = some (.obj base)) (value : Json)
    : mergeValue old value = value := by
  cases value with
  | obj fields =>
      cases old with
      | none => rfl
      | some before =>
          cases before with
          | obj base => exact absurd ⟨base, rfl⟩ plain
          | null | bool | int | float | str | arr => rfl
  | null | bool | int | float | str | arr => rfl

/-- A value that is no object is written over any value. -/
theorem mergeValue_not_isObject (none : ¬ value.IsObject) (old : Option Json)
    : mergeValue old value = value := by
  cases value with
  | obj fields => exact absurd ⟨fields, rfl⟩ none
  | null | bool | int | float | str | arr => rfl

/-- A key of the second object has its value written over that of the first, and other keys keep their values,
by induction on the second object.
-/
theorem get?_merge (distinct : (Assoc.keys override).Nodup) (key : String) (base : Json.Fields)
    : Assoc.get? key (merge base override)
      = match Assoc.get? key override with
        | some value => some (mergeValue (Assoc.get? key base) value)
        | none => Assoc.get? key base := by
  induction override generalizing base with
  | nil => rfl
  | cons field rest ih =>
      obtain ⟨first, value⟩ := field
      obtain ⟨fresh, distinct⟩ := List.nodup_cons.mp distinct
      rw [merge, ih distinct]
      by_cases same : first = key
      · subst same
        have absent : Assoc.get? first rest = none := by
          rw [← Option.not_isSome_iff_eq_none, Option.isSome_iff_exists, ← Assoc.mem_keys_iff]
          exact fresh
        simp [Assoc.get?, absent, Assoc.get?_set_self]
      · simp [Assoc.get?, same, Assoc.get?_set_of_ne (Ne.symm same)]

/-- The keys of the first object come first and the new ones follow, by induction on the second object. -/
theorem keys_merge (distinct : (Assoc.keys override).Nodup) (base : Json.Fields)
    : Assoc.keys (merge base override)
      = Assoc.keys base ++ (Assoc.keys override).filter (· ∉ Assoc.keys base) := by
  induction override generalizing base with
  | nil => simp [merge, Assoc.keys]
  | cons field rest ih =>
      obtain ⟨first, value⟩ := field
      obtain ⟨fresh, distinct⟩ := List.nodup_cons.mp distinct
      have split : Assoc.keys ((first, value) :: rest) = first :: Assoc.keys rest := rfl
      rw [merge, ih distinct, Assoc.keys_set, split]
      by_cases known : first ∈ Assoc.keys base
      · simp [known]
      · rw [if_neg known, List.append_assoc, List.filter_cons_of_pos (by simpa using known)]
        refine congrArg (Assoc.keys base ++ first :: ·) (List.filter_congr ?_)
        intro other member
        have differs : other ≠ first := fun same => fresh (same ▸ member)
        simp [differs]

theorem nodup_keys_merge (distinct : (Assoc.keys override).Nodup) (distinctBase : (Assoc.keys base).Nodup)
    : (Assoc.keys (merge base override)).Nodup := by
  rw [keys_merge distinct, List.nodup_append]
  refine ⟨distinctBase, distinct.filter _, ?_⟩
  rintro key member other among rfl
  simp [member] at among

/-- A merged object has this field under a key. -/
theorem merge_eq_of_fields {merged : Json.Fields} (distinct : (Assoc.keys override).Nodup)
    (distinctBase : (Assoc.keys base).Nodup)
    (sameKeys : Assoc.keys (merge base override) = Assoc.keys merged)
    (each : ∀ key value, Assoc.get? key override = some value →
      Assoc.get? key merged = some (mergeValue (Assoc.get? key base) value))
    (others : ∀ key, Assoc.get? key override = none → Assoc.get? key merged = Assoc.get? key base)
    : merge base override = merged := by
  refine Assoc.eq_of_keys_eq sameKeys (nodup_keys_merge distinct distinctBase) ?_
  intro key _
  rw [get?_merge distinct]
  cases found : Assoc.get? key override with
  | none => exact (others key found).symm
  | some value => exact (each key value found).symm

-----------------------------------------------------------------------------------------
-- All levels
-----------------------------------------------------------------------------------------

/-- A property that objects have when their keys differ and their fields have it is kept when a value is
written over another one, by induction on what is written.
-/
theorem mergeValue_keeps {Kept : Json → Prop}
    (object : ∀ fields, Kept (.obj fields) ↔ (Assoc.keys fields).Nodup ∧ ∀ field ∈ fields, Kept field.2)
    (keyed : value.HasDistinctKeys) (kept : Kept value)
    (keptOld : ∀ before, old = some before → Kept before)
    : Kept (mergeValue old value) := by
  induction keyed generalizing old with
  | other none =>
      rw [mergeValue_not_isObject none]
      exact kept
  | @obj fields distinct _ ih =>
      have each := ((object fields).mp kept).2
      by_cases clash : ∃ base, old = some (.obj base)
      · obtain ⟨base, rfl⟩ := clash
        obtain ⟨distinctBase, eachOld⟩ := (object base).mp (keptOld _ rfl)
        have ofBase {key : String} {before : Json} (found : Assoc.get? key base = some before)
            : Kept before :=
          eachOld (key, before) (Assoc.mem_of_get? found)
        have distinctMerged := nodup_keys_merge distinct distinctBase
        refine (object _).mpr ⟨distinctMerged, ?_⟩
        rintro ⟨key, merged⟩ member
        have found := (Assoc.get?_eq_some_iff_mem distinctMerged).mpr member
        rw [get?_merge distinct] at found
        cases written : Assoc.get? key fields with
        | none =>
            rw [written] at found
            exact ofBase found
        | some value =>
            rw [written] at found
            obtain rfl := Option.some.inj found
            have among := Assoc.mem_of_get? written
            exact ih (key, value) among (each _ among) fun before => ofBase
      · rw [mergeValue_of_not_object clash]
        exact kept

/-- What is written over a value has distinct keys when both have. -/
theorem hasDistinctKeys_mergeValue (keyed : value.HasDistinctKeys)
    (keyedOld : ∀ before, old = some before → before.HasDistinctKeys)
    : (mergeValue old value).HasDistinctKeys :=
  mergeValue_keeps (fun _ => hasDistinctKeys_obj_iff) keyed keyed keyedOld

/-- A value is written over itself without a change, by induction on the value. -/
theorem mergeValue_self (keyed : value.HasDistinctKeys) : mergeValue (some value) value = value := by
  induction keyed with
  | other none => exact mergeValue_not_isObject none _
  | @obj fields distinct each ih =>
      have same : merge fields fields = fields := by
        refine merge_eq_of_fields distinct distinct ?_ ?_ (fun _ _ => rfl)
        · rw [keys_merge distinct]
          simp
        · intro key value found
          rw [found, ih (key, value) (Assoc.mem_of_get? found)]
      rw [mergeValue, same]

/-- Writing a value once more changes nothing, by induction on the value. -/
theorem mergeValue_mergeValue (keyed : value.HasDistinctKeys)
    (keyedOld : ∀ before, old = some before → before.HasDistinctKeys)
    : mergeValue (some (mergeValue old value)) value = mergeValue old value := by
  induction keyed generalizing old with
  | other none => rw [mergeValue_not_isObject none, mergeValue_not_isObject none]
  | @obj fields distinct each ih =>
      by_cases object : ∃ base, old = some (.obj base)
      · obtain ⟨base, rfl⟩ := object
        have keyedBase := keyedOld _ rfl
        have again : merge (merge base fields) fields = merge base fields := by
          refine merge_eq_of_fields distinct (nodup_keys_merge distinct keyedBase.nodup) ?_ ?_ ?_
          · have known : ∀ key ∈ Assoc.keys fields, key ∈ Assoc.keys (merge base fields) := by
              intro key member
              rw [keys_merge distinct]
              by_cases old : key ∈ Assoc.keys base <;> simp [old, member]
            rw [keys_merge distinct]
            simpa using known
          · intro key value found
            rw [get?_merge distinct, found]
            exact congrArg some (ih (key, value) (Assoc.mem_of_get? found) fun _ => keyedBase.of_get?).symm
          · intro key absent
            rfl
        simp only [mergeValue, again]
      · rw [mergeValue_of_not_object object, mergeValue_self (.obj distinct each)]

-----------------------------------------------------------------------------------------
-- Paths of a merged value
-----------------------------------------------------------------------------------------

variable {new : Json} {path : List String}

/-- Where there is no object, there is nothing below. -/
theorem bind_atPath?_of_not_object (plain : ¬ ∃ base, old = some (.obj base)) (key : String)
    (path : List String)
    : old.bind (atPath? (key :: path)) = none := by
  cases old with
  | none => rfl
  | some before =>
      apply atPath?_of_not_isObject
      rintro ⟨base, rfl⟩
      exact plain ⟨base, rfl⟩

/-- What stands at a path is written over what stood there, by induction on the path. -/
theorem atPath?_mergeValue_of_some (keyed : new.HasDistinctKeys) (found : atPath? path new = some value)
    : atPath? path (mergeValue old new) = some (mergeValue (old.bind (atPath? path)) value) := by
  induction path generalizing old new with
  | nil =>
      obtain rfl := Option.some.inj found
      cases old <;> rfl
  | cons key path ih =>
      obtain ⟨next, entry, later⟩ := Option.bind_eq_some_iff.mp found
      cases new with
      | obj fields =>
          have written : Assoc.get? key fields = some next := entry
          by_cases object : ∃ base, old = some (.obj base)
          · obtain ⟨base, rfl⟩ := object
            have here : field? key (.obj (merge base fields))
                = some (mergeValue (Assoc.get? key base) next) := by
              rw [field?, get?_merge keyed.nodup, written]
            rw [mergeValue, atPath?, here]
            exact ih (keyed.of_get? written) later
          · rw [mergeValue_of_not_object object, bind_atPath?_of_not_object object,
              mergeValue_of_not_object (by simp), found]
      | null | bool | int | float | str | arr => cases entry

/-- (Untouched path new) says that a value says nothing at a path: there is nothing, and what there is above
is objects.
-/
def Untouched (path : List String) (new : Json) : Prop :=
  atPath? path new = none
  ∧ ∀ above below, path = above ++ below → below ≠ [] → ∀ value, atPath? above new = some value →
      value.IsObject

/-- Where nothing is said, there is what there was, by induction on the path. -/
theorem atPath?_mergeValue_of_untouched (old : Option Json) (keyed : new.HasDistinctKeys)
    (untouched : Untouched path new)
    : atPath? path (mergeValue old new) = old.bind (atPath? path) := by
  induction path generalizing old new with
  | nil => simp [Untouched, atPath?] at untouched
  | cons key path ih =>
      obtain ⟨absent, above⟩ := untouched
      obtain ⟨fields, rfl⟩ := above [] (key :: path) rfl (by simp) new rfl
      by_cases object : ∃ base, old = some (.obj base)
      · obtain ⟨base, rfl⟩ := object
        have entry := get?_merge keyed.nodup key base
        rw [mergeValue, Option.bind_some, atPath?, atPath?, field?, field?, entry]
        cases written : Assoc.get? key fields with
        | none => rfl
        | some next =>
            refine ih _ (keyed.of_get? written) ⟨?_, ?_⟩
            · simpa [atPath?, field?, written] using absent
            · intro first below split nonempty value found
              refine above (key :: first) below (by rw [split]; rfl) nonempty value ?_
              simpa [atPath?, field?, written] using found
      · rw [mergeValue_of_not_object object, bind_atPath?_of_not_object object, absent]

-----------------------------------------------------------------------------------------
-- Merged objects
-----------------------------------------------------------------------------------------

/-- (Merges base override merged) says what an object has at each path when it is made of two others, and in
which order it has its keys.
-/
structure Merges (base override merged : Json.Fields) : Prop where
  /-- A value that is no object is written, and nothing is left below it. -/
  written : ∀ path value, atPath? path (.obj override) = some value → ¬ value.IsObject →
    atPath? path (.obj merged) = some value
    ∧ ∀ key below, atPath? (path ++ key :: below) (.obj merged) = none
  /-- Two objects are merged in turn: the keys of the first one come first, and the new ones follow. -/
  joined : ∀ path old new, atPath? path (.obj base) = some (.obj old) →
    atPath? path (.obj override) = some (.obj new) →
    atPath? path (.obj merged) = some (.obj (merge old new))
    ∧ Assoc.keys (merge old new) = Assoc.keys old ++ (Assoc.keys new).filter (· ∉ Assoc.keys old)
  /-- An object is written as it is where there was none. -/
  added : ∀ path new, (¬ ∃ old, atPath? path (.obj base) = some (.obj old)) →
    atPath? path (.obj override) = some (.obj new) → atPath? path (.obj merged) = some (.obj new)
  /-- Where nothing is said, there is what there was. -/
  kept : ∀ path, Untouched path (.obj override) → atPath? path (.obj merged) = atPath? path (.obj base)
  distinct : (Json.obj merged).HasDistinctKeys

/-- Over the value at a path of an object, that of the second object is written. -/
theorem atPath?_merge_of_some (keyed : (Json.obj override).HasDistinctKeys) (base : Json.Fields)
    (found : atPath? path (.obj override) = some value)
    : atPath? path (.obj (merge base override)) = some (mergeValue (atPath? path (.obj base)) value) := by
  have merged : Json.obj (merge base override) = mergeValue (some (.obj base)) (.obj override) := rfl
  rw [merged, atPath?_mergeValue_of_some keyed found, Option.bind_some]

/-- Objects whose keys differ are merged path by path. Merging with nothing changes nothing, and neither does
merging an object with itself or merging a second time.
-/
theorem merge_merges (base override : Json.Fields) (keyedBase : (Json.obj base).HasDistinctKeys)
    (keyed : (Json.obj override).HasDistinctKeys)
    : Merges base override (merge base override)
      ∧ merge base [] = base
      ∧ merge [] override = override
      ∧ merge base base = base
      ∧ merge (merge base override) override = merge base override := by
  have keyedOld : ∀ before, some (Json.obj base) = some before → before.HasDistinctKeys :=
    fun before same => Option.some.inj same ▸ keyedBase
  refine ⟨?_, rfl, ?_, ?_, ?_⟩
  · refine {
      written := ?_
      joined := ?_
      added := ?_
      kept := ?_
      distinct := hasDistinctKeys_mergeValue keyed keyedOld }
    · intro path value found plain
      have here := atPath?_merge_of_some keyed base found
      rw [mergeValue_not_isObject plain] at here
      refine ⟨here, fun key below => ?_⟩
      rw [atPath?_append, here]
      exact atPath?_of_not_isObject plain key below
    · intro path old new foundOld found
      have here := atPath?_merge_of_some keyed base found
      rw [foundOld, mergeValue] at here
      exact ⟨here, keys_merge (keyed.atPath? found).nodup old⟩
    · intro path new plain found
      have here := atPath?_merge_of_some keyed base found
      rwa [mergeValue_of_not_object plain] at here
    · intro path untouched
      exact atPath?_mergeValue_of_untouched (some (.obj base)) keyed untouched
  · have distinct := keyed.nodup
    refine merge_eq_of_fields distinct .nil ?_ ?_ ?_
    · rw [keys_merge distinct]
      simp [Assoc.keys]
    · intro key value found
      rw [found, mergeValue_of_not_object (by simp [Assoc.get?])]
    · exact fun key absent => absent
  · exact Json.obj.inj (mergeValue_self keyedBase)
  · exact Json.obj.inj (mergeValue_mergeValue keyed keyedOld)

/-- An object whose objects clash with those of `clashing` at two depths. -/
def nested : Json.Fields :=
  [("a", .obj [("x", .int 1), ("y", .obj [("p", .bool true)])]), ("b", .int 2)]

def clashing : Json.Fields :=
  [("c", .obj []), ("b", .obj [("q", .null)]), ("a", .obj [("y", .obj [("r", .int 3)]), ("x", .str "s")])]

theorem merge_merges_clashing
    : (Json.obj nested).HasDistinctKeys
      ∧ (Json.obj clashing).HasDistinctKeys
      ∧ Merges nested clashing
          [("a", .obj [("x", .str "s"), ("y", .obj [("p", .bool true), ("r", .int 3)])]),
            ("b", .obj [("q", .null)]), ("c", .obj [])]
      ∧ merge nested [] = nested
      ∧ merge [] clashing = clashing
      ∧ merge nested nested = nested
      ∧ merge (merge nested clashing) clashing = merge nested clashing := by
  have keyed : (Json.obj nested).HasDistinctKeys := by
    simp [nested, hasDistinctKeys_obj_iff, HasDistinctKeys.other, Json.IsObject, Assoc.keys]
  have keyedToo : (Json.obj clashing).HasDistinctKeys := by
    simp [clashing, hasDistinctKeys_obj_iff, HasDistinctKeys.other, Json.IsObject, Assoc.keys]
  exact ⟨keyed, keyedToo, merge_merges nested clashing keyed keyedToo⟩

end Config

end PatchReview
