import PatchReview.Proofs.Schema.Admission
import PatchReview.Proofs.Service.SingleFiles

/-! Requests that the service turns away. It does so exactly with those that do not pass their check, and then
nothing is asked, run or kept.
-/

namespace PatchReview.Service

open PatchReview.Text

variable {σ : Type}

-----------------------------------------------------------------------------------------
-- Handlers
-----------------------------------------------------------------------------------------

/-- (TurnsAway handle checked) says that a handler turns a request away when its check finds it faulty, and leaves
the session as it is, and that it does not when there is a result.
-/
structure TurnsAway {α : Type} (handle : StateM (Session σ) Answer) (checked : Checked α) : Prop where
  faulty : ∀ errors, checked = .faulty errors →
    ∀ session, handle.run session = (invalid (errorsJson errors), session)
  admitted : ∀ value, checked = .ok value → ∀ session, (handle.run session).1.status ≠ 400

theorem status_answerRun_ne (run : Run) : (answerRun run).status ≠ 400 := by
  unfold answerRun
  split
  · exact (by decide : 500 ≠ 400)
  · split
    · exact (by decide : 500 ≠ 400)
    · exact (by decide : 200 ≠ 400)

theorem status_answerReviews_ne (result : Except Failure (List FileReview))
    : (answerReviews result).status ≠ 400 := by
  unfold answerReviews
  split
  · exact (by decide : 500 ≠ 400)
  · split
    · exact (by decide : 500 ≠ 400)
    · exact (by decide : 200 ≠ 400)

variable (reviewer : Reviewer) (outside : Outside σ) (request : Request)

/-- A file of a checked request can always be made, so that no such request is turned away. -/
theorem turnsAway_lintFile
    : TurnsAway (lintFile reviewer outside request) (SingleFileRequest.ofFields (bodyFields request)) where
  faulty errors checked session := by
    unfold lintFile
    rw [checked]
    rfl
  admitted payload checked session := by
    obtain ⟨-, ⟨build, built⟩, file, made⟩ := SingleFileRequest.checksAgree.converts payload checked
    have given : fileOf payload = .ok (build, file) := by
      rw [fileOf, built, made]
      rfl
    rw [run_lintFile checked given]
    exact status_answerReviews_ne _

/-- An owner of a checked request can always be made, so that the request leads to a run. -/
theorem turnsAway_lintPullRequest
    : TurnsAway (lintPullRequest reviewer outside request) (PullRequest.ofFields (bodyFields request)) where
  faulty errors checked session := by
    unfold lintPullRequest
    rw [checked]
    rfl
  admitted payload checked session := by
    obtain ⟨owner, made, -⟩ := PullRequest.checksAgree.converts payload checked
    unfold lintPullRequest
    rw [checked]
    dsimp only
    rw [made]
    exact status_answerRun_ne _

-----------------------------------------------------------------------------------------
-- Checks and what they stand for
-----------------------------------------------------------------------------------------

/-- What passes the check of a request can be made into what the service works with, and what can be made so
passes it, if its fields are of the right kinds and the lines of its positions are short. A request that does not
pass is turned away, and nothing else is done.
-/
theorem checks_agree
    : (∀ fields, SingleFileRequest.ChecksAgree fields ∧ PullRequest.ChecksAgree fields)
      ∧ ∀ request,
          TurnsAway (lintFile reviewer outside request) (SingleFileRequest.ofFields (bodyFields request))
          ∧ TurnsAway (lintPullRequest reviewer outside request) (PullRequest.ofFields (bodyFields request)) :=
  ⟨fun _ => ⟨SingleFileRequest.checksAgree, PullRequest.checksAgree⟩, fun request =>
    ⟨turnsAway_lintFile reviewer outside request, turnsAway_lintPullRequest reviewer outside request⟩⟩

/-- A request to lint a file with a position for a line. -/
def lineRequest (line : Int) : SingleFileRequest where
  repository := "o/r"
  commit := "abc"
  owner := ⟨"o", false, none⟩
  file := ⟨"a.coffee", "x", "modified", [⟨0, 0, 1, 1, "", [(line, 1)]⟩]⟩

/-- The fields of such a request, with a key for the line. -/
def lineFields (key : String) : Json.Fields :=
  let chunk : Json := .obj [
    ("old_start", .int 0), ("old_lines", .int 0), ("new_start", .int 1), ("new_lines", .int 1),
    ("line_positions", .obj [(key, .int 1)])]
  [("repository", .str "o/r"), ("commit_sha", .str "abc"), ("owner", .obj [("name", .str "o")]),
    ("file", .obj [("filename", .str "a.coffee"), ("content", .str "x"), ("chunks", .arr [chunk])])]

section Lines

variable {Spells : List Char → Int → Prop} {key : String} {line : Int}

/-- The request is spelled by its fields when its line is by its key. -/
theorem isSpelledBy_lineFields_iff
    : (lineRequest line).IsSpelledBy Spells (lineFields key) ↔ Spells key.toList line := by
  constructor
  · intro spelled
    obtain ⟨parts, given, file⟩ := spelled.file
    obtain rfl := Json.obj.inj (Option.some.inj given)
    obtain ⟨items, same, chunks⟩ := file.chunks
    obtain rfl := Json.arr.inj same
    cases chunks with
    | cons chunk _ =>
        obtain ⟨parts, same, chunk⟩ := chunk
        obtain rfl := Json.obj.inj same
        obtain ⟨entries, pairs, same, lines, positions⟩ := chunk.positions
        obtain rfl := Json.obj.inj same
        cases lines with
        | @cons _ pair _ _ here none =>
            cases none
            obtain rfl : (line, 1) = pair := (List.cons.inj positions).1
            exact here.1
  · intro spelled
    refine ⟨rfl, rfl, ⟨_, rfl, rfl, rfl, rfl⟩, _, rfl, rfl, rfl, rfl, ?_⟩
    refine ⟨_, rfl, .cons ⟨_, rfl, rfl, rfl, rfl, rfl, rfl, ?_⟩ .nil⟩
    exact ⟨_, [(line, 1)], rfl, .cons ⟨spelled, rfl⟩ .nil, rfl⟩

theorem exists_toBuild_lineRequest : ∃ build, (lineRequest line).toBuild = .ok build := by
  refine SingleFileRequest.exists_toBuild_iff.mpr ⟨⟨?_, rfl⟩, ?_, ?_⟩
  · exact (by decide : isBlankText "o" = false)
  · exact (by decide : isRepositoryName "o/r" = true)
  · exact (by decide : isBlankText "abc" = false)

theorem exists_toChangedFile_lineRequest : ∃ file, (lineRequest line).file.toChangedFile = .ok file := by
  refine FileRequest.exists_toChangedFile_iff.mpr ⟨?_, ?_, List.forall_mem_singleton.mpr ?_⟩
  · exact (by decide : isBlankText "a.coffee" = false)
  · exact (by decide : (FileStatus.ofName? "modified").isSome = true)
  · exact ⟨Int.le_refl 0, Int.le_refl 0, Int.one_nonneg, Int.one_nonneg,
      List.forall_mem_singleton.mpr Int.one_pos⟩

end Lines

/-- Witness: the request with a position for line 1 passes its check, and one without a body is turned away. -/
theorem checks_agree_lineOne
    : SingleFileRequest.ofFields (lineFields "1") = .ok (lineRequest 1)
      ∧ ∀ session, (lintFile plainReviewer numberOutside ⟨"POST", "/api/v1/files/lint", none, ""⟩).run session
          = (invalid (errorsJson (["repository", "commit_sha", "owner", "file"].map fun name =>
              ⟨[name], "Field required"⟩)), session) := by
  obtain ⟨agree, turned⟩ := checks_agree plainReviewer numberOutside
  have spelled : ShortlySpells "1".toList 1 :=
    ⟨WholeText.spells_toString 1, Integer.isShort_of_lt_ten (by decide)⟩
  exact ⟨(agree _).1.admits _ (isSpelledBy_lineFields_iff.mpr spelled) exists_toBuild_lineRequest
    exists_toChangedFile_lineRequest, (turned _).1.faulty _ rfl⟩

/-- A line with one digit more than the limit. -/
def longLine : Int := (10 ^ Integer.maxDigits : Nat)

/-- A build and a file can be made from the request with a position for this line, and its fields are of the right
kinds, but no request with these fields passes its check.
-/
theorem not_admits_longLine
    : (lineRequest longLine).IsSpelledBy WholeText.Spells (lineFields (toString longLine))
      ∧ (∃ build, (lineRequest longLine).toBuild = .ok build)
      ∧ (∃ file, (lineRequest longLine).file.toChangedFile = .ok file)
      ∧ ∀ request, SingleFileRequest.ofFields (lineFields (toString longLine)) ≠ .ok request := by
  have spelled := isSpelledBy_lineFields_iff.mpr (WholeText.spells_toString longLine)
  refine ⟨spelled, exists_toBuild_lineRequest, exists_toChangedFile_lineRequest, fun request read => ?_⟩
  obtain ⟨-, short⟩ := isSpelledBy_lineFields_iff.mp (spelled.shortly read)
  rw [Integer.IsShort, longLine, Int.natAbs_natCast] at short
  exact Nat.lt_irrefl _ short

end PatchReview.Service
