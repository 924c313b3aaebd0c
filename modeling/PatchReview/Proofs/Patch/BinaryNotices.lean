import PatchReview.Patch.Parser
import PatchReview.Proofs.Text.Lines

/-! Lines that say that binary files differ, as a pattern on the line. -/

namespace PatchReview.Patch

open PatchReview.Text

/-- A line names one or several binary files and says behind them that they differ. -/
def SaysBinary (line : Line) : Prop :=
  ∃ start before between after,
    (start = "Binary file ".toList ∨ start = "Binary files ".toList)
    ∧ line = before ++ (start ++ (between ++ (" differ".toList ++ after)))

/-- A text starts with one of the words, and the notice ends somewhere behind it. -/
private theorem startsNotice_iff (start line : List Char)
    : (startsWith start line && contains " differ".toList (line.drop start.length)) = true
      ↔ ∃ between after, line = start ++ (between ++ (" differ".toList ++ after)) := by
  rw [Bool.and_eq_true, startsWith_iff, contains_iff]
  constructor
  · rintro ⟨⟨rest, rfl⟩, ⟨between, after, cut⟩⟩
    rw [List.drop_left] at cut
    exact ⟨between, after, by rw [← cut, List.append_assoc]⟩
  · rintro ⟨between, after, rfl⟩
    refine ⟨⟨_, rfl⟩, ⟨between, after, ?_⟩⟩
    rw [List.drop_left, List.append_assoc]

/-- A notice is found where the pattern has one, by induction on the line. -/
theorem isBinaryNotice_iff {line : Line} : isBinaryNotice line = true ↔ SaysBinary line := by
  induction line with
  | nil => simp [isBinaryNotice, SaysBinary]
  | cons c rest ih =>
      have one := startsNotice_iff "Binary file ".toList (c :: rest)
      have several := startsNotice_iff "Binary files ".toList (c :: rest)
      have length {text : String} : text.toList.length = text.length := rfl
      rw [length] at one several
      simp only [isBinaryNotice, Bool.or_eq_true, one, several, ih]
      constructor
      · rintro ((⟨between, after, cut⟩ | ⟨between, after, cut⟩)
          | ⟨start, before, between, after, word, cut⟩)
        · exact ⟨_, [], between, after, Or.inl rfl, cut⟩
        · exact ⟨_, [], between, after, Or.inr rfl, cut⟩
        · exact ⟨start, c :: before, between, after, word, by rw [cut, List.cons_append]⟩
      · rintro ⟨start, before, between, after, word, cut⟩
        cases before with
        | nil =>
            rcases word with rfl | rfl
            · exact Or.inl (Or.inl ⟨between, after, cut⟩)
            · exact Or.inl (Or.inr ⟨between, after, cut⟩)
        | cons d before =>
            exact Or.inr ⟨start, before, between, after, word, (List.cons.inj cut).2⟩

instance (line : Line) : Decidable (SaysBinary line) := decidable_of_iff _ isBinaryNotice_iff

/-- A patch is read by its sections unless one of its lines is a notice. -/
theorem parse_of_not_saysBinary {patch : String}
    (plain : ∀ line ∈ splitLines patch.toList, ¬ SaysBinary line)
    : parse patch = chunksFrom 1 (sections (splitLines patch.toList)).2 := by
  have notices : (splitLines patch.toList).any isBinaryNotice = false := by
    rw [List.any_eq_false]
    exact fun line member notice => plain line member (isBinaryNotice_iff.mp notice)
  simp [parse, notices]

end PatchReview.Patch
