import Mathlib.Data.List.TakeWhile
import PatchReview.Proofs.Json.Reading

/-! Texts that hold no value: blank ones, and numbers with too many digits. -/

namespace PatchReview.Json

open PatchReview.Text

/-- What starts as no word does is read as a number. -/
theorem readAtom_of_ne {c : Char} (other : ∀ letter ∈ ['n', 't', 'f', 'N', 'I', '-'], letter ≠ c)
    (rest : List Char)
    : readAtom (c :: rest) = readNumber (c :: rest) := by
  have noWord : ∀ entry ∈ words, dropWord? entry.1 (c :: rest) = none := by
    simp only [List.forall_mem_cons, ne_eq] at other
    simp [words, dropWord?, other]
  have none : words.findSome? (fun entry =>
      (dropWord? entry.1 (c :: rest)).map fun rest => (entry.2, rest)) = none := by
    rw [List.findSome?_eq_none_iff]
    exact fun entry member => by rw [noWord entry member, Option.map_none]
  unfold readAtom
  rw [none]

theorem ne_of_isBlank {c other : Char} (blank : isBlank c = true) (shows : isBlank other = false)
    : other ≠ c := by
  rintro rfl
  rw [blank] at shows
  cases shows

/-- Where a blank stands that is no gap, there is no value. -/
theorem readAtom_blank {c : Char} (blank : isBlank c = true) (rest : List Char)
    : readAtom (c :: rest) = .error (.malformed .value (c :: rest)) := by
  have shows : ∀ letter ∈ ['n', 't', 'f', 'N', 'I', '-'], isBlank letter = false := by simp [isBlank]
  have digit : isAsciiDigit c = false := by
    rw [← Bool.not_eq_true]
    intro digit
    have range : '0' ≤ c ∧ c ≤ '9' := by simpa [isAsciiDigit] using digit
    have low : 0x30 ≤ c.toNat := range.1
    have high : c.toNat ≤ 0x39 := range.2
    simp [isBlank] at blank
    omega
  have whole : takeWhole (c :: rest) = ([], c :: rest) := by
    unfold takeWhole
    split
    · next same => exact absurd (List.cons.inj same).1.symm (ne_of_isBlank blank rfl)
    · simp [digit]
  rw [readAtom_of_ne fun letter member => ne_of_isBlank blank (shows letter member)]
  unfold readNumber
  split
  next negative body signed =>
    split at signed
    · next same => exact absurd (List.cons.inj same).1.symm (ne_of_isBlank blank rfl)
    · obtain ⟨-, rfl⟩ := Prod.mk.inj signed
      simp [whole]

/-- A text without a character that shows is no document, whatever room there is. -/
theorem parse_of_isBlankText (room : Room) {text : String} (blank : isBlankText text = true)
    : ∃ problem place, parseWithin room text = .error (.malformed problem place) := by
  have none : ∃ problem left, readValue room (2 * text.toList.length + 2) (skipGap text.toList)
      = .error (.malformed problem left) := by
    cases left : skipGap text.toList with
    | nil => exact ⟨_, _, rfl⟩
    | cons c rest =>
        have member : c ∈ skipGap text.toList := left ▸ List.mem_cons_self
        have here := List.all_eq_true.mp blank c ((List.dropWhile_sublist isGap).subset member)
        have differs : ∀ other, isBlank other = false → c ≠ other :=
          fun _ shows => (ne_of_isBlank here shows).symm
        rw [readValue, if_neg (by simpa using differs '\x22' rfl), if_neg (by simpa using differs '\x7b' rfl),
          if_neg (by simpa using differs '[' rfl), readAtom_blank here]
        exact ⟨_, _, rfl⟩
  obtain ⟨problem, place, stopped⟩ := none
  unfold parseWithin readText
  split
  · exact ⟨_, _, rfl⟩
  · rw [stopped]
    exact ⟨_, _, rfl⟩

/-- A text of too many digits alone stops its reading. -/
theorem parse_of_long {digits : List Char} (each : ∀ c ∈ digits, isAsciiDigit c = true)
    (head : digits.head? ≠ some '0') (long : Integer.maxDigits < digits.length)
    : parse (String.ofList digits) = .error (.number (.tooLong digits.length)) := by
  cases digits with
  | nil => cases long
  | cons c rest =>
      have digit := each c List.mem_cons_self
      have differs : ∀ other, isAsciiDigit other = false → c ≠ other := fun _ => ne_of_digit digit
      have letters : ∀ letter ∈ ['n', 't', 'f', 'N', 'I', '-'], isAsciiDigit letter = false := by
        simp [isAsciiDigit]
      have gap : skipGap (c :: rest) = c :: rest := skipGap_cons (startsValue_of_number (Or.inr digit)).1
      have whole : takeWhole (c :: rest) = (c :: rest, []) := by
        have taken := List.takeWhile_eq_self_iff.mpr each
        have left := List.dropWhile_eq_nil_iff.mpr each
        unfold takeWhole
        split
        · next same => exact absurd (congrArg List.head? same) (by simpa using head)
        · rw [taken, left]
      have read : readNumber (c :: rest) = .error (.number (.tooLong (c :: rest).length)) := by
        have unsigned : ∀ body, c :: rest ≠ '-' :: body :=
          fun body same => differs '-' (by decide) (List.cons.inj same).1
        unfold readNumber
        split
        next negative body signed =>
          split at signed
          · next same => exact absurd same (unsigned _)
          · obtain ⟨-, rfl⟩ := Prod.mk.inj signed
            have longer : Integer.maxDigits < rest.length + 1 := long
            simpa [whole, takeFraction, takeExponent] using longer
      have mark : (c :: rest).head? ≠ some (Char.ofNat 0xFEFF) := by
        simpa using differs (Char.ofNat 0xFEFF) (by decide)
      rw [parse, parseWithin, String.toList_ofList, readText, if_neg mark, gap, readValue,
        if_neg (by simpa using differs '\x22' (by decide)), if_neg (by simpa using differs '\x7b' (by decide)),
        if_neg (by simpa using differs '[' (by decide)),
        readAtom_of_ne fun letter member => (differs letter (letters letter member)).symm, read]
      rfl

end PatchReview.Json
