import Mathlib.Data.List.Infix
import TrackedQuery.Plan.Build

/-!
# What text patterns match

In a pattern `%` stands for any text, and every other character for itself.  A text match puts such
wildcards around the text that it is given, and leaves that text as it is, so that a `%` in it is a
wildcard as well.  Asking for a beginning, an end or a part therefore finds the texts of which a
beginning, an end or a part matches the given text read as a pattern.  If there is no `%` in it,
this is the given text itself.  If there is one, no pattern at all would look for the given text as
it is, because a `%` cannot be written so that it stands for itself
(`TextMatch.matches_patternFor`).

## Strategy

* `Pattern.accepts_append`: a text matches two patterns in a row if it falls into two texts that
  match them.  The pattern of a text match is such a row.
* `Pattern.accepts_iff_eq`: without a wildcard, a pattern matches itself alone.
* `Pattern.accepts_plain`: every pattern matches what is left of it without its wildcards, and in
  that there is no `%` to be found.
-/

namespace TrackedQuery

namespace Pattern

/-! ## Matching -/

/-- The character that stands for any text. -/
def wildcard : Char := '%'

/-- Whether characters match those of a pattern.  A wildcard skips any number of them. -/
def accepts : List Char → List Char → Bool
  | [], text => text.isEmpty
  | char :: pattern, text =>
      if char = wildcard then text.tails.any fun rest => accepts pattern rest
      else text.head? == some char && accepts pattern text.tail

/-- A text matches a pattern. -/
def Matches (pattern text : String) : Prop := accepts pattern.toList text.toList = true

instance (pattern text : String) : Decidable (Matches pattern text) :=
  inferInstanceAs (Decidable (_ = true))

variable {pattern text : List Char}

theorem accepts_nil : accepts [] text = true ↔ text = [] := by
  rw [accepts, List.isEmpty_iff]

theorem accepts_wildcard : accepts (wildcard :: pattern) text = true ↔
    ∃ rest, rest <:+ text ∧ accepts pattern rest = true := by
  rw [accepts, if_pos rfl, List.any_eq_true]
  apply exists_congr
  intro rest
  rw [List.mem_tails]

theorem accepts_char {char : Char} (plain : char ≠ wildcard) :
    accepts (char :: pattern) text = true ↔
      ∃ rest, text = char :: rest ∧ accepts pattern rest = true := by
  rw [accepts, if_neg plain, Bool.and_eq_true, beq_iff_eq]
  cases text with
  | nil => simp
  | cons first rest => simp [and_assoc]

/-- A wildcard alone matches every text. -/
theorem accepts_any (text : List Char) : accepts [wildcard] text = true :=
  accepts_wildcard.mpr ⟨[], List.nil_suffix, accepts_nil.mpr rfl⟩

/-- A text matches two patterns in a row if it falls into texts that match them. -/
theorem accepts_append {first second : List Char} : accepts (first ++ second) text = true ↔
    ∃ front back, text = front ++ back ∧ accepts first front = true ∧
      accepts second back = true := by
  induction first generalizing text with
  | nil => simp [accepts_nil]
  | cons char first ih =>
      rw [List.cons_append]
      -- a wildcard may end in the first part or reach to its end; other characters match themselves
      by_cases wild : char = wildcard
      · subst wild
        rw [accepts_wildcard]
        constructor
        · rintro ⟨_, ⟨skipped, rfl⟩, accepted⟩
          obtain ⟨front, back, rfl, left, right⟩ := ih.mp accepted
          refine ⟨skipped ++ front, back, (List.append_assoc ..).symm, ?_, right⟩
          exact accepts_wildcard.mpr ⟨front, List.suffix_append .., left⟩
        · rintro ⟨_, back, rfl, left, right⟩
          obtain ⟨front, ⟨skipped, rfl⟩, accepted⟩ := accepts_wildcard.mp left
          refine ⟨front ++ back, ⟨skipped, (List.append_assoc ..).symm⟩, ?_⟩
          exact ih.mpr ⟨front, back, rfl, accepted, right⟩
      · rw [accepts_char wild]
        constructor
        · rintro ⟨_, rfl, accepted⟩
          obtain ⟨front, back, rfl, left, right⟩ := ih.mp accepted
          exact ⟨char :: front, back, rfl, (accepts_char wild).mpr ⟨front, rfl, left⟩, right⟩
        · rintro ⟨_, back, rfl, left, right⟩
          obtain ⟨front, rfl, accepted⟩ := (accepts_char wild).mp left
          exact ⟨front ++ back, rfl, ih.mpr ⟨front, back, rfl, accepted, right⟩⟩

/-! ## Wildcards in a pattern -/

/-- A pattern without a wildcard matches itself alone. -/
theorem accepts_iff_eq (literal : wildcard ∉ pattern) :
    accepts pattern text = true ↔ text = pattern := by
  induction pattern generalizing text with
  | nil => exact accepts_nil
  | cons char pattern ih =>
      rw [List.mem_cons, not_or] at literal
      rw [accepts_char (Ne.symm literal.1)]
      constructor
      · rintro ⟨rest, rfl, accepted⟩
        rw [(ih literal.2).mp accepted]
      · rintro rfl
        exact ⟨pattern, rfl, (ih literal.2).mpr rfl⟩

/-- The characters of a pattern that stand for themselves. -/
def plain (pattern : List Char) : List Char := pattern.filter (· ≠ wildcard)

/-- A pattern matches what is left of it when every wildcard stands for nothing. -/
theorem accepts_plain (pattern : List Char) : accepts pattern (plain pattern) = true := by
  induction pattern with
  | nil => rfl
  | cons char pattern ih =>
      by_cases wild : char = wildcard
      · have skipped : plain (char :: pattern) = plain pattern := by simp [plain, wild]
        rw [skipped, wild]
        exact accepts_wildcard.mpr ⟨plain pattern, List.suffix_rfl, ih⟩
      · have kept : plain (char :: pattern) = char :: plain pattern := by simp [plain, wild]
        rw [kept]
        exact (accepts_char wild).mpr ⟨plain pattern, rfl, ih⟩

private theorem not_mem_plain (pattern : List Char) : wildcard ∉ plain pattern := by simp [plain]

end Pattern

/-! ## Beginnings, ends and parts -/

namespace TextMatch

/-- Where a text match looks for one text in another. -/
def Finds : TextMatch → List Char → List Char → Prop
  | .pattern, part, text => part = text
  | .startsWith, part, text => part <+: text
  | .endsWith, part, text => part <:+ text
  | .contains, part, text => part <:+: text

private theorem Finds.sublist {kind : TextMatch} {part text : List Char}
    (found : kind.Finds part text) :
    part.Sublist text := by
  cases kind with
  | pattern => exact (show part = text from found) ▸ List.Sublist.refl part
  | startsWith => exact List.IsPrefix.sublist found
  | endsWith => exact List.IsSuffix.sublist found
  | contains => exact List.IsInfix.sublist found

/-- The pattern of a text match is matched by the texts in which it finds a match of what it was
given. -/
theorem accepts_patternFor (kind : TextMatch) (given : String) (text : List Char) :
    Pattern.accepts (kind.patternFor given).toList text = true ↔
      ∃ part, kind.Finds part text ∧ Pattern.accepts given.toList part = true := by
  have any := Pattern.accepts_any
  have percent : "%".toList = [Pattern.wildcard] := rfl
  -- the wildcards that are put around match what is not asked about
  cases kind with
  | pattern => simp [patternFor, Finds]
  | startsWith =>
      rw [patternFor, String.toList_append, percent, Pattern.accepts_append]
      constructor
      · rintro ⟨front, back, rfl, accepted, -⟩
        exact ⟨front, List.prefix_append .., accepted⟩
      · rintro ⟨front, ⟨back, rfl⟩, accepted⟩
        exact ⟨front, back, rfl, accepted, any back⟩
  | endsWith =>
      rw [patternFor, String.toList_append, percent, Pattern.accepts_append]
      constructor
      · rintro ⟨front, back, rfl, -, accepted⟩
        exact ⟨back, List.suffix_append .., accepted⟩
      · rintro ⟨back, ⟨front, rfl⟩, accepted⟩
        exact ⟨front, back, rfl, any front, accepted⟩
  | contains =>
      rw [patternFor, String.toList_append, String.toList_append, percent, Pattern.accepts_append]
      constructor
      · rintro ⟨_, back, rfl, accepted, -⟩
        obtain ⟨front, middle, rfl, -, accepted⟩ := Pattern.accepts_append.mp accepted
        exact ⟨middle, ⟨front, back, rfl⟩, accepted⟩
      · rintro ⟨middle, ⟨front, back, rfl⟩, accepted⟩
        refine ⟨front ++ middle, back, rfl, ?_, any back⟩
        exact Pattern.accepts_append.mpr ⟨front, middle, rfl, any front, accepted⟩

end TextMatch

/-! ## Wildcards in what is looked for -/

namespace TextMatch

/-- A text match looks for the given text itself if there is no wildcard in it. -/
theorem accepts_iff_finds (kind : TextMatch) {given : String}
    (literal : Pattern.wildcard ∉ given.toList) (text : List Char) :
    Pattern.accepts (kind.patternFor given).toList text = true ↔ kind.Finds given.toList text := by
  rw [accepts_patternFor]
  constructor
  · rintro ⟨part, found, accepted⟩
    rwa [(Pattern.accepts_iff_eq literal).mp accepted] at found
  · exact fun found => ⟨given.toList, found, (Pattern.accepts_iff_eq literal).mpr rfl⟩

/-- What some pattern looks for as it is has no wildcard in it. -/
theorem not_mem_of_accepts_iff {kind : TextMatch} {part pattern : List Char}
    (literal : ∀ text, Pattern.accepts pattern text = true ↔ kind.Finds part text) :
    Pattern.wildcard ∉ part := by
  intro wild
  have found : kind.Finds part (Pattern.plain pattern) :=
    (literal _).mp (Pattern.accepts_plain pattern)
  exact Pattern.not_mem_plain pattern (found.sublist.subset wild)

/-- Asking whether a text starts with, ends with or contains a given one finds the texts of which a
beginning, an end or a part matches the given text as a pattern.  If there is no `%` in the given
text, this is the given text itself; and if there is one, no pattern finds just the texts that have
the given text there. -/
theorem matches_patternFor (kind : TextMatch) (given : String) :
    (∀ text : String, Pattern.Matches (kind.patternFor given) text ↔
      ∃ part : String, kind.Finds part.toList text.toList ∧ Pattern.Matches given part) ∧
    (Pattern.wildcard ∉ given.toList → ∀ text : String,
      Pattern.Matches (kind.patternFor given) text ↔ kind.Finds given.toList text.toList) ∧
    (Pattern.wildcard ∈ given.toList → ∀ pattern : String,
      ¬ ∀ text : String, Pattern.Matches pattern text ↔ kind.Finds given.toList text.toList) := by
  -- every list of characters is a text
  have texts : Function.Surjective String.toList :=
    fun text => ⟨String.ofList text, String.toList_ofList⟩
  refine ⟨?_, ?_, ?_⟩
  · intro text
    rw [Pattern.Matches, accepts_patternFor, texts.exists]
    rfl
  · exact fun literal text => kind.accepts_iff_finds literal text.toList
  · intro wild pattern literal
    exact not_mem_of_accepts_iff (texts.forall.mpr literal) wild

end TextMatch

namespace Example

/-- Texts that start with `100` are found as they are.  Those that start with `100%` are not: `1000`
matches the pattern as well, and no other pattern is better. -/
theorem matches_patternFor_hundred :
    Pattern.Matches (TextMatch.startsWith.patternFor "100") "1000" ∧
      "100".toList <+: "1000".toList ∧
      Pattern.Matches (TextMatch.startsWith.patternFor "100%") "1000" ∧
      ¬ "100%".toList <+: "1000".toList ∧
      ∀ pattern : String, ¬ ∀ text : String,
        Pattern.Matches pattern text ↔ "100%".toList <+: text.toList := by
  obtain ⟨-, literal, -⟩ := TextMatch.matches_patternFor .startsWith "100"
  obtain ⟨parts, -, wild⟩ := TextMatch.matches_patternFor .startsWith "100%"
  have found : "100".toList <+: "1000".toList := by decide
  refine ⟨(literal (by decide) "1000").mpr found, found, ?_, by decide, wild (by decide)⟩
  exact (parts "1000").mpr ⟨"1000", List.prefix_rfl, by decide⟩

/-- A wildcard that is looked for at the beginning of texts is found in a text without one. -/
theorem not_finds_percent :
    ¬ ∀ given text : String, Pattern.Matches (TextMatch.startsWith.patternFor given) text ↔
      given.toList <+: text.toList := by
  intro literal
  have found : "%".toList <+: "lean".toList := (literal "%" "lean").mp (by decide)
  exact absurd found (by decide)

end Example

end TrackedQuery
