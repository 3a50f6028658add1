import Mathlib.Data.List.Infix
import WalletRows.StyledText

/-!
# Texts without the ends of their lines

The lines of a text are the text but for the ends of its lines: a newline, and a
carriage return right before one.  What is left out depends on neighbors, so a
text can be taken apart where a part neither ends in a carriage return nor
starts with a newline, as at the separators of a row.
-/

namespace WalletRows

/-- A text without its newlines and the carriage returns right before them. -/
def withoutLineEnds : List Char → List Char
  | [] => []
  | character :: rest =>
      if character = '\n' ∨ character = '\r' ∧ rest.head? = some '\n' then
        withoutLineEnds rest
      else
        character :: withoutLineEnds rest

theorem withoutLineEnds_of_not_mem {text : List Char} (one : '\n' ∉ text) :
    withoutLineEnds text = text := by
  induction text with
  | nil => rfl
  | cons character rest ih =>
    rw [List.mem_cons, not_or] at one
    have kept : ¬ (character = '\n' ∨
        character = '\r' ∧ rest.head? = some '\n') := by
      rintro (same | ⟨-, next⟩)
      · exact one.1 same.symm
      · exact one.2 (List.mem_of_mem_head? next)
    rw [withoutLineEnds, if_neg kept, ih one.2]

theorem withoutLineEnds_cons (character : Char) (rest : List Char) :
    withoutLineEnds (character :: rest) =
      (if character = '\n' ∨ character = '\r' ∧ rest.head? = some '\n' then []
        else [character]) ++ withoutLineEnds rest := by
  rw [withoutLineEnds]
  split
  · rfl
  · rfl

/-- Only a carriage return and a newline that meet are seen together. -/
theorem withoutLineEnds_append (front : List Char) {back : List Char}
    (apart : front.getLast? ≠ some '\r' ∨ back.head? ≠ some '\n') :
    withoutLineEnds (front ++ back) =
      withoutLineEnds front ++ withoutLineEnds back := by
  induction front with
  | nil => rfl
  | cons character rest ih =>
    rw [List.cons_append, withoutLineEnds_cons, withoutLineEnds_cons character]
    cases rest with
    | nil =>
      have kept : ¬ (character = '\r' ∧ back.head? = some '\n') := by
        rintro ⟨rfl, next⟩
        rcases apart with apart | apart
        · exact apart rfl
        · exact apart next
      simp [kept, withoutLineEnds]
    | cons next more =>
      rw [List.getLast?_cons_cons] at apart
      rw [ih apart, List.append_assoc]
      rfl

/-! ## Separated texts -/

section Separators

/-- Nothing of a separator is the end of a line, or becomes one by what is put
next to it. -/
structure IsSeparator (separator : List Char) : Prop where
  not_mem : '\n' ∉ separator
  getLast_ne : separator.getLast? ≠ some '\r'
  ne_nil : separator ≠ []

variable {separator : List Char}

theorem IsSeparator.withoutLineEnds_between (separates : IsSeparator separator)
    (front back : List Char) :
    withoutLineEnds (front ++ separator ++ back) =
      withoutLineEnds front ++ separator ++ withoutLineEnds back := by
  have starts : separator.head? ≠ some '\n' := fun newline =>
    separates.not_mem (List.mem_of_mem_head? newline)
  have ends : (front ++ separator).getLast? ≠ some '\r' := by
    rw [List.getLast?_append_of_ne_nil _ separates.ne_nil]
    exact separates.getLast_ne
  rw [withoutLineEnds_append _ (.inl ends),
    withoutLineEnds_append _ (.inr starts),
    withoutLineEnds_of_not_mem separates.not_mem]

theorem IsSeparator.withoutLineEnds_intercalate
    (separates : IsSeparator separator) (texts : List (List Char)) :
    withoutLineEnds (separator.intercalate texts) =
      separator.intercalate (texts.map withoutLineEnds) := by
  induction texts with
  | nil => rfl
  | cons text rest ih =>
    cases rest with
    | nil => simp only [List.map_cons, List.map_nil, List.intercalate_singleton]
    | cons next more =>
      simp only [List.map_cons, List.intercalate_cons_cons] at ih ⊢
      rw [separates.withoutLineEnds_between, ih]

theorem infix_intercalate {text : List Char} {texts : List (List Char)}
    (among : text ∈ texts) (separator : List Char) :
    text <:+: separator.intercalate texts := by
  induction texts with
  | nil => exact absurd among List.not_mem_nil
  | cons first rest ih =>
    cases rest with
    | nil =>
      rw [List.mem_singleton.mp among, List.intercalate_singleton]
    | cons next more =>
      rw [List.intercalate_cons_cons]
      rcases List.mem_cons.mp among with rfl | later
      · exact ⟨[], separator ++ separator.intercalate (next :: more), by simp⟩
      · exact (ih later).trans (List.suffix_append _ _).isInfix

end Separators

/-! ## The lines of a text -/

section Lines

theorem splitNewlines_ne_nil (text : List Char) : splitNewlines text ≠ [] := by
  fun_cases splitNewlines text
  all_goals simp_all

theorem splitNewlines_cons {character : Char} (other : character ≠ '\n')
    {rest line : List Char} {lines : List (List Char)}
    (pieces : splitNewlines rest = line :: lines) :
    splitNewlines (character :: rest) = (character :: line) :: lines := by
  rw [splitNewlines, pieces]
  exact fun newline => other newline

/-- A text starts with a newline if its first piece is empty and not the last. -/
theorem head?_eq_newline_iff {text line : List Char} {lines : List (List Char)}
    (pieces : splitNewlines text = line :: lines) :
    text.head? = some '\n' ↔ line = [] ∧ lines ≠ [] := by
  cases text with
  | nil =>
    cases pieces
    simp
  | cons character rest =>
    by_cases newline : character = '\n'
    · subst newline
      cases pieces
      simp [splitNewlines_ne_nil]
    · obtain ⟨first, more, split⟩ :=
        List.exists_cons_of_ne_nil (splitNewlines_ne_nil rest)
      rw [splitNewlines_cons newline split] at pieces
      cases pieces
      simp [newline]

theorem newline_not_mem_splitNewlines (text : List Char) :
    ∀ line ∈ splitNewlines text, '\n' ∉ line := by
  induction text with
  | nil => simp [splitNewlines]
  | cons character rest ih =>
    by_cases newline : character = '\n'
    · subst newline
      simpa [splitNewlines] using ih
    · obtain ⟨first, more, split⟩ :=
        List.exists_cons_of_ne_nil (splitNewlines_ne_nil rest)
      rw [split, List.forall_mem_cons] at ih
      rw [splitNewlines_cons newline split, List.forall_mem_cons]
      refine ⟨?_, ih.2⟩
      rw [List.mem_cons, not_or]
      exact ⟨fun same => newline same.symm, ih.1⟩

theorem isPrefix_dropReturn (line : List Char) : dropReturn line <+: line := by
  unfold dropReturn
  split
  · exact List.dropLast_prefix line
  · exact List.prefix_rfl

theorem dropReturn_cons {character : Char} {line : List Char}
    (more : line ≠ []) :
    dropReturn (character :: line) = character :: dropReturn line := by
  obtain ⟨next, rest, rfl⟩ := List.exists_cons_of_ne_nil more
  unfold dropReturn
  rw [List.getLast?_cons_cons]
  split
  · rfl
  · rfl

/-- What the pieces of a text leave of it. -/
def keptText : List (List Char) → List Char
  | [] => []
  | [last] => last
  | line :: next :: more => dropReturn line ++ keptText (next :: more)

theorem flatten_textLines_eq (text : List Char) :
    (textLines text).flatten = keptText (splitNewlines text) := by
  unfold textLines
  generalize splitNewlines text = pieces
  induction pieces with
  | nil => rfl
  | cons line lines ih =>
    cases lines with
    | nil => cases line <;> simp [keptText]
    | cons next more =>
      rw [keptText, ← ih]
      simp only [List.getLast?_cons_cons, List.dropLast_cons_cons,
        List.map_cons]
      split <;> simp

theorem keptText_cons {character : Char} {line : List Char}
    {lines : List (List Char)}
    (apart : line ≠ [] ∨ lines = [] ∨ character ≠ '\r') :
    keptText ((character :: line) :: lines) =
      character :: keptText (line :: lines) := by
  cases lines with
  | nil => rfl
  | cons next rest =>
    rw [keptText, keptText]
    by_cases empty : line = []
    · subst empty
      have other : character ≠ '\r' := by simpa using apart
      simp [dropReturn, other]
    · rw [dropReturn_cons empty, List.cons_append]

theorem flatten_textLines (text : List Char) :
    (textLines text).flatten = withoutLineEnds text := by
  rw [flatten_textLines_eq]
  induction text with
  | nil => rfl
  | cons character rest ih =>
    obtain ⟨line, lines, split⟩ :=
      List.exists_cons_of_ne_nil (splitNewlines_ne_nil rest)
    have starts := head?_eq_newline_iff split
    by_cases newline : character = '\n'
    · subst newline
      simp [splitNewlines, withoutLineEnds, split, keptText, dropReturn, ← ih]
    · rw [splitNewlines_cons newline split]
      by_cases ends : character = '\r' ∧ line = [] ∧ lines ≠ []
      · obtain ⟨rfl, rfl, more⟩ := ends
        rw [withoutLineEnds, if_pos (.inr ⟨rfl, starts.mpr ⟨rfl, more⟩⟩),
          ← ih, split]
        obtain ⟨next, others, rfl⟩ := List.exists_cons_of_ne_nil more
        rfl
      · have kept : ¬ (character = '\n' ∨
            character = '\r' ∧ rest.head? = some '\n') := by
          rw [starts]
          exact not_or.mpr ⟨newline, ends⟩
        rw [withoutLineEnds, if_neg kept, ← ih, split]
        apply keptText_cons
        tauto

theorem newline_not_mem_textLines (text : List Char) :
    ∀ line ∈ textLines text, '\n' ∉ line := by
  have pieces := newline_not_mem_splitNewlines text
  have ended : ∀ line ∈ (splitNewlines text).dropLast.map dropReturn,
      '\n' ∉ line := by
    intro line shown
    obtain ⟨piece, among, rfl⟩ := List.mem_map.mp shown
    intro newline
    exact pieces piece (List.mem_of_mem_dropLast among)
      ((isPrefix_dropReturn piece).mem newline)
  simp only [textLines]
  split
  · exact ended
  · exact ended
  · rename_i last _ final
    intro line shown
    rcases List.mem_append.mp shown with shown | shown
    · exact ended line shown
    · rw [List.mem_singleton.mp shown]
      exact pieces last (List.mem_of_getLast? final)

end Lines

/-! ## The text of a styled line -/

theorem Span.printed_eq (span : Span) :
    span.printed = withoutLineEnds span.content :=
  flatten_textLines span.content

namespace StyledLine

/-- What the spans of a line hold, with the ends of lines inside them. -/
def contents (line : StyledLine) : List Char :=
  line.spans.flatMap Span.content

theorem contents_ofText (text : List Char) (style : Style) :
    (ofText text style).contents = withoutLineEnds text := by
  rw [← flatten_textLines, contents, ofText, List.flatMap_map, List.flatMap_id']

theorem text_ofText (text : List Char) (style : Style) :
    (ofText text style).text = withoutLineEnds text := by
  rw [← contents_ofText text style]
  apply List.flatMap_congr
  intro span among
  obtain ⟨line, shown, rfl⟩ := List.mem_map.mp among
  rw [Span.printed_eq]
  exact withoutLineEnds_of_not_mem (newline_not_mem_textLines text line shown)

end StyledLine

end WalletRows
