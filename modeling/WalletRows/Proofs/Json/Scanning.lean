import WalletRows.Proofs.Json.Grammar

/-!
# What strings and words are read off a text

What is read off the front of a text is a piece of the grammar, and the same
piece is read with the same meaning in front of any other rest.  Pieces that are
only skipped are skipped exactly if the grammar has them.
-/

namespace WalletRows

namespace Json

/-- A piece is read off every text that starts with it. -/
def TakesOff {α : Type} (reader : Reader α) (piece : List Char) (value : α) :
    Prop :=
  ∀ rest, Reads reader (piece ++ rest) value rest

/-! ## Blanks and words -/

theorem exists_gap (text : List Char) :
    ∃ gap, BlankRun gap ∧ text = gap ++ skipBlank text := by
  induction text with
  | nil => exact ⟨[], blankRun_nil, rfl⟩
  | cons character text ih =>
      obtain ⟨gap, blank, same⟩ := ih
      by_cases isBlank : isBlank character = true
      · refine ⟨character :: gap, ?_, ?_⟩
        · intro other member
          rcases List.mem_cons.mp member with rfl | later
          · exact isBlank
          · exact blank other later
        · rw [skipBlank, if_pos isBlank, List.cons_append, ← same]
      · refine ⟨[], blankRun_nil, ?_⟩
        rw [skipBlank, if_neg isBlank, List.nil_append]

theorem skipBlank_skipBlank (text : List Char) :
    skipBlank (skipBlank text) = skipBlank text := by
  induction text with
  | nil => rfl
  | cons character text ih =>
      by_cases blank : isBlank character = true
      · rw [skipBlank, if_pos blank, ih]
      · rw [skipBlank, if_neg blank, skipBlank, if_neg blank]

/-- What is read behind blanks is read from the first solid character on. -/
theorem Reads.afterBlank_text {α : Type} {reader : Reader α} {text : List Char}
    {value : α} {rest : List Char}
    (reads : Reads (afterBlank reader) text value rest) :
    ∃ gap start, BlankRun gap ∧ text = gap ++ start ∧
      skipBlank start = start ∧ Reads reader start value rest := by
  obtain ⟨gap, blank, same⟩ := exists_gap text
  exact ⟨gap, skipBlank text, blank, same, skipBlank_skipBlank text,
    reads_afterBlank_iff.mp reads⟩

theorem literal_eq_ok {text letters : List Char} {final : Tail text}
    (found : literal text letters = .ok final) : text = letters ++ final.1 := by
  induction letters generalizing text with
  | nil =>
      rw [literal] at found
      cases found
      rfl
  | cons letter letters ih =>
      cases text with
      | nil => cases found
      | cons character text =>
          rw [literal] at found
          split at found
          · rename_i same
            cases later : literal text letters with
            | error error =>
                rw [later] at found
                cases found
            | ok tail =>
                rw [later] at found
                cases found
                rw [same]
                exact congrArg (letter :: ·) (ih later)
          · cases found

theorem gives_keyword_iff {α : Type} {first : Char} {letters text : List Char}
    {value found : α} {rest : List Char} :
    Gives (@keyword α first letters value text) found rest ↔
      text = letters ++ rest ∧ value = found := by
  constructor
  · rintro ⟨shorter, answer⟩
    rw [keyword] at answer
    cases taken : literal text letters with
    | error error =>
        rw [taken] at answer
        cases answer
    | ok final =>
        rw [taken] at answer
        cases answer
        exact ⟨literal_eq_ok taken, rfl⟩
  · rintro ⟨rfl, rfl⟩
    exact gives_keyword letters value rest

theorem Reads.colon_text {text rest : List Char} (reads : Reads colon text () rest) :
    ∃ gap, BlankRun gap ∧ text = gap ++ ':' :: rest := by
  rw [colon] at reads
  obtain ⟨gap, start, blank, rfl, -, here⟩ := reads.afterBlank_text
  rw [Reads] at here
  split at here
  · exact absurd here not_gives_error
  · obtain ⟨-, rfl⟩ := gives_ok_iff.mp here
    exact ⟨gap, blank, rfl⟩
  · exact absurd here not_gives_error

/-! ## Escapes -/

theorem Reads.hexUnit_text {text rest : List Char} {unit : Nat}
    (reads : Reads hexUnit text unit rest) :
    ∃ digits, IsHexUnit digits ∧ text = digits ++ rest ∧
      TakesOff hexUnit digits unit := by
  unfold Reads hexUnit at reads
  split at reads
  · rename_i first second third fourth later
    split at reads
    · rename_i a b c d firstDigit secondDigit thirdDigit fourthDigit
      obtain ⟨rfl, rfl⟩ := gives_ok_iff.mp reads
      refine ⟨[first, second, third, fourth], ⟨rfl, ?_⟩, rfl, ?_⟩
      · simp [firstDigit, secondDigit, thirdDigit, fourthDigit]
      · intro other
        simp [Reads, hexUnit, firstDigit, secondDigit, thirdDigit,
          fourthDigit]
    · exact absurd reads not_gives_error
  · split at reads <;> exact absurd reads not_gives_error

theorem IsHexUnit.takesOff {digits : List Char} (hex : IsHexUnit digits) :
    ∃ unit, TakesOff hexUnit digits unit := by
  obtain ⟨length, all⟩ := hex
  match digits, length with
  | [first, second, third, fourth], _ =>
      simp only [List.forall_mem_cons, Option.isSome_iff_exists] at all
      obtain ⟨⟨a, firstDigit⟩, ⟨b, secondDigit⟩, ⟨c, thirdDigit⟩,
        ⟨d, fourthDigit⟩, -⟩ := all
      refine ⟨((a * 16 + b) * 16 + c) * 16 + d, ?_⟩
      intro rest
      simp [Reads, hexUnit, firstDigit, secondDigit, thirdDigit, fourthDigit]

/-- What stands behind a backslash for one character or for a pair of units. -/
def IsEscape (text : List Char) : Prop :=
  ∀ body, IsStringBody body → IsStringBody ('\\' :: (text ++ body))

theorem isEscape_unit {digits : List Char} (hex : IsHexUnit digits) :
    IsEscape ('u' :: digits) :=
  fun _ later => .unit hex later

theorem isEscape_letter {letter : Char}
    (known : (escaped? letter).isSome = true) : IsEscape [letter] :=
  fun _ later => .letter known later

/-- The second half of a pair is an escape of its own. -/
theorem Reads.trailUnit_text {text rest : List Char} {lead : Nat} {character : Char}
    (reads : Reads (trailUnit lead) text character rest) :
    ∃ digits, IsHexUnit digits ∧ text = '\\' :: 'u' :: digits ++ rest ∧
      TakesOff (trailUnit lead) ('\\' :: 'u' :: digits) character := by
  unfold Reads trailUnit at reads
  split at reads
  · rename_i later
    cases unit : hexUnit later with
    | error error =>
        simp only [unit] at reads
        exact absurd reads not_gives_error
    | ok found =>
        obtain ⟨unit', final, within⟩ := found
        simp only [unit] at reads
        split at reads
        · rename_i isTrail
          obtain ⟨rfl, rfl⟩ := gives_ok_iff.mp reads
          obtain ⟨digits, hex, rfl, takes⟩ := Reads.hexUnit_text ⟨within, unit⟩
          refine ⟨digits, hex, rfl, ?_⟩
          intro other
          obtain ⟨shorter, answer⟩ := takes other
          simp [Reads, trailUnit, answer, isTrail]
        · exact absurd reads not_gives_error
  · exact absurd reads not_gives_error
  · exact absurd reads not_gives_error
  · exact absurd reads not_gives_error

theorem Reads.escape_text {text rest : List Char} {character : Char}
    (reads : Reads escape text character rest) :
    ∃ piece, IsEscape piece ∧ text = piece ++ rest ∧
      TakesOff escape piece character := by
  unfold Reads escape at reads
  split at reads
  · exact absurd reads not_gives_error
  · rename_i later
    cases unit : hexUnit later with
    | error error =>
        simp only [unit] at reads
        exact absurd reads not_gives_error
    | ok found =>
        obtain ⟨unit', final, within⟩ := found
        obtain ⟨digits, hex, rfl, takes⟩ := Reads.hexUnit_text ⟨within, unit⟩
        simp only [unit] at reads
        split at reads
        · exact absurd reads not_gives_error
        · rename_i notTrail
          split at reads
          · rename_i isLead
            -- A pair is one character for the reader and two units for the grammar.
            rw [gives_widen_iff] at reads
            obtain ⟨digits', hex', rfl, takes'⟩ := Reads.trailUnit_text reads
            refine ⟨'u' :: (digits ++ '\\' :: 'u' :: digits'), ?_, by simp, ?_⟩
            · intro body later
              have second := isEscape_unit hex' body later
              have first := isEscape_unit hex _ second
              simpa using first
            · intro other
              obtain ⟨shorter, answer⟩ := takes ('\\' :: 'u' :: digits' ++ other)
              have second := takes' other
              rw [List.cons_append, List.append_assoc, Reads, escape]
              simp only [List.cons_append] at answer second ⊢
              simp only [answer, notTrail, isLead, Bool.false_eq_true, if_false,
                if_true, gives_widen_iff]
              exact second
          · rename_i notLead
            obtain ⟨rfl, rfl⟩ := gives_ok_iff.mp reads
            refine ⟨'u' :: digits, isEscape_unit hex, rfl, ?_⟩
            intro other
            obtain ⟨shorter, answer⟩ := takes other
            simp [Reads, escape, answer, notTrail, notLead]
  · rename_i letter later notUnit
    cases known : escaped? letter with
    | none =>
        simp only [known] at reads
        exact absurd reads not_gives_error
    | some found =>
        simp only [known] at reads
        obtain ⟨rfl, rfl⟩ := gives_ok_iff.mp reads
        have escaped : (escaped? letter).isSome = true := by rw [known]; rfl
        refine ⟨[letter], isEscape_letter escaped, rfl, ?_⟩
        intro other
        rw [Reads, List.singleton_append, escape]
        · simp [known, Rest.behind]
        · exact notUnit

/-- What is skipped behind a backslash is an escape. -/
theorem Reads.skipEscape_text {text rest : List Char}
    (reads : Reads skipEscape text () rest) :
    ∃ piece, IsEscape piece ∧ text = piece ++ rest := by
  unfold Reads skipEscape at reads
  split at reads
  · exact absurd reads not_gives_error
  · rw [gives_behind_iff] at reads
    obtain ⟨unit, taken, -⟩ := gives_mapValue_iff.mp reads
    obtain ⟨digits, hex, rfl, -⟩ := Reads.hexUnit_text taken
    exact ⟨'u' :: digits, isEscape_unit hex, rfl⟩
  · rename_i letter later notUnit
    cases known : escaped? letter with
    | none =>
        simp only [known] at reads
        exact absurd reads not_gives_error
    | some found =>
        simp only [known] at reads
        obtain ⟨-, rfl⟩ := gives_ok_iff.mp reads
        exact ⟨[letter], isEscape_letter (by rw [known]; rfl), rfl⟩

theorem takesOff_skipEscape_letter {letter : Char}
    (known : (escaped? letter).isSome = true) :
    TakesOff skipEscape [letter] () := by
  intro rest
  obtain ⟨character, found⟩ := Option.isSome_iff_exists.mp known
  have notUnit : letter ≠ 'u' := by
    rintro rfl
    cases found
  rw [Reads, List.singleton_append, skipEscape]
  · simp [found, Rest.behind]
  · exact notUnit

theorem takesOff_skipEscape_unit {digits : List Char} (hex : IsHexUnit digits) :
    TakesOff skipEscape ('u' :: digits) () := by
  intro rest
  obtain ⟨unit, takes⟩ := hex.takesOff
  rw [Reads, List.cons_append, skipEscape, gives_behind_iff]
  exact Gives.mapValue (takes rest) _

/-! ## Strings -/

/-- A string is read to its closing quote, with its characters. -/
theorem Reads.stringBody_text {text characters rest : List Char}
    (reads : Reads stringBody text characters rest) :
    ∃ body, IsStringBody body ∧ text = body ++ rest ∧
      TakesOff stringBody body characters := by
  -- The text may end, or start with the closing quote, an escape that is refused
  -- or taken, a control character, or any other one.
  induction text using stringBody.induct generalizing characters with
  | case1 =>
      rw [Reads, stringBody] at reads
      exact absurd reads not_gives_error
  | case2 later =>
      rw [Reads, stringBody] at reads
      obtain ⟨rfl, rfl⟩ := gives_ok_iff.mp reads
      refine ⟨['"'], .quote, rfl, ?_⟩
      intro other
      rw [Reads, List.singleton_append, stringBody]
      exact gives_ok
  | case3 later error failed =>
      rw [Reads, stringBody] at reads
      simp only [failed] at reads
      exact absurd reads not_gives_error
  | case4 later character final within escaped ih =>
      rw [Reads, stringBody] at reads
      simp only [escaped, gives_widen_iff] at reads
      obtain ⟨others, left, rfl⟩ := gives_mapValue_iff.mp reads
      obtain ⟨body, isBody, rfl, takes⟩ := ih left
      obtain ⟨piece, isEscape, rfl, takes'⟩ := Reads.escape_text ⟨within, escaped⟩
      refine ⟨'\\' :: (piece ++ body), isEscape body isBody, by simp, ?_⟩
      intro other
      obtain ⟨shorter, answer⟩ := takes' (body ++ other)
      rw [List.cons_append, List.append_assoc, Reads, stringBody]
      simp only [answer, gives_widen_iff]
      exact Gives.mapValue (takes other) _
  | case5 character later notQuote notBackslash control =>
      rw [Reads, stringBody, if_pos control] at reads
      · exact absurd reads not_gives_error
      · exact notQuote
      · exact notBackslash
  | case6 character later notQuote notBackslash solid ih =>
      rw [Reads, stringBody, if_neg solid, gives_behind_iff] at reads
      · obtain ⟨others, left, rfl⟩ := gives_mapValue_iff.mp reads
        obtain ⟨body, isBody, rfl, takes⟩ := ih left
        refine ⟨character :: body,
          .plain solid notQuote notBackslash isBody, rfl, ?_⟩
        intro other
        rw [Reads, List.cons_append, stringBody]
        · rw [if_neg solid, gives_behind_iff]
          exact Gives.mapValue (takes other) _
        · exact notQuote
        · exact notBackslash
      · exact notQuote
      · exact notBackslash

/-- What is skipped as a string is one. -/
theorem Reads.skipString_text {text rest : List Char}
    (reads : Reads skipString text () rest) :
    ∃ body, IsStringBody body ∧ text = body ++ rest := by
  induction text using skipString.induct with
  | case1 =>
      rw [Reads, skipString] at reads
      exact absurd reads not_gives_error
  | case2 later =>
      rw [Reads, skipString] at reads
      obtain ⟨-, rfl⟩ := gives_ok_iff.mp reads
      exact ⟨['"'], .quote, rfl⟩
  | case3 later error failed =>
      rw [Reads, skipString] at reads
      simp only [failed] at reads
      exact absurd reads not_gives_error
  | case4 later final within escaped ih =>
      rw [Reads, skipString] at reads
      simp only [escaped, gives_widen_iff] at reads
      obtain ⟨body, isBody, rfl⟩ := ih reads
      obtain ⟨piece, isEscape, rfl⟩ := Reads.skipEscape_text ⟨within, escaped⟩
      exact ⟨'\\' :: (piece ++ body), isEscape body isBody, by simp⟩
  | case5 character later notQuote notBackslash control =>
      rw [Reads, skipString, if_pos control] at reads
      · exact absurd reads not_gives_error
      · exact notQuote
      · exact notBackslash
  | case6 character later notQuote notBackslash solid ih =>
      rw [Reads, skipString, if_neg solid, gives_behind_iff] at reads
      · obtain ⟨body, isBody, rfl⟩ := ih reads
        exact ⟨character :: body,
          .plain solid notQuote notBackslash isBody, rfl⟩
      · exact notQuote
      · exact notBackslash

theorem Reads.behindEscape {piece text rest : List Char}
    (reads : Reads skipString text () rest)
    (takes : TakesOff skipEscape piece ()) :
    Reads skipString ('\\' :: (piece ++ text)) () rest := by
  obtain ⟨shorter, answer⟩ := takes text
  rw [Reads, skipString]
  simp only [answer, gives_widen_iff]
  exact reads

/-- Every string is skipped. -/
theorem IsStringBody.takesOff {body : List Char} (isBody : IsStringBody body) :
    TakesOff skipString body () := by
  intro rest
  induction isBody with
  | quote =>
      rw [Reads, List.singleton_append, skipString]
      exact gives_ok
  | @plain character body solid notQuote notBackslash later ih =>
      rw [Reads, List.cons_append, skipString]
      · rw [if_neg solid, gives_behind_iff]
        exact ih
      · exact notQuote
      · exact notBackslash
  | @letter letter body known later ih =>
      exact ih.behindEscape (takesOff_skipEscape_letter known)
  | @unit digits body hex later ih =>
      rw [List.cons_append, List.cons_append, List.append_assoc]
      exact ih.behindEscape (takesOff_skipEscape_unit hex)

end Json

end WalletRows
