import WalletRows.Proofs.Json.Reading

/-!
# Strings read back

A string is written character by character, and each written character is read
back as the one character it stands for, whatever follows: as itself, behind a
backslash, or by its code.
-/

namespace WalletRows

namespace Json

theorem digit?_hexDigit {digit : Nat} (small : digit < 16) :
    Decimal.digit? 16 (hexDigit digit) = some digit := by
  have all : ∀ digit < 16, Decimal.digit? 16 (hexDigit digit) = some digit := by
    decide
  exact all digit small

/-- A control character is read back from the four digits of its code. -/
theorem reads_hexUnit {code : Nat} (small : code < 256) (rest : List Char) :
    Reads hexUnit
      ('0' :: '0' :: hexDigit (code / 16) :: hexDigit (code % 16) :: rest)
      code rest := by
  have zero : Decimal.digit? 16 '0' = some 0 := by decide
  have high : Decimal.digit? 16 (hexDigit (code / 16)) = some (code / 16) :=
    digit?_hexDigit (by omega)
  have low : Decimal.digit? 16 (hexDigit (code % 16)) = some (code % 16) :=
    digit?_hexDigit (by omega)
  simp only [Reads, hexUnit, zero, high, low, gives_ok_iff]
  exact ⟨by omega, trivial⟩

/-- The letter behind a backslash is read back as its character. -/
theorem escaped?_of_escapeLetter? {character letter : Char}
    (written : escapeLetter? character = some letter) :
    escaped? letter = some character := by
  unfold escapeLetter? at written
  split at written <;> cases written <;> rfl

theorem reads_escape_of_letter {character letter : Char}
    (written : escapeLetter? character = some letter) (rest : List Char) :
    Reads escape (letter :: rest) character rest := by
  have known := escaped?_of_escapeLetter? written
  have notCode : letter ≠ 'u' := by
    rintro rfl
    cases known
  rw [Reads, escape]
  · simp [known, Rest.behind]
  · exact notCode

theorem reads_escape_of_code {character : Char} (control : character < ' ')
    (rest : List Char) :
    Reads escape
      ('u' :: '0' :: '0' :: hexDigit (character.toNat / 16) ::
        hexDigit (character.toNat % 16) :: rest)
      character rest := by
  have small : character.toNat < 32 := control
  have byte : character.toNat < 256 := by omega
  obtain ⟨shorter, unit⟩ := reads_hexUnit byte rest
  have notTrail : isTrailUnit character.toNat = false := by
    simp [isTrailUnit]
    omega
  have notLead : isLeadUnit character.toNat = false := by
    simp [isLeadUnit]
    omega
  simp only [Reads, escape, unit, notTrail, notLead]
  simp

/-- A written character is the first one of the string that is read. -/
theorem Reads.stringBody_written {characters rest text : List Char}
    (reads : Reads stringBody text characters rest) (character : Char) :
    Reads stringBody (writtenCharacter character ++ text)
      (character :: characters) rest := by
  cases letter? : escapeLetter? character with
  | some letter =>
      have written : writtenCharacter character = ['\\', letter] := by
        simp [writtenCharacter, letter?]
      obtain ⟨shorter, escaped⟩ := reads_escape_of_letter letter? text
      rw [written, List.cons_append, List.singleton_append, Reads, stringBody]
      simp only [escaped, gives_widen_iff]
      exact Gives.mapValue reads _
  | none =>
      by_cases control : character < ' '
      · have written : writtenCharacter character =
            '\\' :: 'u' :: '0' :: '0' :: hexDigit (character.toNat / 16) ::
              [hexDigit (character.toNat % 16)] := by
          simp [writtenCharacter, letter?, control]
        obtain ⟨shorter, escaped⟩ := reads_escape_of_code control text
        simp only [written, List.cons_append, List.nil_append]
        rw [Reads, stringBody]
        simp only [escaped, gives_widen_iff]
        exact Gives.mapValue reads _
      · have written : writtenCharacter character = [character] := by
          simp [writtenCharacter, letter?, control]
        have notQuote : character ≠ '"' := by
          rintro rfl
          simp [escapeLetter?] at letter?
        have notBackslash : character ≠ '\\' := by
          rintro rfl
          simp [escapeLetter?] at letter?
        rw [written, List.singleton_append, Reads, stringBody]
        · rw [if_neg control, gives_behind_iff]
          exact Gives.mapValue reads _
        · exact notQuote
        · exact notBackslash

/-- A written string is read back behind its opening quote. -/
theorem reads_stringBody (characters rest : List Char) :
    Reads stringBody (characters.flatMap writtenCharacter ++ '"' :: rest)
      characters rest := by
  induction characters with
  | nil =>
      rw [List.flatMap_nil, List.nil_append, Reads, stringBody]
      exact gives_ok
  | cons character characters ih =>
      rw [List.flatMap_cons, List.append_assoc]
      exact ih.stringBody_written character

end Json

end WalletRows
