import Mathlib.Data.List.Chain
import WalletRows.Locale
import WalletRows.Proofs.Text.Numerals

/-!
# Templates and their segmentations

A template has one segmentation for a number of arguments: its parts join to the
template, its holes are numerals below that number between braces, and no such
hole is left inside a piece.  Filling a template puts each argument in the place
of its holes and keeps the pieces as they stand, so the text of an argument is
never read again, whatever braces it holds.

The key is that a hole is found wherever it stands.  A brace in front of it may
look for its closing brace beyond the opening one of the hole, but what stands
between the two is then no numeral, so that brace is kept and the hole is met
later.
-/

namespace WalletRows

namespace Template

/-! ## Holes -/

/-- A text is the source of a hole for one of `count` arguments. -/
def IsHole (count index : Nat) (source : List Char) : Prop :=
  Decimal.IsNumeral source index ∧ index < count

/-- A text has a hole for one of `count` arguments somewhere. -/
def HasHole (count : Nat) (text : List Char) : Prop :=
  ∃ before index source after, IsHole count index source ∧
    text = before ++ '{' :: (source ++ '}' :: after)

theorem HasHole.append_left {count : Nat} {text : List Char}
    (has : HasHole count text) (front : List Char) :
    HasHole count (front ++ text) := by
  obtain ⟨before, index, source, after, hole, rfl⟩ := has
  exact ⟨front ++ before, index, source, after, hole, by simp⟩

theorem IsHole.plain {count index : Nat} {source : List Char}
    (hole : IsHole count index source) {character : Char}
    (member : character ∈ source) :
    character.isDigit = true ∨ character = '+' := by
  obtain ⟨⟨digits, written, -, all, -⟩, -⟩ := hole
  rcases written with rfl | rfl
  · exact .inl (all character member)
  · rcases List.mem_cons.mp member with plus | digit
    · exact .inr plus
    · exact .inl (all character digit)

theorem IsHole.not_mem_open {count index : Nat} {source : List Char}
    (hole : IsHole count index source) : '{' ∉ source := by
  intro member
  rcases hole.plain member with digit | plus <;> contradiction

theorem IsHole.not_mem_close {count index : Nat} {source : List Char}
    (hole : IsHole count index source) : '}' ∉ source := by
  intro member
  rcases hole.plain member with digit | plus <;> contradiction

/-- What is found behind an opening brace stands there. -/
theorem of_hole?_eq_some {count index : Nat} {text source rest : List Char}
    (found : hole? count text = some (index, source, rest)) :
    IsHole count index source ∧ text = source ++ '}' :: rest := by
  unfold hole? at found
  simp only at found
  split at found
  · rename_i brace later number split reads
    split at found
    · rename_i below
      cases found
      have close : brace = '}' := by
        have first := List.head?_dropWhile_not (· ≠ '}') text
        rw [split] at first
        simpa using first
      have numeral := (Decimal.read_eq_ok_iff.mp reads).1
      have joined := List.takeWhile_append_dropWhile (p := (· ≠ '}')) (l := text)
      rw [split, close] at joined
      exact ⟨⟨numeral, below⟩, joined.symm⟩
    · cases found
  · cases found

section Bounded

/-! No more arguments are counted than 64 bits hold. -/

variable {count : Nat} (fits : count ≤ UInt64.size)

include fits

/-- A hole is found behind its opening brace. -/
theorem hole?_of_isHole {index : Nat} {source : List Char}
    (hole : IsHole count index source) (rest : List Char) :
    hole? count (source ++ '}' :: rest) = some (index, source, rest) := by
  have apart : ∀ character ∈ source, decide (character ≠ '}') = true := by
    intro character member
    refine decide_eq_true ?_
    rintro rfl
    exact hole.not_mem_close member
  have taken : (source ++ '}' :: rest).takeWhile (· ≠ '}') = source := by
    rw [List.takeWhile_append_of_pos apart]
    simp
  have dropped : (source ++ '}' :: rest).dropWhile (· ≠ '}') = '}' :: rest := by
    rw [List.dropWhile_append_of_pos apart]
    simp
  have below := hole.2
  have reads : Decimal.read 10 Decimal.maxUInt64 source = .ok index :=
    Decimal.read_eq_ok_iff.mpr ⟨hole.1, by unfold Decimal.maxUInt64; omega⟩
  simp only [hole?, taken, dropped, reads, below, if_true]

/-- A brace that opens no hole opens none either in front of another brace. -/
theorem hole?_append_eq_none {text : List Char}
    (none : hole? count text = none) (more : List Char) :
    hole? count (text ++ '{' :: more) = .none := by
  cases found : hole? count (text ++ '{' :: more) with
  | none => rfl
  | some answer =>
      obtain ⟨index, source, rest⟩ := answer
      obtain ⟨hole, same⟩ := of_hole?_eq_some found
      rcases List.append_eq_append_iff.mp same with
        ⟨middle, inside, later⟩ | ⟨middle, inside, later⟩
      · -- The closing brace would stand behind the other opening one.
        cases middle with
        | nil => cases later
        | cons first middle =>
            obtain ⟨rfl, -⟩ := List.cons.inj later
            exact absurd (by simp [inside]) hole.not_mem_open
      · cases middle with
        | nil => cases later
        | cons first middle =>
            obtain ⟨rfl, -⟩ := List.cons.inj later
            rw [inside, hole?_of_isHole fits hole] at none
            cases none

end Bounded

/-! ## What one step does -/

/-- A character in front of the parts stands in front of their texts. -/
theorem flatMap_cons (text : Segment → List Char)
    (piece : ∀ characters, text (.piece characters) = characters)
    (character : Char) (parts : List Segment) :
    (cons character parts).flatMap text = character :: parts.flatMap text := by
  unfold cons
  split <;> simp [piece]

theorem cons_append_hole (character : Char) (parts later : List Segment)
    (index : Nat) (source : List Char) :
    cons character (parts ++ .hole index source :: later) =
      cons character parts ++ .hole index source :: later := by
  cases parts with
  | nil => rfl
  | cons first parts => cases first <;> rfl

section Steps

variable {count index : Nat} {rest source later : List Char}

theorem segments_of_ne {character : Char} (other : character ≠ '{') :
    segments count (character :: rest) =
      cons character (segments count rest) := by
  rw [segments, if_neg other]

theorem segments_of_none (none : hole? count rest = none) :
    segments count ('{' :: rest) = cons '{' (segments count rest) := by
  rw [segments, if_pos rfl]
  split
  · rename_i found
    rw [none] at found
    cases found
  · rfl

theorem segments_of_some
    (found : hole? count rest = some (index, source, later)) :
    segments count ('{' :: rest) =
      .hole index source :: segments count later := by
  rw [segments, if_pos rfl]
  split
  · rename_i again
    rw [found] at again
    cases again
    rfl
  · rename_i none
    rw [found] at none
    cases none

end Steps

/-- A template is filled part by part. -/
theorem fill_eq_flatMap (template : List Char) (arguments : List (List Char)) :
    fill template arguments =
      (segments arguments.length template).flatMap
        (Segment.fill arguments) := by
  induction template using fill.induct arguments with
  | case1 => rw [fill, segments, List.flatMap_nil]
  | case2 rest index source later found ih =>
      rw [segments_of_some found, List.flatMap_cons, ← ih, fill, if_pos rfl]
      split
      · rename_i again
        rw [found] at again
        cases again
        rfl
      · rename_i none
        rw [found] at none
        cases none
  | case3 rest none ih =>
      rw [segments_of_none none,
        flatMap_cons (Segment.fill arguments) (fun _ => rfl), ← ih, fill,
        if_pos rfl]
      split
      · rename_i found
        rw [none] at found
        cases found
      · rfl
  | case4 character rest other ih =>
      rw [segments_of_ne other,
        flatMap_cons (Segment.fill arguments) (fun _ => rfl), ← ih, fill,
        if_neg other]

/-- What holds of the empty template, behind every hole, and behind every
character that is kept, holds of every template and its segments. -/
theorem segments_induction {count : Nat}
    {motive : List Char → List Segment → Prop} (nil : motive [] [])
    (hole : ∀ index source rest, IsHole count index source →
      motive rest (segments count rest) →
      motive ('{' :: (source ++ '}' :: rest))
        (.hole index source :: segments count rest))
    (kept : ∀ character rest, (character = '{' → hole? count rest = none) →
      motive rest (segments count rest) →
      motive (character :: rest) (cons character (segments count rest)))
    (template : List Char) : motive template (segments count template) := by
  induction template using segments.induct count with
  | case1 =>
      rw [segments]
      exact nil
  | case2 rest index source later found ih =>
      rw [segments_of_some found]
      obtain ⟨isHole, rfl⟩ := of_hole?_eq_some found
      exact hole index source later isHole ih
  | case3 rest none ih =>
      rw [segments_of_none none]
      exact kept '{' rest (fun _ => none) ih
  | case4 character rest other ih =>
      rw [segments_of_ne other]
      exact kept character rest (fun brace => absurd brace other) ih

/-! ## Segmentations -/

def Segment.isPiece : Segment → Bool
  | .piece _ => true
  | .hole .. => false

/-- Parts are a segmentation of a template for a number of arguments. -/
structure Cut (count : Nat) (template : List Char) (parts : List Segment) :
    Prop where
  joined : parts.flatMap Segment.written = template
  holes : ∀ index source, .hole index source ∈ parts →
    IsHole count index source
  filled : ∀ text, .piece text ∈ parts → text ≠ []
  plain : ∀ text, .piece text ∈ parts → ¬ HasHole count text
  merged : parts.IsChain fun first second =>
    ¬ (Segment.isPiece first ∧ Segment.isPiece second)

section Parts

variable {count : Nat} {character : Char} {text : List Char}
variable {parts : List Segment}

theorem hole_mem_cons_iff {index : Nat} {source : List Char} :
    .hole index source ∈ cons character parts ↔
      .hole index source ∈ parts := by
  unfold cons
  split <;> simp

/-- A piece behind a further character begins with that character, or was there
before. -/
theorem of_piece_mem_cons (member : .piece text ∈ cons character parts) :
    .piece text ∈ parts ∨
      text = [character] ∨
      ∃ rest more, text = character :: rest ∧ parts = .piece rest :: more := by
  unfold cons at member
  split at member
  · rename_i rest more
    rcases List.mem_cons.mp member with first | later
    · cases first
      exact .inr (.inr ⟨rest, more, rfl, rfl⟩)
    · exact .inl (List.mem_cons_of_mem _ later)
  · rcases List.mem_cons.mp member with first | later
    · cases first
      exact .inr (.inl rfl)
    · exact .inl later

theorem merged_cons
    (merged : parts.IsChain fun first second =>
      ¬ (Segment.isPiece first ∧ Segment.isPiece second)) :
    (cons character parts).IsChain fun first second =>
      ¬ (Segment.isPiece first ∧ Segment.isPiece second) := by
  cases parts with
  | nil => exact .singleton _
  | cons first parts =>
      cases first with
      | hole index source => exact .cons_cons (by simp [Segment.isPiece]) merged
      | piece text =>
          cases parts with
          | nil => exact .singleton _
          | cons second parts =>
              cases merged with
              | cons_cons apart merged => exact .cons_cons apart merged

theorem joined_segments (count : Nat) (template : List Char) :
    (segments count template).flatMap Segment.written = template := by
  refine segments_induction
    (motive := fun template parts => parts.flatMap Segment.written = template)
    rfl ?_ ?_ template
  · intro index source rest hole joined
    rw [List.flatMap_cons, joined]
    simp [Segment.written]
  · intro character rest none joined
    rw [flatMap_cons Segment.written (fun _ => rfl), joined]

theorem isHole_of_mem_segments {template : List Char} {index : Nat}
    {source : List Char} :
    .hole index source ∈ segments count template →
      IsHole count index source := by
  refine segments_induction
    (motive := fun _ parts => .hole index source ∈ parts →
      IsHole count index source) ?_ ?_ ?_ template
  · intro member
    cases member
  · intro first front rest hole ih member
    rcases List.mem_cons.mp member with same | behind
    · cases same
      exact hole
    · exact ih behind
  · intro character rest none ih member
    exact ih (hole_mem_cons_iff.mp member)

theorem ne_nil_of_mem_segments {template : List Char} :
    .piece text ∈ segments count template → text ≠ [] := by
  refine segments_induction
    (motive := fun _ parts => .piece text ∈ parts → text ≠ []) ?_ ?_ ?_ template
  · intro member
    cases member
  · intro index source rest hole ih member
    rcases List.mem_cons.mp member with same | behind
    · cases same
    · exact ih behind
  · intro character rest none ih member
    rcases of_piece_mem_cons member with old | rfl | ⟨_, _, rfl, -⟩
    · exact ih old
    · exact List.cons_ne_nil _ _
    · exact List.cons_ne_nil _ _

theorem merged_segments (count : Nat) (template : List Char) :
    (segments count template).IsChain fun first second =>
      ¬ (Segment.isPiece first ∧ Segment.isPiece second) := by
  refine segments_induction
    (motive := fun _ parts => parts.IsChain fun first second =>
      ¬ (Segment.isPiece first ∧ Segment.isPiece second)) .nil ?_ ?_ template
  · intro index source rest hole merged
    cases parts : segments count rest with
    | nil => exact .singleton _
    | cons first parts =>
        exact .cons_cons (by simp [Segment.isPiece]) (parts ▸ merged)
  · intro character rest none merged
    exact merged_cons merged

theorem segments_eq_singleton {text : List Char} (filled : text ≠ [])
    (plain : ¬ HasHole count text) : segments count text = [.piece text] := by
  induction text with
  | nil => exact absurd rfl filled
  | cons character rest ih =>
      have later : ¬ HasHole count rest := fun has =>
        plain (has.append_left [character])
      have kept : segments count (character :: rest) =
          cons character (segments count rest) := by
        by_cases brace : character = '{'
        · subst brace
          cases found : hole? count rest with
          | none => exact segments_of_none found
          | some answer =>
              obtain ⟨index, source, after⟩ := answer
              obtain ⟨hole, rfl⟩ := of_hole?_eq_some found
              exact absurd ⟨[], index, source, after, hole, rfl⟩ plain
        · exact segments_of_ne brace
      rw [kept]
      cases rest with
      | nil =>
          rw [segments]
          rfl
      | cons second rest =>
          rw [ih (List.cons_ne_nil _ _) later]
          rfl

theorem Cut.tail {part : Segment} {template : List Char}
    (cut : Cut count template (part :: parts)) :
    Cut count (parts.flatMap Segment.written) parts where
  joined := rfl
  holes _ _ member := cut.holes _ _ (.tail _ member)
  filled _ member := cut.filled _ (.tail _ member)
  plain _ member := cut.plain _ (.tail _ member)
  merged := cut.merged.tail

end Parts

section Bounded

variable {count : Nat} (fits : count ≤ UInt64.size)

include fits

/-- No hole is left in a piece: at its front it would have been found, and
behind its front it would have been left in a shorter piece. -/
theorem not_hasHole_of_mem_segments {template text : List Char} :
    .piece text ∈ segments count template → ¬ HasHole count text := by
  refine segments_induction
    (motive := fun _ parts => ∀ text, .piece text ∈ parts →
      ¬ HasHole count text) ?_ ?_ ?_ template text
  · intro text member
    cases member
  · intro index source rest hole ih text member
    rcases List.mem_cons.mp member with same | behind
    · cases same
    · exact ih text behind
  · intro character rest none ih text member
    rcases of_piece_mem_cons member with old | rfl | ⟨later, more, rfl, parts⟩
    · exact ih text old
    · rintro ⟨before, index, source, after, hole, same⟩
      have lengths := congrArg List.length same
      simp at lengths
      omega
    · rintro ⟨before, index, source, after, hole, same⟩
      cases before with
      | nil =>
          -- The piece is the front of what follows, where no hole was found.
          obtain ⟨brace, rfl⟩ := List.cons.inj same
          have joined := joined_segments count rest
          rw [parts, List.flatMap_cons, Segment.written, List.append_assoc,
            List.cons_append] at joined
          have found := none brace
          rw [← joined, hole?_of_isHole fits hole] at found
          cases found
      | cons first before =>
          obtain ⟨-, rfl⟩ := List.cons.inj same
          refine ih _ ?_ ⟨before, index, source, after, hole, rfl⟩
          rw [parts]
          exact List.mem_cons_self

/-- A hole is found wherever it stands. -/
theorem segments_append_hole {index : Nat} {source : List Char}
    (hole : IsHole count index source) (before after : List Char) :
    segments count (before ++ '{' :: (source ++ '}' :: after)) =
      segments count before ++ .hole index source :: segments count after := by
  refine segments_induction
    (motive := fun before parts =>
      segments count (before ++ '{' :: (source ++ '}' :: after)) =
        parts ++ .hole index source :: segments count after) ?_ ?_ ?_ before
  · exact segments_of_some (hole?_of_isHole fits hole after)
  · intro first front rest isHole ih
    rw [List.cons_append, List.append_assoc, List.cons_append,
      segments_of_some (hole?_of_isHole fits isHole _), ih]
    rfl
  · intro character rest none ih
    rw [← cons_append_hole, ← ih, List.cons_append]
    by_cases brace : character = '{'
    · subst brace
      exact segments_of_none (hole?_append_eq_none fits (none rfl) _)
    · exact segments_of_ne brace

theorem cut_segments (template : List Char) :
    Cut count template (segments count template) where
  joined := joined_segments count template
  holes _ _ := isHole_of_mem_segments
  filled _ := ne_nil_of_mem_segments
  plain _ := not_hasHole_of_mem_segments fits
  merged := merged_segments count template

/-- A template has no segmentation but its segments.  The parts are taken from
the front, a piece together with the hole behind it. -/
theorem Cut.eq_segments : {parts : List Segment} → {template : List Char} →
    Cut count template parts → segments count template = parts
  | [], template, cut => by
      rw [← cut.joined, List.flatMap_nil, segments]
  | .hole index source :: rest, template, cut => by
      have hole := cut.holes index source List.mem_cons_self
      have same : template =
          [] ++ '{' :: (source ++ '}' :: rest.flatMap Segment.written) := by
        rw [← cut.joined, List.flatMap_cons]
        simp [Segment.written]
      rw [same, segments_append_hole fits hole, cut.tail.eq_segments, segments]
      rfl
  | [.piece text], template, cut => by
      rw [← cut.joined, List.flatMap_cons, List.flatMap_nil, List.append_nil]
      exact segments_eq_singleton (cut.filled _ List.mem_cons_self)
        (cut.plain _ List.mem_cons_self)
  | .piece text :: .hole index source :: rest, template, cut => by
      have alone := segments_eq_singleton (cut.filled text List.mem_cons_self)
        (cut.plain text List.mem_cons_self)
      have hole := cut.holes index source (.tail _ List.mem_cons_self)
      have same : template =
          text ++ '{' :: (source ++ '}' :: rest.flatMap Segment.written) := by
        rw [← cut.joined, List.flatMap_cons, List.flatMap_cons]
        simp [Segment.written]
      rw [same, segments_append_hole fits hole, cut.tail.tail.eq_segments, alone]
      rfl
  | .piece text :: .piece other :: rest, template, cut => by
      have apart := List.isChain_cons_cons.mp cut.merged
      exact absurd ⟨rfl, rfl⟩ apart.1

theorem fill_append_hole {index : Nat} {source : List Char}
    {arguments : List (List Char)} (counted : arguments.length = count)
    (hole : IsHole count index source) (before after : List Char) :
    fill (before ++ '{' :: (source ++ '}' :: after)) arguments =
      fill before arguments ++ arguments.getD index [] ++
        fill after arguments := by
  rw [fill_eq_flatMap, fill_eq_flatMap, fill_eq_flatMap, counted,
    segments_append_hole fits hole, List.flatMap_append, List.flatMap_cons,
    List.append_assoc]
  rfl

end Bounded

theorem fill_eq_self {template : List Char} {arguments : List (List Char)}
    (plain : ¬ HasHole arguments.length template) :
    fill template arguments = template := by
  rw [fill_eq_flatMap]
  by_cases filled : template = []
  · rw [filled, segments]
    rfl
  · rw [segments_eq_singleton filled plain, List.flatMap_cons,
      List.flatMap_nil, List.append_nil]
    rfl

theorem fill_of_not_mem {text : List Char} (plain : '{' ∉ text)
    (arguments : List (List Char)) : fill text arguments = text := by
  apply fill_eq_self
  rintro ⟨before, index, source, after, -, rfl⟩
  exact plain (List.mem_append_right _ List.mem_cons_self)

/-- A template has one segmentation for a number of arguments.  Whatever the
arguments are, the phrase with that wording is filled by putting each one in the
place of its holes and keeping the pieces.  So a wording without a hole stays as
it is, and a hole is filled wherever it stands, whatever braces are around it. -/
theorem fill_of_segmentation (template : List Char) (count : Nat)
    (fits : count ≤ UInt64.size) :
    ∃ parts, Cut count template parts ∧
      (∀ other, Cut count template other → other = parts) ∧
      ∀ (locale : Locale) (phrase : Phrase) (arguments : List String),
        (locale.text phrase).toList = template → arguments.length = count →
        let texts := arguments.map String.toList
        (locale.fill phrase arguments).toList =
            parts.flatMap (Segment.fill texts) ∧
          (¬ HasHole count template →
            locale.fill phrase arguments = locale.text phrase) ∧
          ∀ before index source after, IsHole count index source →
            template = before ++ '{' :: (source ++ '}' :: after) →
            (locale.fill phrase arguments).toList =
              fill before texts ++ texts.getD index [] ++ fill after texts := by
  refine ⟨segments count template, cut_segments fits template, ?_, ?_⟩
  · intro other cut
    exact (cut.eq_segments fits).symm
  · intro locale phrase arguments wording counted texts
    have counted : texts.length = count := by
      rw [List.length_map, counted]
    have filled : (locale.fill phrase arguments).toList =
        fill template texts := by
      rw [Locale.fill, String.toList_ofList, wording]
    refine ⟨?_, ?_, ?_⟩
    · rw [filled, fill_eq_flatMap, counted]
    · intro plain
      rw [← counted] at plain
      rw [Locale.fill, wording, fill_eq_self plain, ← wording,
        String.ofList_toList]
    · rintro before index source after hole rfl
      rw [filled, fill_append_hole fits counted hole]

/-- A brace right in front of a hole is kept, a sign and leading zeros belong to
the number of a hole, and an argument keeps its braces. -/
theorem fill_of_segmentation_nested :
    let wording := "\x7b\x7b+01\x7d\x7b9\x7d"
    let arguments := ["x", "\x7b0\x7d"]
    let locale : Locale := { replaced := fun _ => some wording }
    2 ≤ UInt64.size ∧ IsHole 2 1 ['+', '0', '1'] ∧
      ∃ parts, Cut 2 wording.toList parts ∧
        (locale.fill .yesterday arguments).toList =
          parts.flatMap (Segment.fill (arguments.map String.toList)) ∧
        (locale.fill .yesterday arguments).toList =
          '{' :: '{' :: '0' :: '}' :: '{' :: '9' :: ['}'] := by
  intro wording arguments locale
  have hole : IsHole 2 1 ['+', '0', '1'] :=
    ⟨⟨['0', '1'], .inr rfl, by decide, by simp [Char.isDigit], by decide⟩,
      by decide⟩
  have fits : 2 ≤ UInt64.size := by decide
  obtain ⟨parts, cut, -, fills⟩ := fill_of_segmentation wording.toList 2 fits
  obtain ⟨filled, -, around⟩ := fills locale .yesterday arguments rfl rfl
  refine ⟨fits, hole, parts, cut, filled, ?_⟩
  rw [around ['{'] 1 ['+', '0', '1'] ['{', '9', '}'] hole (by decide)]
  decide +kernel

end Template

end WalletRows
