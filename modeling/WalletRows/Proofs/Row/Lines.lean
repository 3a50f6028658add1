import WalletRows.Proofs.Row.Dependence
import WalletRows.Proofs.Text.Lines
import WalletRows.Row.Lines

/-!
# What the lines of a row show

The optional texts of a row stand on its second line.  The mix is two texts that
stand together, and its count is lost on a row without an amount, so that
nothing is lost rests on which texts a formatted row has.
-/

namespace WalletRows

namespace Row

/-! ## The texts of a row -/

/-- The texts that may be absent, in order.  Those of one group stand together. -/
def groups (row : Row) : List (List (Option String)) :=
  [[row.walletName], [row.mixDenomination, row.mixCount],
    [row.secondaryAmount],
    [if row.votedOrRevoked then some "●" else none],
    [row.voteReward], [row.daysHint], [row.stakingDuration]]

/-- The texts of a group that are there, as one text. -/
def together (group : List (Option String)) : Option String :=
  match group.filterMap id with
  | [] => none
  | texts => some (" ".intercalate texts)

/-- The texts that are there. -/
def optionalTexts (row : Row) : List String :=
  row.groups.flatten.filterMap id

def headText (row : Row) : String :=
  row.status.icon.glyph ++ " " ++ row.headline ++ "  " ++ row.statusLabel ++
    match row.statusIcon with
    | some icon => " " ++ icon.glyph
    | none => ""

def detailText (row : Row) : String :=
  " · ".intercalate (row.groups.filterMap together)

variable {row : Row}

theorem together_singleton (text : Option String) : together [text] = text := by
  cases text with
  | none => rfl
  | some text => exact congrArg some String.intercalate_singleton

theorem together_mix (counted : row.mixCount.isSome → row.mixDenomination.isSome) :
    together [row.mixDenomination, row.mixCount] = row.mixText := by
  unfold mixText
  cases denomination : row.mixDenomination with
  | none =>
    have noCount : row.mixCount = none := by
      simpa [denomination] using counted
    rw [noCount]
    rfl
  | some amount =>
    cases row.mixCount with
    | none => exact together_singleton (some amount)
    | some count =>
      simp [together, String.intercalate_cons_cons]

theorem details_eq (counted : row.mixCount.isSome → row.mixDenomination.isSome) :
    row.details = row.groups.filterMap together := by
  have texts : row.groups.map together =
      [row.walletName, row.mixText, row.secondaryAmount,
        if row.votedOrRevoked then some "●" else none,
        row.voteReward, row.daysHint, row.stakingDuration] := by
    simp only [groups, List.map_cons, List.map_nil, together_singleton,
      together_mix counted]
  rw [details, spentMarker, ← texts, List.filterMap_map]
  rfl

/-! ## The lines of any row -/

theorem isSeparator_space : IsSeparator " ".toList := by
  constructor <;> decide

theorem isSeparator_twoSpaces : IsSeparator "  ".toList := by
  constructor <;> decide

theorem isSeparator_dot : IsSeparator " · ".toList := by
  constructor <;> decide

theorem contents_headLine (row : Row) (palette : Palette) :
    (row.headLine palette).contents = row.headText.toList := by
  unfold StyledLine.contents headLine headText
  cases row.statusIcon with
  | none => simp [Style.colored]
  | some icon => simp [Style.colored]

theorem text_headLine (row : Row) (palette : Palette) :
    (row.headLine palette).text = withoutLineEnds row.headText.toList := by
  have start : withoutLineEnds (row.status.icon.glyph ++ " " ++ row.headline ++
        "  " ++ row.statusLabel).toList =
      withoutLineEnds row.status.icon.glyph.toList ++ " ".toList ++
        withoutLineEnds row.headline.toList ++ "  ".toList ++
        withoutLineEnds row.statusLabel.toList := by
    simp only [String.toList_append]
    rw [isSeparator_twoSpaces.withoutLineEnds_between,
      isSeparator_space.withoutLineEnds_between]
  unfold headText StyledLine.text headLine
  cases row.statusIcon with
  | none =>
    rw [String.append_empty, start]
    simp [Span.printed_eq, Style.colored, withoutLineEnds]
  | some icon =>
    rw [← String.append_assoc, String.toList_append, String.toList_append,
      isSeparator_space.withoutLineEnds_between, start]
    simp [Span.printed_eq, Style.colored, withoutLineEnds]

theorem tail_lines (counted : row.mixCount.isSome → row.mixDenomination.isSome)
    (palette : Palette) :
    (row.lines palette).tail =
      if row.details = [] then [] else
        [.ofText row.detailText.toList
          (.colored (palette.resolve .grayText2))] := by
  rw [lines, List.tail_cons]
  unfold detailLine? detailText
  rw [← details_eq counted]
  cases row.details with
  | nil => rfl
  | cons text rest => rfl

theorem map_lines {read : StyledLine → List Char}
    (reads : ∀ text style,
      read (.ofText text style) = withoutLineEnds text)
    (counted : row.mixCount.isSome → row.mixDenomination.isSome)
    (palette : Palette) :
    (row.lines palette).map read =
      read (row.headLine palette) ::
        if row.details = [] then [] else
          [withoutLineEnds row.detailText.toList] := by
  have tail := tail_lines counted palette
  rw [lines, List.tail_cons] at tail
  rw [lines, List.map_cons, tail]
  split
  · rfl
  · rw [← reads]
    rfl

theorem isInfix_intercalate {separator text : String} {texts : List String}
    (separates : IsSeparator separator.toList) (among : text ∈ texts) :
    withoutLineEnds text.toList <:+:
      withoutLineEnds (separator.intercalate texts).toList := by
  rw [String.toList_intercalate, separates.withoutLineEnds_intercalate]
  apply infix_intercalate
  apply List.mem_map_of_mem
  exact List.mem_map_of_mem among

/-- A text that is there is a part of a detail. -/
theorem exists_detail_of_mem {text : String} (there : text ∈ row.optionalTexts) :
    ∃ detail ∈ row.groups.filterMap together,
      withoutLineEnds text.toList <:+: withoutLineEnds detail.toList := by
  obtain ⟨group, among, member⟩ : ∃ group ∈ row.groups, some text ∈ group := by
    simpa [optionalTexts] using there
  have inGroup : text ∈ group.filterMap id := by
    simpa using member
  have shown : together group = some (" ".intercalate (group.filterMap id)) := by
    unfold together
    cases texts : group.filterMap id with
    | nil =>
      rw [texts] at inGroup
      exact absurd inGroup List.not_mem_nil
    | cons first rest => rfl
  exact ⟨_, List.mem_filterMap.mpr ⟨group, among, shown⟩,
    isInfix_intercalate isSeparator_space inGroup⟩

/-- A text that is there is a part of the second line. -/
theorem exists_line_of_mem
    (counted : row.mixCount.isSome → row.mixDenomination.isSome)
    {text : String} (there : text ∈ row.optionalTexts) (palette : Palette) :
    ∃ line ∈ (row.lines palette).tail,
      withoutLineEnds text.toList <:+: line.text := by
  obtain ⟨detail, among, part⟩ := exists_detail_of_mem there
  have shown : row.details ≠ [] := by
    rw [details_eq counted]
    exact List.ne_nil_of_mem among
  rw [tail_lines counted, if_neg shown]
  refine ⟨_, List.mem_singleton_self _, ?_⟩
  rw [StyledLine.text_ofText]
  exact part.trans (isInfix_intercalate isSeparator_dot among)

end Row

namespace Wallet

open Row

/-! ## The texts of a formatted row -/

variable (wallet : Wallet) (transaction : Transaction)

theorem isSome_mixDenomination_of_mixCount (layout : Layout)
    (counted : (mixCount transaction layout).isSome) :
    (wallet.mixDenomination transaction layout).isSome := by
  unfold mixCount at counted
  unfold mixDenomination
  split at counted
  · next shown =>
    rw [Bool.and_eq_true] at shown
    rw [if_pos shown.1]
    rfl
  · exact absurd counted Bool.false_ne_true

theorem not_isSome_secondaryAmount_of_mix (layout : Layout)
    (mixed : (wallet.mixDenomination transaction layout).isSome) :
    ¬ (wallet.secondaryAmount transaction layout).isSome := by
  unfold mixDenomination at mixed
  split at mixed
  · next shown =>
    simp only [showsMix, Bool.and_eq_true, decide_eq_true_eq] at shown
    simp [secondaryAmount, shown.2]
  · exact absurd mixed Bool.false_ne_true

theorem details_formatRow_eq_nil_iff (view : View) :
    (wallet.formatRow transaction view).value.details = [] ↔
      ¬ (view.layout = .overview ∨ transaction.purpose.isVoteOrRevocation) := by
  cases layout : view.layout with
  | overview =>
    have name : (wallet.formatRow transaction view).value.walletName =
        some wallet.name := by
      change wallet.shownName view.layout = _
      rw [layout]
      rfl
    simp [details, name]
  | transactionsPage =>
    have absent := leavesOut_formatRow wallet transaction layout
    have hint : (wallet.formatRow transaction view).value.daysHint =
        daysHint transaction view.locale .transactionsPage := by
      rw [← layout]
      rfl
    simp [details, mixText, absent.walletName, absent.mixDenomination,
      absent.secondaryAmount, absent.votedOrRevoked, absent.voteReward,
      absent.stakingDuration, hint, daysHint]

/-- Both lines of a row show all of its texts, but for the ends of lines inside
them.  The spans of the first line hold even those. -/
theorem formatted_rows_are_shown_whole (view : View) (palette : Palette) :
    let row := (wallet.formatRow transaction view).value
    let lines := row.lines palette
    let isLong :=
      view.layout = .overview ∨ transaction.purpose.isVoteOrRevocation
    let second :=
      if isLong then [withoutLineEnds row.detailText.toList] else []
    lines.length = (if isLong then 2 else 1) ∧
    (row.mixCount.isSome → row.mixDenomination.isSome) ∧
    ¬ (row.mixDenomination.isSome ∧ row.secondaryAmount.isSome) ∧
    lines.map StyledLine.text =
      withoutLineEnds row.headText.toList :: second ∧
    lines.map StyledLine.contents = row.headText.toList :: second ∧
    (∀ text ∈ row.optionalTexts, ∃ line ∈ lines.tail,
      withoutLineEnds text.toList <:+: line.text) ∧
    (∀ other : Palette,
      (row.lines other).map StyledLine.text = lines.map StyledLine.text ∧
      (row.lines other).map StyledLine.contents =
        lines.map StyledLine.contents) := by
  intro row lines isLong second
  have counted : row.mixCount.isSome → row.mixDenomination.isSome :=
    isSome_mixDenomination_of_mixCount wallet transaction view.layout
  have oneAmount :
      ¬ (row.mixDenomination.isSome ∧ row.secondaryAmount.isSome) :=
    not_and.mpr
      (not_isSome_secondaryAmount_of_mix wallet transaction view.layout)
  have empty : row.details = [] ↔ ¬ isLong :=
    details_formatRow_eq_nil_iff wallet transaction view
  have ends : (if row.details = [] then [] else
      [withoutLineEnds row.detailText.toList]) = second := by
    simp only [empty, ite_not]
    rfl
  have texts (palette : Palette) :
      (row.lines palette).map StyledLine.text =
        withoutLineEnds row.headText.toList :: second := by
    rw [map_lines StyledLine.text_ofText counted, text_headLine, ends]
  have contents (palette : Palette) :
      (row.lines palette).map StyledLine.contents =
        row.headText.toList :: second := by
    rw [map_lines StyledLine.contents_ofText counted, contents_headLine, ends]
  refine ⟨?_, counted, oneAmount, texts palette, contents palette, ?_, ?_⟩
  · rw [← List.length_map (f := StyledLine.text), texts palette]
    by_cases long : isLong
    · simp [second, long]
    · simp [second, long]
  · intro text there
    exact exists_line_of_mem counted there palette
  · intro other
    exact ⟨(texts other).trans (texts palette).symm,
      (contents other).trans (contents palette).symm⟩

/-- The rows of a mix with a count and of a ticket that a vote spent.  The name of
the wallet and the amounts hold ends of lines, and a carriage return that ends
none.  The mark of the ticket stands between the amount and the reward. -/
theorem formatted_rows_are_shown_whole_of_mix_and_ticket :
    let vote : Transaction := { purpose := .vote, voteReward := 150000000 }
    let wallet : Wallet :=
      { name := "two\r\nlines\r", asset := .dcr, bestHeight := 9, required := 2
        matchesFilter := fun _ _ => false
        formatAmount := fun _ => "1\n"
        spender := fun hash => .ok (if hash = "spent" then some vote else none)
        hasVotedOrRevoked := fun hash => .ok (hash == "spent") }
    let mix : Transaction :=
      { hash := "t", purpose := .mixed, mixCount := 3, blockHeight := -1 }
    let ticket : Transaction :=
      { hash := "spent", purpose := .ticketPurchase, blockHeight := -1 }
    let row (transaction : Transaction) : Row :=
      (wallet.formatRow transaction { now := 60 }).value
    (row mix).mixCount.isSome ∧ (row mix).secondaryAmount = none ∧
      ((row mix).lines {}).map StyledLine.text =
        ["⧉ Mixed  Unconfirmed …".toList, "twolines\r · 1 x3".toList] ∧
      (row ticket).votedOrRevoked = true ∧
      ((row ticket).lines {}).map StyledLine.text =
        ["⇄ Transferred  Unconfirmed".toList,
          "twolines\r · 1 · ● · +1.50".toList] ∧
      ("x3" ∈ (row mix).optionalTexts ∧ "●" ∈ (row ticket).optionalTexts) ∧
      (∃ line ∈ ((row mix).lines {}).tail,
        withoutLineEnds "x3".toList <:+: line.text) ∧
      ∃ line ∈ ((row ticket).lines {}).tail,
        withoutLineEnds "●".toList <:+: line.text := by
  intro vote wallet mix ticket row
  obtain ⟨-, counted, oneAmount, texts, -, parts, -⟩ :=
    formatted_rows_are_shown_whole wallet mix { now := 60 } {}
  obtain ⟨-, -, -, ticketTexts, -, ticketParts, -⟩ :=
    formatted_rows_are_shown_whole wallet ticket { now := 60 } {}
  have count : "x3" ∈ (row mix).optionalTexts := by decide +kernel
  have mark : "●" ∈ (row ticket).optionalTexts := by decide +kernel
  refine ⟨rfl, ?_, ?_, rfl, ?_, ⟨count, mark⟩, parts "x3" count,
    ticketParts "●" mark⟩
  · by_contra amount
    exact oneAmount ⟨counted rfl, Option.isSome_iff_ne_none.mpr amount⟩
  · rw [texts]
    decide +kernel
  · rw [ticketTexts]
    decide +kernel

end Wallet

end WalletRows
