import WalletRows.Palette
import WalletRows.Row
import WalletRows.StyledText

/-!
# Lines of a row

A row is drawn as one or two lines.  The first has the icon of the status, the
headline and the label; the second has the details, if there are any.
-/

namespace WalletRows

namespace Row

def detailSeparator : String := " · "

/-- The mark of a ticket that is spent. -/
def spentMarker : String := "●"

/-- What was mixed: the amount of each output, and how many if that is known. -/
def mixText (row : Row) : Option String :=
  row.mixDenomination.map fun denomination =>
    match row.mixCount with
    | some count => denomination ++ " " ++ count
    | none => denomination

def details (row : Row) : List String :=
  [row.walletName, row.mixText, row.secondaryAmount,
    if row.votedOrRevoked then some spentMarker else none, row.voteReward,
    row.daysHint, row.stakingDuration].filterMap id

def headLine (row : Row) (palette : Palette) : StyledLine :=
  let plain := palette.resolve .text
  let accent := palette.resolveOr row.status.color plain
  let start : List Span :=
    [{ content := row.status.icon.glyph.toList, style := .colored accent },
      { content := [' '] },
      { content := row.headline.toList
        style := { foreground := some plain, bold := true } },
      { content := [' ', ' '] },
      { content := row.statusLabel.toList
        style := .colored (palette.resolve row.statusLabelColor) }]
  let finish : List Span :=
    match row.statusIcon with
    | some icon => [{ content := [' '] }, { content := icon.glyph.toList }]
    | none => []
  { spans := start ++ finish }

/-- The second line, if there is anything to show on it. -/
def detailLine? (row : Row) (palette : Palette) : Option StyledLine :=
  match row.details with
  | [] => none
  | details =>
      some
        (.ofText (detailSeparator.intercalate details).toList
          (.colored (palette.resolve .grayText2)))

def lines (row : Row) (palette : Palette) : List StyledLine :=
  row.headLine palette :: (row.detailLine? palette).toList

end Row

end WalletRows
