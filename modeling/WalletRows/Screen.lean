import WalletRows.StyledText
import WalletRows.Text.Cluster
import WalletRows.Text.ClusterWidth

/-!
# Screens

A screen is a grid of cells.  Lines of text are drawn into an area of it, one
below the other.  A line is cut where the area ends, and lines below the area
are left out.
-/

namespace WalletRows

/-- What one cell of a screen shows. -/
structure Cell where
  symbol : List Char := [' ']
  foreground : Color := .reset
  background : Color := .reset
  bold : Bool := false
deriving DecidableEq

namespace Cell

/-- A cell that nothing was drawn into. -/
def blank : Cell := {}

/-- A blank cell with something drawn into it. -/
def drawn (symbol : List Char) (style : Style) : Cell where
  symbol := symbol
  foreground := style.foreground.getD .reset
  background := style.background.getD .reset
  bold := style.bold

def sameStyle (left right : Cell) : Bool :=
  left.foreground = right.foreground && left.background = right.background &&
    left.bold = right.bold

end Cell

/-- A cluster of characters with the style it is drawn in. -/
structure Glyph where
  characters : List Char
  style : Style

namespace Glyph

/-- The glyphs of a text in one style.  Newlines have no glyph. -/
def ofText (style : Style) (text : List Char) : List Glyph :=
  ((clusters text).filter fun cluster => cluster ≠ ['\n']).map fun cluster =>
    ⟨cluster, style⟩

def width (glyph : Glyph) : Nat :=
  clusterWidth glyph.characters

end Glyph

/-- The glyphs of a line.  Clusters end where a span ends. -/
def StyledLine.glyphs (line : StyledLine) : List Glyph :=
  line.spans.flatMap fun span =>
    Glyph.ofText (span.style.over line.style) span.content

/-- The cells of a line in an area of a width, of which `room` are left.  A
glyph that takes two cells leaves the second one as it was.  A glyph that is
wider than the area is left out, and one that is wider than the room ends the
line. -/
def lineCells (width : Nat) : Nat → List Glyph → List (Option Cell)
  | _, [] => []
  | room, glyph :: rest =>
      if width < glyph.width then
        lineCells width room rest
      else if room < glyph.width then
        []
      else
        let later := lineCells width (room - glyph.width) rest
        match glyph.width with
        | 0 => later
        | wide + 1 =>
            some (.drawn glyph.characters glyph.style) ::
              (List.replicate wide none ++ later)

structure Area where
  left : Nat
  top : Nat
  width : Nat
  height : Nat

/-- The part of an area that lies on a screen of a given size. -/
def Area.within (area : Area) (width height : Nat) : Area where
  left := area.left
  top := area.top
  width := min (area.left + area.width) width - area.left
  height := min (area.top + area.height) height - area.top

/-- A screen as its rows of cells. -/
abbrev Screen := List (List Cell)

namespace Screen

/-- A screen of a given size on which lines are drawn into an area. -/
def draw (width height : Nat) (area : Area) (lines : List StyledLine) : Screen :=
  let part := area.within width height
  let rows :=
    (lines.take part.height).map fun line =>
      lineCells part.width part.width line.glyphs
  (List.range height).map fun y =>
    let cells := if y < part.top then [] else rows.getD (y - part.top) []
    (List.range width).map fun x =>
      let cell := if x < part.left then none else cells.getD (x - part.left) none
      cell.getD .blank

/-- The column where each run of equal style starts, with a cell of it. -/
def styleRuns (cells : List Cell) : List (Nat × Cell) :=
  go 0 none cells
where
  go (column : Nat) (previous : Option Cell) : List Cell → List (Nat × Cell)
    | [] => []
    | cell :: rest =>
        let later := go (column + 1) (some cell) rest
        if previous.any cell.sameStyle then later else (column, cell) :: later

end Screen

end WalletRows
