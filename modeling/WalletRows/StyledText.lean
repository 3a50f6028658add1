import WalletRows.Color
import WalletRows.Text.Lines

/-!
# Styled text

A line of styled text is a list of spans.  A style says only what it changes:
a color that is absent stays as it was.
-/

namespace WalletRows

structure Style where
  foreground : Option Color := none
  background : Option Color := none
  bold : Bool := false
deriving DecidableEq

/-- A style that changes the color of the text only. -/
def Style.colored (color : Color) : Style where
  foreground := some color

/-- Where a style lies over another one, it decides what it changes. -/
def Style.over (upper lower : Style) : Style where
  foreground := upper.foreground <|> lower.foreground
  background := upper.background <|> lower.background
  bold := upper.bold || lower.bold

/-- A part of a line that has one style. -/
structure Span where
  content : List Char
  style : Style := {}
deriving DecidableEq

/-- The text of a span where it is printed: without the ends of lines. -/
def Span.printed (span : Span) : List Char :=
  (textLines span.content).flatten

structure StyledLine where
  spans : List Span
  /-- The style that lies below the styles of the spans. -/
  style : Style := {}
deriving DecidableEq

namespace StyledLine

/-- The line that shows a text in one style.  The ends of lines inside the text
are left out, and each line of the text is a span. -/
def ofText (text : List Char) (style : Style) : StyledLine where
  spans := (textLines text).map fun line => { content := line }
  style := style

def text (line : StyledLine) : List Char :=
  line.spans.flatMap Span.printed

end StyledLine

end WalletRows
