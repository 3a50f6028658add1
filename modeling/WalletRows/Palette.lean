import WalletRows.Event

/-!
# Palettes

A palette gives each color role a color: its own, if it has one, and else the
color of the built-in theme.
-/

namespace WalletRows

structure Palette where
  /-- The colors that differ from the built-in theme. -/
  replaced : ColorRole → Option Color := fun _ => none

namespace Palette

def set (palette : Palette) (role : ColorRole) (color : Color) : Palette :=
  ⟨fun other => if other = role then some color else palette.replaced other⟩

def resolve (palette : Palette) (role : ColorRole) : Color :=
  (palette.replaced role).getD role.defaultColor

/-- The color of a role that may be absent. -/
def resolveOr (palette : Palette) (role : Option ColorRole) (fallback : Color) :
    Color :=
  match role with
  | some role => palette.resolve role
  | none => fallback

/-- Give a role the color of a text.  A text that is no color is noticed and
changes nothing. -/
def override (palette : Palette) (role : ColorRole) (text : String) :
    Logged Palette :=
  match Color.parse? text with
  | some color => ⟨palette.set role color, []⟩
  | none => ⟨palette, [.invalidColor text role]⟩

/-- The palette of textual replacements, taken in the given order. -/
def ofTexts (texts : List (ColorRole × String)) : Logged Palette :=
  go {} texts
where
  go (palette : Palette) : List (ColorRole × String) → Logged Palette
    | [] => pure palette
    | (role, text) :: rest => do
        let changed ← palette.override role text
        go changed rest

end Palette

end WalletRows
