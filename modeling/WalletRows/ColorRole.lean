import WalletRows.Color
import WalletRows.Named

/-!
# Color roles

Rows name colors by the role they play; a palette turns a role into a color.
-/

namespace WalletRows

/-- The part that a color plays in a row. -/
inductive ColorRole where
  | text
  | lightBlue
  | lightBlue6
  | yellow
  | orangeYellow
  | gray4
  | gray6
  | grayText1
  | grayText2
  | success2
  | turquoise100
  | turquoise300
  | turquoise700
  | orange
  | orange2
  | orange3
  | danger
deriving DecidableEq

instance : Named ColorRole where
  all := [.text, .lightBlue, .lightBlue6, .yellow, .orangeYellow, .gray4,
    .gray6, .grayText1, .grayText2, .success2, .turquoise100, .turquoise300,
    .turquoise700, .orange, .orange2, .orange3, .danger]
  name
    | .text => "text"
    | .lightBlue => "light_blue"
    | .lightBlue6 => "light_blue6"
    | .yellow => "yellow"
    | .orangeYellow => "orange_yellow"
    | .gray4 => "gray4"
    | .gray6 => "gray6"
    | .grayText1 => "gray_text1"
    | .grayText2 => "gray_text2"
    | .success2 => "success2"
    | .turquoise100 => "turquoise100"
    | .turquoise300 => "turquoise300"
    | .turquoise700 => "turquoise700"
    | .orange => "orange"
    | .orange2 => "orange2"
    | .orange3 => "orange3"
    | .danger => "danger"

namespace ColorRole

/-- The name in messages. -/
def label : ColorRole → String
  | .text => "Text"
  | .lightBlue => "LightBlue"
  | .lightBlue6 => "LightBlue6"
  | .yellow => "Yellow"
  | .orangeYellow => "OrangeYellow"
  | .gray4 => "Gray4"
  | .gray6 => "Gray6"
  | .grayText1 => "GrayText1"
  | .grayText2 => "GrayText2"
  | .success2 => "Success2"
  | .turquoise100 => "Turquoise100"
  | .turquoise300 => "Turquoise300"
  | .turquoise700 => "Turquoise700"
  | .orange => "Orange"
  | .orange2 => "Orange2"
  | .orange3 => "Orange3"
  | .danger => "Danger"

/-- The color of a role in the built-in light theme. -/
def defaultColor : ColorRole → Color
  | .text => .rgb 9 20 64
  | .lightBlue => .rgb 231 241 255
  | .lightBlue6 => .rgb 41 112 255
  | .yellow => .rgb 255 196 0
  | .orangeYellow => .rgb 237 109 71
  | .gray4 => .rgb 243 245 246
  | .gray6 => .rgb 224 224 224
  | .grayText1 => .rgb 61 88 115
  | .grayText2 => .rgb 89 109 129
  | .success2 => .rgb 65 190 83
  | .turquoise100 => .rgb 183 238 234
  | .turquoise300 => .rgb 46 214 161
  | .turquoise700 => .rgb 0 153 134
  | .orange => .rgb 237 109 71
  | .orange2 => .rgb 255 240 236
  | .orange3 => .rgb 255 199 187
  | .danger => .rgb 237 109 71

end ColorRole

end WalletRows
