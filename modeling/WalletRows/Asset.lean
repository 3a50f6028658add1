import WalletRows.Binary64.Shortest
import WalletRows.Named

/-!
# Assets and amounts

A wallet holds one asset.  Amounts are counted in atoms, of which every asset
has a hundred million to the coin; a coin value is the binary64 number nearest
to the quotient, and an amount is shown as the shortest decimal of that number.
-/

namespace WalletRows

inductive Asset where
  | btc
  | dcr
  | ltc
deriving DecidableEq

instance : Named Asset where
  all := [.btc, .dcr, .ltc]
  name
    | .btc => "btc"
    | .dcr => "dcr"
    | .ltc => "ltc"

namespace Asset

def symbol : Asset → String
  | .btc => "BTC"
  | .dcr => "DCR"
  | .ltc => "LTC"

/-- Only one asset has tickets, votes and revocations. -/
def supportsStaking : Asset → Bool
  | .dcr => true
  | .btc | .ltc => false

def atomsPerCoin : Nat := 100000000

def toCoin (_asset : Asset) (atoms : Int64) : Binary64 :=
  (Binary64.ofInt atoms.toInt).divNat atomsPerCoin

/-- The text of an amount: its coin value and the ticker symbol. -/
def formatAmount (asset : Asset) (atoms : Int64) : String :=
  String.ofList (asset.toCoin atoms).plainText ++ " " ++ asset.symbol

/-- The asset with a ticker symbol, in upper or lower case. -/
def ofSymbol? (text : String) : Option Asset :=
  Named.ofName? (text.map Char.toLower)

end Asset

end WalletRows
