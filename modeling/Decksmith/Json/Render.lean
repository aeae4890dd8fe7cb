import Decksmith.Decimal.Positional
import Decksmith.Json.Value

/-! Writing JSON, without blanks. -/

namespace Decksmith.Json

/-- The hexadecimal digit of a number below sixteen. -/
def hexDigit (n : Nat) : Char :=
  if n < 10 then Char.ofNat (48 + n) else Char.ofNat (87 + n)

/-- A character as it stands in a text. Only quotes, backslashes and control characters are escaped. -/
def renderChar (c : Char) : List Char :=
  if c = '"' then ['\\', '"']
  else if c = '\\' then ['\\', '\\']
  else if c < ' ' then
    ['\\', 'u', '0', '0', hexDigit (c.toNat / 16), hexDigit (c.toNat % 16)]
  else [c]

/-- A text in quotes. -/
def renderText (text : String) : String :=
  String.ofList (['"'] ++ text.toList.flatMap renderChar ++ ['"'])

mutual

/-- The text of a value. -/
def Value.render : Value → String
  | .null => "null"
  | .boolean value => if value then "true" else "false"
  | .integer value => toString value
  | .float value => Decimal.write value
  | .text text => renderText text
  | .array items => "[" ++ ",".intercalate (renderItems items) ++ "]"
  | .object entries => "\x7b" ++ ",".intercalate (renderEntries entries) ++ "\x7d"

/-- The texts of some values. -/
def renderItems : List Value → List String
  | [] => []
  | item :: others => item.render :: renderItems others

/-- The texts of some entries. -/
def renderEntries : List (String × Value) → List String
  | [] => []
  | (name, value) :: others =>
    (renderText name ++ ":" ++ value.render) :: renderEntries others

end

end Decksmith.Json
