import FlowTraffic.Text.Digits
import FlowTraffic.Text.Hidden

/-!
# Quoted text

Text between double quotes. Quotes and backslashes are escaped, and so is every character that
cannot be seen by itself.
-/

namespace FlowTraffic.Text

def escape (c : Char) : String :=
  match c with
  | '"' => "\\\""
  | '\\' => "\\\\"
  | '\n' => "\\n"
  | '\r' => "\\r"
  | '\t' => "\\t"
  | '\x00' => "\\0"
  | c => if isHidden c then "\\u\x7b" ++ hex c.toNat ++ "\x7d" else c.toString

def quoted (s : String) : String := "\"" ++ String.join (s.toList.map escape) ++ "\""

end FlowTraffic.Text
