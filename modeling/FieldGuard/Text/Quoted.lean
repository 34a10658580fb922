import FieldGuard.Text.Visible

/-! Texts in quotes, as they are shown where the text itself is the matter. -/
namespace FieldGuard
namespace Quoted

/-- Quotes, backslashes and characters without a mark of their own are escaped; five of them have a
short escape, the others show their number in hexadecimal digits. -/
def escape (c : Char) : String :=
  match c with
  | '"' => "\\\""
  | '\\' => "\\\\"
  | '\n' => "\\n"
  | '\r' => "\\r"
  | '\t' => "\\t"
  | '\x00' => "\\0"
  | c =>
    if isVisible c then String.singleton c
    else "\\u\x7b" ++ String.ofList (Nat.toDigits 16 c.toNat) ++ "\x7d"

end Quoted

/-- A text in quotes. -/
def quoted (s : String) : String :=
  "\"" ++ String.join (s.toList.map Quoted.escape) ++ "\""

example : quoted "a\"\u0301é" = "\"a\\\"\\u\x7b301\x7dé\"" := by decide +kernel

end FieldGuard
