import ConverterBuilders.Text.Blank
import ConverterBuilders.Text.Digits
import ConverterBuilders.Text.EscapedRanges

/-!
# Quoted text

A text in double quotes on one line, in which no character is invisible: a quote and a backslash get
a backslash, tab, line feed, carriage return and NUL are named, and every other character without a
visible form of its own is written as its number in hexadecimal digits.
-/

namespace ConverterBuilders.Text

def quoteChar (c : Char) : List Char :=
  match c with
  | '"' => ['\\', '"']
  | '\\' => ['\\', '\\']
  | '\t' => ['\\', 't']
  | '\r' => ['\\', 'r']
  | '\n' => ['\\', 'n']
  | '\x00' => ['\\', '0']
  | _ =>
    if inRanges escapedRanges c then ['\\', 'u', '\x7b'] ++ hexDigits 6 c.toNat ++ ['\x7d'] else [c]

def quote (s : String) : String :=
  String.ofList (['"'] ++ s.toList.flatMap quoteChar ++ ['"'])

end ConverterBuilders.Text
