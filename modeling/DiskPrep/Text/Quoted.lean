import DiskPrep.Text.Unprintable

/-!
A text between double quotes on one line, as diagnostics cite the piece of a
report that could not be read. Quote, backslash and the usual controls have a
two-character form; any other character that would not show is written by code
point.
-/
namespace DiskPrep.Text

def hexadecimal (n : Nat) : Text := Nat.toDigits 16 n

def quotedChar (c : Char) : Text :=
  match c with
  | '\x00' => ['\\', '0']
  | '\t' => ['\\', 't']
  | '\r' => ['\\', 'r']
  | '\n' => ['\\', 'n']
  | '"' => ['\\', '"']
  | '\\' => ['\\', '\\']
  | c =>
    if isUnprintable c then "\\u".toList ++ '\x7b' :: hexadecimal c.toNat ++ ['\x7d']
    else [c]

def quoted (t : Text) : Text :=
  '"' :: t.flatMap quotedChar ++ ['"']

example : quoted "5\tGB\"".toList = "\"5\\tGB\\\"\"".toList := by decide +kernel

end DiskPrep.Text
