import Keywarden.Text.Unprintable

/-!
# Quoted text

The form in which messages show a text or a character that they complain about:
in quotation marks, with escapes for what cannot be shown.
-/

namespace Keywarden.Text

def codeNumber (char : Char) : String :=
  String.ofList (Nat.toDigits 16 char.toNat)

def quoteChar (mark : Char) (char : Char) : String :=
  if char = '\x00' then "\\0"
  else if char = '\t' then "\\t"
  else if char = '\r' then "\\r"
  else if char = '\n' then "\\n"
  else if char = '\\' then "\\\\"
  else if char = mark then String.ofList ['\\', mark]
  else if isUnprintable char then "\\u\x7b" ++ codeNumber char ++ "\x7d"
  else String.singleton char

def quoted (text : String) : String :=
  "\"" ++ String.join (text.toList.map (quoteChar '"')) ++ "\""

def quotedChar (char : Char) : String :=
  "'" ++ quoteChar '\'' char ++ "'"

end Keywarden.Text
