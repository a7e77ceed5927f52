import SessionStreams.Text.Unprintable
import SessionStreams.Text.Utf8

set_option autoImplicit false

/- Quoted text for listings: double quotes around it, backslash escapes for quotes, backslashes,
controls and unprintable characters, and two hexadecimal digits for each malformed byte of a path.
-/

namespace SessionStreams.Text

def hexDigits (value : Nat) : String := String.ofList (Nat.toDigits 16 value)

def escapeChar (c : Char) : String :=
  match c with
  | '\x00' => "\\0"
  | '\t' => "\\t"
  | '\r' => "\\r"
  | '\n' => "\\n"
  | '\\' => "\\\\"
  | '"' => "\\\""
  | _ =>
      if unprintable c.toNat then "\\u\x7b" ++ hexDigits c.toNat ++ "\x7d"
      else String.singleton c

/-- A malformed byte, as two upper case hexadecimal digits. -/
def escapeByte (byte : UInt8) : String :=
  let digits := (hexDigits byte.toNat).toUpper
  "\\x" ++ (if byte.toNat < 0x10 then "0" ++ digits else digits)

def escapePiece : Piece → String
  | .char c => escapeChar c
  | .stray bytes => String.join (bytes.map escapeByte)

def quoted (text : String) : String :=
  "\"" ++ String.join (text.toList.map escapeChar) ++ "\""

def quotedBytes (bytes : Bytes) : String :=
  "\"" ++ String.join ((pieces bytes).map escapePiece) ++ "\""

end SessionStreams.Text
