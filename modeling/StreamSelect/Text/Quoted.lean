import StreamSelect.Unicode.Character

/-! Text between double quotes. What has no visible form of its own is written as an escape: the
usual short ones, otherwise the code point in hexadecimal. -/
namespace StreamSelect.Text

/-- Characters with a visible form of their own; of the separators only the space. -/
def isPrintable (c : Char) : Bool :=
  if c.val < 0x7F then 0x20 ≤ c.val else !Unicode.unseen.contains c

def hexDigits (n : Nat) : String := String.ofList (Nat.toDigits 16 n)

def quotedChar (c : Char) : String :=
  if c = '"' then "\\\""
  else if c = '\\' then "\\\\"
  else if c = '\t' then "\\t"
  else if c = '\r' then "\\r"
  else if c = '\n' then "\\n"
  else if c.val = 0 then "\\0"
  else if isPrintable c then c.toString
  else "\\u\x7b" ++ hexDigits c.toNat ++ "\x7d"

def quoted (text : String) : String := "\"" ++ String.join (text.toList.map quotedChar) ++ "\""

end StreamSelect.Text
