import StateMetrics.Text.Combining
import StateMetrics.Text.Ranges
import StateMetrics.Text.Unprintable

/-!
# Quoted text

A text in double quotes, with everything escaped that a reader could not tell apart otherwise:
quotes, backslashes, line ends, characters without a glyph and characters that join the one before
them.
-/

namespace StateMetrics.Text

/-- Whether a character is shown by its code point in quoted text. -/
def isShownByCode (c : Char) : Bool :=
  if c.toNat < 0x7F then c.toNat < 0x20
  else inRanges combiningRanges c.toNat || inRanges unprintableRanges c.toNat

/-- A character inside quotes. -/
def quotedChar (c : Char) : List Char :=
  if c.toNat = 0 then ['\\', '0']
  else if c = '\t' then ['\\', 't']
  else if c = '\r' then ['\\', 'r']
  else if c = '\n' then ['\\', 'n']
  else if c = '\\' then ['\\', '\\']
  else if c = '"' then ['\\', '"']
  else if isShownByCode c then
    '\\' :: 'u' :: '\x7b' :: (Nat.toDigits 16 c.toNat ++ ['\x7d'])
  else [c]

/-- A text in quotes. -/
def quoted (text : String) : String :=
  String.ofList ('"' :: (text.toList.flatMap quotedChar ++ ['"']))

end StateMetrics.Text
