import PackedNumbers.Text.GraphemeBase

/-!
Text between double quotes, with what cannot be seen spelled out.
-/
namespace PackedNumbers.Text

/-- Whether a character is written as it is: a letter or sign that is seen by itself, or the plain
space. -/
def isVisible (char : Char) : Bool :=
  char == ' ' || isSoundLetter char ||
    isGraphemeBase char && !isSpaceSeparator char && !isFiller char

def hexEscape (char : Char) : List Char :=
  '\\' :: 'u' :: '\x7b' :: (Nat.toDigits 16 char.toNat ++ ['\x7d'])

def escape (char : Char) : List Char :=
  if char = '"' ∨ char = '\\' then ['\\', char]
  else if char = '\t' then ['\\', 't']
  else if char = '\n' then ['\\', 'n']
  else if char = '\r' then ['\\', 'r']
  else if char = '\x00' then ['\\', '0']
  else if isVisible char then [char]
  else hexEscape char

def quoted (text : String) : String := .ofList ('"' :: (text.toList.flatMap escape ++ ['"']))

end PackedNumbers.Text
