import GatewayDesk.Text.Normal.Basic
import GatewayDesk.Url.Domain.JoiningTable

/-!
# Joiners in labels

Two characters without a shape say whether letters join: U+200D joins them and U+200C parts them.
They may stand where they are seen: after a mark that suppresses a vowel, and U+200C also between
two letters of a cursive script that would join without it.
-/

namespace GatewayDesk

namespace Domain

/-- Whether a character suppresses the vowel of the letter before it. -/
def isVowelKiller (c : Char) : Bool := Text.Normal.rank c == 9

/-- Whether letters join through a character. -/
def isTransparent (c : Char) : Bool := RangeTable.holds joinsThroughRanges c.toNat

/-- Whether a letter joins with the next one. -/
def joinsOn (c : Char) : Bool :=
  RangeTable.holds joinsOnRanges c.toNat || RangeTable.holds joinsBothRanges c.toNat

/-- Whether a letter joins with the one before. -/
def joinsBack (c : Char) : Bool :=
  RangeTable.holds joinsBackRanges c.toNat || RangeTable.holds joinsBothRanges c.toNat

/-- Whether a character may stand after some others, the last one first, and before the rest of a
label. -/
def mayStandBetween (before : List Char) (c : Char) (after : List Char) : Bool :=
  if c == '\u200C' then
    before.head?.any isVowelKiller ||
      ((before.dropWhile isTransparent).head?.any joinsOn &&
        (after.dropWhile isTransparent).head?.any joinsBack)
  else if c == '\u200D' then before.head?.any isVowelKiller
  else true

/-- Whether the joiners in the rest of a label are seen, after some characters, the last one
first. -/
def joinsProperly (before : List Char) : List Char → Bool
  | [] => true
  | c :: after => mayStandBetween before c after && joinsProperly (c :: before) after

end Domain

end GatewayDesk
