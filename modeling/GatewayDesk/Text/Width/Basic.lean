import GatewayDesk.Text.Width.Table

/-!
# Widths on a terminal

`Text.width` is the number of columns that a text takes. A character alone takes none, one, two or
three of them, and some characters join with those after them: a text is therefore measured from its
end, and each character meets what the text after it begins with.
-/

namespace GatewayDesk

namespace Text

namespace Width

/-! ## Characters alone -/

/-- Whether a character is a unified ideograph of the first block. -/
def isIdeograph (c : Char) : Bool := 0x4E00 ≤ c.toNat && c.toNat ≤ 0x9FFF

/-- Whether a character is an emoji by itself; flags and skin tones apart. -/
def isEmoji (c : Char) : Bool := RangeTable.holds emojiRanges c.toNat

/-- Whether a character is a skin tone. -/
def isSkinTone (c : Char) : Bool := 0x1F3FB ≤ c.toNat && c.toNat ≤ 0x1F3FF

/-- Whether a character is one half of a flag. -/
def isIndicator (c : Char) : Bool := 0x1F1E6 ≤ c.toNat && c.toNat ≤ 0x1F1FF

/-- The width of a character alone. -/
def ofChar (c : Char) : Nat :=
  let n := c.toNat
  if n ≤ 0xA0 then 1
  else if isIdeograph c then 2
  else if n == 0x17A4 then 2
  else if n == 0x17D8 then 3
  else if RangeTable.holds zeroRanges n then 0
  else if isSkinTone c || RangeTable.holds wideRanges n || isEmoji c then 2
  else 1

/-! ## What a text begins with -/

/-- What a text begins with, as far as it joins with the character before. -/
inductive Link where
  | nothing
  | lineFeed
  /-- An emoji. -/
  | emoji
  | skinTone
  /-- One half of a flag. -/
  | indicator
  /-- Two or more halves of flags. -/
  | indicators
  /-- A joiner and an emoji. -/
  | joinedEmoji
  /-- The mark of a keycap, a joiner and an emoji. -/
  | joinedKeycap
  /-- Halves of flags, a joiner and an emoji: one, an even number, or another odd number. -/
  | joinedIndicator
  | joinedEven
  | joinedOdd
  /-- Tag letters and tag digits, the end of the tags, a joiner and an emoji. -/
  | tags (letters digits : Nat)
  /-- An Arabic alef. -/
  | alef
  /-- A Hebrew lamed. -/
  | lamed (joined : Bool)
  /-- A Khmer letter that may stand below another. -/
  | subscript (joined : Bool)
  /-- A Buginese ya. -/
  | ya (joined : Bool)
  /-- A Buginese vowel sign i before a joined ya. -/
  | vowelYa
  /-- A Tifinagh consonant. -/
  | consonant (joined : Bool)
  /-- A Tifinagh joiner before a consonant. -/
  | joinedConsonant
  /-- A Lisu tone letter that may end a pair. -/
  | tone
  /-- An Old Turkic orkhon i. -/
  | orkhon (joined : Bool)
  /-- Kirat Rai vowel signs. -/
  | vowelE
  | vowelAi
  deriving DecidableEq, Repr

/-- A selector of style that a text begins with. -/
inductive Style where
  | unset
  | emoji
  | text
  /-- That of wide quotation marks. -/
  | wide
  deriving DecidableEq, Repr

/-- What a text begins with. -/
structure Front where
  link : Link
  style : Style
  deriving DecidableEq, Repr

/-- The front of a text that joins with nothing. -/
def Front.plain : Front := ⟨.nothing, .unset⟩

/-- The front of a text with a link and without a selector. -/
def Front.of (link : Link) : Front := ⟨link, .unset⟩

/-- Whether letters join through selectors. -/
def Link.isLetter : Link → Bool
  | .alef => true
  | .lamed _ => true
  | .subscript _ => true
  | .ya _ => true
  | .vowelYa => true
  | .consonant _ => true
  | .joinedConsonant => true
  | .tone => true
  | .orkhon _ => true
  | _ => false

/-- Whether letters join through joiners and marks that are not shown. -/
def Link.isOpen (link : Link) : Bool := link.isLetter && link != .alef

/-- The link after a joiner. -/
def Link.join : Link → Link
  | .lamed _ => .lamed true
  | .subscript _ => .subscript true
  | .ya _ => .ya true
  | .consonant _ => .consonant true
  | .orkhon _ => .orkhon true
  | link => link

/-- The Khmer letters that are never written below another one. -/
def plainKhmer : List Nat :=
  [0x1783, 0x1788, 0x178D, 0x1794, 0x1799, 0x179A, 0x179E, 0x179F, 0x17A1, 0x17A3, 0x17A4, 0x17A5,
    0x17A6, 0x17A8, 0x17A9, 0x17AA, 0x17AD, 0x17AE]

/-- What a character links with that stands alone. -/
def Link.ofChar (c : Char) : Link :=
  let n := c.toNat
  if n == 0x5DC then .lamed false
  else if [0x622, 0x623, 0x625, 0x627, 0x671, 0x672, 0x673, 0x675, 0x773, 0x774].contains n ||
    (0x870 ≤ n && n ≤ 0x882) then .alef
  else if (0x1780 ≤ n && n ≤ 0x17AF) && !plainKhmer.contains n then .subscript true
  else if n == 0x1A10 then .ya false
  else if (0x2D31 ≤ n && n ≤ 0x2D65) || n == 0x2D6F then .consonant false
  else if n == 0xA4FC || n == 0xA4FD then .tone
  else if n == 0x10C03 then .orkhon false
  else if n == 0x16D67 then .vowelE
  else if n == 0x16D68 then .vowelAi
  else if isSkinTone c then .skinTone
  else if isIndicator c then .indicator
  else if isEmoji c then .emoji
  else .nothing

/-- The front of a character alone. -/
def Front.ofChar (c : Char) : Front :=
  if c == '\uFE0F' then ⟨.nothing, .emoji⟩
  else if c == '\uFE0E' then ⟨.nothing, .text⟩
  else if c == '\uFE01' then ⟨.nothing, .wide⟩
  else .of (.ofChar c)

/-! ## Characters before a text -/

/-- Whether a mark is not shown and does not part letters. -/
def isHiddenMark (c : Char) : Bool :=
  let n := c.toNat
  n == 0x34F || n == 0x17B4 || n == 0x17B5 || (0x180B ≤ n && n ≤ 0x180D) || n == 0x180F ||
  (0xFE00 ≤ n && n ≤ 0xFE0F) || (0xE0100 ≤ n && n ≤ 0xE01EF)

/-- Whether a character is an Arabic lam. -/
def isLam (c : Char) : Bool :=
  let n := c.toNat
  n == 0x644 || (0x6B5 ≤ n && n ≤ 0x6B8) || n == 0x76A || n == 0x8A6 || n == 0x8C7

/-- Whether Arabic letters join through a character. -/
def isTransparent (c : Char) : Bool :=
  RangeTable.holds zeroRanges c.toNat && !RangeTable.holds joiningRanges c.toNat

/-- Whether the number is that of a Tifinagh consonant. -/
def isConsonant (n : Nat) : Bool := (0x2D31 ≤ n && n ≤ 0x2D65) || n == 0x2D6F

/-- What a character adds before emoji and flags, and the new front; none if it does not join. -/
def joinEmoji? (link : Link) (c : Char) : Option (Int × Link) :=
  let n := c.toNat
  let isTagLetter := 0xE0061 ≤ n && n ≤ 0xE007A
  let isTagDigit := 0xE0030 ≤ n && n ≤ 0xE0039
  match link with
  | .skinTone =>
    if RangeTable.holds skinRanges n then some (0, .emoji)
    else if n == 0x200D then some (0, .joinedEmoji)
    else none
  | .emoji => if n == 0x200D then some (0, .joinedEmoji) else none
  | .indicator => if isIndicator c then some (1, .indicators) else none
  | .indicators =>
    if isIndicator c then some (1, .indicators)
    else if n == 0x200D then some (0, .joinedEmoji)
    else none
  | .joinedEmoji =>
    if n == 0x20E3 then some (0, .joinedKeycap)
    else if isIndicator c then some (1, .joinedIndicator)
    else if isSkinTone c then some (0, .skinTone)
    else if n == 0xE007F then some (0, .tags 0 0)
    else if isEmoji c then some (0, .emoji)
    else none
  | .joinedIndicator => if isIndicator c then some (-1, .joinedEven) else none
  | .joinedOdd => if isIndicator c then some (-1, .joinedEven) else none
  | .joinedEven =>
    if isIndicator c then some (3, .joinedOdd)
    else if n == 0x200D then some (0, .joinedEmoji)
    else none
  | .tags letters digits =>
    if isTagLetter && digits == 0 && letters < 6 then some (0, .tags (letters + 1) 0)
    else if isTagDigit && letters < 5 && digits < 3 then some (0, .tags letters (digits + 1))
    else if n == 0x1F3F4 && (3 ≤ letters || digits == 3) then some (0, .emoji)
    else none
  | _ => none

/-- What a character adds before letters, and the new front; none if it does not join. -/
def joinLetter? (link : Link) (c : Char) : Option (Int × Link) :=
  let n := c.toNat
  match link with
  | .alef =>
    if isLam c then some (0, .nothing)
    else if isTransparent c then some (0, .alef)
    else none
  | .lamed true => if n == 0x5D0 then some (0, .nothing) else none
  | .subscript _ => if n == 0x17D2 then some (-1, .nothing) else none
  | .ya true => if n == 0x1A17 then some (0, .vowelYa) else none
  | .vowelYa => if n == 0x1A15 then some (0, .nothing) else none
  | .consonant joined =>
    if n == 0x2D7F then some (1, .joinedConsonant)
    else if joined && isConsonant n then some (0, .nothing)
    else none
  | .joinedConsonant => if isConsonant n then some (-1, .nothing) else none
  | .tone => if 0xA4F8 ≤ n && n ≤ 0xA4FB then some (0, .nothing) else none
  | .orkhon true => if n == 0x10C32 then some (0, .nothing) else none
  | .vowelE =>
    if n == 0x16D63 || n == 0x16D69 then some (0, .nothing)
    else if n == 0x16D67 then some (0, .vowelAi)
    else if n == 0x16D68 then some (1, .vowelE)
    else none
  | .vowelAi => if n == 0x16D63 then some (0, .nothing) else none
  | _ => none

/-- What a character of ASCII or a control adds, and the new front. -/
def low (c : Char) (front : Front) : Int × Front :=
  if c == '\n' then (1, .of .lineFeed)
  else if c == '\r' && front == .of .lineFeed then (0, .plain)
  else (1, .plain)

/-- What a character adds before a text without a selector of style, and the new front. -/
def add (c : Char) (link : Link) : Int × Front :=
  if link.isOpen && c == '\u200D' then (0, .of link.join)
  else if link.isOpen && isHiddenMark c then (0, .of link)
  else
    match (joinEmoji? link c).or (joinLetter? link c) with
    | some (w, link) => (w, .of link)
    | none => ((ofChar c : Int), .ofChar c)

/-- What a selector of style adds, and the new front. -/
def select (style : Style) (link : Link) : Int × Front :=
  let kept := link.isLetter ||
    (style == .emoji && (link == .joinedEmoji || link == .joinedKeycap))
  (0, ⟨if kept then link else .nothing, style⟩)

/-- The style that a character selects. -/
def styleOf? (c : Char) : Option Style :=
  if c == '\uFE0F' then some .emoji
  else if c == '\uFE0E' then some .text
  else if c == '\uFE01' then some .wide
  else none

/-- Whether a character is a quotation mark that can be wide. -/
def isQuotationMark (c : Char) : Bool :=
  c == '\u2018' || c == '\u2019' || c == '\u201C' || c == '\u201D'

/-- What a character beyond ASCII adds before a text, and the new front. -/
def high (c : Char) (style : Style) (link : Link) : Int × Front :=
  match styleOf? c with
  | some style => select style link
  | none =>
    if style == .text && RangeTable.holds textStyleRanges c.toNat then (1, .plain)
    else if style == .wide && isQuotationMark c then (2, .plain)
    else add c link

/-- What a character adds before a text, and the front of both together. -/
def step (c : Char) (front : Front) : Int × Front :=
  if front.style == .emoji then
    let joined := front.link == .joinedEmoji || front.link == .joinedKeycap
    let letter := if front.link.isLetter then front.link else .nothing
    if RangeTable.holds styleRanges c.toNat then (if joined then 0 else 2, .of .emoji)
    else if c.toNat ≤ 0xA0 then low c (.of letter)
    else high c .unset letter
  else if c.toNat ≤ 0xA0 then low c front
  else high c front.style front.link

/-- The width of a text, and its front. -/
def measure : List Char → Int × Front
  | [] => (0, .plain)
  | c :: cs =>
    let (w, front) := measure cs
    let (d, front) := step c front
    (w + d, front)

end Width

/-- The number of columns that a text takes. -/
def width (cs : List Char) : Nat := (Width.measure cs).1.toNat

end Text

end GatewayDesk
