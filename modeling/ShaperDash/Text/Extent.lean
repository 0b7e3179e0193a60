import ShaperDash.Text.Columns
import ShaperDash.Text.Emoji

/-!
# Columns of a text

A text takes fewer columns than its characters on their own, or more, where characters are drawn as
one: a selector makes an emoji of a character, a joiner or a skin tone makes one emoji of two, and a
Khmer letter is stacked under the one before it.  What is drawn as one is told from the end, so the
text is measured from its end to its beginning and `Ahead` keeps what decides about the next
character.  `textColumns_singleton` says that a character alone takes its own columns.
-/

namespace ShaperDash

/-- What the text behind a character begins with. -/
inductive Ahead
  | plain
  | lineFeed
  /-- The selector that makes an emoji of the character before it. -/
  | emojiSelector
  /-- The selector that makes text of the character before it. -/
  | textSelector
  | emoji
  | skinTone
  /-- A joiner with an emoji behind it. -/
  | joined
  /-- The emoji selector, a joiner and an emoji. -/
  | joinedSelector
  /-- So many tag letters that end a flag, a joiner and an emoji. -/
  | tagLetters (count : Nat)
  /-- So many tag digits before such letters. -/
  | tagDigits (count : Nat)
  /-- A Khmer letter that can be stacked. -/
  | khmerLetter
  deriving DecidableEq, Repr

/-! ### Characters that do not stand alone -/

/-- Khmer letters that the sign before them stacks under another letter. -/
def khmerLetterRanges : List (Nat × Nat) :=
  [(0x1780, 0x1782), (0x1784, 0x1787), (0x1789, 0x178C), (0x178E, 0x1793), (0x1795, 0x1798),
   (0x179B, 0x179D), (0x17A0, 0x17A0), (0x17A2, 0x17A2), (0x17A7, 0x17A7), (0x17AB, 0x17AC),
   (0x17AF, 0x17AF)]

/-- Ignorable characters that may stand between a letter and what is stacked under it. -/
def transparentRanges : List (Nat × Nat) :=
  [(0x34F, 0x34F), (0x17B4, 0x17B5), (0x180B, 0x180D), (0x180F, 0x180F), (0x200D, 0x200D),
   (0xFE00, 0xFE0F), (0xE0100, 0xE01EF)]

/-- The sign that stacks the Khmer letter behind it. -/
def isStackingSign (c : Char) : Bool := c.toNat = 0x17D2

def isJoiner (c : Char) : Bool := c.toNat = 0x200D

def isEmojiSelector (c : Char) : Bool := c.toNat = 0xFE0F

def isTextSelector (c : Char) : Bool := c.toNat = 0xFE0E

/-- The flag on which tags spell a region. -/
def isTaggedFlag (c : Char) : Bool := c.toNat = 0x1F3F4

def isTagLetter (c : Char) : Bool := 0xE0061 ≤ c.toNat && c.toNat ≤ 0xE007A

def isTagDigit (c : Char) : Bool := 0xE0030 ≤ c.toNat && c.toNat ≤ 0xE0039

/-- The character that ends tags. -/
def isTagEnd (c : Char) : Bool := c.toNat = 0xE007F

namespace Ahead

/-- A character with a text behind it that has no part in how it is drawn. -/
def ofChar (c : Char) : Ahead :=
  if c = '\n' then .lineFeed
  else if isEmojiSelector c then .emojiSelector
  else if isTextSelector c then .textSelector
  else if isSkinTone c then .skinTone
  else if isEmoji c then .emoji
  else if inRanges khmerLetterRanges c.toNat then .khmerLetter
  else .plain

/-- What the text begins with once the character is put before it, if the two are drawn as one that
takes no more columns than the text alone. -/
def absorb? (a : Ahead) (c : Char) : Option Ahead :=
  match a with
  | lineFeed => if c = '\r' then some plain else none
  | emoji => if isJoiner c then some joined else none
  | skinTone =>
    if takesSkinTone c then some emoji
    else if isJoiner c then some joined
    else none
  | joined =>
    if isSkinTone c then some skinTone
    else if isEmoji c then some emoji
    else if isEmojiSelector c then some joinedSelector
    else if isTagEnd c then some (tagLetters 0)
    else none
  | joinedSelector => if hasEmojiForm c then some emoji else none
  | tagLetters n =>
    if isTagLetter c && n < 6 then some (tagLetters (n + 1))
    else if isTagDigit c && n < 5 then some (tagDigits 1)
    else if isTaggedFlag c && 3 ≤ n then some emoji
    else none
  | tagDigits n =>
    if isTagDigit c && n < 3 then some (tagDigits (n + 1))
    else if isTaggedFlag c && n = 3 then some emoji
    else none
  | khmerLetter => if inRanges transparentRanges c.toNat then some khmerLetter else none
  | _ => none

end Ahead

/-! ### Measuring -/

/-- A text as far as it has been measured, from the end: its columns and what it begins with. -/
structure Extent where
  columns : Nat
  ahead : Ahead
  deriving DecidableEq, Repr

namespace Extent

/-- The text without characters. -/
def empty : Extent := ⟨0, .plain⟩

/-- The text with one more character before it. -/
def cons (c : Char) (e : Extent) : Extent :=
  match e.ahead.absorb? c with
  | some ahead => ⟨e.columns, ahead⟩
  | none =>
    if e.ahead = .emojiSelector ∧ hasEmojiForm c then ⟨e.columns + 2, .emoji⟩
    else if e.ahead = .textSelector ∧ hasTextForm c then ⟨e.columns + 1, .plain⟩
    else if e.ahead = .khmerLetter ∧ isStackingSign c then ⟨e.columns - 1, .plain⟩
    else ⟨e.columns + ShaperDash.columns c, .ofChar c⟩

/-- The measure of a text. -/
def ofText (cs : List Char) : Extent := cs.foldr cons empty

end Extent

/-- The columns that a text takes. -/
def textColumns (cs : List Char) : Nat := (Extent.ofText cs).columns

/-- A character alone takes its own columns. -/
theorem textColumns_singleton (c : Char) : textColumns [c] = columns c := by
  simp [textColumns, Extent.ofText, Extent.cons, Extent.empty, Ahead.absorb?]

end ShaperDash
