import ShaperDash.Text.Word

/-!
# Patterns

A filter can demand that a value matches a pattern.  `isPattern` says which texts are patterns: they
are cut into `Token`s, and one pass over the tokens checks groups, sets and repetitions.  Nothing is
ever matched, for no value that a session knows is one that a filter can ask for.
-/

namespace ShaperDash

/-- A piece of a pattern. -/
inductive Token
  /-- A character that may have a meaning of its own. -/
  | bare (c : Char)
  /-- A character that was written as an escape. -/
  | plain (c : Char)
  /-- The beginning or the end of the text. -/
  | place
  deriving DecidableEq, Repr

/-! ### Escapes -/

/-- Letters that spell a control character behind a backslash. -/
def controlLetters : List (Char × Char) :=
  [('a', '\x07'), ('f', '\x0c'), ('t', '\t'), ('n', '\n'), ('r', '\r'), ('v', '\x0b')]

/-- What a backslash and one character stand for. -/
def escapeToken? (c : Char) : Option Token :=
  if c = 'A' || c = 'z' then some .place
  else
    match controlLetters.lookup c with
    | some d => some (.plain d)
    | none =>
      if c.toNat < 0x80 && !c.isAlphanum && c ≠ '<' && c ≠ '>' then some (.plain c) else none

/-- The value of hexadecimal digits. -/
def hexValue? (cs : List Char) : Option Nat :=
  cs.foldlM (fun n c =>
    if c.isDigit then some (n * 16 + (c.toNat - '0'.toNat))
    else if 'a' ≤ c.toLower && c.toLower ≤ 'f' then
      some (n * 16 + (c.toLower.toNat - 'a'.toNat + 10))
    else none) 0

/-- The character with a code point in hexadecimal digits. -/
def codeToken? (cs : List Char) : Option Token :=
  match hexValue? cs with
  | some n => if n.isValidChar then some (.plain (Char.ofNat n)) else none
  | none => none

/-- The tokens of a text, unless an escape has no meaning. -/
def tokens? : List Char → Option (List Token)
  | [] => some []
  | '\\' :: 'x' :: a :: b :: rest => do return (← codeToken? [a, b]) :: (← tokens? rest)
  | '\\' :: 'u' :: a :: b :: c :: d :: rest => do
    return (← codeToken? [a, b, c, d]) :: (← tokens? rest)
  | '\\' :: 'U' :: a :: b :: c :: d :: e :: f :: g :: h :: rest => do
    return (← codeToken? [a, b, c, d, e, f, g, h]) :: (← tokens? rest)
  | '\\' :: c :: rest => do return (← escapeToken? c) :: (← tokens? rest)
  | c :: rest => if c = '\\' then none else do return .bare c :: (← tokens? rest)

/-! ### Checking -/

/-- Where in a pattern the next token stands. -/
inductive PatternPlace
  /-- Outside of sets; there is something before it that can be repeated, or not. -/
  | text (repeatable : Bool)
  /-- Behind the opening bracket of a group. -/
  | group
  /-- Behind the question mark of a group. -/
  | groupKind
  /-- Behind the letter that announces a name. -/
  | announced
  /-- In the name of a group, which is kept in reverse. -/
  | name (read : List Char)
  /-- In the flags of a group, which are kept in reverse. -/
  | flags (read : List Char)
  /-- At the beginning of a set, `depth` sets deep. -/
  | setStart (depth : Nat) (negatable empty : Bool)
  /-- Inside a set. -/
  | setItem (depth : Nat)
  /-- Behind a character of a set, which may be the first half of an operator. -/
  | setNext (depth : Nat) (first : Char) (half : Bool)
  /-- Behind a character and a hyphen. -/
  | setRange (depth : Nat) (first : Char)
  deriving DecidableEq, Repr

/-- How far a pattern has been checked. -/
structure PatternCheck where
  place : PatternPlace
  /-- For the whole pattern and each open group, the innermost first: case does not count there. -/
  caseless : List Bool
  names : List (List Char)
  deriving DecidableEq, Repr

namespace PatternCheck

/-- At the beginning of a pattern. -/
def start : PatternCheck := ⟨.text false, [false], []⟩

/-- Characters must be told apart by case here; patterns that do not are not supported. -/
def cased (p : PatternCheck) : Bool := p.caseless.head? ≠ some true

/-- The same pattern with the next token standing there. -/
def move (p : PatternCheck) (place : PatternPlace) : PatternCheck := { p with place }

/-- Opens a group, in which case counts or not. -/
def openGroup (p : PatternCheck) (caseless : Bool) : PatternCheck :=
  { p with place := .text false, caseless := caseless :: p.caseless }

/-- The flags that a group can set. -/
def flagLetters : List Char := ['i', 'm', 's', 'U', 'u', 'R', 'x']

/-- Flags, in reverse, are well spelled. -/
def goodFlags (read : List Char) : Bool :=
  read.head? ≠ some '-' && read.all (fun c => c = '-' || flagLetters.contains c) &&
    read.eraseDups.length = read.length

/-- Case does not count under these flags, in reverse, where it does or does not outside. -/
def caselessUnder (read : List Char) (outside : Bool) : Bool :=
  if !read.contains 'i' then outside else !((read.dropWhile (· ≠ 'i')).contains '-')

/-- A character of the name of a group. -/
def goodInName (first : Bool) (c : Char) : Bool :=
  c = '_' || (isWordChar c && !(first && c.isDigit)) || (!first && (c = '.' || c = '[' || c = ']'))

/-- A token outside of sets. -/
def stepText (p : PatternCheck) (repeatable : Bool) (t : Token) : Option PatternCheck :=
  let operand := if p.cased then some (p.move (.text true)) else none
  match t with
  | .place => some (p.move (.text true))
  | .plain _ => operand
  | .bare c =>
    if c = '(' then some (p.move .group)
    else if c = ')' then
      match p.caseless with
      | _ :: outer :: more => some { p with place := .text true, caseless := outer :: more }
      | _ => none
    else if c = '[' then if p.cased then some (p.move (.setStart 0 true true)) else none
    else if c = '|' then some (p.move (.text false))
    else if c = '*' || c = '+' || c = '?' then if repeatable then some p else none
    else if c = '.' || c = '^' || c = '$' then some (p.move (.text true))
    else if c = '{' then none
    else operand

/-- A token inside a set. -/
def stepSet (p : PatternCheck) (depth : Nat) (t : Token) : Option PatternCheck :=
  match t with
  | .place => none
  | .plain c => some (p.move (.setNext depth c false))
  | .bare c =>
    if c = '[' then some (p.move (.setStart (depth + 1) true true))
    else if c = ']' then
      some (p.move (if depth = 0 then .text true else .setItem (depth - 1)))
    else some (p.move (.setNext depth c (c = '&' || c = '-' || c = '~')))

/-- One more token of a pattern. -/
def step (p : PatternCheck) (t : Token) : Option PatternCheck :=
  match p.place with
  | .text repeatable => p.stepText repeatable t
  | .group =>
    if t = .bare '?' then some (p.move .groupKind)
    else (p.openGroup (!p.cased)).stepText false t
  | .groupKind =>
    match t with
    | .bare c =>
      if c = 'P' then some (p.move .announced)
      else if c = '<' then some (p.move (.name []))
      else if c = ':' then some (p.openGroup (!p.cased))
      else if c = '-' || flagLetters.contains c then some (p.move (.flags [c]))
      else none
    | _ => none
  | .announced => if t = .bare '<' then some (p.move (.name [])) else none
  | .name read =>
    match t with
    | .bare c =>
      if c = '>' then
        if read.isEmpty || p.names.contains read then none
        else some { p.openGroup (!p.cased) with names := read :: p.names }
      else if goodInName read.isEmpty c then some (p.move (.name (c :: read)))
      else none
    | _ => none
  | .flags read =>
    match t with
    | .bare c =>
      if c = ':' then
        if goodFlags read then some (p.openGroup (caselessUnder read (!p.cased))) else none
      else if c = ')' then
        if goodFlags read then
          some { p with
            place := .text false
            caseless := caselessUnder read (!p.cased) :: p.caseless.tail }
        else none
      else some (p.move (.flags (c :: read)))
    | _ => none
  | .setStart depth negatable empty =>
    if t = .bare '^' && negatable then some (p.move (.setStart depth false true))
    else if t = .bare '-' then some (p.move (.setStart depth false false))
    else if t = .bare ']' && empty then some (p.move (.setItem depth))
    else p.stepSet depth t
  | .setItem depth => p.stepSet depth t
  | .setNext depth first half =>
    if half && t = .bare first then some (p.move (.setItem depth))
    else if t = .bare '-' then some (p.move (.setRange depth first))
    else p.stepSet depth t
  | .setRange depth first =>
    match t with
    | .place => none
    | .plain c => if first ≤ c then some (p.move (.setItem depth)) else none
    | .bare c =>
      if c = ']' then p.stepSet depth t
      else if c = '-' then some (p.move (.setItem depth))
      else if first ≤ c then some (p.move (.setItem depth))
      else none

/-- A pattern may end here. -/
def canEnd (p : PatternCheck) : Bool :=
  match p.place with
  | .text _ => p.caseless.length = 1
  | _ => false

end PatternCheck

/-- The text is a pattern. -/
def isPattern (cs : List Char) : Bool :=
  match (tokens? cs).bind (·.foldlM PatternCheck.step PatternCheck.start) with
  | some p => p.canEnd
  | none => false

end ShaperDash
