import ShaperDash.Log.Event
import ShaperDash.Log.Pattern

/-!
# Which events are written

A filter is a list of directives, separated by commas.  A directive is a level, or a target, or a
target and what is asked for in brackets behind it, `target[span{field}]`, with a level behind
an equals sign.  An event obeys the directive with the longest target that its own target begins
with, of those the one that asks for a field, and passes if the directive's level reaches it.  A
filter that cannot be read is replaced by the usual one.
-/

namespace ShaperDash

/-- Asks for a field, with a value or with any. -/
structure FieldDemand where
  name : String
  value : Option String
  deriving DecidableEq, Repr

/-- Lets events pass up to a rank, none at rank zero; only those of a target, inside a span or with
a field, if it asks for one. -/
structure Directive where
  target : Option String
  span : Option String
  field : Option FieldDemand
  rank : Nat
  deriving DecidableEq, Repr

namespace FieldDemand

/-- Whether an event meets the demand.  Values are known of spans only, so no event has the value
that a demand names. -/
def isMetBy (d : FieldDemand) (e : LogEvent) : Bool := d.value.isNone && e.fields.contains d.name

/-- A number as a value can be spelled: digits, perhaps with a point and an exponent, or one of the
words for infinity and no number, behind a sign or none. -/
def isNumber (cs : List Char) : Bool :=
  let unsigned := if cs.head? = some '+' || cs.head? = some '-' then cs.tail else cs
  let afterWhole := unsigned.dropWhile Char.isDigit
  let afterPoint := if afterWhole.head? = some '.' then afterWhole.tail else afterWhole
  let exponent := afterPoint.dropWhile Char.isDigit
  let hasDigits := (unsigned.takeWhile Char.isDigit ++ afterPoint.takeWhile Char.isDigit) ≠ []
  let goodExponent :=
    match exponent with
    | [] => true
    | e :: rest =>
      let digits := if rest.head? = some '+' || rest.head? = some '-' then rest.tail else rest
      e.toLower = 'e' && !digits.isEmpty && digits.all Char.isDigit
  hasDigits && goodExponent ||
    ["inf", "infinity", "nan"].contains (String.ofList (unsigned.map Char.toLower))

/-- Reads a demand: a name, perhaps with a number or a pattern behind an equals sign. -/
def parse? (cs : List Char) : Option FieldDemand :=
  let name := String.ofList (cs.takeWhile (· ≠ '='))
  match cs.dropWhile (· ≠ '=') with
  | [] => some ⟨name, none⟩
  | _ :: rest =>
    let value := rest.takeWhile (· ≠ '=')
    if isNumber value || isPattern value then some ⟨name, some (String.ofList value)⟩ else none

end FieldDemand

namespace Directive

/-- The directive speaks about this event.  No event of a session lies inside a span. -/
def appliesTo (d : Directive) (e : LogEvent) : Bool :=
  d.target.all (fun t => t.toList.isPrefixOf e.target.toList) && d.span.isNone &&
    d.field.all (·.isMetBy e)

/-- The length of the target; a directive without one counts less than any with one. -/
def reach (d : Directive) : Nat :=
  match d.target with
  | none => 0
  | some t => t.utf8ByteSize + 1

/-- The first directive yields to the second if both speak about an event: a longer target goes
first, then any field before none, then the field whose name is later in the alphabet.  If they
are alike, the second goes first. -/
def yieldsTo (d e : Directive) : Bool :=
  if d.reach ≠ e.reach then d.reach < e.reach
  else
    match d.field, e.field with
    | none, _ => true
    | some _, none => false
    | some f, some g => f.name ≤ g.name

/-- The words for ranks. -/
def rankWords : List (String × Nat) :=
  [("off", 0), ("error", 1), ("warn", 2), ("info", 3), ("debug", 4), ("trace", 5)]

/-- The number that a string of digits spells, perhaps behind a plus sign. -/
def number? (cs : List Char) : Option Nat :=
  let digits := if cs.head? = some '+' then cs.tail else cs
  if digits.isEmpty || digits.any (!·.isDigit) then none
  else some (digits.foldl (fun n c => n * 10 + (c.toNat - '0'.toNat)) 0)

/-- The rank that a word or a number names. -/
def rank? (cs : List Char) : Option Nat :=
  match number? cs with
  | some n => if n ≤ 5 then some n else none
  | none => rankWords.lookup (String.ofList (cs.map Char.toLower))

/-- The characters of a text without the blanks at both ends. -/
def trimmed (cs : List Char) : List Char :=
  ((cs.dropWhile isSpacing).reverse.dropWhile isSpacing).reverse

/-- A directive may begin with this character. -/
def canBegin (c : Char) : Bool :=
  c = '-' || c = ':' || c = '_' || isWordChar c

/-- What of a directive is being read, and where it began. -/
inductive Part
  | start
  | name
  | span (first : Nat)
  | field (first : Nat)
  /-- Behind a field. -/
  | fieldEnd
  /-- Behind the brackets. -/
  | bracketEnd
  | level (first : Nat)
  deriving DecidableEq, Repr

/-- A directive as far as it has been read. -/
structure Draft where
  part : Part
  target : Option String
  span : Option String
  field : Option FieldDemand
  deriving DecidableEq, Repr

/-- The directive before anything has been read. -/
def Draft.blank : Draft := ⟨.start, none, none, none⟩

/-- The characters of a text from one place to another. -/
def slice (cs : List Char) (first last : Nat) : List Char := (cs.take last).drop first

/-- Reads the character at place `i` of a directive that is written in the text `cs`. -/
def Draft.step (d : Draft) (cs : List Char) (c : Char) (i : Nat) : Option Draft :=
  match d.part with
  | .start =>
    if c = '[' then some { d with part := .span (i + 1) }
    else if canBegin c then some { d with part := .name }
    else none
  | .name =>
    let target := some (String.ofList (cs.take i))
    if c = '=' then some { d with target, part := .level (i + 1) }
    else if c = '[' then some { d with target, part := .span (i + 1) }
    else some d
  | .span first =>
    let span := slice cs first i
    if c = ']' then some { d with span := some (String.ofList span), part := .bracketEnd }
    else if c = '{' then
      some { d with
        span := if span.isEmpty then none else some (String.ofList span)
        part := .field (i + 1) }
    else some d
  | .field first =>
    if c = '}' then
      let field := slice cs first i
      if field.isEmpty then none
      else (FieldDemand.parse? field).map fun f => { d with field := some f, part := .fieldEnd }
    else some d
  | .fieldEnd => if c = ']' then some { d with part := .bracketEnd } else none
  | .bracketEnd => if c = '=' then some { d with part := .level (i + 1) } else none
  | .level _ => some d

/-- The directive that has been read, if the text `cs` can end there.  What stands alone is a level
if it can be one, and a directive without a level lets everything pass. -/
def Draft.finish (d : Draft) (cs : List Char) : Option Directive :=
  match d.part with
  | .name =>
    match rank? cs with
    | some n => some ⟨none, none, none, n⟩
    | none => some ⟨some (String.ofList cs), none, none, Level.trace.rank⟩
  | .bracketEnd => some ⟨d.target, d.span, d.field, Level.trace.rank⟩
  | .level first =>
    match cs.drop first with
    | [] => some ⟨d.target, d.span, d.field, Level.trace.rank⟩
    | level => (rank? level).map fun n => ⟨d.target, d.span, d.field, n⟩
  | _ => none

/-- Reads a directive.  Blanks around it are passed over when its parts are told apart but counted
when they are cut out, so that only a directive without blanks before it is read as it was meant. -/
def parse? (cs : List Char) : Option Directive :=
  let draft? := (trimmed cs).zipIdx.foldlM (fun d (c, i) => d.step cs c i) Draft.blank
  draft?.bind (·.finish cs)

end Directive

/-- Directives; of those that go equally far the later one holds. -/
abbrev Filter := List Directive

namespace Filter

/-- The filter that holds when none is given, or none that can be read. -/
def usual : Filter := [⟨some "qosview", none, none, Level.info.rank⟩]

/-- The filter that a text spells, if there is a text. -/
def ofText? : Option String → Filter
  | none => usual
  | some s =>
    let parts := (s.toList.splitOn ',').filter (!·.isEmpty)
    (parts.mapM Directive.parse?).getD usual

/-- The directive that an event obeys: of those that speak about it the one that yields to none. -/
def directive? (f : Filter) (e : LogEvent) : Option Directive :=
  (f.filter (·.appliesTo e)).foldl (fun best d =>
    match best with
    | none => some d
    | some b => if b.yieldsTo d then some d else some b) none

/-- The event is written. -/
def passes (f : Filter) (e : LogEvent) : Bool :=
  match f.directive? e with
  | none => false
  | some d => e.level.rank ≤ d.rank

end Filter

end ShaperDash
