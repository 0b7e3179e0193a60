import ShaperDash.Text.Joining

/-!
# Clusters

`clusters` cuts a text into clusters, the pieces that a reader sees as one character each: a letter
with its marks, a syllable, tied consonants, a flag, a pictograph built from several.
`flatten_clusters` says that nothing is lost.
-/

namespace ShaperDash

/-- What a cluster is being built from, where its last character alone does not tell. -/
inductive Chain
  | none
  /-- A pictograph with nothing but extending marks behind it. -/
  | pictograph
  /-- Such a pictograph and then a joiner. -/
  | joinedPictograph
  /-- A consonant with nothing but extending marks and joiners behind it. -/
  | consonant
  /-- Such a consonant with a mark behind it that ties the next one. -/
  | tiedConsonant
  /-- A regional indicator without a partner. -/
  | halfFlag
  deriving DecidableEq, Repr

/-- The chain after one more character. -/
def Chain.push : Chain → Joining → Chain
  | _, .pictograph => pictograph
  | _, .consonant => consonant
  | halfFlag, .regionalIndicator => none
  | _, .regionalIndicator => halfFlag
  | pictograph, .extending => pictograph
  | pictograph, .linker => pictograph
  | pictograph, .nonJoiner => pictograph
  | pictograph, .zeroWidthJoiner => joinedPictograph
  | consonant, .extending => consonant
  | consonant, .zeroWidthJoiner => consonant
  | consonant, .linker => tiedConsonant
  | tiedConsonant, .extending => tiedConsonant
  | tiedConsonant, .zeroWidthJoiner => tiedConsonant
  | tiedConsonant, .linker => tiedConsonant
  | _, _ => none

/-- What of a cluster decides whether the next character joins it. -/
structure ClusterEnd where
  last : Joining
  chain : Chain
  deriving DecidableEq, Repr

namespace ClusterEnd

/-- The end that nothing joins. -/
def start : ClusterEnd := ⟨.control, .none⟩

/-- A character of this class belongs to the cluster. -/
def joins (e : ClusterEnd) (next : Joining) : Bool :=
  match e.last, next with
  | .carriageReturn, .lineFeed => true
  | .carriageReturn, _ => false
  | .lineFeed, _ => false
  | .control, _ => false
  | _, .carriageReturn => false
  | _, .lineFeed => false
  | _, .control => false
  | _, .extending => true
  | _, .linker => true
  | _, .nonJoiner => true
  | _, .zeroWidthJoiner => true
  | _, .spacingMark => true
  | .prepended, _ => true
  | .leadingJamo, .leadingJamo => true
  | .leadingJamo, .vowelJamo => true
  | .leadingJamo, .openSyllable => true
  | .leadingJamo, .closedSyllable => true
  | .openSyllable, .vowelJamo => true
  | .openSyllable, .trailingJamo => true
  | .vowelJamo, .vowelJamo => true
  | .vowelJamo, .trailingJamo => true
  | .closedSyllable, .trailingJamo => true
  | .trailingJamo, .trailingJamo => true
  | _, .pictograph => e.chain = .joinedPictograph
  | _, .consonant => e.chain = .tiedConsonant
  | _, .regionalIndicator => e.chain = .halfFlag
  | _, _ => false

/-- The end after one more character. -/
def push (e : ClusterEnd) (next : Joining) : ClusterEnd := ⟨next, e.chain.push next⟩

end ClusterEnd

/-- The rest of the cluster that ends in `e`, and the clusters after it. -/
def clustersAfter (e : ClusterEnd) : List Char → List Char × List (List Char)
  | [] => ([], [])
  | c :: cs =>
    let (tail, rest) := clustersAfter (e.push (joining c)) cs
    if e.joins (joining c) then (c :: tail, rest) else ([], (c :: tail) :: rest)

/-- The clusters of a text. -/
def clusters (cs : List Char) : List (List Char) := (clustersAfter .start cs).2

theorem clustersAfter_append_flatten (e : ClusterEnd) (cs : List Char) :
    (clustersAfter e cs).1 ++ (clustersAfter e cs).2.flatten = cs := by
  induction cs generalizing e with
  | nil => rfl
  | cons c cs ih =>
    have h := ih (e.push (joining c))
    simp only [clustersAfter]
    split <;> simp [h]

theorem ClusterEnd.start_joins (j : Joining) : ClusterEnd.start.joins j = false := by
  cases j <;> rfl

/-- The clusters of a text, one after the other, are the text. -/
theorem flatten_clusters (cs : List Char) : (clusters cs).flatten = cs := by
  have h := clustersAfter_append_flatten .start cs
  cases cs with
  | nil => rfl
  | cons c cs => simpa [clusters, clustersAfter, ClusterEnd.start_joins] using h

end ShaperDash
