import CircuitHub.Text.Basic
import CircuitHub.Text.Table.Cluster

/-!
# Clusters of characters

A text is drawn cluster by cluster: what a reader takes for one character may be a letter with its
marks, a syllable, a flag or a picture joined from several. Between which characters a cluster may
not end is the rule of Unicode for extended grapheme clusters.

* `clusters_flatten`: the clusters of a text make up the text.
-/

namespace CircuitHub

/-- The kinds of characters that the rule tells apart. -/
inductive ClusterKind where
  | carriageReturn
  | lineFeed
  | control
  | extend
  | joiner
  | regional
  | prepend
  | spacingMark
  /-- An initial of a Hangul syllable. -/
  | initial
  /-- A vowel of a Hangul syllable. -/
  | vowel
  /-- A final of a Hangul syllable. -/
  | final
  /-- A Hangul syllable without a final. -/
  | openSyllable
  /-- A Hangul syllable with a final. -/
  | closedSyllable
  | pictographic
  | other
  deriving DecidableEq, Repr

/-- The kind of a Hangul character. -/
def hangulKind? (n : Nat) : Option ClusterKind :=
  if (0x1100 ≤ n && n ≤ 0x115F) || (0xA960 ≤ n && n ≤ 0xA97C) then some .initial
  else if (0x1160 ≤ n && n ≤ 0x11A7) || (0xD7B0 ≤ n && n ≤ 0xD7C6) then some .vowel
  else if (0x11A8 ≤ n && n ≤ 0x11FF) || (0xD7CB ≤ n && n ≤ 0xD7FB) then some .final
  else if 0xAC00 ≤ n && n ≤ 0xD7A3 then
    some (if (n - 0xAC00) % 28 = 0 then .openSyllable else .closedSyllable)
  else none

/-- The kind of a character. -/
def clusterKind (c : Char) : ClusterKind :=
  let n := c.toNat
  if c = '\r' then .carriageReturn
  else if c = '\n' then .lineFeed
  else if 0x20 ≤ n && n < 0x7F then .other
  else if Table.clusterControl.mem c then .control
  else if n = 0x200D then .joiner
  else if Table.clusterExtend.mem c then .extend
  else if Table.clusterSpacingMark.mem c then .spacingMark
  else if Table.clusterPrepend.mem c then .prepend
  else if 0x1F1E6 ≤ n && n ≤ 0x1F1FF then .regional
  else if Table.pictographic.mem c then .pictographic
  else (hangulKind? n).getD .other

/-- What is known of a cluster when its next character is looked at. -/
structure ClusterState where
  /-- The kind of its last character. -/
  last : ClusterKind
  /-- It ends in a picture and marks upon it. -/
  inPicture : Bool
  /-- It ends in a picture, marks upon it and a joiner. -/
  pictureJoined : Bool
  /-- It ends in an odd number of halves of flags. -/
  oddFlags : Bool
  /-- It ends in a consonant and marks upon it. -/
  inConjunct : Bool
  /-- There is a linker among these marks. -/
  linked : Bool

/-- The state after the first character of a cluster, or after one more if the state before is
    known. -/
def ClusterState.step (state? : Option ClusterState) (c : Char) : ClusterState :=
  let kind := clusterKind c
  let marks := kind = .extend || kind = .joiner
  let before (f : ClusterState → Bool) : Bool := (state?.map f).getD false
  let consonant := Table.conjunctConsonant.mem c
  { last := kind
    inPicture := kind = .pictographic || (kind = .extend && before (·.inPicture))
    pictureJoined := kind = .joiner && before (·.inPicture)
    oddFlags := kind = .regional && !before (·.oddFlags)
    inConjunct := consonant || (marks && before (·.inConjunct))
    linked := !consonant && marks && before (·.inConjunct) &&
      (before (·.linked) || Table.conjunctLinker.mem c) }

/-- The character belongs to the cluster that the state describes. -/
def ClusterState.joins (state : ClusterState) (c : Char) : Bool :=
  let kind := clusterKind c
  match state.last, kind with
  | .carriageReturn, .lineFeed => true
  | .carriageReturn, _ | .lineFeed, _ | .control, _ => false
  | _, .carriageReturn | _, .lineFeed | _, .control => false
  | .initial, .initial | .initial, .vowel | .initial, .openSyllable => true
  | .initial, .closedSyllable => true
  | .openSyllable, .vowel | .vowel, .vowel | .openSyllable, .final | .vowel, .final => true
  | .closedSyllable, .final | .final, .final => true
  | _, .extend | _, .joiner | _, .spacingMark => true
  | .prepend, _ => true
  | .joiner, .pictographic => state.pictureJoined
  | .regional, .regional => state.oddFlags
  | _, _ => state.linked && Table.conjunctConsonant.mem c

/-- The clusters of a text that goes on a cluster in a known state. The first of them is what the
    text adds to that cluster. -/
def clustersAfter (state : ClusterState) : Text → Text × List Text
  | [] => ([], [])
  | c :: t =>
    if state.joins c then
      let (more, clusters) := clustersAfter (.step (some state) c) t
      (c :: more, clusters)
    else
      let (more, clusters) := clustersAfter (.step none c) t
      ([], (c :: more) :: clusters)

/-- The clusters of a text. -/
def Text.clusters : Text → List Text
  | [] => []
  | c :: t =>
    let (more, clusters) := clustersAfter (.step none c) t
    (c :: more) :: clusters

theorem clustersAfter_flatten (state : ClusterState) (t : Text) :
    (clustersAfter state t).1 ++ (clustersAfter state t).2.flatten = t := by
  induction t generalizing state with
  | nil => rfl
  | cons c t ih =>
    unfold clustersAfter
    split
    · simpa using ih _
    · simpa using ih _

/-- The clusters of a text make up the text. -/
theorem clusters_flatten (t : Text) : t.clusters.flatten = t := by
  cases t with
  | nil => rfl
  | cons c t => simpa [Text.clusters] using clustersAfter_flatten (.step none c) t

end CircuitHub
