/-
  ConsoleLab.Text.Cluster — the characters that a reader sees.

  A text falls into clusters: a character together with the marks that combine with it.
  Clusters follow the boundary rules of Unicode's extended grapheme clusters: a carriage
  return stays with a newline, controls stand alone, Hangul syllables, linked consonants,
  emoji sequences and pairs of regional indicators stay together, and extending or spacing
  marks stay with what stands before them. Nothing is lost (`flatten_clusters`).
-/

import ConsoleLab.Text.ClusterClass

namespace ConsoleLab.Text

/-- How far a cluster is on the way from one consonant to the next. -/
inductive Conjunct
  /-- It does not end in a consonant and marks. -/
  | none
  /-- It ends in a consonant and marks, none of them a linker. -/
  | bare
  /-- It ends in a consonant and marks, a linker among them. -/
  | linked
  deriving DecidableEq

def Conjunct.next (j : Conjunct) : ClusterClass → Conjunct
  | .consonant => .bare
  | .linker => if j = .none then .none else .linked
  | .extend | .joiner => j
  | _ => .none

structure ClusterState where
  last : ClusterClass
  /-- It ends in a pictograph and marks, and then perhaps one joiner. -/
  pictographic : Bool
  /-- The number of regional indicators right before is odd. -/
  oddRegional : Bool
  conjunct : Conjunct

namespace ClusterState

def start (k : ClusterClass) : ClusterState :=
  ⟨k, k == .pictograph, k == .regional, Conjunct.none.next k⟩

def joins (s : ClusterState) (k : ClusterClass) : Bool :=
  match s.last, k with
  | .carriageReturn, .newline => true
  | .carriageReturn, _ | .newline, _ | .control, _ => false
  | _, .carriageReturn | _, .newline | _, .control => false
  | _, .extend | _, .linker | _, .nonJoiner | _, .joiner | _, .spacing => true
  | .prepend, _ => true
  | .leadJamo, .leadJamo | .leadJamo, .vowelJamo => true
  | .leadJamo, .openSyllable | .leadJamo, .closedSyllable => true
  | .openSyllable, .vowelJamo | .vowelJamo, .vowelJamo => true
  | .openSyllable, .tailJamo | .vowelJamo, .tailJamo => true
  | .closedSyllable, .tailJamo | .tailJamo, .tailJamo => true
  | _, .consonant => s.conjunct == .linked
  | .joiner, .pictograph => s.pictographic
  | .regional, .regional => s.oddRegional
  | _, _ => false

def next (s : ClusterState) (k : ClusterClass) : ClusterState :=
  { last := k
    pictographic :=
      k == .pictograph || (s.pictographic && s.last != .joiner && k.isExtending)
    oddRegional := k == .regional && !s.oddRegional
    conjunct := s.conjunct.next k }

end ClusterState

/-- The clusters of a text, where `held` are the characters of the cluster being read, the
    last one first. -/
def clustersFrom (held : List Char) (state : ClusterState) : List Char → List (List Char)
  | [] => [held.reverse]
  | c :: rest =>
    let k := ClusterClass.of c
    if state.joins k then clustersFrom (c :: held) (state.next k) rest
    else held.reverse :: clustersFrom [c] (.start k) rest

def clusters : List Char → List (List Char)
  | [] => []
  | c :: rest => clustersFrom [c] (.start (.of c)) rest

theorem flatten_clustersFrom (held : List Char) (state : ClusterState) (cs : List Char) :
    (clustersFrom held state cs).flatten = held.reverse ++ cs := by
  induction cs generalizing held state with
  | nil => simp [clustersFrom]
  | cons c rest ih =>
    simp only [clustersFrom]
    split <;> simp [ih]

/-- The clusters of a text make up the text. -/
theorem flatten_clusters (cs : List Char) : (clusters cs).flatten = cs := by
  cases cs with
  | nil => rfl
  | cons c rest => simp [clusters, flatten_clustersFrom]

end ConsoleLab.Text
