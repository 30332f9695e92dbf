import DashQuery.Text.Cluster.Class

/-! # Clusters: what a reader takes for one character

A text falls into clusters.  Whether a character goes with the one before it
depends on the classes of both and on a little of what stands before them, which
`ClusterContext` keeps: whether a conjunct or a sequence of pictographs is under
way, and whether the last regional letter still lacks a partner.

* `flatten_clusters`   the clusters, one after another, are the text
* `ne_nil_of_mem_clusters`   no cluster is empty -/

namespace DashQuery

/-- How far a conjunct of Indic consonants has come. -/
inductive Conjunct where
  | none
  /-- A consonant, and marks that do not break a conjunct. -/
  | opened
  /-- The same with a linking mark among the marks. -/
  | linked
deriving DecidableEq

/-- How far a sequence of pictographs has come. -/
inductive PictographRun where
  | none
  /-- A pictograph and its marks. -/
  | opened
  /-- The same with a joiner right behind. -/
  | joined
deriving DecidableEq

/-- What the rules know of the text before a character. -/
structure ClusterContext where
  last : ClusterClass
  conjunct : Conjunct
  pictographs : PictographRun
  /-- The last character is a regional letter without a partner. -/
  unpaired : Bool
deriving DecidableEq

namespace ClusterClass

/-- Whether the character stands by itself. -/
def isBreaker (c : ClusterClass) : Bool := c == carriageReturn || c == lineFeed || c == control

/-- Whether the character extends whatever is before it. -/
def isExtender (c : ClusterClass) : Bool :=
  c == mark || c == linker || c == joiner || c == nonJoiner

/-- Whether `a` and `b` are neighbours in a Korean syllable. -/
def inSyllable : ClusterClass → ClusterClass → Bool
  | leading, leading => true
  | leading, vowel => true
  | leading, openSyllable => true
  | leading, closedSyllable => true
  | openSyllable, vowel => true
  | openSyllable, trailing => true
  | vowel, vowel => true
  | vowel, trailing => true
  | closedSyllable, trailing => true
  | trailing, trailing => true
  | _, _ => false

/-- A conjunct after one more character. -/
def stepConjunct (before : Conjunct) : ClusterClass → Conjunct
  | consonant => .opened
  | linker => if before = .none then .none else .linked
  | mark => before
  | joiner => before
  | _ => .none

/-- A sequence of pictographs after one more character. -/
def stepPictographs (before : PictographRun) (c : ClusterClass) : PictographRun :=
  if c = pictograph then .opened
  else if before = .opened ∧ c = joiner then .joined
  else if before = .opened ∧ c.isExtender then .opened
  else .none

end ClusterClass

namespace ClusterContext

/-- The start of a text. -/
def start : ClusterContext := ⟨.control, .none, .none, false⟩

/-- Whether a character goes with the one before it. -/
def joins (x : ClusterContext) (c : ClusterClass) : Bool :=
  if x.last = .carriageReturn ∧ c = .lineFeed then true
  else if x.last.isBreaker || c.isBreaker then false
  else x.last.inSyllable c || c.isExtender || c == .spacingMark || x.last == .prepended ||
    (c == .consonant && x.conjunct == .linked) ||
    (c == .pictograph && x.pictographs == .joined) ||
    (c == .regional && x.unpaired)

/-- What is known behind the character. -/
def step (x : ClusterContext) (c : ClusterClass) : ClusterContext where
  last := c
  conjunct := c.stepConjunct x.conjunct
  pictographs := c.stepPictographs x.pictographs
  unpaired := c == .regional && !x.unpaired

end ClusterContext

/-- The clusters of `cs`, where `current` holds the characters, newest first, of the cluster that
they may go on with. -/
def clustersFrom (x : ClusterContext) (current : List Char) : List Char → List (List Char)
  | [] => [current.reverse]
  | c :: cs =>
    let kind := ClusterClass.ofChar c
    if x.joins kind then clustersFrom (x.step kind) (c :: current) cs
    else current.reverse :: clustersFrom (x.step kind) [c] cs

/-- The clusters of a text. -/
def clusters : List Char → List (List Char)
  | [] => []
  | c :: cs => clustersFrom (ClusterContext.start.step (ClusterClass.ofChar c)) [c] cs

/-! ## Nothing is lost -/

/-- The clusters one behind the other are what was read. -/
theorem flatten_clustersFrom (x : ClusterContext) (current cs : List Char) :
    (clustersFrom x current cs).flatten = current.reverse ++ cs := by
  induction cs generalizing x current with
  | nil => simp [clustersFrom]
  | cons c cs ih =>
    simp only [clustersFrom]
    split
    · rw [ih, List.reverse_cons, List.append_assoc, List.singleton_append]
    · rw [List.flatten_cons, ih, List.reverse_singleton, List.singleton_append]

/-- The clusters, one after another, are the text. -/
theorem flatten_clusters (cs : List Char) : (clusters cs).flatten = cs := by
  cases cs with
  | nil => rfl
  | cons c cs =>
    rw [clusters, flatten_clustersFrom, List.reverse_singleton, List.singleton_append]

/-- No cluster is empty. -/
theorem ne_nil_of_mem_clustersFrom {x : ClusterContext} {current cs cluster : List Char}
    (hcurrent : current ≠ []) (h : cluster ∈ clustersFrom x current cs) : cluster ≠ [] := by
  induction cs generalizing x current with
  | nil =>
    rw [clustersFrom, List.mem_singleton] at h
    rw [h]
    simpa using hcurrent
  | cons c cs ih =>
    simp only [clustersFrom] at h
    split at h
    · exact ih (List.cons_ne_nil c current) h
    · rcases List.mem_cons.mp h with rfl | h
      · simpa using hcurrent
      · exact ih (List.cons_ne_nil c []) h

/-- No cluster is empty. -/
theorem ne_nil_of_mem_clusters {cs cluster : List Char} (h : cluster ∈ clusters cs) :
    cluster ≠ [] := by
  cases cs with
  | nil => simp [clusters] at h
  | cons c cs => exact ne_nil_of_mem_clustersFrom (List.cons_ne_nil c []) h

end DashQuery
