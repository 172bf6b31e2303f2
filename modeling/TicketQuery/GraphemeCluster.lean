import TicketQuery.GraphemeBreak

/-! # Extended grapheme clusters

A text falls apart into clusters, each of them what a reader takes for one character. Clusters are
never empty, joined they give back the text, and a control stands alone in one. -/
namespace TicketQuery

/-- Whether two neighbours belong together whatever stands before them. -/
def GraphemeBreak.joins (before after : GraphemeBreak) : Bool :=
  match after with
  | carriageReturn | control => false
  | lineFeed => before == carriageReturn
  | extender | joiner | spacingMark => !before.isControl
  | vowel =>
    before == precedingMark || before == leading || before == vowel || before == openSyllable
  | trailing =>
    before == precedingMark || before == vowel || before == trailing || before == openSyllable ||
      before == closedSyllable
  | leading | openSyllable | closedSyllable => before == precedingMark || before == leading
  | precedingMark | regionalIndicator | pictograph | consonant | other => before == precedingMark

/-- Whether the character that follows the marks at the front of a list is of a class. -/
def followsMarks (isMark : Char → Bool) (g : GraphemeBreak) (cs : List Char) : Bool :=
  (cs.dropWhile isMark).head?.any fun c => GraphemeBreak.ofChar c == g

/-- Whether a cluster, given from its end, goes on with a character of a class because of more than
its last character: a consonant goes on a conjunct, a pictograph follows a pictograph with a joiner
behind it, and a flag has two halves. -/
def joinsCluster (cluster : List Char) (after : GraphemeBreak) : Bool :=
  match after with
  | .consonant =>
    (cluster.takeWhile isConjunctMark).any isLinker &&
      followsMarks isConjunctMark .consonant cluster
  | .pictograph =>
    match cluster with
    | [] => false
    | c :: cs =>
      GraphemeBreak.ofChar c == .joiner &&
        followsMarks (fun b => GraphemeBreak.ofChar b == .extender) .pictograph cs
  | .regionalIndicator =>
    (cluster.takeWhile fun b => GraphemeBreak.ofChar b == .regionalIndicator).length % 2 == 1
  | _ => false

/-- Whether a cluster, given from its end, goes on with a character. -/
def goesOn (cluster : List Char) (c : Char) : Bool :=
  (cluster.head?.any fun b => (GraphemeBreak.ofChar b).joins (GraphemeBreak.ofChar c)) ||
    joinsCluster cluster (GraphemeBreak.ofChar c)

/-- The clusters of a text, of which the first has begun and is given from its end. -/
def clustersFrom (cluster : List Char) : List Char → List (List Char)
  | [] => [cluster.reverse]
  | c :: cs =>
    if goesOn cluster c then clustersFrom (c :: cluster) cs
    else cluster.reverse :: clustersFrom [c] cs

def graphemeClusters : List Char → List (List Char)
  | [] => []
  | c :: cs => clustersFrom [c] cs

theorem flatten_clustersFrom (cluster cs : List Char) :
    (clustersFrom cluster cs).flatten = cluster.reverse ++ cs := by
  induction cs generalizing cluster with
  | nil => simp [clustersFrom]
  | cons c cs ih =>
    rw [clustersFrom]
    split <;> simp [ih]

@[simp] theorem flatten_graphemeClusters (cs : List Char) : (graphemeClusters cs).flatten = cs := by
  cases cs with
  | nil => rfl
  | cons c cs => simp [graphemeClusters, flatten_clustersFrom]

end TicketQuery
