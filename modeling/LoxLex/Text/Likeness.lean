import LoxLex.Number.Binary64

/-!
# How alike two words are

Two characters match when they are equal and their places in the two words differ by less than half the
longer word. The likeness of the words is the mean of three shares: how much of the first word matches, how
much of the second does, and how many of the matches come in the same order in both. Shares and mean are
double precision numbers, so that words which are alike to almost the same degree are told apart in one way.
-/

namespace LoxLex
namespace Likeness

/-- The places in `b` that the characters of `a` match, in the order of `a`. Each character takes the first
place within reach that is not taken yet. -/
def places (a b : List Char) : List Nat :=
  let reach := max a.length b.length / 2 - 1
  a.zipIdx.foldl (fun taken (c, i) =>
    let free j := i ≤ j + reach && j ≤ i + reach && b[j]? = some c && !taken.contains j
    taken ++ ((List.range b.length).find? free).toList) []

def swaps (b : List Char) (places : List Nat) : Nat :=
  let inOrder := (List.range b.length).filter places.contains
  (places.zip inOrder).countP (fun (i, j) => b[i]? ≠ b[j]?) / 2

def ofWords (a b : List Char) : Binary64 :=
  let found := places a b
  let same := found.length - swaps b found
  if found.isEmpty then .ofRatio 0 1
  else
    let shares := (Binary64.ofRatio found.length a.length).sumOver (.ofRatio found.length b.length) 1
    (shares.sumOver (.ofRatio same found.length) 1).sumOver (.ofRatio 0 1) 3

/-- Of the words that are more than seven tenths alike to `word`, the one most alike, and of several such
the last. -/
def closest? (word : String) (words : List String) : Option String :=
  let better (best : Option (String × Binary64)) (w : String) :=
    let l := ofWords word.toList w.toList
    let least := best.elim ((Binary64.ofRatio 7 10).magnitude + 1) (·.2.magnitude)
    if least ≤ l.magnitude then some (w, l) else best
  (words.foldl better none).map (·.1)

end Likeness
end LoxLex
