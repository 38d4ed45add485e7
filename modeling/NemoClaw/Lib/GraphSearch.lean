import Mathlib.Tactic

/- Search of a graph from a queue of nodes.

The first node of the queue is visited, unless it has been, and its neighbours are put at
the end of the queue. Each round takes one node off the queue, and each node puts its
neighbours there once, so the rounds are bounded.

What is provided: `search`, `reachedFrom` — the search with a number of rounds, and with
enough of them.
-/
namespace GraphSearch

variable {α : Type} [DecidableEq α] (adj : α → List α)

/-- The visited nodes after at most so many rounds. -/
def search : ℕ → List α → List α → List α
  | 0, _, visited => visited
  | _ + 1, [], visited => visited
  | n + 1, x :: queue, visited =>
    if x ∈ visited then search n queue visited
    else search n (queue ++ adj x) (visited ++ [x])

/-- The nodes that are visited from a node of a finite graph. -/
def reachedFrom (nodes : List α) (start : α) : List α :=
  search adj (1 + (nodes.map fun x => (adj x).length).sum) [start] []

end GraphSearch
