/-! The first item of each group of items that count as the same. -/

namespace ExecutableUml

/-- The items of the list that are not the same as one in `seen` or one before them. -/
def distinctFrom {α : Type} (same : α → α → Bool) (seen : List α) : List α → List α
  | [] => []
  | a :: as =>
    if seen.any fun b => same b a then distinctFrom same seen as
    else a :: distinctFrom same (a :: seen) as

def distinct {α : Type} (same : α → α → Bool) (l : List α) : List α := distinctFrom same [] l

end ExecutableUml
