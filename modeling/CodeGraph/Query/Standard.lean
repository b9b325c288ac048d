import CodeGraph.Query.Library
import CodeGraph.Regex.Reader
import CodeGraph.Regex.Search

/-! # The standard library of queries

What queries are run with unless something else is given.
-/

namespace CodeGraph.Query

instance Library.standard : Library where
  search? text := (Regex.ofText? text).map Regex.isMatch
  sort? cmp nodes := some (insertionSort cmp nodes)
  sort_perm h := Option.some.inj h ▸ insertionSort_perm _ _
  sort_stable h := ⟨_, rfl, stablySorts_insertionSort h⟩

end CodeGraph.Query
