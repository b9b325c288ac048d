import CodeGraph.Cache.Basic

/-! # Warm-up

A warm-up runs the requests behind the candidates that the cache holds no answer for, and stores
what they give. Between two runs it waits.
-/

namespace CodeGraph.Cache

open Query (Params)

/-- The context that a warm-up stores answers under. -/
def warmUpContext : String := "\x7b\x7d"

def warmUpLookup (r : Request) : Lookup := .of r.query r.params warmUpContext

/-- The requests of a candidate: those that were seen, and queries of its pattern that none of them
asks. -/
def warmUpRequests (candidate : String × List Request) : List Request :=
  let queries := (Mask.expand candidate.1).filter fun q => candidate.2.all (·.query != q)
  candidate.2 ++ queries.eraseDups.map (⟨·, ∅⟩)

/-- A warm-up under way. -/
structure WarmUp where
  cache : Cache
  now : Nat
  /-- The requests that were run. -/
  calls : List Request
  /-- How many of them gave an answer. -/
  warmed : Nat

variable {ε : Type}

/-- Runs one request, unless there is an answer to it. -/
def WarmUp.step (settings : CacheSettings) (execute : Request → Except ε Answer) (w : WarmUp)
    (r : Request) : WarmUp :=
  if w.cache.contains settings w.now (warmUpLookup r) then w
  else
    let now := if w.calls.isEmpty then w.now else w.now + settings.warmUpDelayMillis
    let calls := w.calls ++ [r]
    match execute r with
    | .ok answer =>
      { cache := w.cache.set settings now (warmUpLookup r) answer, now, calls,
        warmed := w.warmed + 1 }
    | .error _ => { w with now, calls }

/-- Runs the requests of all candidates, which are candidates no more. -/
def warmUp (settings : CacheSettings) (execute : Request → Except ε Answer) (cache : Cache)
    (now : Nat) : WarmUp :=
  (cache.candidates.flatMap warmUpRequests).foldl (WarmUp.step settings execute)
    ⟨{ cache with candidates := [] }, now, [], 0⟩

end CodeGraph.Cache
