import CodeGraph.Engine
import CodeGraph.Proofs.Cache.Answers
import CodeGraph.Proofs.Query.Reference

/-!
# Runs of an engine

An engine works on a graph that others change, while time passes.  An `Ask` is a request in one of
the six ways that there are.  An `Operation` is one thing that happens: a request is made, a saved
query comes or goes, the cache is tended, the graph becomes another, or time goes on.

A request and a warm-up come with the `Runner` that runs their queries.  It may fail at any time,
since the graph cannot be read or the time is used up; it serves a graph if what it answers is what
the graph gives (`Runner.Serves`).  A `Run` is any sequence of operations from one `World` to
another in which the runners serve the graph as it is.

`Effect` says what any operation can do to a world.  From it follow the facts that all operations
share: the settings stay, only some operations change the graph or let time pass, and the cache
stays in order (`sound_of_run`).
-/

namespace CodeGraph

namespace Query

section

variable [Library] {g : Snapshot} {text : String} {params : Params} {budget : Option Budget}
  {r : Answer}

/-! ### Running a query -/

theorem exists_plan_of_run (h : run g text params budget = .ok r) :
    ∃ plan, parse text params = .ok plan ∧ execute g plan budget = .ok r := by
  rw [run] at h
  cases hPlan : parse text params with
  | error e => rw [hPlan] at h; cases h
  | ok plan => rw [hPlan] at h; exact ⟨plan, rfl, h⟩

theorem run_eq_of_plan {plan : Plan Value} (h : parse text params = .ok plan) :
    run g text params budget = execute g plan budget := by
  rw [run, h]
  rfl

theorem execute_eq_of_ok {plan : Plan Value} (h : execute g plan budget = .ok r) :
    execute g plan none = .ok r ∧ r.cached = false ∧ r.queryTime = 0 := by
  have hNone : execute g plan none = .ok r := by
    rcases budget with _ | _ | nanos
    · exact h
    · cases h
    · exact h
  obtain ⟨_, _, _, _, _, _, _, _, rfl⟩ := execute_ok hNone
  exact ⟨hNone, rfl, rfl⟩

/-- A budget decides whether a query has an answer, not which. -/
theorem run_none_of_run (h : run g text params budget = .ok r) :
    run g text params none = .ok { r with queryTime := 0 } ∧ r.cached = false := by
  obtain ⟨plan, hPlan, hExecute⟩ := exists_plan_of_run h
  obtain ⟨hNone, hCached, hTime⟩ := execute_eq_of_ok hExecute
  rw [run_eq_of_plan hPlan, hNone, ← hTime]
  exact ⟨rfl, hCached⟩

end

end Query

namespace Engine

open Query (Budget Params)

/-! ### Requests -/

/-- A request in one of the ways that there are. -/
inductive Ask where
  | execute (text : String) (params : Params)
  | executeInContext (text : String) (params : Params) (context : String)
  | executeWithin (text : String) (params : Params) (budget : Budget)
  | executeSaved (id : String) (overrides : Params) (date : Timestamp)
  | rows (text : String) (params : Params)
  | explain (text : String) (params : Params)

def failure? {α : Type} : Except QueryError α → Option QueryError
  | .ok _ => none
  | .error error => some error

theorem failure?_eq_some_iff {α : Type} {reply : Except QueryError α} {error : QueryError} :
    failure? reply = some error ↔ reply = .error error := by
  cases reply <;> simp [failure?]

def failed {α : Type} (reply : Except QueryError α × Engine) : Option QueryError × Engine :=
  (failure? reply.1, reply.2)

namespace Ask

/-- The error that a request fails with, if it does, and what becomes of the engine. -/
def outcome (run : Runner) (e : Engine) (now : Nat) : Ask → Option QueryError × Engine
  | execute text params => failed (e.executeBy run now text params)
  | executeInContext text params context =>
    failed (e.answerBy run now text params context e.defaultBudget)
  | executeWithin text params budget =>
    failed (e.answerBy run now text params emptyContext (some budget))
  | executeSaved id overrides date => failed (e.executeSavedBy run ⟨now, date⟩ id overrides)
  | rows text params => failed (e.rowsBy run now text params)
  | explain text params => failed (Engine.explain text params, e)

def reply (run : Runner) (e : Engine) (now : Nat) : Ask → Option (Except QueryError Answer)
  | execute text params => some (e.executeBy run now text params).1
  | executeInContext text params context =>
    some (e.answerBy run now text params context e.defaultBudget).1
  | executeWithin text params budget =>
    some (e.answerBy run now text params emptyContext (some budget)).1
  | executeSaved id overrides date => some (e.executeSavedBy run ⟨now, date⟩ id overrides).1
  | _ => none

def asked (e : Engine) : Ask → Option (String × Params)
  | execute text params => some (text, params)
  | executeInContext text params _ => some (text, params)
  | executeWithin text params _ => some (text, params)
  | executeSaved id overrides date => (e.saved.use id overrides date).1.toOption
  | _ => none

def lookup? (e : Engine) : Ask → Option Lookup
  | execute text params => some (.of text params emptyContext)
  | executeInContext text params context => some (.of text params context)
  | executeWithin text params _ => some (.of text params emptyContext)
  | executeSaved id overrides date =>
    (e.saved.use id overrides date).1.toOption.map fun (text, params) =>
      .of text params emptyContext
  | rows text params => some (.of text params emptyContext)
  | explain _ _ => none

def savedAfter (e : Engine) : Ask → Registry
  | executeSaved id overrides date => (e.saved.use id overrides date).2
  | _ => e.saved

end Ask

/-- An engine with the graph it is asked about and the time. -/
structure World where
  engine : Engine
  graph : Snapshot
  now : Nat

def World.opened (settings : Settings) (saved : Registry) (graph : Snapshot) (now : Nat) : World :=
  ⟨⟨settings, .empty, saved⟩, graph, now⟩

inductive Operation where
  | ask (run : Runner) (request : Ask)
  | saveQuery (q : SavedQuery)
  | deleteSaved (id : String)
  | invalidate (paths : Option (List String))
  | cleanUp
  | warmUp (run : Runner)
  | close
  | change (graph : Snapshot)
  | advance (millis : Nat)

namespace Operation

def apply (w : World) : Operation → World
  | ask run request => { w with engine := (request.outcome run w.engine w.now).2 }
  | saveQuery q => { w with engine := w.engine.saveQuery q }
  | deleteSaved id => { w with engine := (w.engine.deleteSaved id).2 }
  | invalidate paths => { w with engine := (w.engine.invalidate paths).2 }
  | cleanUp => { w with engine := (w.engine.cleanUp w.now).2 }
  | warmUp run =>
    let done := w.engine.warmUpBy run w.now
    { w with engine := done.2.2, now := done.2.1 }
  | close => { w with engine := w.engine.close }
  | change graph => { w with graph }
  | advance millis => { w with now := w.now + millis }

def reply (w : World) : Operation → Option (Except QueryError Answer)
  | ask run request => request.reply run w.engine w.now
  | _ => none

def asked (w : World) : Operation → Option (String × Params)
  | ask _ request => request.asked w.engine
  | _ => none

def runner? : Operation → Option Runner
  | ask run _ => some run
  | warmUp run => some run
  | _ => none

/-- After the operation no answer is left. -/
def Forgets : Operation → Prop
  | invalidate none => True
  | close => True
  | _ => False

def Changes : Operation → Prop
  | change _ => True
  | _ => False

end Operation

/-- What the runner answers is what the graph gives, but for the time that it took. -/
def Runner.Serves [Query.Library] (run : Runner) (g : Snapshot) : Prop :=
  ∀ text params budget r, run text params budget = .ok r →
    Query.run g text params none = .ok { r with queryTime := 0 } ∧ r.cached = false

theorem serves_run [Query.Library] (g : Snapshot) : Runner.Serves (Query.run g) g :=
  fun _ _ _ _ h => Query.run_none_of_run h

def Operation.Serves [Query.Library] (op : Operation) (g : Snapshot) : Prop :=
  ∀ run ∈ op.runner?, Runner.Serves run g

/-- The worlds that operations lead to from a world. -/
inductive Run [Query.Library] : World → List Operation → World → Prop
  | refl (w : World) : Run w [] w
  | step {w m : World} {ops : List Operation} (before : Run w ops m) (op : Operation)
      (hServes : op.Serves m.graph) : Run w (ops ++ [op]) (op.apply m)
  | arrange {w m : World} {ops : List Operation} (before : Run w ops m)
      {entries : List (String × Entry)} {candidates : List (String × List Request)}
      (hEntries : entries.Perm m.engine.cache.entries)
      (hCandidates : candidates.Perm m.engine.cache.candidates) :
      Run w ops { m with engine :=
        { m.engine with cache := { m.engine.cache with entries, candidates } } }

/-! ### What an operation does -/

/-- What an engine can be asked. -/
structure Question where
  text : String
  params : Params
  context : String
  budget : Option Budget

namespace Question

def lookup (q : Question) : Lookup := .of q.text q.params q.context

def answerBy (q : Question) (e : Engine) (run : Runner) (now : Nat) :
    Except QueryError Answer × Engine :=
  e.answerBy run now q.text q.params q.context q.budget

/-- **A question is answered from the cache, or it is run** and its answer is stored if it has
one. -/
theorem answerBy_cases (q : Question) (e : Engine) (run : Runner) (now : Nat) :
    (∃ found, (e.cache.get e.settings.cache now q.lookup).1 = some found ∧
      q.answerBy e run now = (.ok { found with queryTime := 0 },
        { e with cache := (e.cache.get e.settings.cache now q.lookup).2 })) ∨
    (e.cache.get e.settings.cache now q.lookup).1 = none ∧
      ((∃ result, run q.text q.params q.budget = .ok result ∧
        q.answerBy e run now = (.ok result, { e with cache :=
          (e.cache.get e.settings.cache now q.lookup).2.set e.settings.cache now q.lookup result })) ∨
      ∃ error, run q.text q.params q.budget = .error error ∧ q.answerBy e run now =
        (.error error, { e with cache := (e.cache.get e.settings.cache now q.lookup).2 })) := by
  rw [answerBy, Engine.answerBy, ← lookup]
  rcases hGet : e.cache.get e.settings.cache now q.lookup with ⟨found, cache⟩
  cases found with
  | some found => exact Or.inl ⟨found, rfl, rfl⟩
  | none =>
    cases hRun : run q.text q.params q.budget with
    | ok result => exact Or.inr ⟨rfl, Or.inl ⟨result, rfl, rfl⟩⟩
    | error error => exact Or.inr ⟨rfl, Or.inr ⟨error, rfl, rfl⟩⟩

end Question

variable {e : Engine} {now : Nat}

theorem answerBy_frame (q : Question) (e : Engine) (run : Runner) (now : Nat) :
    (q.answerBy e run now).2.settings = e.settings ∧ (q.answerBy e run now).2.saved = e.saved := by
  rcases q.answerBy_cases e run now with
    ⟨found, _, hAnswer⟩ | ⟨_, ⟨result, _, hAnswer⟩ | ⟨error, _, hAnswer⟩⟩ <;>
    exact hAnswer ▸ ⟨rfl, rfl⟩

theorem sound_answerBy (h : Cache.Sound e.settings.cache now e.cache) (q : Question)
    (run : Runner) :
    Cache.Sound (q.answerBy e run now).2.settings.cache now (q.answerBy e run now).2.cache := by
  have hGet := (Cache.Change.get e.cache q.lookup).sound h
  rcases q.answerBy_cases e run now with
    ⟨found, _, hAnswer⟩ | ⟨_, ⟨result, _, hAnswer⟩ | ⟨error, _, hAnswer⟩⟩
  · rw [hAnswer]
    exact hGet
  · rw [hAnswer]
    exact hGet.set q.lookup result
  · rw [hAnswer]
    exact hGet

/-- **What a request does**: it fails before the cache is asked, or it asks a question, or it makes
rows of the answer to one. -/
theorem Ask.outcome_cases (run : Runner) (e : Engine) (now : Nat) (ask : Ask) :
    (ask.outcome run e now).2 = { e with saved := ask.savedAfter e } ∨
    (∃ q : Question, ask.lookup? e = some q.lookup ∧ ask.outcome run e now =
      failed (q.answerBy { e with saved := ask.savedAfter e } run now)) ∨
    ∃ text params plan result, ask = .rows text params ∧ Query.parse text params = .ok plan ∧
      (e.executeBy run now text params).1 = .ok result ∧ ask.outcome run e now =
        failed (Query.rows plan result.nodes, (e.executeBy run now text params).2) := by
  cases ask with
  | execute text params =>
    exact Or.inr (Or.inl ⟨⟨text, params, emptyContext, e.defaultBudget⟩, rfl, rfl⟩)
  | executeInContext text params context =>
    exact Or.inr (Or.inl ⟨⟨text, params, context, e.defaultBudget⟩, rfl, rfl⟩)
  | executeWithin text params budget =>
    exact Or.inr (Or.inl ⟨⟨text, params, emptyContext, some budget⟩, rfl, rfl⟩)
  | executeSaved id overrides date =>
    rw [outcome, executeSavedBy, lookup?, savedAfter]
    rcases e.saved.use id overrides date with ⟨⟨error⟩ | ⟨text, params⟩, saved⟩
    · exact Or.inl rfl
    · exact Or.inr (Or.inl ⟨⟨text, params, emptyContext, e.defaultBudget⟩, rfl, rfl⟩)
  | rows text params =>
    rw [outcome, rowsBy]
    cases hPlan : Query.parse text params with
    | error error => exact Or.inl rfl
    | ok plan =>
      rcases hExecute : e.executeBy run now text params with ⟨⟨error⟩ | ⟨result⟩, after⟩
      · refine Or.inr (Or.inl ⟨⟨text, params, emptyContext, e.defaultBudget⟩, rfl, ?_⟩)
        exact congrArg failed hExecute.symm
      · exact Or.inr (Or.inr ⟨text, params, plan, result, rfl, hPlan, by rw [hExecute],
          by rw [hExecute]⟩)
  | explain text params => exact Or.inl rfl

/-- What an operation does to a world. -/
inductive Effect (w : World) (op : Operation) : World → Prop
  /-- A question is asked; of a saved query the use was recorded before. -/
  | ask (saved : Registry) {run : Runner} (hRun : op.runner? = some run) (q : Question) :
      Effect w op { w with engine := (q.answerBy { w.engine with saved } run w.now).2 }
  /-- The cache is left alone. -/
  | leave (saved : Registry) (graph : Snapshot) (millis : Nat) :
      Effect w op ⟨{ w.engine with saved }, graph, w.now + millis⟩
  /-- Entries are taken out. -/
  | tend {cache : Cache}
      (h : Cache.Change w.engine.settings.cache w.now w.engine.cache cache) :
      Effect w op { w with engine := { w.engine with cache } }
  | warmUp {run : Runner} (hRun : op.runner? = some run) :
      Effect w op ((Operation.warmUp run).apply w)

theorem effect_apply (w : World) (op : Operation) : Effect w op (op.apply w) := by
  cases op with
  | ask run request =>
    rw [Operation.apply]
    rcases request.outcome_cases run w.engine w.now with
      hSame | ⟨q, _, hAnswer⟩ | ⟨text, params, _, _, _, _, _, hRows⟩
    · rw [hSame]
      exact .leave _ w.graph 0
    · rw [hAnswer]
      exact .ask _ rfl q
    · rw [hRows]
      exact .ask w.engine.saved rfl ⟨text, params, emptyContext, w.engine.defaultBudget⟩
  | saveQuery q => exact .leave _ w.graph 0
  | deleteSaved id => exact .leave _ w.graph 0
  | invalidate paths => exact .tend (.invalidate w.engine.cache paths)
  | cleanUp => exact .tend (.cleanUp w.engine.cache)
  | warmUp run => exact .warmUp rfl
  | close => exact .tend (.clear rfl rfl rfl)
  | change graph => exact .leave w.engine.saved graph 0
  | advance millis => exact .leave w.engine.saved w.graph millis

/-! ### What all operations share -/

variable {w m : World} {op : Operation} {ops : List Operation}

theorem settings_of_effect (h : Effect w op m) : m.engine.settings = w.engine.settings := by
  cases h with
  | ask saved hRun q => exact (answerBy_frame q { w.engine with saved } _ w.now).1
  | leave | tend | warmUp => rfl

theorem sound_of_effect (h : Effect w op m)
    (hSound : Cache.Sound w.engine.settings.cache w.now w.engine.cache) :
    Cache.Sound m.engine.settings.cache m.now m.engine.cache := by
  cases h with
  | ask saved hRun q => exact sound_answerBy (e := { w.engine with saved }) hSound q _
  | leave saved graph millis => exact hSound.mono (Nat.le_add_right _ _)
  | tend hChange => exact hChange.sound hSound
  | warmUp => exact hSound.warmUp _

theorem graph_apply (h : ¬op.Changes) : (op.apply w).graph = w.graph := by
  cases op with
  | change graph => exact absurd trivial h
  | _ => rfl

theorem entries_apply_of_forgets (h : op.Forgets) : (op.apply w).engine.cache.entries = [] := by
  cases op with
  | invalidate paths =>
    cases paths with
    | none => rfl
    | some paths => exact h.elim
  | close => rfl
  | _ => exact h.elim

/-! ### What all runs share -/

section

variable [Query.Library]

theorem settings_of_run (h : Run w ops m) : m.engine.settings = w.engine.settings := by
  induction h with
  | refl => rfl
  | step before op _ ih => rw [settings_of_effect (effect_apply _ op), ih]
  | arrange before _ _ ih => exact ih

/-- **A run keeps the cache in order.** -/
theorem sound_of_run (h : Run w ops m)
    (hSound : Cache.Sound w.engine.settings.cache w.now w.engine.cache) :
    Cache.Sound m.engine.settings.cache m.now m.engine.cache := by
  induction h with
  | refl => exact hSound
  | step before op _ ih => exact sound_of_effect (effect_apply _ op) ih
  | arrange before hEntries _ ih => exact ih.same hEntries rfl rfl

theorem graph_of_run (h : Run w ops m) (hOps : ∀ op ∈ ops, ¬op.Changes) : m.graph = w.graph := by
  induction h with
  | refl => rfl
  | step before op _ ih =>
    rw [graph_apply (hOps op (List.mem_append_right _ (List.mem_singleton.2 rfl)))]
    exact ih fun op' hop' => hOps op' (List.mem_append_left _ hop')
  | arrange before _ _ ih => exact ih hOps

end

end Engine

end CodeGraph
