import CodeGraph.Proofs.Engine.Runs

/-!
# What cached answers are worth

Every entry of the cache was produced: at some moment of the run the graph gave its answer to its
request, and since then nothing made the engine forget (`sourced_of_run`).  An answer from the cache
is the answer of such an entry.  The entry has the request that was asked: one with another request
can only stand under the key of this one where the two clash, and then one of the two queries has no
plan (`request_eq_of_answers`).

So a cached answer is the answer that the graph gave at a moment that is not longer ago than answers
live (`cached_answer_was_fresh`).
-/

namespace CodeGraph

namespace Query

theorem parse_ofText {text : String} {params : Params} {plan : Plan Value} :
    parse (NormalForm.ofText text) params = .ok plan ↔ parse text params = .ok plan :=
  ⟨parse_of_tokens (NormalForm.tokens_ofText text).symm,
    parse_of_tokens (NormalForm.tokens_ofText text)⟩

/-- A text and its normal form give the same answers. -/
theorem run_ofText [Library] {g : Snapshot} {text : String} {params : Params}
    {budget : Option Budget} {r : Answer} :
    run g (NormalForm.ofText text) params budget = .ok r ↔ run g text params budget = .ok r := by
  constructor
  · intro h
    obtain ⟨plan, hPlan, hExecute⟩ := exists_plan_of_run h
    rw [run_eq_of_plan (parse_ofText.1 hPlan), hExecute]
  · intro h
    obtain ⟨plan, hPlan, hExecute⟩ := exists_plan_of_run h
    rw [run_eq_of_plan (parse_ofText.2 hPlan), hExecute]

end Query

namespace Engine

open Query (Params)

/-! ### Whose entry answers -/

/-- **An entry with a plan that answers a query with a plan has its request.** -/
theorem request_eq_of_answers {settings : CacheSettings} {now : Nat} {l asked : Lookup}
    {known : List Params} {plan plan' : Query.Plan Value} {e : Entry} (hKnown : Distinct known)
    (hMem : l.request.params ∈ known) (hMem' : asked.request.params ∈ known)
    (hPlan : Query.parse l.request.query l.request.params = .ok plan)
    (hPlan' : Query.parse asked.request.query asked.request.params = .ok plan')
    (hRequest : e.request = l.request) (hBindings : e.bindings = l.bindings)
    (h : Cache.Answers settings now asked (l.key, e)) : l.request = asked.request := by
  have hClash : ∀ {a b : Lookup} {plan : Query.Plan Value}, Clash a b →
      Query.parse a.request.query a.request.params = .ok plan → False := by
    intro a b plan hClash hParse
    obtain ⟨error, hError⟩ := not_parse_hash b.request.query b.bindings a.request.params
    rw [hClash.query, hError] at hParse
    cases hParse
  rcases h.asked with hKey | ⟨hQuery, hSame⟩
  · rcases Lookup.same_or_clash hKnown hMem hMem' hKey with hSame | hLeft | hRight
    · exact hSame
    · exact (hClash hLeft hPlan).elim
    · exact (hClash hRight hPlan').elim
  · rw [hRequest] at hQuery
    rw [hBindings, l.bindings_eq, asked.bindings_eq] at hSame
    exact Request.eq_of_fields hQuery (hKnown.written _ hMem _ hMem' hSame)

theorem exists_question {w : World} {op : Operation} {text : String} {params : Params}
    {reply : Except QueryError Answer} (hAsked : op.asked w = some (text, params))
    (hReply : op.reply w = some reply) :
    ∃ (saved : Registry) (run : Runner) (q : Question), op.runner? = some run ∧ q.text = text ∧
      q.params = params ∧ (q.answerBy { w.engine with saved } run w.now).1 = reply := by
  cases op with
  | ask run request =>
    cases request with
    | execute text params =>
      cases hAsked
      cases hReply
      exact ⟨w.engine.saved, run, ⟨text, params, emptyContext, w.engine.defaultBudget⟩, rfl, rfl,
        rfl, rfl⟩
    | executeInContext text params context =>
      cases hAsked
      cases hReply
      exact ⟨w.engine.saved, run, ⟨text, params, context, w.engine.defaultBudget⟩, rfl, rfl, rfl,
        rfl⟩
    | executeWithin text params budget =>
      cases hAsked
      cases hReply
      exact ⟨w.engine.saved, run, ⟨text, params, emptyContext, some budget⟩, rfl, rfl, rfl, rfl⟩
    | executeSaved id overrides date =>
      rw [Operation.asked, Ask.asked] at hAsked
      rw [Operation.reply, Ask.reply, executeSavedBy] at hReply
      dsimp only at hReply
      rcases hUse : w.engine.saved.use id overrides date with ⟨found, saved⟩
      rw [hUse] at hAsked hReply
      cases found with
      | error error => cases hAsked
      | ok request =>
        cases hAsked
        cases hReply
        exact ⟨saved, run, ⟨text, params, emptyContext, w.engine.defaultBudget⟩, rfl, rfl, rfl,
          rfl⟩
    | _ => cases hReply
  | _ => cases hReply

section

variable [Query.Library] {start w m : World} {op : Operation} {ops : List Operation}
  {p : String × Entry}

/-! ### Where entries come from -/

/-- The graph of a world gives the answer that an entry was stored with, and the entry is not
younger than the world. -/
def Produced (m : World) (p : String × Entry) : Prop :=
  ∃ (l : Lookup) (stored : Nat) (fresh : Answer), p = (l.key, l.entry stored fresh) ∧
    stored ≤ m.now ∧ Query.run m.graph l.request.query l.request.params none =
      .ok { fresh with queryTime := 0 }

/-- The entry was produced at a moment of the run after which nothing was forgotten. -/
def Sourced (start : World) (ops : List Operation) (w : World) (p : String × Entry) : Prop :=
  ∃ before after m, ops = before ++ after ∧ Run start before m ∧ Run m after w ∧
    (∀ op ∈ after, ¬op.Forgets) ∧ Produced m p

/-- Operations keep entries and store what the graph gives. -/
theorem produced_of_effect (h : Effect w op m) (hServes : op.Serves w.graph) :
    ∀ p ∈ m.engine.cache.origins, p ∈ w.engine.cache.origins ∨ Produced m p := by
  intro p hp
  cases h with
  | ask saved hRunner q =>
    have hGet : (w.engine.cache.get w.engine.settings.cache w.now q.lookup).2.origins ⊆
        w.engine.cache.origins := (Cache.Change.get w.engine.cache q.lookup).origins_subset
    rcases q.answerBy_cases { w.engine with saved } _ w.now with
      ⟨found, _, hAnswer⟩ | ⟨_, ⟨result, hResult, hAnswer⟩ | ⟨error, _, hAnswer⟩⟩
    · rw [hAnswer] at hp
      exact Or.inl (hGet hp)
    · rw [hAnswer] at hp
      rcases List.mem_cons.1 (Cache.origins_set _ _ _ hp) with rfl | hp
      · refine Or.inr ⟨q.lookup, w.now, result, rfl, Nat.le_refl _, ?_⟩
        exact Query.run_ofText.2 (hServes _ hRunner _ _ _ _ hResult).1
      · exact Or.inl (hGet hp)
    · rw [hAnswer] at hp
      exact Or.inl (hGet hp)
  | leave saved graph millis => exact Or.inl hp
  | tend hChange => exact Or.inl (hChange.origins_subset hp)
  | @warmUp run hRunner =>
    rcases (Cache.origins_warmUp w.engine.settings.cache
      (fun r => run r.query r.params w.engine.defaultBudget) w.engine.cache
      w.now).2 p hp with hp | ⟨r, _, answer, stored, hResult, _, hStored, rfl⟩
    · exact Or.inl hp
    · refine Or.inr ⟨Cache.warmUpLookup r, stored, answer, rfl, hStored, ?_⟩
      exact Query.run_ofText.2 (hServes _ hRunner _ _ _ _ hResult).1

/-- **Every entry was produced in the run and not forgotten since.** -/
theorem sourced_of_run (h : Run start ops w) (hEmpty : start.engine.cache.entries = []) :
    ∀ p ∈ w.engine.cache.origins, Sourced start ops w p := by
  induction h with
  | refl =>
    intro p hp
    rw [Cache.origins, hEmpty] at hp
    exact (List.not_mem_nil hp).elim
  | @step w ops hBefore op hServes ih =>
    intro p hp
    rcases produced_of_effect (effect_apply w op) hServes p hp with hOld | hProduced
    · obtain ⟨before, after, m, rfl, hStart, hRun, hKept, hProduced⟩ := ih p hOld
      refine ⟨before, after ++ [op], m, by rw [List.append_assoc], hStart, .step hRun op hServes, ?_,
        hProduced⟩
      intro op' hop'
      rcases List.mem_append.1 hop' with hop' | hop'
      · exact hKept op' hop'
      · rw [List.mem_singleton.1 hop']
        intro hForgets
        rw [Cache.origins, entries_apply_of_forgets hForgets] at hp
        exact List.not_mem_nil hp
    · exact ⟨ops ++ [op], [], op.apply w, (List.append_nil _).symm, .step hBefore op hServes,
        .refl _, fun _ hop => (List.not_mem_nil hop).elim, hProduced⟩
  | arrange hBefore hEntries hCandidates ih =>
    intro p hp
    obtain ⟨before, after, m, rfl, hStart, hRun, hKept, hProduced⟩ :=
      ih p (Cache.origins_subset_of_entries_subset hEntries.subset hp)
    exact ⟨before, after, m, rfl, hStart, .arrange hRun hEntries hCandidates, hKept, hProduced⟩

/-! ### Cached answers -/

/-- **A cached answer is what the graph gave not long ago.**  A reply that says that it is from the
cache is the answer that the graph gave to the query at an earlier moment of the run.  That moment
is no longer ago than answers live, and nothing made the engine forget since then; if the graph has
not been changed since then either, the reply is what the graph gives now.

Parameters are told apart by the digests of their bindings, as far as the request and the entries
are concerned. -/
theorem cached_answer_was_fresh {settings : Settings} {saved : Registry} {graph : Snapshot}
    {now : Nat} {ops : List Operation} {w : World} {op : Operation} {text : String}
    {params : Params} {plan : Query.Plan Value} {r : Answer}
    (hRun : Run (.opened settings saved graph now) ops w) (hServes : op.Serves w.graph)
    (hKnown : Distinct (params :: w.engine.cache.entries.map (·.2.request.params)))
    (hAsked : op.asked w = some (text, params)) (hPlan : Query.parse text params = .ok plan)
    (hReply : op.reply w = some (.ok r)) (hCached : r.cached = true) :
    ∃ before after m fresh, ops = before ++ after ∧
      Run (.opened settings saved graph now) before m ∧ Run m after w ∧
      w.now ≤ m.now + settings.cache.lifetimeMillis ∧ (∀ op ∈ after, ¬op.Forgets) ∧
      Query.run m.graph text params none = .ok fresh ∧
      (r.nodes = fresh.nodes ∧ r.edges = fresh.edges ∧ r.totalMatches = fresh.totalMatches) ∧
      ((∀ op ∈ after, ¬op.Changes) → Query.run w.graph text params none = .ok fresh) := by
  obtain ⟨saved', run, q, hRunner, rfl, rfl, hAnswer⟩ := exists_question hAsked hReply
  rcases q.answerBy_cases { w.engine with saved := saved' } run w.now with
    ⟨found, hGet, hFound⟩ | ⟨_, ⟨result, hResult, hFound⟩ | ⟨error, _, hFound⟩⟩
  · -- the reply comes from an entry, and the entry from an earlier moment
    rw [hFound] at hAnswer
    cases hAnswer
    have hSound := sound_of_run hRun (Cache.sound_empty _ _)
    obtain ⟨⟨key, e⟩, hEntry, hAnswers, rfl⟩ := Cache.get_eq_some hSound.nodup hGet
    obtain ⟨before, after, m, rfl, hStart, hSince, hKept, hProduced⟩ :=
      sourced_of_run hRun rfl (key, e.origin) (List.mem_map_of_mem hEntry)
    obtain ⟨l, stored, fresh, hOrigin, hStored, hFresh⟩ := hProduced
    have hKey : key = l.key := congrArg Prod.fst hOrigin
    have hOld : e.origin = l.entry stored fresh := congrArg Prod.snd hOrigin
    subst hKey
    have hRequest : e.request = l.request := congrArg Entry.request hOld
    have hBindings : e.bindings = l.bindings := congrArg Entry.bindings hOld
    have hMade : e.answer = { fresh with cached := false } := congrArg Entry.answer hOld
    have hTime : e.stored = stored := congrArg Entry.stored hOld
    have hMem : l.request.params ∈ q.params :: w.engine.cache.entries.map (·.2.request.params) := by
      rw [← hRequest]
      exact List.mem_cons_of_mem _ (List.mem_map_of_mem hEntry)
    obtain ⟨planOld, hPlanOld, _⟩ := Query.exists_plan_of_run hFresh
    have hSame : l.request = q.lookup.request :=
      request_eq_of_answers hKnown hMem List.mem_cons_self hPlanOld (Query.parse_ofText.2 hPlan)
        hRequest hBindings hAnswers
    rw [hSame] at hFresh
    have hFresh' : Query.run m.graph q.text q.params none = .ok { fresh with queryTime := 0 } :=
      Query.run_ofText.1 hFresh
    refine ⟨before, after, m, _, rfl, hStart, hSince, ?_, hKept, hFresh', ?_, ?_⟩
    · have hLifetime := hAnswers.fresh
      rw [settings_of_run hRun] at hLifetime
      show w.now ≤ m.now + settings.cache.lifetimeMillis
      have hNow : w.now ≤ e.stored + settings.cache.lifetimeMillis := hLifetime
      omega
    · rw [hMade]
      exact ⟨rfl, rfl, rfl⟩
    · intro hSteady
      rw [graph_of_run hSince hSteady]
      exact hFresh'
  · -- an answer that was just run does not say that it is from the cache
    rw [hFound] at hAnswer
    cases hAnswer
    rw [(hServes _ hRunner _ _ _ _ hResult).2] at hCached
    cases hCached
  · rw [hFound] at hAnswer
    cases hAnswer

end

def askAll (graph : Snapshot) : Operation := .ask (Query.run graph) (.execute "MATCH (n)" ∅)

theorem serves_askAll (graph : Snapshot) : (askAll graph).Serves graph := by
  rintro run hRun
  cases hRun
  exact serves_run graph

def grow : Operation := .change (Snapshot.empty.putNode default)

def early : World := .opened .default (.onStore .none) .empty 0

def late : World := grow.apply ((askAll .empty).apply early)

theorem cached_answer_was_fresh_late :
    (askAll late.graph).reply late = some (.ok { Answer.empty with cached := true }) ∧
      late.graph.nodes.length = 1 ∧
      ∃ before after m fresh, [askAll .empty, grow] = before ++ after ∧ Run early before m ∧
        Run m after late ∧ (∀ op ∈ after, ¬op.Forgets) ∧
        Query.run m.graph "MATCH (n)" ∅ none = .ok fresh ∧ fresh.nodes = [] := by
  have hRun : Run early [askAll .empty, grow] late :=
    .step (.step (.refl early) (askAll .empty) (serves_askAll .empty)) grow nofun
  have hReply :
      (askAll late.graph).reply late = some (.ok { Answer.empty with cached := true }) := by
    decide +kernel
  have hPlan : ∃ plan, Query.parse "MATCH (n)" ∅ = .ok plan := by
    have hSome : (Query.parse "MATCH (n)" ∅).toOption.isSome = true := by decide +kernel
    cases hParse : Query.parse "MATCH (n)" ∅ with
    | error e => rw [hParse] at hSome; cases hSome
    | ok plan => exact ⟨plan, rfl⟩
  have hKnown : Distinct (∅ :: late.engine.cache.entries.map (·.2.request.params)) := by
    have hNone : ∀ p ∈ late.engine.cache.entries, p.2.request.params.isEmpty = true := by
      decide +kernel
    have hEmpty : ∀ params ∈ ∅ :: late.engine.cache.entries.map (·.2.request.params),
        params = ∅ := by
      intro params hMem
      rcases List.mem_cons.1 hMem with rfl | hMem
      · rfl
      · obtain ⟨p, hp, rfl⟩ := List.mem_map.1 hMem
        exact Fields.eq_empty_of_isEmpty (hNone p hp)
    refine ⟨fun p hp q hq _ => ?_, fun p hp q hq _ => ?_⟩ <;> rw [hEmpty p hp, hEmpty q hq]
  obtain ⟨plan, hPlan⟩ := hPlan
  obtain ⟨before, after, m, fresh, hOps, hBefore, hAfter, _, hKept, hFresh, hSame, _⟩ :=
    cached_answer_was_fresh hRun (serves_askAll late.graph) hKnown rfl hPlan hReply rfl
  exact ⟨hReply, by decide +kernel, before, after, m, fresh, hOps, hBefore, hAfter, hKept, hFresh,
    hSame.1.symm⟩

end Engine

end CodeGraph
