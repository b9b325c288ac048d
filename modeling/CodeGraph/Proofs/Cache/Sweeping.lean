import CodeGraph.Proofs.Cache.Accounts
import CodeGraph.Proofs.Cache.Outcome
import CodeGraph.Proofs.Query.Conditions

/-!
# Sweeps

Two operations take entries out for what they are: an invalidation with paths those that have to do
with one of the paths, and a cleanup those that have expired.  `Sweep.Dooms` says which these are.
A sweep takes out these and no others, and changes nothing else (`Swept`, `removeAll_swept`), so
that it finds nothing when it is repeated.

Later events add only what is handed over with them (`origins_of_recorded_append`), so what was
swept answers no lookup any more (`sweep_exact`).
-/

namespace CodeGraph.Cache

variable {settings : CacheSettings} {now : Nat} {c d : Cache} {p : String × Entry}
variable {history more : History} {s later : Timed}

/-! ### What is swept -/

/-- The operations that take entries out for what they are. -/
inductive Sweep where
  | invalidate (paths : List String)
  | cleanUp

namespace Sweep

def event : Sweep → Event
  | invalidate paths => .invalidate (some paths)
  | cleanUp => .cleanUp

def run (settings : CacheSettings) (s : Timed) : Sweep → Nat × Cache
  | invalidate paths => s.cache.invalidate (some paths)
  | cleanUp => s.cache.cleanUp settings s.now

/-- The entries that a sweep is for: those with a node whose path holds one of the paths or is held
by one, and those whose context holds one; or those that are older than entries live. -/
def Dooms (settings : CacheSettings) (now : Nat) (e : Entry) : Sweep → Prop
  | invalidate paths =>
    (∃ node ∈ e.answer.nodes, ∃ place, node.path = some place ∧ ∃ path ∈ paths,
        path.toList <:+: place.toList ∨ place.toList <:+: path.toList) ∨
      ∃ path ∈ paths, path.toList <:+: e.context.toList
  | cleanUp => e.stored + settings.lifetimeMillis < now

def test (settings : CacheSettings) (now : Nat) : Sweep → Entry → Bool
  | invalidate paths => (·.touches paths)
  | cleanUp => (·.isExpired settings now)

theorem run_eq (settings : CacheSettings) (s : Timed) (sweep : Sweep) :
    sweep.run settings s = s.cache.removeAll (sweep.test settings s.now) := by
  cases sweep <;> rfl

theorem apply_event (settings : CacheSettings) (s : Timed) (sweep : Sweep) :
    sweep.event.apply settings s = { s with cache := (sweep.run settings s).2 } := by
  cases sweep <;> rfl

theorem touches_iff {paths : List String} {e : Entry} :
    e.touches paths = true ↔ (invalidate paths).Dooms settings now e := by
  simp only [Entry.touches, Dooms, Text.holds, Bool.or_eq_true, List.any_eq_true,
    Text.occurs_iff, List.mem_filterMap]
  refine or_congr_left ?_
  constructor
  · rintro ⟨place, ⟨node, hNode, hPlace⟩, hPath⟩
    exact ⟨node, hNode, place, hPlace, hPath⟩
  · rintro ⟨node, hNode, place, hPlace, hPath⟩
    exact ⟨place, ⟨node, hNode, hPlace⟩, hPath⟩

theorem test_iff {sweep : Sweep} {e : Entry} :
    sweep.test settings now e = true ↔ sweep.Dooms settings now e := by
  cases sweep with
  | invalidate paths => exact touches_iff
  | cleanUp =>
    show e.isExpired settings now = true ↔ e.stored + settings.lifetimeMillis < now
    rw [Entry.isExpired, decide_eq_true_iff]
    omega

end Sweep

/-! ### What a sweep leaves -/

/-- `d` is what is left of `c` when the doomed entries, `number` of them, are taken out. -/
structure Swept (doomed : Entry → Prop) (c : Cache) (number : Nat) (d : Cache) : Prop where
  mem : ∀ p, p ∈ d.entries ↔ p ∈ c.entries ∧ ¬doomed p.2
  sublist : d.entries.Sublist c.entries
  order : d.order = c.order.filter (· ∈ d.keys)
  number : number = (c.lost d).length
  memory : c.memory = d.memory + ((c.lost d).map (·.2.size)).sum
  /-- No count has changed, nor have the candidates. -/
  rest : d = { c with entries := d.entries, order := d.order, memory := d.memory }

namespace Keeps

variable {test : String → Bool} {n : Nat}

theorem bytes_eq (h : Keeps test n c d) : c.bytes = d.bytes + ((c.lost d).map (·.2.size)).sum := by
  have hPerm := List.filter_append_perm (fun p : String × Entry => test p.1) c.entries
  have hSum := (hPerm.map (·.2.size)).sum_eq
  rw [List.map_append, List.sum_append, ← h.entries, ← h.lost_eq] at hSum
  exact hSum.symm

theorem order_eq (h : Keeps test n c d) (hc : Tidy now c) :
    d.order = c.order.filter (· ∈ d.keys) := by
  rw [h.order]
  refine List.filter_congr fun key hKey => ?_
  rw [Bool.eq_iff_iff, decide_eq_true_iff, h.mem_keys, and_iff_right (hc.mem_keys.1 hKey)]

theorem rest (h : Keeps test 0 c d) :
    d = { c with entries := d.entries, order := d.order, memory := d.memory } := by
  obtain ⟨memory, rfl⟩ := h
  rfl

end Keeps

theorem entries_removeAll (h : Tidy now c) (test : Entry → Bool) :
    (c.removeAll test).2.entries = c.entries.filter fun p => !test p.2 := by
  rw [(h.keeps_removeAll test).entries]
  refine List.filter_congr fun p hp => ?_
  simp [-List.mem_map, key_mem_filter_iff h.nodup test hp]

/-- **Taking out the entries that pass a test** takes out these and leaves all else. -/
theorem removeAll_swept (h : Tidy now c) (test : Entry → Bool) :
    Swept (test · = true) c (c.removeAll test).1 (c.removeAll test).2 where
  mem p := by simp [entries_removeAll h]
  sublist := by
    rw [entries_removeAll h]
    exact List.filter_sublist
  order := (h.keeps_removeAll test).order_eq h
  number := by rw [lost_removeAll h, removeAll, List.length_map]
  memory := by
    have hChange : Change .default now c (c.removeAll test).2 := .removeAll c test
    rw [h.memory, (hChange.tidy h).memory]
    exact (h.keeps_removeAll test).bytes_eq
  rest := (h.keeps_removeAll test).rest

theorem removeAll_of_none {test : Entry → Bool} (h : ∀ p ∈ c.entries, ¬test p.2 = true) :
    c.removeAll test = (0, c) := by
  have hNone : c.entries.filter (fun p => test p.2) = [] := List.filter_eq_nil_iff.2 h
  rw [removeAll, hNone]
  rfl

theorem Sweep.swept (h : Tidy s.now s.cache) (sweep : Sweep) :
    Swept (sweep.Dooms settings s.now) s.cache (sweep.run settings s).1
      (sweep.run settings s).2 := by
  have hSwept := removeAll_swept h (sweep.test settings s.now)
  rw [← sweep.run_eq] at hSwept
  exact { hSwept with mem := fun p => by rw [hSwept.mem, Sweep.test_iff] }

theorem Sweep.run_again (h : Tidy s.now s.cache) (sweep : Sweep) :
    sweep.run settings (sweep.event.apply settings s) = (0, (sweep.run settings s).2) := by
  rw [sweep.apply_event, sweep.run_eq settings ⟨_, s.now⟩]
  refine removeAll_of_none fun p hp => ?_
  rw [Sweep.test_iff]
  exact (((sweep.swept h).mem p).1 hp).2

/-! ### What comes later -/

/-- **After an event, entries are those that it left and those that are stored later.** -/
theorem origins_of_recorded_append {event : Event}
    (h : Recorded settings (history ++ (s, event) :: more) later) :
    ∀ p ∈ later.cache.origins, p ∈ (event.apply settings s).cache.origins ∨
      Handed (fitting settings (handedOver settings more)) p := by
  generalize hAll : history ++ (s, event) :: more = all at h
  induction h generalizing more with
  | start now => simp at hAll
  | arrange before hEntries _ ih =>
    exact fun p hp => ih hAll p (origins_subset_of_entries_subset hEntries.subset hp)
  | step before _ ih =>
    rcases List.eq_nil_or_concat' more with rfl | ⟨more, next, rfl⟩
    · obtain ⟨-, hLast⟩ := List.append_inj' hAll rfl
      cases hLast
      exact fun p hp => Or.inl hp
    · rw [← List.cons_append, ← List.append_assoc] at hAll
      obtain ⟨hBefore, hLast⟩ := List.append_inj' hAll rfl
      cases hLast
      intro p hp
      rw [handedOver_concat, fitting_append]
      rcases origins_apply before.sound _ p hp with hp | hp
      · exact (ih hBefore p hp).imp_right (·.mono (List.subset_append_left _ _))
      · exact Or.inr (hp.mono (List.subset_append_right _ _))

/-- **Sweeps are exact.**  After every history a sweep takes out the entries that it dooms and no
others, gives their number, and changes nothing else; repeated at once it finds nothing.  Whatever
happens later, every lookup that is answered is answered from an entry that the sweep left or one
that was stored after it, and the key of an entry that was swept comes back only with an answer
stored under it. -/
theorem sweep_exact (h : Recorded settings history s) (sweep : Sweep) :
    Swept (sweep.Dooms settings s.now) s.cache (sweep.run settings s).1 (sweep.run settings s).2 ∧
      sweep.run settings (sweep.event.apply settings s) = (0, (sweep.run settings s).2) ∧
      ∀ more later, Recorded settings (history ++ (s, sweep.event) :: more) later →
        (∀ (call : Call) (r : Answer),
          (later.cache.get settings later.now call.lookup).1 = some r →
          ∃ p, AnsweredFrom settings later.now call.lookup later.cache
              (later.cache.get settings later.now call.lookup).2 p r ∧
            ((p.1, p.2.origin) ∈ (sweep.run settings s).2.origins ∨
              Handed (fitting settings (handedOver settings more)) (p.1, p.2.origin))) ∧
        ∀ key ∈ later.cache.keys, key ∉ (sweep.run settings s).2.keys →
          key ∈ storedKeys settings (handedOver settings more) := by
  have hTidy := h.sound.toTidy
  refine ⟨sweep.swept hTidy, sweep.run_again hTidy, fun more later hLater => ?_⟩
  have hOrigins := origins_of_recorded_append hLater
  rw [sweep.apply_event] at hOrigins
  constructor
  · intro call r hGet
    obtain ⟨p, hAnswered⟩ := exists_answeredFrom hLater.sound.nodup hGet
    exact ⟨p, hAnswered, hOrigins _ (List.mem_map_of_mem hAnswered.mem)⟩
  · intro key hKey hGone
    rw [keys_eq_map_origins] at hKey
    obtain ⟨p, hp, rfl⟩ := List.mem_map.1 hKey
    rcases hOrigins p hp with hp | ⟨given, hGiven, hEq⟩
    · rw [keys_eq_map_origins] at hGone
      exact absurd (List.mem_map_of_mem hp) hGone
    · exact List.mem_map.2 ⟨given, hGiven, (congrArg Prod.fst hEq).symm⟩

def inMain : Answer :=
  { Answer.empty with nodes := [{ (default : Node) with path := some "src/main.rs" }] }

def mainStored : Timed := (Event.set matchOne inMain).apply .default ⟨.empty, 0⟩

def bothStored : Timed := (Event.set matchOneSpaced .empty).apply .default mainStored

def storeBoth : History :=
  [(⟨.empty, 0⟩, .set matchOne inMain), (mainStored, .set matchOneSpaced .empty)]

def withoutMain : Timed := (Sweep.invalidate ["src"]).event.apply .default bothStored

/-- The directory takes out the first answer, and a lookup of its own call is then answered from the
second. -/
theorem sweep_exact_directory :
    Recorded .default storeBoth bothStored ∧ matchOne.lookup.key ∈ bothStored.cache.keys ∧
      ((Sweep.invalidate ["src"]).run .default bothStored).1 = 1 ∧
      withoutMain.cache.keys = [matchOneSpaced.lookup.key] ∧
      ∃ p r, AnsweredFrom .default withoutMain.now matchOne.lookup withoutMain.cache
          (withoutMain.cache.get .default withoutMain.now matchOne.lookup).2 p r ∧
        (p.1, p.2.origin) ∈ ((Sweep.invalidate ["src"]).run .default bothStored).2.origins := by
  have hRecorded : Recorded .default storeBoth bothStored :=
    ((Recorded.start 0).step (.set matchOne inMain)).step (.set matchOneSpaced .empty)
  have hLater : Recorded .default
      (storeBoth ++ [(bothStored, (Sweep.invalidate ["src"]).event)]) withoutMain :=
    hRecorded.step _
  have hRun : matchOne.lookup.key ∈ bothStored.cache.keys ∧
      ((Sweep.invalidate ["src"]).run .default bothStored).1 = 1 ∧
      withoutMain.cache.keys = [matchOneSpaced.lookup.key] ∧
      (withoutMain.cache.get .default withoutMain.now matchOne.lookup).1.isSome = true := by
    decide +kernel
  obtain ⟨hKey, hNumber, hLeft, hSome⟩ := hRun
  obtain ⟨r, hGet⟩ := Option.isSome_iff_exists.1 hSome
  obtain ⟨_, _, hNever⟩ := sweep_exact hRecorded (.invalidate ["src"])
  obtain ⟨p, hAnswered, hOrigin | ⟨given, hGiven, _⟩⟩ :=
    (hNever [] withoutMain hLater).1 matchOne r hGet
  · exact ⟨hRecorded, hKey, hNumber, hLeft, p, r, hAnswered, hOrigin⟩
  · exact absurd hGiven List.not_mem_nil

end CodeGraph.Cache
