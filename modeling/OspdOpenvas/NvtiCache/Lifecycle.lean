import OspdOpenvas.NvtiCache.Locator

/-!
# Runs of the cache locator

Over any sequence of calls on one `NVTICache`, and any outcomes of the probe:

* `nameProps_run`: the name is unset, or `'nvticache'` and the version of the first probe that
  gave a compatible version; once set it stays, the probe is not run again, and every later
  call only looks up and reads under the name; a call that raises leaves the name unset.
* `run_dbFind_count`: every call that returns makes exactly one `db_find` and one that raises
  makes none, so the lookup is not cached: `n` calls that return make `n` lookups.
* `run_probes`: the calls raise up to some point and return from there on, and the probe runs
  once in each call up to the first that returns.
-/

namespace OspdOpenvas

open Py Packaging

/-- A lookup in the store. -/
def Call.isDbFind : Call → Bool
  | .dbFind _ => true
  | _ => false

/-- The calls one call makes once the name is `n`: lookups and reads under `n`, and exactly one
lookup. -/
structure NamedCalls (n : String) (calls : List Call) : Prop where
  named : ∀ c ∈ calls, c = .dbFind n ∨ ∃ ctx, c = .getSingleItem n ctx
  one_lookup : calls.countP Call.isDbFind = 1

/-- Lookups and reads under a name do not run the probe. -/
theorem count_pkgConfig_of_named {n : String} {calls : List Call}
    (h : ∀ c ∈ calls, c = .dbFind n ∨ ∃ ctx, c = .getSingleItem n ctx) :
    calls.count .pkgConfig = 0 :=
  List.count_eq_zero.mpr fun hm => by rcases h _ hm with h | ⟨_, h⟩ <;> cases h

theorem NamedCalls.count_pkgConfig {n : String} {calls : List Call} (h : NamedCalls n calls) :
    calls.count .pkgConfig = 0 :=
  count_pkgConfig_of_named h.named

/-! ## One call -/

/-- A name set by the locator is never empty, so it counts as set. -/
theorem cacheName_ne_empty (v : String) : "nvticache" ++ v ≠ "" := fun h => by
  have h9 : "nvticache".length = 9 := rfl
  simpa [h9] using congrArg String.length h

section step

variable (w : World) {s : Sys} {n : String}

/-- A call depends on the state only through what `_get_nvti_cache_name` does in it. -/
theorem step_congr {s' : Sys} (h : getNvtiCacheName w s = getNvtiCacheName w s') (op : Op) :
    op.step w s = op.step w s' := by
  have hr : getRedisContext w s = getRedisContext w s' := by simp only [getRedisContext, h]
  cases op <;> simp only [Op.step, getFeedVersion, hr]

/-- With a name, a call returns after lookups and reads under it. -/
theorem step_named (h : s.cache.nvtiCacheName = some n) (hn : n ≠ "") (op : Op) :
    ∃ r calls, op.step w s = (.ok r, ⟨s.cache, s.log ++ calls⟩) ∧ NamedCalls n calls := by
  cases op with
  | getRedisContext =>
    refine ⟨.ctx ((w.db s.log.length).dbFind n), [.dbFind n], ?_, ⟨by simp, rfl⟩⟩
    simp [Op.step, getRedisContext, getNvtiCacheName_named w h hn, Except.map]
  | getFeedVersion =>
    let ctx := (w.db s.log.length).dbFind n
    refine ⟨.feedVersion ((w.db (s.log.length + 1)).getSingleItem ctx n listFirstPos),
      [.dbFind n, .getSingleItem n ctx], ?_, ⟨by simp, rfl⟩⟩
    simp [Op.step, getFeedVersion, getRedisContext, getNvtiCacheName_named, h, hn, ctx, Except.map]

/-- Without a name, a call runs the probe once: it raises and leaves the name unset, or it sets
the name from the version and goes on as with a name. -/
theorem step_unnamed (h : ∀ n, s.cache.nvtiCacheName = some n → n = "") (op : Op) :
    (∃ e, probeVersion (w.probe s.probes) = .error e ∧
      op.step w s = (.error e, ⟨s.cache, s.log ++ [.pkgConfig]⟩)) ∨
    (∃ v, probeVersion (w.probe s.probes) = .ok v ∧ ∃ r calls,
      op.step w s = (.ok r, ⟨⟨some ("nvticache" ++ v)⟩, s.log ++ .pkgConfig :: calls⟩) ∧
        NamedCalls ("nvticache" ++ v) calls) := by
  cases hp : probeVersion (w.probe s.probes) with
  | error e =>
    refine .inl ⟨e, rfl, ?_⟩
    cases op <;> simp [Op.step, getRedisContext, getFeedVersion, getNvtiCacheName_unnamed w h,
      setNvtiCacheName, hp, Except.map]
  | ok v =>
    refine .inr ⟨v, rfl, ?_⟩
    let s' : Sys := ⟨⟨some ("nvticache" ++ v)⟩, s.log ++ [.pkgConfig]⟩
    have hset : getNvtiCacheName w s = (.ok ("nvticache" ++ v), s') := by
      rw [getNvtiCacheName_unnamed w h, setNvtiCacheName, hp]
    obtain ⟨r, calls, hstep, hcalls⟩ := step_named w (s := s') rfl (cacheName_ne_empty v) op
    refine ⟨r, calls, ?_, hcalls⟩
    rw [step_congr w (hset.trans (getNvtiCacheName_named w (s := s') rfl (cacheName_ne_empty v)).symm),
      hstep]
    simp [s']

/-- A call that returns makes one lookup; one that raises makes none. -/
theorem step_dbFind (op : Op) :
    (op.step w s).2.log.countP Call.isDbFind =
      s.log.countP Call.isDbFind + if (op.step w s).1.isOk then 1 else 0 := by
  by_cases hs : ∃ n, s.cache.nvtiCacheName = some n ∧ n ≠ ""
  · obtain ⟨n, h, hn⟩ := hs
    obtain ⟨r, calls, hstep, hcalls⟩ := step_named w h hn op
    simp [hstep, hcalls.one_lookup, Except.isOk, Except.toBool]
  · push_neg at hs
    rcases step_unnamed w hs op with ⟨e, -, hstep⟩ | ⟨v, -, r, calls, hstep, hcalls⟩
    · simp [hstep, Call.isDbFind, Except.isOk, Except.toBool]
    · simp [hstep, hcalls.one_lookup, Call.isDbFind, Except.isOk, Except.toBool]

end step

/-! ## Runs -/

@[simp] theorem run_nil (w : World) (s : Sys) : run w s [] = ([], s) := rfl

@[simp] theorem run_cons (w : World) (s : Sys) (op : Op) (ops : List Op) :
    run w s (op :: ops) =
      ((op.step w s).1 :: (run w (op.step w s).2 ops).1, (run w (op.step w s).2 ops).2) := rfl

/-- **Every call that returns makes one `db_find`, and every call that raises makes none**, so
the lookup is made again on every call: the handle is not cached. -/
theorem run_dbFind_count (w : World) (s : Sys) (ops : List Op) :
    (run w s ops).2.log.countP Call.isDbFind =
      s.log.countP Call.isDbFind + (run w s ops).1.countP Except.isOk := by
  induction ops generalizing s with
  | nil => simp
  | cons op ops ih =>
    rw [run_cons, ih, step_dbFind, List.countP_cons]
    omega

/-- Two calls of `get_redis_context` on a new object whose probe prints `20.4` make two
lookups. -/
theorem getRedisContext_twice :
    (run (probeWorld [50, 48, 46, 52, 10]) Sys.init [.getRedisContext, .getRedisContext]).2.log.countP
      Call.isDbFind = 2 :=
  rfl

/-- The version of the first of the first `k` runs of the probe that gave a compatible
version. -/
def firstVersion (w : World) (k : ℕ) : Option String :=
  (List.range k).findSome? fun i => (probeVersion (w.probe i)).toOption

theorem firstVersion_succ (w : World) (k : ℕ) :
    firstVersion w (k + 1) = (firstVersion w k).or (probeVersion (w.probe k)).toOption := by
  rw [firstVersion, firstVersion, List.range_succ, List.findSome?_append]
  simp only [List.findSome?_cons, List.findSome?_nil]
  cases (probeVersion (w.probe k)).toOption <;> rfl

/-- The name is that of the first compatible probe. -/
def NameInv (w : World) (s : Sys) : Prop :=
  s.cache.nvtiCacheName = (firstVersion w s.probes).map ("nvticache" ++ ·)

theorem NameInv.init (w : World) : NameInv w Sys.init := rfl

theorem NameInv.step {w : World} {s : Sys} (h : NameInv w s) (op : Op) :
    NameInv w (op.step w s).2 := by
  cases hn : s.cache.nvtiCacheName with
  | some n =>
    obtain ⟨v, hv, rfl⟩ := Option.map_eq_some'.mp (h.symm.trans hn)
    obtain ⟨r, calls, hstep, hcalls⟩ := step_named w hn (cacheName_ne_empty v) op
    rw [hstep, NameInv, Sys.probes, List.count_append, hcalls.count_pkgConfig, Nat.add_zero]
    exact h
  | none =>
    have hfirst : firstVersion w s.probes = none := Option.map_eq_none'.mp (h.symm.trans hn)
    rcases step_unnamed w (s := s) (fun n h' => by simp [hn] at h') op with
      ⟨e, he, hstep⟩ | ⟨v, hv, r, calls, hstep, hcalls⟩
    · rw [hstep, NameInv]
      simp only [Sys.probes, List.count_append, List.count_singleton_self]
      rw [firstVersion_succ, ← Sys.probes, hfirst, he, hn]
      rfl
    · rw [hstep, NameInv]
      simp only [Sys.probes, List.count_append, List.count_cons_self, hcalls.count_pkgConfig]
      rw [Nat.zero_add, firstVersion_succ, ← Sys.probes, hfirst, hv]
      rfl

theorem NameInv.run {w : World} {s : Sys} (h : NameInv w s) (ops : List Op) :
    NameInv w (run w s ops).2 := by
  induction ops generalizing s with
  | nil => exact h
  | cons op ops ih => exact ih (h.step op)

/-- From a state with a name, a run keeps the name and only looks up and reads under it. -/
theorem run_named {w : World} {s : Sys} {n : String} (h : s.cache.nvtiCacheName = some n)
    (hn : n ≠ "") (ops : List Op) :
    (run w s ops).2.cache = s.cache ∧ ∃ calls, (run w s ops).2.log = s.log ++ calls ∧
      ∀ c ∈ calls, c = .dbFind n ∨ ∃ ctx, c = .getSingleItem n ctx := by
  induction ops generalizing s with
  | nil => exact ⟨rfl, [], by simp, by simp⟩
  | cons op ops ih =>
    obtain ⟨r, calls, hstep, hcalls⟩ := step_named w h hn op
    obtain ⟨hc, calls', hlog, hcalls'⟩ := ih (s := ⟨s.cache, s.log ++ calls⟩) h
    rw [run_cons, hstep]
    exact ⟨hc, calls ++ calls', by rw [hlog, List.append_assoc],
      List.forall_mem_append.mpr ⟨hcalls.named, hcalls'⟩⟩

/-- From a state with a name, every call returns. -/
theorem run_named_ok {w : World} {s : Sys} {n : String} (h : s.cache.nvtiCacheName = some n)
    (hn : n ≠ "") (ops : List Op) : ∀ r ∈ (run w s ops).1, r.isOk = true := by
  induction ops generalizing s with
  | nil => simp
  | cons op ops ih =>
    obtain ⟨r, calls, hstep, -⟩ := step_named w h hn op
    rw [run_cons, hstep, List.forall_mem_cons]
    exact ⟨rfl, ih (s := ⟨s.cache, s.log ++ calls⟩) h⟩

theorem run_unnamed_probes {w : World} {s : Sys} (h : s.cache.nvtiCacheName = none)
    (ops : List Op) :
    ∃ k, (∀ r ∈ (run w s ops).1.take k, r.isOk = false) ∧
      (∀ r ∈ (run w s ops).1.drop k, r.isOk = true) ∧
      (run w s ops).2.probes = s.probes + min (k + 1) ops.length := by
  induction ops generalizing s with
  | nil => exact ⟨0, by simp, by simp, by simp⟩
  | cons op ops ih =>
    rcases step_unnamed w (s := s) (fun n h' => by simp [h] at h') op with
      ⟨e, -, hstep⟩ | ⟨v, -, r, calls, hstep, hcalls⟩
    · obtain ⟨k, htake, hdrop, hprobes⟩ := ih (s := ⟨s.cache, s.log ++ [.pkgConfig]⟩) h
      refine ⟨k + 1, ?_, by simpa [hstep] using hdrop, ?_⟩
      · rw [run_cons, hstep, List.take_succ_cons, List.forall_mem_cons]
        exact ⟨rfl, htake⟩
      · rw [run_cons, hstep, hprobes, List.length_cons]
        simp only [Sys.probes, List.count_append, List.count_singleton_self]
        omega
    · have hname : (⟨⟨some ("nvticache" ++ v)⟩, s.log ++ .pkgConfig :: calls⟩ : Sys).cache.nvtiCacheName =
          some ("nvticache" ++ v) := rfl
      obtain ⟨-, calls', hlog, hcalls'⟩ := run_named (w := w) hname (cacheName_ne_empty v) ops
      refine ⟨0, by simp, ?_, ?_⟩
      · rw [List.drop_zero, run_cons, hstep, List.forall_mem_cons]
        exact ⟨rfl, run_named_ok hname (cacheName_ne_empty v) ops⟩
      · rw [run_cons, hstep, Sys.probes, hlog]
        simp only [List.count_append, List.count_cons_self, count_pkgConfig_of_named hcalls',
          hcalls.count_pkgConfig, Sys.probes, List.length_cons]
        omega

/-- What holds of the name of the cache in a state a run reaches. -/
structure NameProps (w : World) (s : Sys) : Prop where
  /-- The name is unset, or `'nvticache'` and the version of the first compatible probe. -/
  name_eq : s.cache.nvtiCacheName = (firstVersion w s.probes).map ("nvticache" ++ ·)
  /-- Once set, the name stays, the probe is not run again, and every later call only looks up
  and reads under the name. -/
  stays : ∀ n, s.cache.nvtiCacheName = some n → ∀ ops,
    (run w s ops).2.cache.nvtiCacheName = some n ∧
      ∃ calls, (run w s ops).2.log = s.log ++ calls ∧
        ∀ c ∈ calls, c = .dbFind n ∨ ∃ ctx, c = .getSingleItem n ctx
  /-- A call that raises leaves the name unset. -/
  raise_unset : ∀ (op : Op) (e : PyErr), (op.step w s).1 = .error e →
    (op.step w s).2.cache.nvtiCacheName = none

/-- **The name of the cache over any run**, whatever the probe gives: unset or that of the first
compatible probe; once set, kept, with no more probes and only lookups and reads under it; and
unset after a call that raises. -/
theorem nameProps_run (w : World) (ops : List Op) : NameProps w (run w Sys.init ops).2 := by
  have hinv := (NameInv.init w).run ops
  refine ⟨hinv, fun n hn ops' => ?_, fun op e he => ?_⟩
  · obtain ⟨v, -, rfl⟩ := Option.map_eq_some'.mp (hinv.symm.trans hn)
    obtain ⟨hc, hcalls⟩ := run_named (w := w) hn (cacheName_ne_empty v) ops'
    exact ⟨hc ▸ hn, hcalls⟩
  · cases hn : (run w Sys.init ops).2.cache.nvtiCacheName with
    | some n =>
      obtain ⟨v, -, rfl⟩ := Option.map_eq_some'.mp (hinv.symm.trans hn)
      obtain ⟨r, calls, hstep, -⟩ := step_named w hn (cacheName_ne_empty v) op
      rw [hstep] at he
      cases he
    | none =>
      rcases step_unnamed w (s := (run w Sys.init ops).2) (fun n h' => by simp [hn] at h') op with
        ⟨e', -, hstep⟩ | ⟨v, -, r, calls, hstep, -⟩
      · rw [hstep]
        exact hn
      · rw [hstep] at he
        cases he

/-- **The probe runs in every call up to the first that returns, and never after it**: the
calls of a run raise up to some point and return from there on, and the probe ran once in each
call that raised and once in the first that returned. -/
theorem run_probes (w : World) (ops : List Op) :
    ∃ k, (∀ r ∈ (run w Sys.init ops).1.take k, r.isOk = false) ∧
      (∀ r ∈ (run w Sys.init ops).1.drop k, r.isOk = true) ∧
      (run w Sys.init ops).2.probes = min (k + 1) ops.length := by
  simpa [Sys.probes, Sys.init] using run_unnamed_probes (w := w) (s := Sys.init) rfl ops

end OspdOpenvas
