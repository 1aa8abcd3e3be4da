import OspdOpenvas.NvtiCache.Lifecycle

/-!
# What the cached name guarantees

`NVTICache` keeps the name of its cache once a call has found it, and asks the store for the
database tagged with it on every call. Over whole runs of calls on one object:

* `run_name_supported`: in every state a run reaches, a name that is set is `'nvticache'` and
  the text a run of the probe printed, a PEP 440 version of epoch `0` and major `20`, at least
  `20.4`: the object never names the cache of an unsupported version.
* `run_constant_world`: keeping the name is invisible while the world does not change. With a
  probe that has the same outcome and a store that answers the same on every call, each call of
  a run returns or raises exactly what the same call on a new object would. The statement over
  every reachable state, `run_constant_world_of_nameInv`, is the induction behind it.
-/

namespace OspdOpenvas

open Py Packaging

/-! ## The name names a supported version -/

theorem firstVersion_eq_some {w : World} {k : ℕ} {v : String} (h : firstVersion w k = some v) :
    ∃ i < k, probeVersion (w.probe i) = .ok v := by
  obtain ⟨i, hi, hv⟩ := List.exists_of_findSome?_eq_some h
  refine ⟨i, List.mem_range.mp hi, ?_⟩
  cases hp : probeVersion (w.probe i) with
  | error e => rw [hp] at hv; cases hv
  | ok v' => rw [hp] at hv; cases hv; rfl

/-- **A name that is set names a supported version**, in every state a run reaches: it is
`'nvticache'` followed by the decoded output of one of the runs of the probe so far, a PEP 440
version of epoch `0` whose release starts with `20`, at least `20.4`. -/
theorem run_name_supported (w : World) (ops : List Op) {n : String}
    (h : (run w Sys.init ops).2.cache.nvtiCacheName = some n) :
    ∃ i < (run w Sys.init ops).2.probes, ∃ r v V, w.probe i = .output r ∧
      versionString r = .ok v ∧ n = "nvticache" ++ v ∧ parseVersion v = .version V ∧
      V.epoch = 0 ∧ V.release.head? = some 20 ∧ V.compare version204 ≠ .lt := by
  have hinv : NameInv w (run w Sys.init ops).2 := (NameInv.init w).run ops
  obtain ⟨v, hv, rfl⟩ := Option.map_eq_some'.mp (hinv.symm.trans h)
  obtain ⟨i, hi, hp⟩ := firstVersion_eq_some hv
  obtain ⟨r, V, ho, hvs, hV, he, h20, h204⟩ := probeVersion_ok hp
  exact ⟨i, hi, r, v, V, ho, hvs, rfl, hV, he, h20, h204⟩

/-- A call on a new object whose probe prints `20.4` names the cache of `20.4`. -/
theorem run_name_supported_20_4 :
    ∃ i < (run (probeWorld [50, 48, 46, 52, 10]) Sys.init [.getRedisContext]).2.probes,
      ∃ r v V, (probeWorld [50, 48, 46, 52, 10]).probe i = .output r ∧
        versionString r = .ok v ∧ "nvticache20.4" = "nvticache" ++ v ∧
        parseVersion v = .version V ∧ V.epoch = 0 ∧ V.release.head? = some 20 ∧
        V.compare version204 ≠ .lt :=
  run_name_supported (probeWorld [50, 48, 46, 52, 10]) [.getRedisContext] rfl

/-! ## The cached name is transparent -/

/-- What a call returns once `_get_nvti_cache_name` has given `name`, in a store `D` that
answers the same on every call. -/
def Op.reply (D : OpenvasDB) (name : String) : Op → Reply
  | .getRedisContext => .ctx (D.dbFind name)
  | .getFeedVersion => .feedVersion (D.getSingleItem (D.dbFind name) name listFirstPos)

/-- A name `_get_nvti_cache_name` returns is kept, and is not empty. -/
theorem getNvtiCacheName_ok {w : World} {s s' : Sys} {n : String}
    (h : getNvtiCacheName w s = (.ok n, s')) : s'.cache.nvtiCacheName = some n ∧ n ≠ "" := by
  have hset : setNvtiCacheName w s = (.ok n, s') → s'.cache.nvtiCacheName = some n ∧ n ≠ "" := by
    rcases setNvtiCacheName_cases w s with ⟨v, hv⟩ | ⟨e, he⟩
    · rw [hv]
      intro h'
      cases h'
      exact ⟨rfl, cacheName_ne_empty v⟩
    · rw [he]
      nofun
  by_cases hs : ∃ m, s.cache.nvtiCacheName = some m ∧ m ≠ ""
  · obtain ⟨m, hm, hne⟩ := hs
    rw [getNvtiCacheName_named w hm hne] at h
    cases h
    exact ⟨hm, hne⟩
  · push_neg at hs
    exact hset (getNvtiCacheName_unnamed w hs ▸ h)

section constant

variable {w : World}

/-- In a store that answers the same on every call, what a call returns depends on the state only
through the name `_get_nvti_cache_name` gives. -/
theorem step_fst_of_const_db (hd : ∀ n, w.db n = w.db 0) (s : Sys) (op : Op) :
    (op.step w s).1 = (getNvtiCacheName w s).1.map fun n => Op.reply (w.db 0) n op := by
  rcases hname : getNvtiCacheName w s with ⟨r, s₁⟩
  cases r with
  | error e =>
    cases op <;> simp [Op.step, OspdOpenvas.getRedisContext, OspdOpenvas.getFeedVersion, hname,
      Except.map]
  | ok n =>
    obtain ⟨hn, hne⟩ := getNvtiCacheName_ok hname
    have hagain := getNvtiCacheName_named w (s := ⟨s₁.cache, s₁.log ++ [.dbFind n]⟩) hn hne
    cases op <;> simp [Op.step, OspdOpenvas.getRedisContext, OspdOpenvas.getFeedVersion, hname,
      hagain, Op.reply, hd, Except.map]

/-- With a probe that has the same outcome on every run, `_get_nvti_cache_name` gives in every
reachable state what it gives on a new object. -/
theorem getNvtiCacheName_fst_of_const_probe (hp : ∀ n, w.probe n = w.probe 0) {s : Sys}
    (hinv : NameInv w s) : (getNvtiCacheName w s).1 = (getNvtiCacheName w Sys.init).1 := by
  have hinit : (getNvtiCacheName w Sys.init).1 = (probeVersion (w.probe 0)).map ("nvticache" ++ ·) :=
    (congrArg Prod.fst (getNvtiCacheName_unnamed w (s := Sys.init) nofun)).trans
      (setNvtiCacheName_fst w Sys.init)
  rw [hinit]
  cases hn : s.cache.nvtiCacheName with
  | none =>
    rw [getNvtiCacheName_unnamed w (fun n h => by simp [hn] at h), setNvtiCacheName_fst, hp]
  | some n =>
    obtain ⟨v, hv, rfl⟩ := Option.map_eq_some'.mp (hinv.symm.trans hn)
    obtain ⟨i, -, hi⟩ := firstVersion_eq_some hv
    rw [getNvtiCacheName_named w hn (cacheName_ne_empty v), ← hp i, hi]
    rfl

/-- From every reachable state, in a world that does not change, each call of a run returns or
raises what the same call on a new object would. -/
theorem run_constant_world_of_nameInv (hp : ∀ n, w.probe n = w.probe 0)
    (hd : ∀ n, w.db n = w.db 0) (ops : List Op) :
    ∀ s, NameInv w s → (run w s ops).1 = ops.map fun op => (op.step w Sys.init).1 := by
  induction ops with
  | nil => intro s _; rfl
  | cons op ops ih =>
    intro s hinv
    rw [run_cons, List.map_cons, ih _ (hinv.step op), step_fst_of_const_db hd,
      step_fst_of_const_db hd, getNvtiCacheName_fst_of_const_probe hp hinv]

end constant

/-- **The cached name is transparent**: with a probe that has the same outcome on every run and a
store that answers the same on every call, each call of any run on one object returns or raises
exactly what the same call on a new object would. -/
theorem run_constant_world (w : World) (hp : ∀ n, w.probe n = w.probe 0)
    (hd : ∀ n, w.db n = w.db 0) (ops : List Op) :
    (run w Sys.init ops).1 = ops.map fun op => (op.step w Sys.init).1 :=
  run_constant_world_of_nameInv hp hd ops Sys.init (NameInv.init w)

/-- Two calls of `get_feed_version` on an object whose probe prints `20.4`. -/
theorem run_constant_world_feed :
    (∀ n, (probeWorld [50, 48, 46, 52, 10]).probe n = (probeWorld [50, 48, 46, 52, 10]).probe 0) ∧
      (∀ n, (probeWorld [50, 48, 46, 52, 10]).db n = (probeWorld [50, 48, 46, 52, 10]).db 0) ∧
      (run (probeWorld [50, 48, 46, 52, 10]) Sys.init [.getFeedVersion, .getFeedVersion]).1 =
        [(Op.getFeedVersion.step (probeWorld [50, 48, 46, 52, 10]) Sys.init).1,
          (Op.getFeedVersion.step (probeWorld [50, 48, 46, 52, 10]) Sys.init).1] :=
  ⟨fun _ => rfl, fun _ => rfl,
    run_constant_world (probeWorld [50, 48, 46, 52, 10]) (fun _ => rfl) (fun _ => rfl) _⟩

end OspdOpenvas
