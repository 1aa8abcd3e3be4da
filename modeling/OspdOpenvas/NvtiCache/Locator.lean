import OspdOpenvas.NvtiCache.Schema
import OspdOpenvas.Packaging.Order
import OspdOpenvas.Packaging.Case

/-!
# The cache locator

`NVTICache` finds its database lazily. The first call that needs the name of the cache runs
`pkg-config --modversion libgvm_util`, checks the version it prints against
`SUPPORTED_NVTICACHE_VERSIONS`, and keeps `'nvticache' + version` in `_nvti_cache_name`; every
call then asks the store for the database tagged with that name.

The object, with the calls it has made on the outside world, is a state `Sys`; the world
(`World`) gives the outcome of each run of the probe and the store each call finds. The two
public calls are the operations `Op` of a state machine (`Op.step`).

* `probeVersion_output`: a probe that prints a PEP 440 version is accepted exactly when the
  version has epoch `0`, release starting with `20`, and is at least `20.4`; the epoch enters
  because the code compares `base_version.split('.')[0]` as text.
* `setNvtiCacheName_pep440`: `_set_nvti_cache_name` then sets the name, or raises
  `OspdOpenvasError` and leaves the object as it was.
* `probeVersion_upward`: a probe printing a later version of the same major component as one
  that is accepted is accepted too.
* `probeVersion_map_toUpper`: whether a probe is accepted does not depend on the case of the
  ASCII letters it prints.
* `getNvtiCacheName_escapes`: resolving an unset name sets it or raises, leaving it unset; besides
  `OspdOpenvasError`, an exception of the probe other than `CalledProcessError` and
  `PermissionError`, and the `UnicodeDecodeError` of output that is not UTF-8, escape.
-/

namespace OspdOpenvas

open Py Packaging

/-! ## Resolving the version -/

/-- `SUPPORTED_NVTICACHE_VERSIONS`. -/
def supportedNvticacheVersions : List String := ["20.4"]

/-- What `subprocess.check_output` gives for the run of `pkg-config`: the bytes it printed, or
the exception it raised (a non-zero exit, a missing or non-executable binary, ...). -/
inductive ProbeOutcome
  | output (result : List UInt8)
  | raised (e : PyErr)

/-- The message of the error raised when the probe fails with the exception text `e`. -/
def probeFailedMsg (e : String) : String :=
  "Error setting nvticache. Not possible to get the installed gvm-libs version. " ++ e

/-- The message of the error raised for a version no supported entry matches. -/
def incompatibleMsg (versionString : String) : String :=
  "Error setting nvticache. Incompatible nvticache version " ++ versionString ++
    ". Supported versions are " ++ join ", " supportedNvticacheVersions ++ "."

/-- `lib.base_version.split('.')[0]`; a split has a first segment, so the index never raises. -/
def majorOf (lib : ParsedVersion) : String := (split lib.baseVersion "." none).headD ""

/-- The test of the loop of `_set_nvti_cache_name` for one supported entry. Every supported
entry parses as a `Version` (`parseVersion_supported`), so the code never compares a
`LegacyVersion` entry. -/
def isCompatible (installedLib : ParsedVersion) (supportedItem : String) : Bool :=
  match parseVersion supportedItem with
  | .version supportedLib =>
    installedLib.geVersion supportedLib && majorOf installedLib == majorOf (.version supportedLib)
  | .legacy _ => false

/-- `str(result.decode('utf-8').rstrip())`. -/
def versionString (result : List UInt8) : Except PyErr String := rstrip <$> decodeUtf8 result

/-- The version `_set_nvti_cache_name` accepts from one run of the probe, or what it raises:
`OspdOpenvasError` for a `CalledProcessError` or `PermissionError` of the probe, and for a
version no supported entry matches; any other exception passes through. -/
def probeVersion : ProbeOutcome → Except PyErr String
  | .raised (.CalledProcessError e) => .error (.OspdOpenvasError (probeFailedMsg e))
  | .raised (.PermissionError e) => .error (.OspdOpenvasError (probeFailedMsg e))
  | .raised e => .error e
  | .output result => do
    let v ← versionString result
    if supportedNvticacheVersions.any (isCompatible (parseVersion v)) then pure v
    else throw (.OspdOpenvasError (incompatibleMsg v))

/-- `parse_version('20.4')`. -/
def version204 : Version :=
  ⟨0, [20, 4], List.cons_ne_nil _ _, none, none, none, none⟩

theorem parseVersion_supported : parseVersion "20.4" = .version version204 := rfl

/-! ## The major component as text -/

theorem not_mem_repr {n : ℕ} {c : Char} (hc : c.isDigit = false) : c ∉ (Nat.repr n).data :=
  fun h => by simp [isDigit_of_mem_repr h] at hc

/-- The first segment of `base_version` split at `.`: the epoch and `!` when the epoch is not
zero, then the first number of the release. -/
theorem majorOf_version (V : Version) :
    majorOf (.version V) =
      (if V.epoch ≠ 0 then Nat.repr V.epoch ++ "!" else "") ++ Nat.repr (V.release.headD 0) := by
  obtain ⟨e, r, hr, pre, post, dev, loc⟩ := V
  obtain ⟨r0, rs, rfl⟩ := List.exists_cons_of_ne_nil hr
  have hdot : ∀ n, '.' ∉ (Nat.repr n).data := fun n => not_mem_repr rfl
  have ha : ¬ Contains ((if e ≠ 0 then Nat.repr e ++ "!" else "") ++ Nat.repr r0) "." := fun h => by
    have hmem := h.sublist.subset (List.mem_singleton_self '.')
    split_ifs at hmem <;> simp [hdot] at hmem
  simp only [majorOf, ParsedVersion.baseVersion, Version.baseVersion, List.map_cons, List.headD_cons]
  cases rs with
  | nil => rw [List.map_nil, join_singleton, split_of_not_contains ha]; rfl
  | cons x xs =>
    rw [List.map_cons, join_cons_cons, ← String.append_assoc, ← String.append_assoc,
      show ("." : String) = ⟨['.']⟩ from rfl, split_append_char, split_of_not_contains ha]
    rfl

theorem majorOf_version204 : majorOf (.version version204) = "20" := rfl

/-- **The major components agree exactly when the epoch is `0` and the release starts with
`20`**: an epoch stays in the first segment of `base_version`. -/
theorem majorOf_eq_supported (V : Version) :
    majorOf (.version V) = "20" ↔ V.epoch = 0 ∧ V.release.head? = some 20 := by
  obtain ⟨r0, rs, hr⟩ := List.exists_cons_of_ne_nil V.release_ne_nil
  rw [majorOf_version, hr, List.headD_cons, List.head?_cons, Option.some.injEq]
  by_cases he : V.epoch = 0
  · simp only [he, ne_eq, not_true_eq_false, if_false, true_and]
    exact ⟨fun h => repr_injective (by simpa using h), fun h => h ▸ rfl⟩
  · refine iff_of_false (fun h => ?_) fun h => he h.1
    have hbang : '!' ∈ ("20" : String).data := by
      rw [← h, if_pos he]
      simp
    simp at hbang

/-- **A probe that prints a PEP 440 version**: `_set_nvti_cache_name` accepts it exactly when
its epoch is `0`, its release starts with `20` and it is at least `20.4`. -/
theorem probeVersion_output {result : List UInt8} {v : String} {V : Version}
    (hv : versionString result = .ok v) (hV : parseVersion v = .version V) :
    probeVersion (.output result) =
      if V.epoch = 0 ∧ V.release.head? = some 20 ∧ V.compare version204 ≠ .lt then .ok v
      else .error (.OspdOpenvasError (incompatibleMsg v)) := by
  have hc : supportedNvticacheVersions.any (isCompatible (parseVersion v)) =
      decide (V.epoch = 0 ∧ V.release.head? = some 20 ∧ V.compare version204 ≠ .lt) := by
    rw [supportedNvticacheVersions, List.any_cons, List.any_nil, Bool.or_false, isCompatible,
      parseVersion_supported, hV]
    dsimp only [ParsedVersion.geVersion]
    rw [majorOf_version204, Bool.eq_iff_iff, Bool.and_eq_true, beq_iff_eq, decide_eq_true_iff,
      majorOf_eq_supported, decide_eq_true_iff]
    exact and_comm.trans and_assoc
  simp only [probeVersion, hv, bind, Except.bind, hc, decide_eq_true_eq]
  split_ifs <;> rfl

/-- **A later version of an accepted series is accepted**: if `_set_nvti_cache_name` accepts a
probe that prints `v`, it accepts one that prints any `v'` at least `v` whose major component
(`base_version.split('.')[0]`) is the same. -/
theorem probeVersion_upward {r r' : List UInt8} {v v' : String} {V V' : Version}
    (hv : versionString r = .ok v) (hV : parseVersion v = .version V)
    (hv' : versionString r' = .ok v') (hV' : parseVersion v' = .version V')
    (hok : probeVersion (.output r) = .ok v) (hmajor : majorOf (.version V') = majorOf (.version V))
    (hge : V'.compare V ≠ .lt) : probeVersion (.output r') = .ok v' := by
  rw [probeVersion_output hv hV] at hok
  obtain ⟨he, h20, h204⟩ : V.epoch = 0 ∧ V.release.head? = some 20 ∧ V.compare version204 ≠ .lt := by
    by_contra hn
    rw [if_neg hn] at hok
    cases hok
  have hmajor' : majorOf (.version V') = "20" := hmajor.trans ((majorOf_eq_supported V).mpr ⟨he, h20⟩)
  rw [probeVersion_output hv' hV', if_pos ⟨((majorOf_eq_supported V').mp hmajor').1,
    ((majorOf_eq_supported V').mp hmajor').2, Version.compare_ge_trans hge h204⟩]

/-- **What an accepted probe printed**: the text of its output, a PEP 440 version of epoch `0`,
with a release starting with `20`, at least `20.4`. -/
theorem probeVersion_ok {o : ProbeOutcome} {v : String} (h : probeVersion o = .ok v) :
    ∃ r V, o = .output r ∧ versionString r = .ok v ∧ parseVersion v = .version V ∧
      V.epoch = 0 ∧ V.release.head? = some 20 ∧ V.compare version204 ≠ .lt := by
  cases o with
  | raised e => cases e <;> cases h
  | output r =>
    cases hv : versionString r with
    | error e => simp [probeVersion, hv, bind, Except.bind] at h
    | ok v' =>
      cases hV : parseVersion v' with
      | version V =>
        rw [probeVersion_output hv hV] at h
        split_ifs at h with hc
        cases h
        exact ⟨r, V, rfl, hv, hV, hc⟩
      | legacy _ =>
        have hc : supportedNvticacheVersions.any (isCompatible (parseVersion v')) = false := by
          rw [hV, supportedNvticacheVersions, List.any_cons, List.any_nil, Bool.or_false,
            isCompatible, parseVersion_supported]
          rfl
        simp [probeVersion, hv, bind, Except.bind, hc] at h

/-- A probe printing `20.10.2` is accepted as `20.4` is. -/
theorem probeVersion_upward_20_10_2 :
    probeVersion (.output [50, 48, 46, 49, 48, 46, 50, 10]) = .ok "20.10.2" :=
  @probeVersion_upward [50, 48, 46, 52, 10] _ "20.4" _ version204
    ⟨0, [20, 10, 2], List.cons_ne_nil _ _, none, none, none, none⟩ rfl rfl rfl rfl rfl rfl
    (by decide)

/-! ## The case of the printed version -/

/-- A `LegacyVersion` is never compatible: it sorts below every supported entry. -/
theorem isCompatible_legacy (s item : String) : isCompatible (.legacy s) item = false := by
  unfold isCompatible
  split <;> rfl

theorem isCompatible_map_toUpper (v item : String) :
    isCompatible (parseVersion ⟨v.data.map Char.toUpper⟩) item = isCompatible (parseVersion v) item := by
  simp only [parseVersion, parseVersionChars_map_toUpper]
  split
  · rfl
  · rw [isCompatible_legacy, isCompatible_legacy]

/-- **The check ignores the case of ASCII letters**: a probe whose output reads as a version
with its ASCII letters upper-cased is accepted exactly when one printing the version is. -/
theorem probeVersion_map_toUpper {r r' : List UInt8} {v : String}
    (hv : versionString r = .ok v) (hv' : versionString r' = .ok ⟨v.data.map Char.toUpper⟩) :
    probeVersion (.output r') = .ok ⟨v.data.map Char.toUpper⟩ ↔ probeVersion (.output r) = .ok v := by
  have hc : isCompatible (parseVersion ⟨v.data.map Char.toUpper⟩) = isCompatible (parseVersion v) :=
    funext (isCompatible_map_toUpper v)
  simp only [probeVersion, hv, hv', bind, Except.bind, hc]
  split_ifs
  · exact iff_of_true rfl rfl
  · exact iff_of_false nofun nofun

/-- A probe printing `20.4.1+DEB` is accepted as one printing `20.4.1+deb` is. -/
theorem probeVersion_local_upper :
    (probeVersion (.output [50, 48, 46, 52, 46, 49, 43, 68, 69, 66, 10]) =
        .ok ⟨"20.4.1+deb".data.map Char.toUpper⟩ ↔
      probeVersion (.output [50, 48, 46, 52, 46, 49, 43, 100, 101, 98, 10]) = .ok "20.4.1+deb") :=
  probeVersion_map_toUpper rfl rfl

/-! ## The object and its world -/

/-- The state of an `NVTICache`: the name of its cache, once found. -/
structure NVTICache where
  nvtiCacheName : Option String
  deriving DecidableEq, Repr

/-- A call the object makes on the outside world. -/
inductive Call
  | pkgConfig
  | dbFind (name : String)
  | getSingleItem (name : String) (ctx : Option RedisCtx)
  deriving DecidableEq, Repr

/-- An `NVTICache` with the calls it has made, oldest first. -/
structure Sys where
  cache : NVTICache
  log : List Call

/-- `NVTICache(openvas_db)`: no name, no call yet. -/
def Sys.init : Sys := ⟨⟨none⟩, []⟩

/-- The number of runs of the probe so far. -/
def Sys.probes (s : Sys) : ℕ := s.log.count .pkgConfig

/-- The outside world: the outcome of the `n`-th run of the probe, and the store as the call
made after `n` others finds it. -/
structure World where
  probe : ℕ → ProbeOutcome
  db : ℕ → OpenvasDB

/-- `_set_nvti_cache_name()`: runs the probe, then sets the name it returns or raises. -/
def setNvtiCacheName (w : World) (s : Sys) : Except PyErr String × Sys :=
  let s' : Sys := ⟨s.cache, s.log ++ [.pkgConfig]⟩
  match probeVersion (w.probe s.probes) with
  | .ok v => (.ok ("nvticache" ++ v), ⟨⟨some ("nvticache" ++ v)⟩, s'.log⟩)
  | .error e => (.error e, s')

/-- `_get_nvti_cache_name()`: an unset or empty name is set first. -/
def getNvtiCacheName (w : World) (s : Sys) : Except PyErr String × Sys :=
  match s.cache.nvtiCacheName with
  | some name => if name ≠ "" then (.ok name, s) else setNvtiCacheName w s
  | none => setNvtiCacheName w s

/-- `get_redis_context()`: the database tagged with the name. -/
def getRedisContext (w : World) (s : Sys) : Except PyErr (Option RedisCtx) × Sys :=
  match getNvtiCacheName w s with
  | (.ok name, s) => (.ok ((w.db s.log.length).dbFind name), ⟨s.cache, s.log ++ [.dbFind name]⟩)
  | (.error e, s) => (.error e, s)

/-- `get_feed_version()`: the item stored under the name, in the database tagged with it. -/
def getFeedVersion (w : World) (s : Sys) : Except PyErr (Option String) × Sys :=
  match getRedisContext w s with
  | (.error e, s) => (.error e, s)
  | (.ok ctx, s) =>
    match getNvtiCacheName w s with
    | (.error e, s) => (.error e, s)
    | (.ok name, s) =>
      (.ok ((w.db s.log.length).getSingleItem ctx name listFirstPos),
        ⟨s.cache, s.log ++ [.getSingleItem name ctx]⟩)

/-- The calls a user makes on the object. -/
inductive Op
  | getRedisContext
  | getFeedVersion

/-- What a call returns. -/
inductive Reply
  | ctx (c : Option RedisCtx)
  | feedVersion (v : Option String)

/-- One call: what it returns or raises, and the state it leaves; a call that raises leaves the
state it had reached. -/
def Op.step (w : World) (s : Sys) : Op → Except PyErr Reply × Sys
  | .getRedisContext =>
    ((OspdOpenvas.getRedisContext w s).1.map .ctx, (OspdOpenvas.getRedisContext w s).2)
  | .getFeedVersion =>
    ((OspdOpenvas.getFeedVersion w s).1.map .feedVersion, (OspdOpenvas.getFeedVersion w s).2)

/-- A run of calls on one object: what each returns or raises, in order, and the final state. -/
def run (w : World) : Sys → List Op → List (Except PyErr Reply) × Sys
  | s, [] => ([], s)
  | s, op :: ops => ((op.step w s).1 :: (run w (op.step w s).2 ops).1, (run w (op.step w s).2 ops).2)

/-! ## Setting the name -/

/-- **`_set_nvti_cache_name` on a probe that prints a PEP 440 version** sets the name to
`'nvticache' + v` exactly when the version has epoch `0`, a release starting with `20`, and is at
least `20.4`; otherwise it raises `OspdOpenvasError` and leaves the object as it was. -/
theorem setNvtiCacheName_pep440 (w : World) (s : Sys) (result : List UInt8) (v : String)
    (V : Version) (hout : w.probe s.probes = .output result) (hv : versionString result = .ok v)
    (hV : parseVersion v = .version V) :
    setNvtiCacheName w s =
      if V.epoch = 0 ∧ V.release.head? = some 20 ∧ V.compare version204 ≠ .lt then
        (.ok ("nvticache" ++ v), ⟨⟨some ("nvticache" ++ v)⟩, s.log ++ [.pkgConfig]⟩)
      else (.error (.OspdOpenvasError (incompatibleMsg v)), ⟨s.cache, s.log ++ [.pkgConfig]⟩) := by
  rw [setNvtiCacheName, hout, probeVersion_output hv hV]
  split_ifs <;> rfl

/-- A world whose probe always prints `text`. -/
def probeWorld (text : List UInt8) : World := ⟨fun _ => .output text, fun _ => mockOpenvasDB none none⟩

/-- A probe printing `20.4.1` names the cache `nvticache20.4.1`, and the probe ran once. -/
theorem setNvtiCacheName_20_4_1 :
    setNvtiCacheName (probeWorld [50, 48, 46, 52, 46, 49, 10]) Sys.init =
      (.ok "nvticache20.4.1", ⟨⟨some "nvticache20.4.1"⟩, [.pkgConfig]⟩) := by
  rw [setNvtiCacheName_pep440 (probeWorld [50, 48, 46, 52, 46, 49, 10]) Sys.init
    [50, 48, 46, 52, 46, 49, 10] "20.4.1" ⟨0, [20, 4, 1], List.cons_ne_nil _ _, none, none, none,
    none⟩ rfl rfl rfl, if_pos (by decide)]
  rfl

/-- A version of epoch `1` with major `20`, above `20.4`, is refused. -/
theorem setNvtiCacheName_epoch :
    (∃ V : Version, parseVersion "1!20.5" = .version V ∧ V.release.head? = some 20 ∧
        V.compare version204 ≠ .lt) ∧
      setNvtiCacheName (probeWorld [49, 33, 50, 48, 46, 53]) Sys.init =
        (.error (.OspdOpenvasError (incompatibleMsg "1!20.5")), ⟨⟨none⟩, [.pkgConfig]⟩) :=
  ⟨⟨_, rfl, rfl, by decide⟩, rfl⟩

/-! ## Resolving the name, and what escapes it -/

theorem getNvtiCacheName_named (w : World) {s : Sys} {n : String}
    (h : s.cache.nvtiCacheName = some n) (hn : n ≠ "") : getNvtiCacheName w s = (.ok n, s) := by
  simp [getNvtiCacheName, h, hn]

theorem getNvtiCacheName_unnamed (w : World) {s : Sys}
    (h : ∀ n, s.cache.nvtiCacheName = some n → n = "") :
    getNvtiCacheName w s = setNvtiCacheName w s := by
  unfold getNvtiCacheName
  split
  · next name hname => simp [h name hname]
  · rfl

/-- `_set_nvti_cache_name` sets the name, or raises and leaves the object as it was; the probe
runs once either way. -/
theorem setNvtiCacheName_cases (w : World) (s : Sys) :
    (∃ v, setNvtiCacheName w s =
        (.ok ("nvticache" ++ v), ⟨⟨some ("nvticache" ++ v)⟩, s.log ++ [.pkgConfig]⟩)) ∨
      ∃ e, setNvtiCacheName w s = (.error e, ⟨s.cache, s.log ++ [.pkgConfig]⟩) := by
  unfold setNvtiCacheName
  cases probeVersion (w.probe s.probes) with
  | ok v => exact .inl ⟨v, rfl⟩
  | error e => exact .inr ⟨e, rfl⟩

/-- What `_set_nvti_cache_name` returns or raises is what the run of the probe gives. -/
theorem setNvtiCacheName_fst (w : World) (s : Sys) :
    (setNvtiCacheName w s).1 = (probeVersion (w.probe s.probes)).map ("nvticache" ++ ·) := by
  unfold setNvtiCacheName
  cases probeVersion (w.probe s.probes) <;> rfl

/-- An exception of the probe that `except (CalledProcessError, PermissionError)` does not catch
escapes as it is. -/
theorem probeVersion_raised {e : PyErr}
    (h : ∀ t, e ≠ .CalledProcessError t ∧ e ≠ .PermissionError t) :
    probeVersion (.raised e) = .error e := by
  cases e <;> first | rfl | exact absurd rfl (h _).1 | exact absurd rfl (h _).2

/-- Output that is not UTF-8 raises the error of decoding it. -/
theorem probeVersion_undecodable {r : List UInt8} {e : PyErr} (h : decodeUtf8 r = .error e) :
    probeVersion (.output r) = .error e := by
  simp only [probeVersion, versionString, h]
  rfl

/-- Every exception of a run of the probe is `OspdOpenvasError`, an exception of the probe that
the clause does not catch, or the error of decoding its output. -/
theorem probeVersion_error {o : ProbeOutcome} {e : PyErr} (h : probeVersion o = .error e) :
    (∃ msg, e = .OspdOpenvasError msg) ∨
      (o = .raised e ∧ ∀ t, e ≠ .CalledProcessError t ∧ e ≠ .PermissionError t) ∨
      ∃ r, o = .output r ∧ decodeUtf8 r = .error e := by
  cases o with
  | raised e' => cases e' <;> simp only [probeVersion, Except.error.injEq] at h <;> subst h <;> simp
  | output r =>
    cases hd : decodeUtf8 r with
    | error e' =>
      rw [probeVersion_undecodable hd, Except.error.injEq] at h
      exact .inr (.inr ⟨r, rfl, h ▸ hd⟩)
    | ok text =>
      simp only [probeVersion, versionString, hd, Functor.map, Except.map, bind, Except.bind] at h
      split_ifs at h
      · cases h
      · cases h
        exact .inl ⟨_, rfl⟩


/-- **What escapes `_get_nvti_cache_name` while the name is unset**, for every outcome of the
probe. It sets the name, or raises and leaves the object as it was. What it raises is
`OspdOpenvasError`, or an exception the `except` clause does not catch: an exception of the
probe other than `CalledProcessError` and `PermissionError` (the `FileNotFoundError` of a missing
`pkg-config`), or the `UnicodeDecodeError` of output that is not UTF-8; both of these always
escape as they are. -/
theorem getNvtiCacheName_escapes (w : World) (s : Sys)
    (hs : ∀ n, s.cache.nvtiCacheName = some n → n = "") :
    ((∃ v, getNvtiCacheName w s =
        (.ok ("nvticache" ++ v), ⟨⟨some ("nvticache" ++ v)⟩, s.log ++ [.pkgConfig]⟩)) ∨
      ∃ e, getNvtiCacheName w s = (.error e, ⟨s.cache, s.log ++ [.pkgConfig]⟩)) ∧
    (∀ e, (getNvtiCacheName w s).1 = .error e →
      (∃ msg, e = .OspdOpenvasError msg) ∨
        (w.probe s.probes = .raised e ∧ ∀ t, e ≠ .CalledProcessError t ∧ e ≠ .PermissionError t) ∨
        ∃ r, w.probe s.probes = .output r ∧ decodeUtf8 r = .error e) ∧
    (∀ e, (∀ t, e ≠ .CalledProcessError t ∧ e ≠ .PermissionError t) →
      w.probe s.probes = .raised e → (getNvtiCacheName w s).1 = .error e) ∧
    (∀ r e, w.probe s.probes = .output r → decodeUtf8 r = .error e →
      (getNvtiCacheName w s).1 = .error e) := by
  rw [getNvtiCacheName_unnamed w hs, setNvtiCacheName_fst]
  refine ⟨setNvtiCacheName_cases w s, fun e he => probeVersion_error ?_,
    fun e hu ho => by rw [ho, probeVersion_raised hu]; rfl,
    fun r e ho hd => by rw [ho, probeVersion_undecodable hd]; rfl⟩
  cases hp : probeVersion (w.probe s.probes) with
  | ok v => rw [hp] at he; cases he
  | error e' => rw [hp] at he; cases he; rfl

/-- A probe that prints the byte `0xFF`, which is not UTF-8: `UnicodeDecodeError` escapes. -/
theorem getNvtiCacheName_non_utf8 :
    (∀ n, Sys.init.cache.nvtiCacheName = some n → n = "") ∧
      (getNvtiCacheName (probeWorld [0xFF]) Sys.init).1 = .error .UnicodeDecodeError :=
  ⟨nofun, (getNvtiCacheName_escapes (probeWorld [0xFF]) Sys.init nofun).2.2.2 [0xFF] _ rfl rfl⟩

/-- A world whose probe always raises `e`. -/
def raisingWorld (e : PyErr) : World := ⟨fun _ => .raised e, fun _ => mockOpenvasDB none none⟩

/-- Without a `pkg-config` binary, `check_output` raises `FileNotFoundError`, which escapes
`_get_nvti_cache_name` in place of `OspdOpenvasError`; the name stays unset. -/
theorem getNvtiCacheName_missing_binary :
    getNvtiCacheName (raisingWorld (.FileNotFoundError "No such file or directory: pkg-config"))
        Sys.init =
      (.error (.FileNotFoundError "No such file or directory: pkg-config"), ⟨⟨none⟩, [.pkgConfig]⟩) :=
  rfl

end OspdOpenvas
