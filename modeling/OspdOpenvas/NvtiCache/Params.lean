import OspdOpenvas.NvtiCache.Schema

/-!
# The parameters of a VT

`get_nvt_params` merges two reads of the store into the parameters of a VT: a descriptor of the
script timeout, synthesized when the timeout is a positive integer, then one descriptor per
preference, in list order, each assigned to its id, so that a later id overwrites an earlier one.

* `nvtParamsOf_eq`: once the timeout parses, the result is the merge of the decoded preferences,
  or `IndexError` as soon as one preference lacks a segment the loop reads (`Decodes`).
* `getNvtParams_merge`: for preferences laid out by the writer (`PrefEntry.encode`), the result
  is the merge of the entries, `mergeParams`, whose keys and values are described entry by entry.
* `getNvtParams_segments`: a preference with fewer than three segments, or with three and a
  type, makes the whole call raise.
-/

namespace OspdOpenvas

open Py

/-- A parameter descriptor: the dictionary with keys `id`, `type`, `name`, `description` and
`default` that `get_nvt_params` builds for each parameter. -/
structure VtParam where
  id : String
  type : String
  name : String
  description : String
  default : String
  deriving DecidableEq, Repr

/-- The descriptor of the script timeout, `vt_params['0']`. -/
def timeoutParam (timeout : String) : VtParam where
  id := "0"
  type := "entry"
  name := "timeout"
  description := "Script Timeout"
  default := timeout

/-- The id and descriptor of one preference, from the segments of `nvt_pref.split('|||')`. The
code fills `vt_params[_param_id]` in place after binding it to `dict()`; when an index fails, the
exception leaves `get_nvt_params`, and the half-filled dictionary with it. -/
def prefParam (nvtPref : String) : Except PyErr (String × VtParam) := do
  let elem := split nvtPref "|||" none
  let paramId ← getItem elem 0
  let type ← getItem elem 2
  let name ← getItem elem 1
  let default ← if type ≠ "" then getItem elem 3 else pure ""
  pure (paramId,
    { id := paramId, type := type, name := strip name, description := "Description",
      default := default })

/-- One pass of the preference loop. -/
def addPref (vtParams : PyDict String VtParam) (nvtPref : String) :
    Except PyErr (PyDict String VtParam) :=
  (fun p => vtParams.insert p.1 p.2) <$> prefParam nvtPref

/-- `vt_params` before the preference loop: the timeout descriptor when `int(timeout) > 0`. -/
def initParams (timeout : String) (t : ℤ) : PyDict String VtParam :=
  if 0 < t then (∅ : PyDict String VtParam).insert "0" (timeoutParam timeout) else ∅

/-- `get_nvt_params` after its two reads. An empty preference list is falsy and runs no loop,
as the loop over it would. -/
def nvtParamsOf (prefs : Option (List String)) (timeout : Option String) :
    Except PyErr (Option (PyDict String VtParam)) :=
  match timeout with
  | none => pure none
  | some timeout => do
    let vtParams := initParams timeout (← int timeout)
    match prefs with
    | some prefs => some <$> prefs.foldlM addPref vtParams
    | none => pure (some vtParams)

/-- `NVTICache.get_nvt_prefs(ctx, oid)`: the whole list, the store's default range. -/
def getNvtPrefs (db : OpenvasDB) (ctx : Option RedisCtx) (oid : String) : Option (List String) :=
  db.getListItem ctx (prefsKey oid) listFirstPos listLastPos

/-- `NVTICache.get_nvt_timeout(ctx, oid)`. -/
def getNvtTimeout (db : OpenvasDB) (ctx : Option RedisCtx) (oid : String) : Option String :=
  db.getSingleItem ctx (nvtKey oid) (nvtMetaPos "NVT_TIMEOUT_POS")

/-- `NVTICache.get_nvt_params(oid)`. -/
def getNvtParams (db : OpenvasDB) (oid : String) :
    Except PyErr (Option (PyDict String VtParam)) :=
  nvtParamsOf (getNvtPrefs db db.getKbContext oid) (getNvtTimeout db db.getKbContext oid)

/-! ## Decoding one preference -/

/-- The segments the loop reads are present: three, and a fourth when the type is not empty. -/
def Decodes (nvtPref : String) : Prop :=
  3 ≤ (split nvtPref "|||" none).length ∧
    ((split nvtPref "|||" none).getD 2 "" ≠ "" → 4 ≤ (split nvtPref "|||" none).length)

instance : DecidablePred Decodes := fun p =>
  inferInstanceAs (Decidable (3 ≤ (split p "|||" none).length ∧
    ((split p "|||" none).getD 2 "" ≠ "" → 4 ≤ (split p "|||" none).length)))

/-- The id and descriptor the loop builds from a preference, a missing segment read as `''`. -/
def prefFields (nvtPref : String) : String × VtParam :=
  let elem := split nvtPref "|||" none
  (elem.getD 0 "",
    { id := elem.getD 0 "", type := elem.getD 2 "", name := strip (elem.getD 1 ""),
      description := "Description", default := if elem.getD 2 "" ≠ "" then elem.getD 3 "" else "" })

/-- What the loop body does with one preference. -/
theorem prefParam_eq (nvtPref : String) :
    prefParam nvtPref = if Decodes nvtPref then .ok (prefFields nvtPref) else .error .IndexError := by
  simp only [prefParam, Decodes, prefFields]
  generalize split nvtPref "|||" none = elem
  rcases elem with _ | ⟨a, _ | ⟨b, _ | ⟨c, _ | ⟨d, rest⟩⟩⟩⟩ <;>
    simp [getItem, bind, Except.bind, pure, Except.pure]
  split_ifs <;> rfl

theorem addPref_eq (vtParams : PyDict String VtParam) (nvtPref : String) :
    addPref vtParams nvtPref = if Decodes nvtPref
      then .ok (vtParams.insert (prefFields nvtPref).1 (prefFields nvtPref).2)
      else .error .IndexError := by
  rw [addPref, prefParam_eq]
  split_ifs <;> rfl

/-- **`get_nvt_params` once the timeout parses**: the merge of the decoded preferences, or
`IndexError` when one of them lacks a segment the loop reads. -/
theorem nvtParamsOf_eq (prefs : List String) {t : String} {z : ℤ} (hz : int t = .ok z) :
    nvtParamsOf (some prefs) (some t) =
      if ∀ p ∈ prefs, Decodes p then .ok (some ((initParams t z).insertAll (prefs.map prefFields)))
      else .error .IndexError := by
  simp only [nvtParamsOf, hz, bind, Except.bind]
  split_ifs with h
  · rw [foldlM_eq_ok (g := fun d p => d.insert (prefFields p).1 (prefFields p).2)
      (fun p hp d => by rw [addPref_eq, if_pos (h p hp)])]
    simp [PyDict.insertAll, List.foldl_map, Functor.map, Except.map]
  · push_neg at h
    rw [foldlM_eq_error (e := PyErr.IndexError)]
    · rfl
    · obtain ⟨p, hp, hd⟩ := h
      exact ⟨p, hp, fun d => ⟨_, by rw [addPref_eq, if_neg hd]⟩⟩
    · intro p _ d e he
      rw [addPref_eq] at he
      split_ifs at he
      cases he
      rfl

theorem nvtParamsOf_none (prefs : Option (List String)) : nvtParamsOf prefs none = .ok none := rfl

/-! ## Preferences as the writer lays them out -/

/-- A preference as the cache writer stores it. -/
structure PrefEntry where
  id : String
  name : String
  type : String
  default : String
  deriving DecidableEq, Repr

namespace PrefEntry

/-- The stored text, `id + '|||' + name + '|||' + type + '|||' + default`. -/
def encode (e : PrefEntry) : String :=
  e.id ++ "|||" ++ e.name ++ "|||" ++ e.type ++ "|||" ++ e.default

/-- A field the separator cannot straddle: it holds no `|||` and does not end in `|`. -/
def FieldOk (s : String) : Prop := ¬ Contains s "|||" ∧ ¬ EndsWith s "|"

instance (s : String) : Decidable (FieldOk s) :=
  inferInstanceAs (Decidable (¬ Contains s "|||" ∧ ¬ EndsWith s "|"))

/-- The writer's conditions on an entry; the default, the last field, may end in `|`. -/
def WellFormed (e : PrefEntry) : Prop :=
  FieldOk e.id ∧ FieldOk e.name ∧ FieldOk e.type ∧ ¬ Contains e.default "|||"

instance : DecidablePred WellFormed := fun e =>
  inferInstanceAs (Decidable (FieldOk e.id ∧ FieldOk e.name ∧ FieldOk e.type ∧
    ¬ Contains e.default "|||"))

/-- The descriptor of an entry in the merge law: its fields, the name stripped, the default
kept only under a type. -/
def param (e : PrefEntry) : VtParam where
  id := e.id
  type := e.type
  name := strip e.name
  description := "Description"
  default := if e.type ≠ "" then e.default else ""

theorem encode_eq_join (e : PrefEntry) : e.encode = join "|||" [e.id, e.name, e.type, e.default] := by
  simp only [encode, join_cons_cons, join_singleton, String.append_assoc]

/-- No occurrence of `|||` can start inside a field that holds none and does not end in `|`. -/
theorem FieldOk.bordered {s : String} (h : FieldOk s) : Bordered "|||".data s.data := by
  refine ⟨h.1, fun t ht hs hlt hp => h.2 ?_⟩
  rcases t with _ | ⟨c, _ | ⟨d, _ | ⟨x, r⟩⟩⟩
  · exact absurd rfl ht
  · obtain rfl : '|' = c := by simpa using hp
    exact hs
  · obtain ⟨-, rfl⟩ : '|' = c ∧ '|' = d := by simpa using hp
    exact (List.suffix_cons c [_]).trans hs
  · have h3 : "|||".data.length = 3 := rfl
    simp only [List.length_cons, h3] at hlt
    omega

theorem split_encode {e : PrefEntry} (h : e.WellFormed) :
    split e.encode "|||" none = [e.id, e.name, e.type, e.default] := by
  rw [encode_eq_join]
  refine split_join (by decide) (by simp) ?_ (by simpa using h.2.2.2)
  simp only [List.dropLast, List.mem_cons, List.mem_singleton, List.not_mem_nil, or_false]
  rintro p (rfl | rfl | rfl)
  exacts [h.1.bordered, h.2.1.bordered, h.2.2.1.bordered]

theorem prefFields_encode {e : PrefEntry} (h : e.WellFormed) :
    Decodes e.encode ∧ prefFields e.encode = (e.id, e.param) := by
  simp [Decodes, prefFields, param, split_encode h]

end PrefEntry

/-- The merge law: from the timeout descriptor (when `int(t) > 0`), assign each entry's
descriptor to its id, in list order. -/
def mergeParams (timeout : String) (t : ℤ) (es : List PrefEntry) : PyDict String VtParam :=
  (initParams timeout t).insertAll (es.map fun e => (e.id, e.param))

@[simp] theorem get?_initParams (timeout : String) (t : ℤ) (k : String) :
    (initParams timeout t).get? k = if k = "0" ∧ 0 < t then some (timeoutParam timeout) else none := by
  by_cases ht : 0 < t <;> by_cases hk : k = "0" <;> simp [initParams, ht, hk, eq_comm]

theorem keys_initParams (timeout : String) (t : ℤ) :
    (initParams timeout t).keys = if 0 < t then ["0"] else [] := by
  by_cases ht : 0 < t <;> simp [initParams, ht, PyDict.keys, PyDict.setEntry]

theorem lookupEntry_map_param (k : String) (es : List PrefEntry) :
    PyDict.lookupEntry k (es.map fun e => (e.id, e.param)) =
      (es.find? fun e => e.id == k).map PrefEntry.param := by
  induction es with
  | nil => rfl
  | cons e es ih => by_cases h : e.id = k <;> simp [h, ih]

/-- The keys of the merge: the ids of the entries, and `'0'` under a positive timeout. -/
theorem mem_keys_mergeParams (timeout : String) (t : ℤ) (es : List PrefEntry) (k : String) :
    k ∈ (mergeParams timeout t es).keys ↔ (∃ e ∈ es, e.id = k) ∨ (k = "0" ∧ 0 < t) := by
  rw [mergeParams, PyDict.keys_insertAll, PyDict.mem_addKeys, keys_initParams, or_comm]
  by_cases ht : 0 < t <;> simp [ht]

/-- A key of the merge holds the descriptor of its last entry, or else the timeout descriptor. -/
theorem get?_mergeParams (timeout : String) (t : ℤ) (es : List PrefEntry) (k : String) :
    (mergeParams timeout t es).get? k =
      ((es.reverse.find? fun e => e.id == k).map PrefEntry.param).or
        (if k = "0" ∧ 0 < t then some (timeoutParam timeout) else none) := by
  rw [mergeParams, PyDict.get?_insertAll, ← List.map_reverse, lookupEntry_map_param, get?_initParams]

/-- The timeout descriptor survives exactly when it was synthesized and no entry has id `'0'`:
an entry's descriptor never equals it, its description being `Description`. -/
theorem get?_mergeParams_zero (timeout : String) (t : ℤ) (es : List PrefEntry) :
    (mergeParams timeout t es).get? "0" = some (timeoutParam timeout) ↔
      0 < t ∧ ∀ e ∈ es, e.id ≠ "0" := by
  rw [get?_mergeParams]
  cases hf : es.reverse.find? fun e => e.id == "0" with
  | none =>
    simp only [List.find?_eq_none, List.mem_reverse, beq_iff_eq] at hf
    by_cases ht : 0 < t
    · simpa [ht] using hf
    · simp [ht]
  | some e =>
    have he := List.mem_reverse.mp (List.mem_of_find?_eq_some hf)
    have hid : e.id = "0" := by simpa using List.find?_some hf
    simp only [Option.map_some', Option.or_some, Option.some.injEq]
    exact iff_of_false (fun h => by simpa [PrefEntry.param, timeoutParam] using congrArg VtParam.description h)
      fun h => h.2 e he hid

theorem getNvtParams_eq_mergeParams {db : OpenvasDB} {oid t : String} {z : ℤ} {es : List PrefEntry}
    (hprefs : getNvtPrefs db db.getKbContext oid = some (es.map PrefEntry.encode))
    (hwf : ∀ e ∈ es, e.WellFormed) (ht : getNvtTimeout db db.getKbContext oid = some t)
    (hz : int t = .ok z) : getNvtParams db oid = .ok (some (mergeParams t z es)) := by
  have hfields : (es.map PrefEntry.encode).map prefFields = es.map fun e => (e.id, e.param) := by
    rw [List.map_map]
    exact List.map_congr_left fun e he => (PrefEntry.prefFields_encode (hwf e he)).2
  rw [getNvtParams, hprefs, ht, nvtParamsOf_eq _ hz, if_pos, hfields, mergeParams]
  simpa using fun e he => (PrefEntry.prefFields_encode (hwf e he)).1

/-- **The merge law of `get_nvt_params`.** For preferences laid out by the writer, a timeout
that parses gives, without raising, the merge of the entries: its keys are the ids, and `'0'`
under a positive timeout; each id holds the descriptor of its last entry; the timeout descriptor
survives exactly when it was synthesized and no entry has id `'0'`. An absent timeout gives
`None`. -/
theorem getNvtParams_merge (db : OpenvasDB) (oid : String) (es : List PrefEntry)
    (hprefs : getNvtPrefs db db.getKbContext oid = some (es.map PrefEntry.encode))
    (hwf : ∀ e ∈ es, e.WellFormed) :
    (∀ t z, getNvtTimeout db db.getKbContext oid = some t → int t = .ok z →
      getNvtParams db oid = .ok (some (mergeParams t z es)) ∧
      (∀ k, k ∈ (mergeParams t z es).keys ↔ (∃ e ∈ es, e.id = k) ∨ (k = "0" ∧ 0 < z)) ∧
      (∀ k, (mergeParams t z es).get? k =
        ((es.reverse.find? fun e => e.id == k).map PrefEntry.param).or
          (if k = "0" ∧ 0 < z then some (timeoutParam t) else none)) ∧
      ((mergeParams t z es).get? "0" = some (timeoutParam t) ↔ 0 < z ∧ ∀ e ∈ es, e.id ≠ "0")) ∧
    (getNvtTimeout db db.getKbContext oid = none → getNvtParams db oid = .ok none) :=
  ⟨fun t z ht hz => ⟨getNvtParams_eq_mergeParams hprefs hwf ht hz, mem_keys_mergeParams t z es,
      get?_mergeParams t z es, get?_mergeParams_zero t z es⟩,
    fun ht => by rw [getNvtParams, ht]; rfl⟩

/-- The preferences of the first case of the unit test, one with a default, read with the
timeout `10`. -/
theorem getNvtParams_merge_prefs1 :
    getNvtParams (mockOpenvasDB (some ["1|||dns-fuzz.timelimit|||entry|||default"]) (some "10"))
        "1.2.3.4" =
      .ok (some (mergeParams "10" 10 [⟨"1", "dns-fuzz.timelimit", "entry", "default"⟩])) :=
  ((getNvtParams_merge (mockOpenvasDB (some ["1|||dns-fuzz.timelimit|||entry|||default"]) (some "10"))
    "1.2.3.4" [⟨"1", "dns-fuzz.timelimit", "entry", "default"⟩] rfl (by decide)).1 "10" 10 rfl rfl).1

example : (mergeParams "10" 10 [⟨"1", "dns-fuzz.timelimit", "entry", "default"⟩]).entries =
    [("0", timeoutParam "10"), ("1", ⟨"1", "entry", "dns-fuzz.timelimit", "Description", "default"⟩)] := by
  decide

/-! ## Preferences with missing segments -/

/-- **A preference that lacks a segment the loop reads aborts the whole call.** Once the timeout
parses, a preference with fewer than three segments, or with three and a non-empty type, makes
`get_nvt_params` raise `IndexError`; when every preference has its segments the call returns
their merge, and a preference of three segments with an empty type decodes with default `''`. -/
theorem getNvtParams_segments (db : OpenvasDB) (oid t : String) (z : ℤ) (prefs : List String)
    (ht : getNvtTimeout db db.getKbContext oid = some t) (hz : int t = .ok z)
    (hprefs : getNvtPrefs db db.getKbContext oid = some prefs) :
    ((∃ p ∈ prefs, (split p "|||" none).length < 3 ∨
        ((split p "|||" none).length = 3 ∧ (split p "|||" none).getD 2 "" ≠ "")) →
      getNvtParams db oid = .error .IndexError) ∧
    ((∀ p ∈ prefs, Decodes p) →
      getNvtParams db oid = .ok (some ((initParams t z).insertAll (prefs.map prefFields)))) ∧
    (∀ p, (split p "|||" none).length = 3 → (split p "|||" none).getD 2 "" = "" →
      Decodes p ∧ (prefFields p).2.default = "") := by
  rw [getNvtParams, hprefs, ht, nvtParamsOf_eq _ hz]
  refine ⟨?_, fun h => if_pos h, fun p h3 hty => ⟨⟨h3.ge, fun h => absurd hty h⟩,
    by simp only [prefFields, hty, ne_eq, not_true_eq_false, if_false]⟩⟩
  rintro ⟨p, hp, hshort⟩
  refine if_neg fun h => ?_
  obtain ⟨h3, h4⟩ := h p hp
  rcases hshort with hlt | ⟨heq, hty⟩
  · omega
  · have := h4 hty
    omega

/-- The third case of the unit test, a preference without its default segment: the call raises
where the test expects the default `''`. -/
theorem getNvtParams_prefs3 :
    getNvtParams (mockOpenvasDB (some ["1|||dns-fuzz.timelimit|||entry"]) (some "10")) "1.2.3.4" =
      .error .IndexError :=
  (getNvtParams_segments (mockOpenvasDB (some ["1|||dns-fuzz.timelimit|||entry"]) (some "10"))
    "1.2.3.4" "10" 10 ["1|||dns-fuzz.timelimit|||entry"] rfl rfl rfl).1
    ⟨_, List.mem_singleton_self _, .inr (by decide)⟩

end OspdOpenvas
