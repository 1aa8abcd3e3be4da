import OspdOpenvas.Python.Builtins
import Mathlib.Data.List.Nodup

/-!
# Python dictionaries

A `dict` keeps its keys in insertion order: `d[k] = v` replaces the value of a key it holds, in
place, and appends a new key at the end. `PyDict` carries the distinctness of its keys as a field,
so that no operation has to re-establish it.

* `get?_insert`, `keys_insert`: what one assignment does.
* `get?_insertAll`: after a run of assignments a key holds the value of its last one.
* `insertAll_eq_update`: assigning pairs one by one is `update` with the dictionary they build.
* `entries_insertAll_of_fresh`, `entries_update_of_disjoint`: with keys that are all new, the
  entries are appended in order.
-/

namespace OspdOpenvas.Py

/-- A Python `dict`: its entries in insertion order, with pairwise distinct keys. -/
structure PyDict (κ ν : Type) where
  entries : List (κ × ν)
  nodup : (entries.map Prod.fst).Nodup

namespace PyDict

variable {κ ν : Type}

instance : EmptyCollection (PyDict κ ν) := ⟨⟨[], List.nodup_nil⟩⟩

/-- The keys, in insertion order. -/
def keys (d : PyDict κ ν) : List κ := d.entries.map Prod.fst

theorem ext {d₁ d₂ : PyDict κ ν} (h : d₁.entries = d₂.entries) : d₁ = d₂ := by
  cases d₁; cases d₂; cases h; rfl

@[simp] theorem entries_empty : (∅ : PyDict κ ν).entries = [] := rfl

@[simp] theorem keys_empty : (∅ : PyDict κ ν).keys = [] := rfl

variable [DecidableEq κ]

/-! ## Entry lists -/

/-- The value of the first entry with key `k`. -/
def lookupEntry (k : κ) : List (κ × ν) → Option ν
  | [] => none
  | e :: es => if e.1 = k then some e.2 else lookupEntry k es

/-- The entries after `d[k] = v`: an entry with key `k` gets the value `v` in place; otherwise
`(k, v)` is appended. -/
def setEntry (k : κ) (v : ν) : List (κ × ν) → List (κ × ν)
  | [] => [(k, v)]
  | e :: es => if e.1 = k then (k, v) :: es else e :: setEntry k v es

@[simp] theorem lookupEntry_nil (k : κ) : lookupEntry k ([] : List (κ × ν)) = none := rfl

@[simp] theorem lookupEntry_cons (k : κ) (e : κ × ν) (es : List (κ × ν)) :
    lookupEntry k (e :: es) = if e.1 = k then some e.2 else lookupEntry k es := rfl

theorem lookupEntry_append (k : κ) (l₁ l₂ : List (κ × ν)) :
    lookupEntry k (l₁ ++ l₂) = (lookupEntry k l₁).or (lookupEntry k l₂) := by
  induction l₁ with
  | nil => simp
  | cons e es ih => by_cases h : e.1 = k <;> simp [h, ih]

theorem lookupEntry_eq_none {k : κ} {es : List (κ × ν)} (h : k ∉ es.map Prod.fst) :
    lookupEntry k es = none := by
  induction es with
  | nil => rfl
  | cons e es ih =>
    simp only [List.map_cons, List.mem_cons, not_or] at h
    simp [Ne.symm h.1, ih h.2]

@[simp] theorem lookupEntry_setEntry (k j : κ) (v : ν) (es : List (κ × ν)) :
    lookupEntry j (setEntry k v es) = if k = j then some v else lookupEntry j es := by
  induction es with
  | nil => simp [setEntry]
  | cons e es ih =>
    by_cases he : e.1 = k
    · by_cases hj : k = j <;> simp [setEntry, he, hj]
    · simp only [setEntry, he, if_false, lookupEntry_cons, ih]
      by_cases hj : e.1 = j
      · simp [hj, show k ≠ j from fun h => he (hj.trans h.symm)]
      · simp [hj]

theorem map_fst_setEntry (k : κ) (v : ν) (es : List (κ × ν)) :
    (setEntry k v es).map Prod.fst =
      if k ∈ es.map Prod.fst then es.map Prod.fst else es.map Prod.fst ++ [k] := by
  induction es with
  | nil => simp [setEntry]
  | cons e es ih =>
    by_cases he : e.1 = k
    · simp [setEntry, he]
    · simp only [setEntry, he, if_false, List.map_cons, ih, List.mem_cons, Ne.symm he, false_or]
      split <;> simp

theorem setEntry_of_not_mem {k : κ} {es : List (κ × ν)} (h : k ∉ es.map Prod.fst) (v : ν) :
    setEntry k v es = es ++ [(k, v)] := by
  induction es with
  | nil => rfl
  | cons e es ih =>
    simp only [List.map_cons, List.mem_cons, not_or] at h
    simp [setEntry, Ne.symm h.1, ih h.2]

/-! ## Dictionaries -/

/-- `d.get(k)`. -/
def get? (d : PyDict κ ν) (k : κ) : Option ν := lookupEntry k d.entries

/-- `d[k] = v`. -/
def insert (d : PyDict κ ν) (k : κ) (v : ν) : PyDict κ ν where
  entries := setEntry k v d.entries
  nodup := by
    rw [map_fst_setEntry]
    split
    · exact d.nodup
    · simpa [List.concat_eq_append] using d.nodup.concat ‹_›

/-- The assignments `d[k] = v` for the pairs of `l`, in order. -/
def insertAll (d : PyDict κ ν) (l : List (κ × ν)) : PyDict κ ν :=
  l.foldl (fun d e => d.insert e.1 e.2) d

/-- `d.update(e)`. -/
def update (d e : PyDict κ ν) : PyDict κ ν := d.insertAll e.entries

@[simp] theorem get?_empty (k : κ) : (∅ : PyDict κ ν).get? k = none := rfl

@[simp] theorem entries_insert (d : PyDict κ ν) (k : κ) (v : ν) :
    (d.insert k v).entries = setEntry k v d.entries := rfl

@[simp] theorem get?_insert (d : PyDict κ ν) (k j : κ) (v : ν) :
    (d.insert k v).get? j = if k = j then some v else d.get? j :=
  lookupEntry_setEntry k j v d.entries

theorem keys_insert (d : PyDict κ ν) (k : κ) (v : ν) :
    (d.insert k v).keys = if k ∈ d.keys then d.keys else d.keys ++ [k] :=
  map_fst_setEntry k v d.entries

@[simp] theorem insertAll_nil (d : PyDict κ ν) : d.insertAll [] = d := rfl

@[simp] theorem insertAll_cons (d : PyDict κ ν) (e : κ × ν) (l : List (κ × ν)) :
    d.insertAll (e :: l) = (d.insert e.1 e.2).insertAll l := rfl

theorem insertAll_append (d : PyDict κ ν) (l₁ l₂ : List (κ × ν)) :
    d.insertAll (l₁ ++ l₂) = (d.insertAll l₁).insertAll l₂ :=
  List.foldl_append _ _ _ _

/-- **After a run of assignments, a key holds the value of its last assignment**, or else the
value it had. -/
theorem get?_insertAll (d : PyDict κ ν) (l : List (κ × ν)) (j : κ) :
    (d.insertAll l).get? j = (lookupEntry j l.reverse).or (d.get? j) := by
  induction l generalizing d with
  | nil => simp
  | cons e l ih =>
    rw [insertAll_cons, ih, get?_insert, List.reverse_cons, lookupEntry_append, Option.or_assoc]
    by_cases h : e.1 = j <;> simp [h]

/-- In a dictionary the last entry with a key is its only one. -/
theorem lookupEntry_reverse (d : PyDict κ ν) (j : κ) : lookupEntry j d.entries.reverse = d.get? j := by
  obtain ⟨es, hnd⟩ := d
  simp only [get?]
  induction es with
  | nil => rfl
  | cons e es ih =>
    simp only [List.map_cons, List.nodup_cons] at hnd
    rw [List.reverse_cons, lookupEntry_append, ih hnd.2, lookupEntry_cons]
    by_cases h : e.1 = j
    · subst h
      simp [lookupEntry_eq_none hnd.1]
    · simp [h]

/-- In a dictionary, a key holds a value exactly when their pair is an entry. -/
theorem get?_eq_some_iff {d : PyDict κ ν} {k : κ} {v : ν} : d.get? k = some v ↔ (k, v) ∈ d.entries := by
  obtain ⟨es, hnd⟩ := d
  simp only [get?]
  induction es with
  | nil => simp
  | cons e es ih =>
    simp only [List.map_cons, List.nodup_cons] at hnd
    by_cases h : e.1 = k
    · subst h
      have : (e.1, v) ∉ es := fun hm => hnd.1 (List.mem_map.mpr ⟨_, hm, rfl⟩)
      simp [this, Prod.ext_iff, eq_comm]
    · simp [h, ih hnd.2, Prod.ext_iff, Ne.symm h]

/-- Two dictionaries with the same keys in the same order and the same values are equal. -/
theorem ext_of_get? {d₁ d₂ : PyDict κ ν} (hk : d₁.keys = d₂.keys)
    (hv : ∀ k, d₁.get? k = d₂.get? k) : d₁ = d₂ := by
  obtain ⟨es₁, h₁⟩ := d₁
  obtain ⟨es₂, h₂⟩ := d₂
  apply ext
  simp only [keys, get?] at hk hv ⊢
  induction es₁ generalizing es₂ with
  | nil => simpa using hk.symm
  | cons e₁ es₁ ih =>
    obtain _ | ⟨e₂, es₂⟩ := es₂
    · simp at hk
    simp only [List.map_cons, List.cons.injEq, List.nodup_cons] at hk h₁ h₂
    have hv₁ := hv e₁.1
    simp only [lookupEntry_cons, hk.1, if_true, Option.some.injEq] at hv₁
    refine congrArg₂ _ (Prod.ext hk.1 (by simpa [hk.1] using hv₁)) (ih h₁.2 es₂ h₂.2 hk.2 ?_)
    intro k
    by_cases hk₁ : e₁.1 = k
    · subst hk₁
      rw [lookupEntry_eq_none h₁.1, lookupEntry_eq_none (hk.1 ▸ h₂.1)]
    · simpa [hk₁, hk.1 ▸ hk₁] using hv k

/-! ## Order of the keys -/

/-- The keys after assigning keys `ks` in order, starting from the keys `acc`. -/
def addKeys (acc ks : List κ) : List κ :=
  ks.foldl (fun acc k => if k ∈ acc then acc else acc ++ [k]) acc

theorem keys_insertAll (d : PyDict κ ν) (l : List (κ × ν)) :
    (d.insertAll l).keys = addKeys d.keys (l.map Prod.fst) := by
  induction l generalizing d with
  | nil => rfl
  | cons e l ih => simp [ih, keys_insert, addKeys]

theorem mem_addKeys {acc ks : List κ} {k : κ} : k ∈ addKeys acc ks ↔ k ∈ acc ∨ k ∈ ks := by
  induction ks generalizing acc with
  | nil => simp [addKeys]
  | cons x ks ih =>
    show k ∈ addKeys (if x ∈ acc then acc else acc ++ [x]) ks ↔ _
    rw [ih]
    by_cases hx : x ∈ acc
    · by_cases hk : k = x
      · subst hk; simp [hx]
      · simp [hx, hk]
    · simp [hx, or_assoc]

theorem addKeys_append (acc ks : List κ) (k : κ) :
    addKeys acc (ks ++ [k]) = if k ∈ addKeys acc ks then addKeys acc ks else addKeys acc ks ++ [k] :=
  List.foldl_append _ _ _ _

/-- Adding keys one by one adds them in the order of their first occurrence. -/
theorem addKeys_addKeys (acc ks : List κ) : addKeys acc (addKeys [] ks) = addKeys acc ks := by
  induction ks using List.reverseRecOn with
  | nil => rfl
  | append_singleton ks k ih =>
    rw [addKeys_append [] ks k, addKeys_append acc ks k]
    by_cases h : k ∈ addKeys [] ks
    · have h' : k ∈ addKeys acc ks := mem_addKeys.mpr (.inr (by simpa [mem_addKeys] using h))
      simp [h, h', ih]
    · simp [h, addKeys_append, ih]

/-- **Assigning pairs one by one is `update` with the dictionary they build.** -/
theorem insertAll_eq_update (d : PyDict κ ν) (l : List (κ × ν)) :
    d.insertAll l = d.update ((∅ : PyDict κ ν).insertAll l) := by
  apply ext_of_get?
  · rw [update, keys_insertAll, keys_insertAll, ← keys, keys_insertAll]
    exact (addKeys_addKeys _ _).symm
  · intro k
    rw [update, get?_insertAll, get?_insertAll, lookupEntry_reverse, get?_insertAll]
    simp

/-- An assignment followed by an update is one update. -/
theorem insert_update (d e : PyDict κ ν) (k : κ) (v : ν) :
    (d.insert k v).update e = d.update (((∅ : PyDict κ ν).insert k v).update e) :=
  insertAll_eq_update d ((k, v) :: e.entries)

/-! ## Fresh keys -/

theorem entries_insert_of_not_mem {d : PyDict κ ν} {k : κ} (h : k ∉ d.keys) (v : ν) :
    (d.insert k v).entries = d.entries ++ [(k, v)] :=
  setEntry_of_not_mem h v

/-- Assigning keys none of which is already there appends the pairs. -/
theorem entries_insertAll_of_fresh {d : PyDict κ ν} {l : List (κ × ν)}
    (hl : (l.map Prod.fst).Nodup) (hd : ∀ k ∈ l.map Prod.fst, k ∉ d.keys) :
    (d.insertAll l).entries = d.entries ++ l := by
  induction l generalizing d with
  | nil => simp
  | cons e l ih =>
    simp only [List.map_cons, List.nodup_cons, List.mem_cons, forall_eq_or_imp] at hl hd
    rw [insertAll_cons, ih hl.2, entries_insert_of_not_mem hd.1, List.append_assoc,
      List.singleton_append]
    intro k hk
    rw [keys_insert, if_neg hd.1, List.mem_append, List.mem_singleton, not_or]
    exact ⟨hd.2 k hk, fun h => hl.1 (h ▸ hk)⟩

theorem entries_update_of_disjoint {d e : PyDict κ ν} (h : ∀ k ∈ e.keys, k ∉ d.keys) :
    (d.update e).entries = d.entries ++ e.entries :=
  entries_insertAll_of_fresh e.nodup h

@[simp] theorem empty_update (e : PyDict κ ν) : (∅ : PyDict κ ν).update e = e :=
  ext (by simpa using entries_update_of_disjoint (d := ∅) (e := e) (by simp))

@[simp] theorem update_empty (d : PyDict κ ν) : d.update ∅ = d := rfl

end PyDict

/-- `dict(l)` for a list of sequences: each must unpack into a key and a value. -/
def dictOfLists {α : Type} [DecidableEq α] (l : List (List α)) : Except PyErr (PyDict α α) :=
  l.foldlM (fun d e => (fun kv => d.insert kv.1 kv.2) <$> unpack2 e) ∅

end OspdOpenvas.Py
