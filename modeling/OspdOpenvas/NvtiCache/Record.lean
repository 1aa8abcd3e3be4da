import OspdOpenvas.NvtiCache.Tags

/-!
# The record decoder: metadata and references

`get_nvt_metadata` and `get_nvt_refs` read a range of the fields of a VT record and zip it with
the names of those fields. The metadata keeps every non-empty field but the references and the
tag field, and merges in the pairs decoded from the tag field; the references split each of
their three fields at `, `.

* `getNvtRefs_join`: the references decode field by field; fields joined from lists of references
  without `, ` decode back into those lists, and an empty field into `['']`.
* `getNvtRefs_rejoin`: the other way round, joining the decoded lists gives the fields read.
* `getNvtMetadata_entries`: when the tag keys differ from the field names, the entries of the
  metadata are exactly the non-empty plain fields and the decoded tags.

Both return `None` exactly when the read is empty or not a list.
-/

namespace OspdOpenvas

open Py

theorem map_fst_zip_sublist {α β : Type} (l₁ : List α) (l₂ : List β) :
    List.Sublist ((l₁.zip l₂).map Prod.fst) l₁ := by
  induction l₁ generalizing l₂ with
  | nil => simp
  | cons a l₁ ih =>
    cases l₂ with
    | nil => simp
    | cons b l₂ => exact (ih l₂).cons₂ a

/-! ## References -/

/-- The names `get_nvt_refs` zips with the fields it reads (`subelem`). -/
def refsSubelem : List String := ["cve", "bid", "xref"]

/-- The loop of `get_nvt_refs`: `refs[child] = res.split(", ")`. -/
def nvtRefsOf (resp : List String) : PyDict String (List String) :=
  (refsSubelem.zip resp).foldl (fun refs cr => refs.insert cr.1 (split cr.2 ", " none)) ∅

/-- `NVTICache.get_nvt_refs(oid)`: `None` when the read is empty or not a list. -/
def getNvtRefs (db : OpenvasDB) (oid : String) : Option (PyDict String (List String)) :=
  match db.getListItem db.getKbContext (nvtKey oid) (nvtMetaPos "NVT_CVES_POS")
      (nvtMetaPos "NVT_XREFS_POS") with
  | some (r :: rs) => some (nvtRefsOf (r :: rs))
  | _ => none

theorem entries_nvtRefsOf (resp : List String) :
    (nvtRefsOf resp).entries = (refsSubelem.zip resp).map fun cr => (cr.1, split cr.2 ", " none) := by
  have : nvtRefsOf resp = (∅ : PyDict String (List String)).insertAll
      ((refsSubelem.zip resp).map fun cr => (cr.1, split cr.2 ", " none)) := by
    simp [nvtRefsOf, PyDict.insertAll, List.foldl_map]
  rw [this]
  refine (PyDict.entries_insertAll_of_fresh ?_ (by simp)).trans (List.nil_append _)
  simpa [List.map_map] using
    (map_fst_zip_sublist refsSubelem resp).nodup (by decide : refsSubelem.Nodup)

/-- `, ` cannot overlap itself, so a part without it is bordered. -/
theorem bordered_comma_space {s : String} (h : ¬ Contains s ", ") : Bordered ", ".data s.data := by
  refine ⟨h, fun t ht _ hlt hp => ?_⟩
  rcases t with _ | ⟨c, _ | ⟨d, r⟩⟩
  · exact ht rfl
  · simp at hp
  · have h2 : ", ".data.length = 2 := rfl
    simp only [List.length_cons, h2] at hlt
    omega

theorem split_join_comma_space {refs : List String} (hne : refs ≠ [])
    (h : ∀ x ∈ refs, ¬ Contains x ", ") : split (join ", " refs) ", " none = refs :=
  split_join_of_bordered (by decide) hne fun x hx => bordered_comma_space (h x hx)

/-- **The references decode field by field.** `get_nvt_refs` returns `None` exactly when the read
is empty or not a list; otherwise each field it read is split at `, ` under its name, so an empty
field decodes to `['']`, and fields joined from non-empty lists of references without `, `
decode back into those lists. -/
theorem getNvtRefs_join (db : OpenvasDB) (oid : String) :
    (getNvtRefs db oid = none ↔ ∀ r, db.getListItem db.getKbContext (nvtKey oid)
        (nvtMetaPos "NVT_CVES_POS") (nvtMetaPos "NVT_XREFS_POS") = some r → r = []) ∧
    (∀ r, db.getListItem db.getKbContext (nvtKey oid) (nvtMetaPos "NVT_CVES_POS")
        (nvtMetaPos "NVT_XREFS_POS") = some r → r ≠ [] →
      ∃ d, getNvtRefs db oid = some d ∧
        d.entries = (refsSubelem.zip r).map (fun cr => (cr.1, split cr.2 ", " none)) ∧
        ∀ c, (c, "") ∈ refsSubelem.zip r → d.get? c = some [""]) ∧
    (∀ C B X : List String, C ≠ [] → B ≠ [] → X ≠ [] → (∀ x ∈ C ++ B ++ X, ¬ Contains x ", ") →
      db.getListItem db.getKbContext (nvtKey oid) (nvtMetaPos "NVT_CVES_POS")
          (nvtMetaPos "NVT_XREFS_POS") = some [join ", " C, join ", " B, join ", " X] →
      (getNvtRefs db oid).map PyDict.entries = some [("cve", C), ("bid", B), ("xref", X)]) := by
  refine ⟨?_, fun r hr hne => ?_, fun C B X hC hB hX h hr => ?_⟩
  · cases hr : db.getListItem db.getKbContext (nvtKey oid) (nvtMetaPos "NVT_CVES_POS")
      (nvtMetaPos "NVT_XREFS_POS") with
    | none => simp [getNvtRefs, hr]
    | some r => cases r <;> simp [getNvtRefs, hr]
  · obtain ⟨x, xs, rfl⟩ := List.exists_cons_of_ne_nil hne
    refine ⟨_, by rw [getNvtRefs, hr], entries_nvtRefsOf _, fun c hc => ?_⟩
    rw [PyDict.get?_eq_some_iff, entries_nvtRefsOf]
    exact List.mem_map.mpr ⟨_, hc, rfl⟩
  · simp only [List.forall_mem_append] at h
    rw [getNvtRefs, hr, Option.map_some', entries_nvtRefsOf]
    simp [refsSubelem, split_join_comma_space hC h.1.1, split_join_comma_space hB h.1.2,
      split_join_comma_space hX h.2]

/-- A record whose CVE and BID fields are empty and whose cross-reference field holds one URL:
each empty field decodes to `['']`. -/
theorem getNvtRefs_test :
    (getNvtRefs (mockOpenvasDB (some ["", "", "URL:http://example/"]) none) "1.2.3.4").map
      PyDict.entries = some [("cve", [""]), ("bid", [""]), ("xref", ["URL:http://example/"])] := by
  obtain ⟨d, hd, he, -⟩ := (getNvtRefs_join (mockOpenvasDB (some ["", "", "URL:http://example/"]) none)
    "1.2.3.4").2.1 _ rfl (by simp)
  rw [hd, Option.map_some', he]
  rfl

/-- **The references lose nothing**: joining each decoded list again with `, ` gives, under each
name, exactly the field read, for every store; an empty or absent read gives `None`. -/
theorem getNvtRefs_rejoin (db : OpenvasDB) (oid : String) :
    (getNvtRefs db oid).map (fun d => d.entries.map fun e => (e.1, join ", " e.2)) =
      (db.getListItem db.getKbContext (nvtKey oid) (nvtMetaPos "NVT_CVES_POS")
          (nvtMetaPos "NVT_XREFS_POS")).bind
        fun r => if r = [] then none else some (refsSubelem.zip r) := by
  cases hr : db.getListItem db.getKbContext (nvtKey oid) (nvtMetaPos "NVT_CVES_POS")
      (nvtMetaPos "NVT_XREFS_POS") with
  | none => simp [getNvtRefs, hr]
  | some r =>
    cases r with
    | nil => simp [getNvtRefs, hr]
    | cons x xs =>
      simp [getNvtRefs, hr, entries_nvtRefsOf, Function.comp_def,
        join_split (show (", " : String) ≠ "" by decide)]

/-! ## Metadata -/

/-- The names `get_nvt_metadata` zips with the fields of a record (`subelem`). -/
def metadataSubelem : List String :=
  ["filename", "required_keys", "mandatory_keys", "excluded_keys", "required_udp_ports",
    "required_ports", "dependencies", "tag", "cve", "bid", "xref", "category", "timeout",
    "family", "name"]

/-- One iteration of the loop of `get_nvt_metadata`, with the messages logged so far: a
non-empty field other than the references and the tags is copied, and the tag field is decoded
and merged in. -/
def metadataStep (oid : String) (acc : PyDict String String × List String)
    (cr : String × String) : PyDict String String × List String :=
  if cr.1 ∉ ["cve", "bid", "xref", "tag"] ∧ cr.2 ≠ "" then (acc.1.insert cr.1 cr.2, acc.2)
  else if cr.1 = "tag" then
    (acc.1.update (parseMetadataTags cr.2 oid).1, acc.2 ++ (parseMetadataTags cr.2 oid).2)
  else acc

/-- The loop of `get_nvt_metadata`. -/
def nvtMetadataOf (oid : String) (resp : List String) : PyDict String String × List String :=
  (metadataSubelem.zip resp).foldl (metadataStep oid) (∅, [])

/-- `NVTICache.get_nvt_metadata(oid)`, with the messages it logs: `None` when the read is empty
or not a list. -/
def getNvtMetadata (db : OpenvasDB) (oid : String) :
    Option (PyDict String String × List String) :=
  match db.getListItem db.getKbContext (nvtKey oid) (nvtMetaPos "NVT_FILENAME_POS")
      (nvtMetaPos "NVT_NAME_POS") with
  | some (r :: rs) => some (nvtMetadataOf oid (r :: rs))
  | _ => none

/-- The entries one iteration adds, when their keys are new. -/
def metadataContrib (oid : String) (cr : String × String) : List (String × String) :=
  if cr.1 ∉ ["cve", "bid", "xref", "tag"] ∧ cr.2 ≠ "" then [cr]
  else if cr.1 = "tag" then (parseMetadataTags cr.2 oid).1.entries
  else []

theorem mem_metadataContrib {oid : String} {cr kv : String × String} :
    kv ∈ metadataContrib oid cr ↔
      (cr.1 ∉ ["cve", "bid", "xref", "tag"] ∧ cr.2 ≠ "" ∧ kv = cr) ∨
        (cr.1 = "tag" ∧ kv ∈ (parseMetadataTags cr.2 oid).1.entries) := by
  unfold metadataContrib
  split_ifs with h1 h2
  · simp [h1, show cr.1 ≠ "tag" from fun h => h1.1 (by simp [h])]
  · simp [h2]
  · simp only [List.not_mem_nil, false_iff, not_or, not_and]
    exact ⟨fun hc hv _ => h1 ⟨hc, hv⟩, fun ht => absurd ht h2⟩

theorem mem_keys_metadataContrib {oid k : String} {cr : String × String}
    (h : k ∈ (metadataContrib oid cr).map Prod.fst) :
    (k = cr.1 ∧ cr.1 ≠ "tag") ∨ (cr.1 = "tag" ∧ k ∈ (parseMetadataTags cr.2 oid).1.keys) := by
  obtain ⟨kv, hkv, rfl⟩ := List.mem_map.mp h
  rcases mem_metadataContrib.mp hkv with ⟨hc, -, rfl⟩ | ⟨ht, hm⟩
  · exact .inl ⟨rfl, fun h => hc (by simp [h])⟩
  · exact .inr ⟨ht, List.mem_map_of_mem _ hm⟩

/-- One iteration appends its entries when their keys are new. -/
theorem metadataStep_entries (oid : String) (acc : PyDict String String × List String)
    (cr : String × String) (h : ∀ k ∈ (metadataContrib oid cr).map Prod.fst, k ∉ acc.1.keys) :
    (metadataStep oid acc cr).1.entries = acc.1.entries ++ metadataContrib oid cr := by
  unfold metadataStep metadataContrib at *
  split_ifs at * with h1 h2
  · exact PyDict.entries_insert_of_not_mem (h cr.1 (by simp)) cr.2
  · exact PyDict.entries_update_of_disjoint h
  · simp

/-- A run of the loop whose keys are all new appends the entries of each iteration. -/
theorem foldl_metadataStep_entries (oid : String) (ps : List (String × String))
    (acc : PyDict String String × List String)
    (h : (acc.1.keys ++ (ps.flatMap (metadataContrib oid)).map Prod.fst).Nodup) :
    (ps.foldl (metadataStep oid) acc).1.entries =
      acc.1.entries ++ ps.flatMap (metadataContrib oid) := by
  induction ps generalizing acc with
  | nil => simp
  | cons p ps ih =>
    rw [List.flatMap_cons, List.map_append, ← List.append_assoc] at h
    have hstep := metadataStep_entries oid acc p fun k hk hacc =>
      List.disjoint_of_nodup_append h.of_append_left hacc hk
    rw [List.foldl_cons, ih _ (by rwa [PyDict.keys, hstep, List.map_append]), hstep,
      List.flatMap_cons, List.append_assoc]

/-- The keys the iterations over distinct field names add are distinct, when the tag keys are
not field names. -/
theorem nodup_flatMap_metadataContrib (oid : String) {ps : List (String × String)}
    (hps : (ps.map Prod.fst).Nodup) (hnames : ∀ p ∈ ps, p.1 ∈ metadataSubelem)
    (htag : ∀ p ∈ ps, p.1 = "tag" →
      ∀ k ∈ (parseMetadataTags p.2 oid).1.keys, k ∉ metadataSubelem) :
    ((ps.flatMap (metadataContrib oid)).map Prod.fst).Nodup := by
  induction ps with
  | nil => simp
  | cons p ps ih =>
    simp only [List.map_cons, List.nodup_cons, List.mem_cons, forall_eq_or_imp] at hps hnames htag
    rw [List.flatMap_cons, List.map_append, List.nodup_append]
    refine ⟨?_, ih hps.2 hnames.2 htag.2, fun k hp hq => ?_⟩
    · unfold metadataContrib
      split_ifs
      exacts [List.nodup_singleton _, (parseMetadataTags p.2 oid).1.nodup, List.nodup_nil]
    · obtain ⟨kv, ⟨q, hqs, hkv⟩, rfl⟩ : ∃ kv, (∃ q ∈ ps, kv ∈ metadataContrib oid q) ∧ kv.1 = k := by
        simpa using hq
      have hpq : p.1 ≠ q.1 := fun h => hps.1 (h ▸ List.mem_map_of_mem _ hqs)
      rcases mem_keys_metadataContrib hp with ⟨hk, -⟩ | ⟨hpt, hkp⟩ <;>
        rcases mem_keys_metadataContrib (List.mem_map_of_mem Prod.fst hkv) with
          ⟨hk', -⟩ | ⟨hqt, hkq⟩
      · exact hpq (hk.symm.trans hk')
      · exact htag.2 q hqs hqt _ hkq (hk ▸ hnames.1)
      · exact htag.1 hpt _ hkp (hk' ▸ hnames.2 q hqs)
      · exact hpq (hpt.trans hqt.symm)

theorem mem_zip_getD {l₁ l₂ : List String} {p : String × String} :
    p ∈ l₁.zip l₂ ↔ ∃ i, i < l₁.length ∧ i < l₂.length ∧ p = (l₁.getD i "", l₂.getD i "") := by
  simp only [List.mem_iff_getElem, List.getElem_zip, List.length_zip, Nat.lt_min]
  constructor
  · rintro ⟨i, ⟨h₁, h₂⟩, rfl⟩
    exact ⟨i, h₁, h₂, by simp [List.getElem?_eq_getElem h₁, List.getElem?_eq_getElem h₂]⟩
  · rintro ⟨i, h₁, h₂, rfl⟩
    exact ⟨i, ⟨h₁, h₂⟩, by simp [List.getElem?_eq_getElem h₁, List.getElem?_eq_getElem h₂]⟩

theorem metadataSubelem_tag : ∀ i < 15, metadataSubelem.getD i "" = "tag" → i = 7 := by
  decide

/-- The entries of the metadata of a record of at most fifteen fields whose tag keys are not
field names: the non-empty plain fields, and the decoded tags. -/
theorem mem_entries_nvtMetadataOf (oid : String) {r : List String} (hlen : r.length ≤ 15)
    (hdisj : ∀ k ∈ (parseMetadataTags (r.getD 7 "") oid).1.keys, k ∉ metadataSubelem)
    (k v : String) :
    (k, v) ∈ (nvtMetadataOf oid r).1.entries ↔
      (∃ i < r.length, metadataSubelem.getD i "" = k ∧ k ∉ ["cve", "bid", "xref", "tag"] ∧
          r.getD i "" = v ∧ v ≠ "") ∨
        (7 < r.length ∧ (k, v) ∈ (parseMetadataTags (r.getD 7 "") oid).1.entries) := by
  have hnames : metadataSubelem.length = 15 := rfl
  have hnd : ((metadataSubelem.zip r).map Prod.fst).Nodup :=
    (map_fst_zip_sublist _ _).nodup (by decide)
  rw [nvtMetadataOf, foldl_metadataStep_entries oid _ _ ?keys]
  case keys =>
    refine nodup_flatMap_metadataContrib oid hnd (fun p hp => (List.of_mem_zip hp).1) ?_
    intro p hp ht
    obtain ⟨i, hi, -, rfl⟩ := mem_zip_getD.mp hp
    rwa [metadataSubelem_tag i (hnames ▸ hi) ht]
  simp only [PyDict.entries_empty, List.nil_append, List.mem_flatMap, mem_zip_getD]
  constructor
  · rintro ⟨_, ⟨i, hi, hr, rfl⟩, hkv⟩
    rcases mem_metadataContrib.mp hkv with ⟨hc, hv, he⟩ | ⟨ht, hm⟩
    · obtain ⟨rfl, rfl⟩ := Prod.mk.inj he
      exact .inl ⟨i, hr, rfl, hc, rfl, hv⟩
    · obtain rfl := metadataSubelem_tag i (hnames ▸ hi) ht
      exact .inr ⟨hr, hm⟩
  · rintro (⟨i, hr, rfl, hk, rfl, hv⟩ | ⟨hr, hm⟩)
    · exact ⟨_, ⟨i, by omega, hr, rfl⟩, mem_metadataContrib.mpr (.inl ⟨hk, hv, rfl⟩)⟩
    · exact ⟨_, ⟨7, by omega, hr, rfl⟩, mem_metadataContrib.mpr (.inr ⟨rfl, hm⟩)⟩

/-- **The entries of the metadata.** `get_nvt_metadata` returns `None` exactly when the read is
empty or not a list. On a record of at most fifteen fields whose tag keys are not field names,
it returns a dictionary whose entries are exactly the non-empty fields other than the tags and
the references, under their names, and the pairs decoded from the tag field; a record of empty
fields gives `{}`. -/
theorem getNvtMetadata_entries (db : OpenvasDB) (oid : String) :
    (getNvtMetadata db oid = none ↔ ∀ r, db.getListItem db.getKbContext (nvtKey oid)
        (nvtMetaPos "NVT_FILENAME_POS") (nvtMetaPos "NVT_NAME_POS") = some r → r = []) ∧
    ∀ r, db.getListItem db.getKbContext (nvtKey oid) (nvtMetaPos "NVT_FILENAME_POS")
        (nvtMetaPos "NVT_NAME_POS") = some r → r ≠ [] → r.length ≤ 15 →
      (∀ k ∈ (parseMetadataTags (r.getD 7 "") oid).1.keys, k ∉ metadataSubelem) →
      ∃ d logs, getNvtMetadata db oid = some (d, logs) ∧
        (∀ k v, (k, v) ∈ d.entries ↔
          (∃ i < r.length, metadataSubelem.getD i "" = k ∧ k ∉ ["cve", "bid", "xref", "tag"] ∧
              r.getD i "" = v ∧ v ≠ "") ∨
            (7 < r.length ∧ (k, v) ∈ (parseMetadataTags (r.getD 7 "") oid).1.entries)) ∧
        ((∀ x ∈ r, x = "") → d = ∅) := by
  refine ⟨?_, fun r hr hne hlen hdisj => ?_⟩
  · cases hr : db.getListItem db.getKbContext (nvtKey oid) (nvtMetaPos "NVT_FILENAME_POS")
      (nvtMetaPos "NVT_NAME_POS") with
    | none => simp [getNvtMetadata, hr]
    | some r => cases r <;> simp [getNvtMetadata, hr]
  have hget : getNvtMetadata db oid = some (nvtMetadataOf oid r) := by
    obtain ⟨x, xs, rfl⟩ := List.exists_cons_of_ne_nil hne
    rw [getNvtMetadata, hr]
  have hmem := mem_entries_nvtMetadataOf oid hlen hdisj
  refine ⟨_, _, hget, hmem, fun hempty => PyDict.ext ?_⟩
  have hD : ∀ i, r.getD i "" = "" := fun i => by
    rw [List.getD_eq_getElem?_getD]
    cases h : r[i]? with
    | none => rfl
    | some x => exact hempty x (List.getElem?_mem h)
  refine List.eq_nil_iff_forall_not_mem.mpr fun ⟨k, v⟩ hkv => ?_
  rcases (hmem k v).mp hkv with ⟨i, -, -, -, rfl, hv⟩ | ⟨-, hm⟩
  · exact hv (hD i)
  · rw [hD 7] at hm
    exact List.not_mem_nil _ hm

/-- A record of nine fields, with empty fields, two tags and a CVE reference. -/
theorem getNvtMetadata_entries_record :
    ∃ d logs, getNvtMetadata (mockOpenvasDB
        (some ["f.nasl", "", "k1", "", "", "80", "", "cvss=5|qod=remote", "CVE-1"]) none)
        "1.2.3.4" = some (d, logs) ∧
      (∀ k v, (k, v) ∈ d.entries ↔
        (∃ i < 9, metadataSubelem.getD i "" = k ∧ k ∉ ["cve", "bid", "xref", "tag"] ∧
            ["f.nasl", "", "k1", "", "", "80", "", "cvss=5|qod=remote", "CVE-1"].getD i "" = v ∧
            v ≠ "") ∨
          (7 < 9 ∧ (k, v) ∈ (parseMetadataTags "cvss=5|qod=remote" "1.2.3.4").1.entries)) ∧
      ((∀ x ∈ ["f.nasl", "", "k1", "", "", "80", "", "cvss=5|qod=remote", "CVE-1"], x = "") →
        d = ∅) :=
  (getNvtMetadata_entries (mockOpenvasDB
      (some ["f.nasl", "", "k1", "", "", "80", "", "cvss=5|qod=remote", "CVE-1"]) none) "1.2.3.4").2
    _ rfl (by decide) (by decide) (by decide)

end OspdOpenvas
