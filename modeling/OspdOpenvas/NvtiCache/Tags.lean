import OspdOpenvas.NvtiCache.Schema

/-!
# The tag grammar

The tags of a VT are `key=value` segments joined by `|`; a value may itself hold `=`. Two
functions of `NVTICache` decode them:

* `parseMetadataTags` (`_parse_metadata_tags`) splits each segment at its first `=`, and logs and
  skips a segment without one;
* `getNvtTag` (`get_nvt_tag`) reads the tag field and builds a `dict` of the split segments, which
  raises `ValueError` on a segment without `=`.

`parseMetadataTags_join`: a well-formed tag string decodes into its pairs, the last value of a key
winning; `parseMetadataTags_rejoin`: the other way round, re-encoding the decoded pairs gives the
tag string back when its segments hold a `=` and have distinct keys. `parseMetadataTags_append`: decoding distributes over `|`, so a segment without `=` is
isolated wherever it stands. `parseMetadataTags_logs`: one message is logged for each segment
without `=`. `getNvtTag_agrees`: the two decoders agree exactly on the strings all of whose
segments hold a `=`, and `get_nvt_tag` raises `ValueError` on every other; the empty tag string
is not one of them (`getNvtTag_empty`).
-/

namespace OspdOpenvas

open Py

/-- What `_parse_metadata_tags` logs for a segment without a value. -/
def tagNoValueMsg (tag oid : String) : String :=
  "Tag " ++ tag ++ " in " ++ oid ++ " has no value."

/-- One iteration of the loop of `_parse_metadata_tags`: the `ValueError` of unpacking a segment
without `=` is caught and logged, and the segment skipped. -/
def parseTagStep (oid : String) (acc : PyDict String String × List String) (tag : String) :
    PyDict String String × List String :=
  match unpack2 (split tag "=" (some 1)) with
  | .ok (k, v) => (acc.1.insert k v, acc.2)
  | .error _ => (acc.1, acc.2 ++ [tagNoValueMsg tag oid])

/-- `NVTICache._parse_metadata_tags(tags_str, oid)`: the tags, and the messages it logs. -/
def parseMetadataTags (tagsStr oid : String) : PyDict String String × List String :=
  (split tagsStr "|" none).foldl (parseTagStep oid) (∅, [])

/-- The body of `get_nvt_tag` after its read. -/
def nvtTagOf (tag : String) : Except PyErr (PyDict String String) :=
  dictOfLists ((split tag "|" none).map fun item => split item "=" (some 1))

/-- `NVTICache.get_nvt_tag(ctx, oid)`; an absent field is `None`, which has no `split`. -/
def getNvtTag (db : OpenvasDB) (ctx : Option RedisCtx) (oid : String) :
    Except PyErr (PyDict String String) :=
  match db.getSingleItem ctx (nvtKey oid) (nvtMetaPos "NVT_TAGS_POS") with
  | some tag => nvtTagOf tag
  | none => .error .AttributeError

/-! ## A segment split at its first `=` -/

theorem split_tag_eq (k v : String) (hk : '=' ∉ k.data) :
    split (k ++ "=" ++ v) "=" (some 1) = [k, v] := by
  rw [split_append_sep (by decide) ((bordered_singleton hk).noMatchIn _) (by simp)]
  simp [split_no_split]

theorem unpack2_split_of_mem {s : String} (h : '=' ∈ s.data) :
    ∃ k v, unpack2 (split s "=" (some 1)) = .ok (k, v) := by
  obtain ⟨a, b, hs, ha⟩ := List.eq_append_cons_of_mem h
  have : s = ⟨a⟩ ++ "=" ++ ⟨b⟩ := String.ext (by simpa using hs)
  exact ⟨⟨a⟩, ⟨b⟩, by rw [this, split_tag_eq _ _ ha]; rfl⟩

theorem unpack2_split_of_not_mem {s : String} (h : '=' ∉ s.data) :
    unpack2 (split s "=" (some 1)) = .error .ValueError := by
  rw [split_of_not_contains (fun hc => h (hc.sublist.subset (by simp))) _]
  rfl

/-! ## `_parse_metadata_tags` -/

/-- Decoding the rest of the segments after an accumulated state is `update` with what they
decode to alone; their messages follow. -/
theorem foldl_parseTagStep (oid : String) (segs : List String) (d : PyDict String String)
    (logs : List String) :
    segs.foldl (parseTagStep oid) (d, logs) =
      (d.update (segs.foldl (parseTagStep oid) (∅, [])).1,
        logs ++ (segs.foldl (parseTagStep oid) (∅, [])).2) := by
  induction segs generalizing d logs with
  | nil => simp
  | cons t segs ih =>
    simp only [List.foldl_cons, parseTagStep]
    cases unpack2 (split t "=" (some 1)) with
    | ok kv =>
      dsimp only
      rw [ih, ih (PyDict.insert ∅ kv.1 kv.2) [], PyDict.insert_update]
      simp
    | error e =>
      rw [List.nil_append, ih, ih ∅ [tagNoValueMsg t oid]]
      simp

/-- **Decoding distributes over `|`.** The tags of `a ++ "|" ++ b` are those of `a` updated by
those of `b`, and the messages are those of `a` followed by those of `b`; a segment without `=`
decodes to nothing but its message, so it leaves the pairs of the other segments as they are,
wherever it stands. -/
theorem parseMetadataTags_append (oid : String) :
    (∀ a b, parseMetadataTags (a ++ "|" ++ b) oid =
      ((parseMetadataTags a oid).1.update (parseMetadataTags b oid).1,
        (parseMetadataTags a oid).2 ++ (parseMetadataTags b oid).2)) ∧
    (∀ s, '|' ∉ s.data → '=' ∉ s.data → parseMetadataTags s oid = (∅, [tagNoValueMsg s oid])) ∧
    (∀ a s b, '|' ∉ s.data → '=' ∉ s.data →
      (parseMetadataTags (a ++ "|" ++ s ++ "|" ++ b) oid).1 =
        (parseMetadataTags (a ++ "|" ++ b) oid).1) := by
  have law : ∀ a b, parseMetadataTags (a ++ "|" ++ b) oid =
      ((parseMetadataTags a oid).1.update (parseMetadataTags b oid).1,
        (parseMetadataTags a oid).2 ++ (parseMetadataTags b oid).2) := fun a b => by
    rw [parseMetadataTags, show ("|" : String) = ⟨['|']⟩ from rfl, split_append_char,
      List.foldl_append, foldl_parseTagStep]
    rfl
  have seg : ∀ s, '|' ∉ s.data → '=' ∉ s.data →
      parseMetadataTags s oid = (∅, [tagNoValueMsg s oid]) := fun s hb he => by
    rw [parseMetadataTags, split_of_not_contains (fun hc => hb (hc.sublist.subset (by simp)))]
    simp [parseTagStep, unpack2_split_of_not_mem he]
  refine ⟨law, seg, fun a s b hb he => ?_⟩
  rw [law (a ++ "|" ++ s) b, law a s, seg s hb he, law a b]
  rfl

/-- The segment `tag1` without `=` decodes to nothing but its message, alone and between two
pairs. -/
theorem parseMetadataTags_append_tag1 :
    parseMetadataTags "tag1" "1.2.3" = (∅, [tagNoValueMsg "tag1" "1.2.3"]) ∧
      (parseMetadataTags ("a=1" ++ "|" ++ "tag1" ++ "|" ++ "b=2") "1.2.3").1 =
        (parseMetadataTags ("a=1" ++ "|" ++ "b=2") "1.2.3").1 :=
  ⟨(parseMetadataTags_append "1.2.3").2.1 "tag1" (by decide) (by decide),
    (parseMetadataTags_append "1.2.3").2.2 "a=1" "tag1" "b=2" (by decide) (by decide)⟩

/-- **The messages `_parse_metadata_tags` logs**: one for each segment without `=`, naming the
segment and the VT, in the order of the segments. -/
theorem parseMetadataTags_logs (tagsStr oid : String) :
    (parseMetadataTags tagsStr oid).2 =
      ((split tagsStr "|" none).filter fun seg => '=' ∉ seg.data).map (tagNoValueMsg · oid) := by
  suffices h : ∀ (segs : List String) (acc : PyDict String String × List String),
      (segs.foldl (parseTagStep oid) acc).2 =
        acc.2 ++ (segs.filter fun seg => '=' ∉ seg.data).map (tagNoValueMsg · oid) from h _ (∅, [])
  intro segs
  induction segs with
  | nil => simp
  | cons t segs ih =>
    intro acc
    rw [List.foldl_cons, ih]
    by_cases ht : '=' ∈ t.data
    · obtain ⟨k, v, hkv⟩ := unpack2_split_of_mem ht
      simp [parseTagStep, hkv, ht]
    · simp [parseTagStep, unpack2_split_of_not_mem ht, ht]

/-- The string a writer joins from the pairs `kvs`: `'|'.join(k + '=' + v)`. -/
def joinTags (kvs : List (String × String)) : String :=
  join "|" (kvs.map fun kv => kv.1 ++ "=" ++ kv.2)

theorem foldl_parseTagStep_pairs (oid : String) {kvs : List (String × String)}
    (hk : ∀ kv ∈ kvs, '=' ∉ kv.1.data) (d : PyDict String String) (logs : List String) :
    (kvs.map fun kv => kv.1 ++ "=" ++ kv.2).foldl (parseTagStep oid) (d, logs) =
      (d.insertAll kvs, logs) := by
  induction kvs generalizing d with
  | nil => rfl
  | cons kv kvs ih =>
    simp only [List.map_cons, List.foldl_cons, parseTagStep, split_tag_eq _ _ (hk kv (by simp))]
    exact ih (fun x hx => hk x (by simp [hx])) _

/-- **A well-formed tag string decodes into its pairs**, the last value of a repeated key
winning: the key set is that of `kvs`, and a key maps to the value of its last pair. -/
theorem parseMetadataTags_join (kvs : List (String × String)) (oid : String)
    (hk : ∀ kv ∈ kvs, '|' ∉ kv.1.data ∧ '=' ∉ kv.1.data) (hv : ∀ kv ∈ kvs, '|' ∉ kv.2.data)
    (k : String) :
    (parseMetadataTags (joinTags kvs) oid).1.get? k = PyDict.lookupEntry k kvs.reverse := by
  have hdict : (parseMetadataTags (joinTags kvs) oid).1 = (∅ : PyDict String String).insertAll kvs := by
    by_cases hne : kvs = []
    · subst hne; rfl
    · rw [parseMetadataTags, joinTags, split_join_of_bordered (by decide) (by simpa using hne)]
      · rw [foldl_parseTagStep_pairs oid (fun kv h => (hk kv h).2)]
      · simp only [List.mem_map]
        rintro _ ⟨kv, hkv, rfl⟩
        exact bordered_singleton (by simp [(hk kv hkv).1, hv kv hkv])
  rw [hdict, PyDict.get?_insertAll]
  simp

/-- Pairs with a value holding `=` and a repeated key: the last value of `tag1` wins. -/
theorem parseMetadataTags_join_repeated :
    (∀ kv ∈ [("tag1", "value1"), ("foo", "a=b"), ("tag1", "bar")],
        '|' ∉ kv.1.data ∧ '=' ∉ kv.1.data) ∧
      (∀ kv ∈ [("tag1", "value1"), ("foo", "a=b"), ("tag1", "bar")], '|' ∉ kv.2.data) ∧
      (parseMetadataTags (joinTags [("tag1", "value1"), ("foo", "a=b"), ("tag1", "bar")])
        "1.2.3").1.get? "tag1" = some "bar" := by
  have hk : ∀ kv ∈ [("tag1", "value1"), ("foo", "a=b"), ("tag1", "bar")],
      '|' ∉ kv.1.data ∧ '=' ∉ kv.1.data := by decide
  have hv : ∀ kv ∈ [("tag1", "value1"), ("foo", "a=b"), ("tag1", "bar")], '|' ∉ kv.2.data := by
    decide
  exact ⟨hk, hv, by rw [parseMetadataTags_join _ _ hk hv]; rfl⟩

example : (parseMetadataTags "x=1|y=2|x=3" "1.2.3").1.entries = [("x", "3"), ("y", "2")] := by
  decide

/-- Segments that each hold a `=` are pairs joined at the first `=` of each. -/
theorem exists_pairs_of_mem_eq {segs : List String} (h : ∀ seg ∈ segs, '=' ∈ seg.data) :
    ∃ kvs : List (String × String), segs = kvs.map (fun kv => kv.1 ++ "=" ++ kv.2) ∧
      ∀ kv ∈ kvs, '=' ∉ kv.1.data := by
  induction segs with
  | nil => exact ⟨[], rfl, by simp⟩
  | cons seg segs ih =>
    obtain ⟨kvs, rfl, hk⟩ := ih fun s hs => h s (List.mem_cons_of_mem _ hs)
    obtain ⟨a, b, hs, ha⟩ := List.eq_append_cons_of_mem (h seg (List.mem_cons_self _ _))
    refine ⟨(⟨a⟩, ⟨b⟩) :: kvs, ?_, ?_⟩
    · rw [List.map_cons]
      exact congrArg (· :: _) (String.ext (by simpa using hs))
    · simpa [ha] using hk

/-- **Decoding then re-encoding the tags gives the text back** when every segment holds a `=`
and no two segments have the same key (the text before their first `=`): joining the entries of
the dictionary `_parse_metadata_tags` returns as `'|'.join(k + '=' + v)` gives the tag string. -/
theorem parseMetadataTags_rejoin (tagsStr oid : String)
    (h : ∀ seg ∈ split tagsStr "|" none, '=' ∈ seg.data)
    (hkeys : ((split tagsStr "|" none).map fun seg => (split seg "=" (some 1)).headD "").Nodup) :
    joinTags (parseMetadataTags tagsStr oid).1.entries = tagsStr := by
  obtain ⟨kvs, hsegs, hk⟩ := exists_pairs_of_mem_eq h
  have hfst : (kvs.map Prod.fst).Nodup := by
    rw [hsegs, List.map_map] at hkeys
    refine (List.map_congr_left fun kv hkv => ?_).symm ▸ hkeys
    simp [split_tag_eq _ _ (hk kv hkv)]
  rw [parseMetadataTags, hsegs, foldl_parseTagStep_pairs oid hk,
    PyDict.entries_insertAll_of_fresh hfst (by simp), PyDict.entries_empty, List.nil_append,
    joinTags, ← hsegs, join_split (by decide)]

/-- A tag string with a value that holds `=` is given back. -/
theorem parseMetadataTags_rejoin_test :
    (∀ seg ∈ split "tag1=value1|foo=a=b" "|" none, '=' ∈ seg.data) ∧
      ((split "tag1=value1|foo=a=b" "|" none).map
        fun seg => (split seg "=" (some 1)).headD "").Nodup ∧
      joinTags (parseMetadataTags "tag1=value1|foo=a=b" "1.2.3").1.entries = "tag1=value1|foo=a=b" :=
  have h : ∀ seg ∈ split "tag1=value1|foo=a=b" "|" none, '=' ∈ seg.data := by decide
  have hkeys : ((split "tag1=value1|foo=a=b" "|" none).map
      fun seg => (split seg "=" (some 1)).headD "").Nodup := by decide
  ⟨h, hkeys, parseMetadataTags_rejoin _ _ h hkeys⟩

/-! ## `get_nvt_tag` against `_parse_metadata_tags` -/

/-- On a string all of whose segments hold a `=`, `get_nvt_tag`'s body decodes as
`_parse_metadata_tags`. -/
theorem nvtTagOf_eq_ok (tag oid : String) (h : ∀ seg ∈ split tag "|" none, '=' ∈ seg.data) :
    nvtTagOf tag = .ok (parseMetadataTags tag oid).1 := by
  suffices ∀ segs : List String, (∀ seg ∈ segs, '=' ∈ seg.data) → ∀ d logs,
      (segs.map fun item => split item "=" (some 1)).foldlM
          (fun d e => (fun kv => d.insert kv.1 kv.2) <$> unpack2 e) d =
        .ok (segs.foldl (parseTagStep oid) (d, logs)).1 from this _ h ∅ []
  intro segs hsegs
  induction segs with
  | nil => intro d logs; rfl
  | cons t segs ih =>
    intro d logs
    obtain ⟨k, v, hkv⟩ := unpack2_split_of_mem (hsegs t (by simp))
    simp only [List.map_cons, List.foldlM_cons, List.foldl_cons, parseTagStep, hkv]
    exact ih (fun s hs => hsegs s (by simp [hs])) _ _

/-- On a string with a segment without `=`, `get_nvt_tag`'s body raises `ValueError`. -/
theorem nvtTagOf_eq_error (tag : String) (h : ∃ seg ∈ split tag "|" none, '=' ∉ seg.data) :
    nvtTagOf tag = .error .ValueError := by
  obtain ⟨seg, hseg, he⟩ := h
  refine foldlM_eq_error ⟨_, List.mem_map_of_mem _ hseg, fun d => ⟨.ValueError, ?_⟩⟩ ?_ ∅
  · simp [unpack2_split_of_not_mem he]
  · intro e _ d e' h
    cases hu : unpack2 e with
    | ok kv => simp [hu] at h
    | error e'' =>
      rw [hu] at h
      cases h
      exact unpack2_eq_error hu

/-- **The two tag decoders disagree on a VT without tags**: on a present record whose tag field
is empty, `get_nvt_tag` raises `ValueError`, where `_parse_metadata_tags` logs the segment and
returns `{}`. -/
theorem getNvtTag_empty (db : OpenvasDB) (ctx : Option RedisCtx) (oid : String)
    (h : db.getSingleItem ctx (nvtKey oid) (nvtMetaPos "NVT_TAGS_POS") = some "") :
    getNvtTag db ctx oid = .error .ValueError ∧
      parseMetadataTags "" oid = (∅, [tagNoValueMsg "" oid]) := by
  rw [getNvtTag, h]
  exact ⟨rfl, rfl⟩

/-- A store whose tag field is empty. -/
theorem getNvtTag_no_tags :
    getNvtTag (mockOpenvasDB none (some "")) none "1.2.3.4" = .error .ValueError :=
  (getNvtTag_empty (mockOpenvasDB none (some "")) none "1.2.3.4" rfl).1

/-- **Where the two tag decoders agree**: on a present tag field, `get_nvt_tag` returns the
dictionary `_parse_metadata_tags` builds exactly when every segment holds a `=`, and raises
`ValueError` otherwise. -/
theorem getNvtTag_agrees (db : OpenvasDB) (ctx : Option RedisCtx) (oid tag : String)
    (h : db.getSingleItem ctx (nvtKey oid) (nvtMetaPos "NVT_TAGS_POS") = some tag) :
    getNvtTag db ctx oid =
      if ∀ seg ∈ split tag "|" none, '=' ∈ seg.data then .ok (parseMetadataTags tag oid).1
      else .error .ValueError := by
  rw [getNvtTag, h]
  split_ifs with hall
  · exact nvtTagOf_eq_ok tag oid hall
  · push_neg at hall
    exact nvtTagOf_eq_error tag hall

/-- The tags `tag1=value1|foo=bar` of the unit test of `_parse_metadata_tags` decode the same
way through `get_nvt_tag`. -/
theorem getNvtTag_test :
    getNvtTag (mockOpenvasDB none (some "tag1=value1|foo=bar")) none "1.2.3" =
      .ok (parseMetadataTags "tag1=value1|foo=bar" "1.2.3").1 := by
  rw [getNvtTag_agrees (mockOpenvasDB none (some "tag1=value1|foo=bar")) none "1.2.3"
    "tag1=value1|foo=bar" rfl, if_pos (by decide)]

end OspdOpenvas
