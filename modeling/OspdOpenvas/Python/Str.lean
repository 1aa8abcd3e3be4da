import Mathlib.Data.List.Infix

/-!
# Python strings: `split`, `strip` and `join`

The NVT cache stores composite fields as delimiter-joined strings: `|||` between the parts of a
preference, `|` between tags, `=` inside a tag and `, ` between references. The decoders take them
apart with `str.split`; on the writer's side they were put together with `sep.join`. These, and
`str.strip`, are modelled here on the characters of a string.

* `split s sep maxsplit` is CPython's left-to-right scan (`splitAux`): at a position not covered
  by an earlier match, an occurrence of `sep` closes the current segment.
* `split_append_sep`: the text `a ++ sep ++ b` splits right after `a` when no occurrence of `sep`
  starts inside `a` (`NoMatchIn`). `Bordered` is the form of that condition that does not depend
  on what follows `a`, so `split` undoes `join` on bordered parts (`split_join`).
* `split_append_char`: a one-character separator splits `a ++ sep ++ b` into the segments of `a`
  followed by those of `b`, whatever `a` and `b` contain.
* `join_split`: in the other direction, `join` undoes `split` on every text, whatever the limit
  on the splits.
-/

namespace OspdOpenvas.Py

/-! ## Whitespace -/

/-- `c.isspace()`: the characters of bidirectional class WS, B or S, or of category Zs. -/
def isSpace (c : Char) : Bool :=
  let n := c.toNat
  (0x09 ≤ n && n ≤ 0x0D) || (0x1C ≤ n && n ≤ 0x20) || n == 0x85 || n == 0xA0 || n == 0x1680 ||
    (0x2000 ≤ n && n ≤ 0x200A) || n == 0x2028 || n == 0x2029 || n == 0x202F || n == 0x205F ||
    n == 0x3000

/-- `s.rstrip()`. -/
def rstrip (s : String) : String :=
  ⟨(s.data.reverse.dropWhile isSpace).reverse⟩

/-- `s.strip()`. -/
def strip (s : String) : String :=
  rstrip ⟨s.data.dropWhile isSpace⟩

/-! ## Substrings -/

/-- `sub in s`. -/
def Contains (s sub : String) : Prop := sub.data <:+: s.data

/-- `s.endswith(suffix)`. -/
def EndsWith (s suffix : String) : Prop := suffix.data <:+ s.data

instance (s sub : String) : Decidable (Contains s sub) :=
  inferInstanceAs (Decidable (sub.data <:+: s.data))

instance (s suffix : String) : Decidable (EndsWith s suffix) :=
  inferInstanceAs (Decidable (suffix.data <:+ s.data))

/-! ## `str.split` -/

/-- The scan of `str.split`: `skip` counts the characters of a matched separator still to pass
over, `left` the splits still allowed (`none`: no limit) and `cur` is the current segment,
reversed. -/
def splitAux (sep : List Char) : List Char → ℕ → Option ℕ → List Char → List (List Char)
  | [], _, _, cur => [cur.reverse]
  | _ :: s, skip + 1, left, cur => splitAux sep s skip left cur
  | c :: s, 0, left, cur =>
    if left ≠ some 0 ∧ sep.isPrefixOf (c :: s) then
      cur.reverse :: splitAux sep s (sep.length - 1) (left.map (· - 1)) []
    else splitAux sep s 0 left (c :: cur)

/-- `s.split(sep, maxsplit)` for a non-empty `sep`; `maxsplit = none` is the default `-1`. -/
def split (s sep : String) (maxsplit : Option ℕ) : List String :=
  (splitAux sep.data s.data 0 maxsplit []).map String.mk

section splitAux

variable {sep : List Char}

/-- Passing over the rest of a matched separator. -/
theorem splitAux_skip (xs ys : List Char) (left : Option ℕ) (cur : List Char) :
    splitAux sep (xs ++ ys) xs.length left cur = splitAux sep ys 0 left cur := by
  induction xs with
  | nil => rfl
  | cons x xs ih => exact ih

/-- A text in which `sep` does not occur is one segment. -/
theorem splitAux_of_not_infix {s : List Char} (h : ¬ sep <:+: s) (left : Option ℕ)
    (cur : List Char) : splitAux sep s 0 left cur = [cur.reverse ++ s] := by
  induction s generalizing cur with
  | nil => simp [splitAux]
  | cons c s ih =>
    have hp : ¬ sep <+: c :: s := fun hp => h hp.isInfix
    rw [splitAux, if_neg fun hc => hp (by simpa using hc.2),
      ih (fun hi => h (hi.trans (List.suffix_cons c s).isInfix))]
    simp

/-- Once no split is left, the rest of the text is the last segment. -/
theorem splitAux_no_split (s cur : List Char) :
    splitAux sep s 0 (some 0) cur = [cur.reverse ++ s] := by
  induction s generalizing cur with
  | nil => simp [splitAux]
  | cons c s ih => simp [splitAux, ih]

/-- No occurrence of `sep` starts inside `a` when `rest` follows it. -/
def NoMatchIn (sep a rest : List Char) : Prop :=
  ∀ t, t ≠ [] → t <:+ a → ¬ sep <+: t ++ rest

theorem NoMatchIn.of_cons {x : Char} {a rest : List Char} (h : NoMatchIn sep (x :: a) rest) :
    NoMatchIn sep a rest :=
  fun t ht hs => h t ht (hs.trans (List.suffix_cons x a))

/-- **The scan splits `a ++ sep ++ b` right after `a`** when no occurrence of `sep` starts inside
`a`. -/
theorem splitAux_append_sep (hsep : sep ≠ []) {a b : List Char} (h : NoMatchIn sep a (sep ++ b))
    {left : Option ℕ} (hl : left ≠ some 0) (cur : List Char) :
    splitAux sep (a ++ sep ++ b) 0 left cur =
      (cur.reverse ++ a) :: splitAux sep b 0 (left.map (· - 1)) [] := by
  induction a generalizing cur with
  | nil =>
    obtain ⟨c, sep', rfl⟩ := List.exists_cons_of_ne_nil hsep
    rw [List.nil_append, List.cons_append, splitAux, if_pos ⟨hl, by simp⟩, List.length_cons,
      Nat.add_sub_cancel, splitAux_skip, List.append_nil]
  | cons x a ih =>
    have hx : ¬ sep <+: (x :: a) ++ (sep ++ b) := h _ (List.cons_ne_nil x a) (List.suffix_refl _)
    rw [List.cons_append, List.cons_append, splitAux, if_neg fun hc => hx (by simpa using hc.2),
      ih h.of_cons]
    simp

/-- A part that no occurrence of `sep` can start inside, whatever follows it: `sep` does not
occur in it, and no tail of it shorter than `sep` runs on into a `sep`. -/
def Bordered (sep a : List Char) : Prop :=
  ¬ sep <:+: a ∧ ∀ t, t ≠ [] → t <:+ a → t.length < sep.length → ¬ sep <+: t ++ sep

theorem Bordered.noMatchIn {a : List Char} (h : Bordered sep a) (b : List Char) :
    NoMatchIn sep a (sep ++ b) := by
  intro t ht hs hp
  rcases Nat.lt_or_ge t.length sep.length with hlt | hge
  · refine h.2 t ht hs hlt (List.prefix_of_prefix_length_le ?_ (List.prefix_append _ b) ?_)
    · simpa using hp
    · simp
  · exact h.1 ((List.prefix_of_prefix_length_le hp (List.prefix_append t _) hge).isInfix.trans
      hs.isInfix)

/-- A one-character separator cannot straddle: a part without it is bordered. -/
theorem bordered_singleton {c : Char} {a : List Char} (h : c ∉ a) : Bordered [c] a := by
  refine ⟨fun hi => h (hi.sublist.subset (List.mem_singleton_self c)), fun t ht _ hlt => ?_⟩
  have := List.length_pos.mpr ht
  simp only [List.length_singleton] at hlt
  omega

/-- Splitting on a one-character separator distributes over concatenation at that character. -/
theorem splitAux_append_char (c : Char) (a b cur : List Char) :
    splitAux [c] (a ++ c :: b) 0 none cur =
      splitAux [c] a 0 none cur ++ splitAux [c] b 0 none [] := by
  induction a generalizing cur with
  | nil => simp [splitAux]
  | cons x a ih =>
    by_cases hx : c = x
    · subst hx
      simp [splitAux, ih]
    · simp [splitAux, hx, ih]

end splitAux

/-! ## `split` on strings -/

@[simp] theorem split_empty (sep : String) (m : Option ℕ) : split "" sep m = [""] := rfl

theorem split_of_not_contains {s sep : String} (h : ¬ Contains s sep) (m : Option ℕ) :
    split s sep m = [s] := by
  simp [split, splitAux_of_not_infix h]

theorem split_no_split (s sep : String) : split s sep (some 0) = [s] := by
  simp [split, splitAux_no_split]

/-- **`split` at the separator after a part that no match starts inside.** -/
theorem split_append_sep {a b sep : String} (hsep : sep ≠ "")
    (h : NoMatchIn sep.data a.data (sep.data ++ b.data)) {m : Option ℕ} (hm : m ≠ some 0) :
    split (a ++ sep ++ b) sep m = a :: split b sep (m.map (· - 1)) := by
  have hsep' : sep.data ≠ [] := fun he => hsep (String.ext (by simpa using he))
  simp only [split, String.data_append]
  rw [splitAux_append_sep hsep' h hm]
  simp

theorem split_append_char (c : Char) (a b : String) :
    split (a ++ ⟨[c]⟩ ++ b) ⟨[c]⟩ none = split a ⟨[c]⟩ none ++ split b ⟨[c]⟩ none := by
  simp [split, String.data_append, splitAux_append_char]

/-! ## `str.join` -/

/-- `sep.join(parts)`. -/
def join (sep : String) : List String → String
  | [] => ""
  | a :: as =>
    match as with
    | [] => a
    | _ :: _ => a ++ sep ++ join sep as

@[simp] theorem join_nil (sep : String) : join sep [] = "" := rfl

@[simp] theorem join_singleton (sep a : String) : join sep [a] = a := rfl

theorem join_cons_cons (sep a b : String) (as : List String) :
    join sep (a :: b :: as) = a ++ sep ++ join sep (b :: as) := rfl

/-- **`split` undoes `join`** when no occurrence of the separator can start inside a part but
the last, and the last does not contain it. -/
theorem split_join {sep : String} (hsep : sep ≠ "") {parts : List String} (hne : parts ≠ [])
    (h : ∀ p ∈ parts.dropLast, Bordered sep.data p.data)
    (hlast : ∀ p ∈ parts.getLast?, ¬ Contains p sep) : split (join sep parts) sep none = parts := by
  induction parts with
  | nil => exact absurd rfl hne
  | cons a as ih =>
    cases as with
    | nil => exact split_of_not_contains (hlast a rfl) none
    | cons b bs =>
      rw [join_cons_cons, split_append_sep hsep ((h a (by simp)).noMatchIn _) (by simp),
        Option.map_none', ih (by simp) (fun p hp => h p (List.mem_cons_of_mem a hp)) hlast]

theorem split_join_of_bordered {sep : String} (hsep : sep ≠ "") {parts : List String}
    (hne : parts ≠ []) (h : ∀ p ∈ parts, Bordered sep.data p.data) :
    split (join sep parts) sep none = parts :=
  split_join hsep hne (fun p hp => h p (List.dropLast_subset _ hp))
    (fun p hp => (h p (List.mem_of_getLast?_eq_some hp)).1)

/-! ## `join` undoes `split` -/

theorem splitAux_ne_nil {sep : List Char} (s : List Char) (skip : ℕ) (left : Option ℕ)
    (cur : List Char) : splitAux sep s skip left cur ≠ [] := by
  induction s generalizing skip left cur with
  | nil => simp [splitAux]
  | cons c s ih =>
    cases skip with
    | succ skip => exact ih _ _ _
    | zero =>
      rw [splitAux]
      split_ifs
      · exact List.cons_ne_nil _ _
      · exact ih _ _ _

theorem join_cons_of_ne_nil (sep a : String) {as : List String} (h : as ≠ []) :
    join sep (a :: as) = a ++ sep ++ join sep as := by
  cases as with
  | nil => exact absurd rfl h
  | cons b bs => rfl

/-- The segments of the scan, joined with `sep`, give back the text scanned; by induction on a
bound on its length, since a match skips the whole separator. -/
theorem join_splitAux {sep : String} (hsep : sep ≠ "") (n : ℕ) :
    ∀ (s : List Char), s.length ≤ n → ∀ (left : Option ℕ) (cur : List Char),
      join sep ((splitAux sep.data s 0 left cur).map String.mk) = ⟨cur.reverse ++ s⟩ := by
  induction n with
  | zero =>
    intro s hs left cur
    rw [List.eq_nil_of_length_eq_zero (Nat.le_zero.mp hs)]
    simp [splitAux]
  | succ n ih =>
    intro s hs left cur
    cases s with
    | nil => simp [splitAux]
    | cons c s =>
      rw [List.length_cons, Nat.succ_le_succ_iff] at hs
      rw [splitAux]
      split_ifs with h
      · obtain ⟨t, ht⟩ := List.isPrefixOf_iff_prefix.mp h.2
        obtain ⟨c', p, hp⟩ := List.exists_cons_of_ne_nil
          (fun he => hsep (String.ext (by simpa using he)))
        rw [hp, List.cons_append, List.cons.injEq] at ht
        obtain ⟨rfl, rfl⟩ := ht
        have hskip : sep.data.length - 1 = p.length := by simp [hp]
        rw [hskip, splitAux_skip, List.map_cons,
          join_cons_of_ne_nil _ _ (by simpa using splitAux_ne_nil _ _ _ _),
          ih t (by simp at hs; omega) _ []]
        apply String.ext
        simp [hp]
      · rw [ih s hs left (c :: cur)]
        simp

/-- **`join` undoes `split`**: joining the segments of any text split at `sep`, whatever the
limit on the splits, gives the text back. -/
theorem join_split {sep : String} (hsep : sep ≠ "") (s : String) (m : Option ℕ) :
    join sep (split s sep m) = s := by
  rw [split, join_splitAux hsep _ s.data le_rfl]
  rfl

end OspdOpenvas.Py
