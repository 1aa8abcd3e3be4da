import Mathlib.Data.String.Basic
import OspdOpenvas.Packaging.Version

/-!
# The order of `_cmpkey` is a total preorder

`parse_version(a) >= parse_version(b)` compares the `_cmpkey` tuples of two versions field by
field. Each field is ordered by a comparator that is oriented (swapping the arguments swaps the
result) and transitive, and a lexicographic combination of such comparators is again one, so
`Version.compare` is a `TransCmp`.

* `Version.instTransCmp`: the order of `_cmpkey` is oriented and transitive.
* `Version.compare_ge_trans`: `>=` between versions is transitive.
-/

namespace OspdOpenvas.Packaging

open Batteries

section comparators

variable {α : Type} {cmp : α → α → Ordering}

/-! ## Bounds -/

instance Bound.instOrientedCmp [OrientedCmp cmp] : OrientedCmp (Bound.compare cmp) where
  symm a b := by cases a <;> cases b <;> first | exact OrientedCmp.symm (α := α) _ _ | rfl

instance Bound.instTransCmp [TransCmp cmp] : TransCmp (Bound.compare cmp) where
  le_trans {a b c} h1 h2 := by
    cases a <;> cases b <;> cases c
    all_goals first
      | exact TransCmp.le_trans (α := α) h1 h2
      | exact absurd rfl h1
      | exact absurd rfl h2
      | nofun

/-! ## Tuples -/

theorem compareList_swap [OrientedCmp cmp] (as bs : List α) :
    (compareList cmp as bs).swap = compareList cmp bs as := by
  induction as generalizing bs with
  | nil => cases bs <;> rfl
  | cons a as ih =>
    cases bs with
    | nil => rfl
    | cons b bs => simp only [compareList, Ordering.swap_then, OrientedCmp.symm, ih]

instance compareList.instOrientedCmp [OrientedCmp cmp] : OrientedCmp (compareList cmp) where
  symm := compareList_swap

/-- Tuples are compared as `compareLex` compares pairs: the heads, then the tails. -/
theorem compareList_le_trans [TransCmp cmp] {as bs cs : List α}
    (h1 : compareList cmp as bs ≠ .gt) (h2 : compareList cmp bs cs ≠ .gt) :
    compareList cmp as cs ≠ .gt := by
  induction as generalizing bs cs with
  | nil => cases cs <;> nofun
  | cons a as ih =>
    cases bs with
    | nil => exact absurd rfl h1
    | cons b bs =>
      cases cs with
      | nil => exact absurd rfl h2
      | cons c cs =>
        simp only [compareList, ne_eq, Ordering.then_eq_gt, not_or, not_and] at h1 h2 ⊢
        refine ⟨TransCmp.le_trans h1.1 h2.1, fun e1 e2 => ?_⟩
        match ab : cmp a b with
        | .gt => exact h1.1 ab
        | .eq => exact ih (h1.2 ab) (h2.2 (TransCmp.cmp_congr_left ab ▸ e1)) e2
        | .lt => exact h2.1 (OrientedCmp.cmp_eq_gt.2 (TransCmp.cmp_congr_left e1 ▸ ab))

instance compareList.instTransCmp [TransCmp cmp] : TransCmp (compareList cmp) where
  le_trans := compareList_le_trans

end comparators

/-! ## Pre-release labels and local segments -/

instance comparePair.instTransCmp : TransCmp comparePair :=
  inferInstanceAs <| TransCmp <|
    compareLex (Ordering.byKey Prod.fst Ord.compare) (Ordering.byKey Prod.snd Ord.compare)

instance LocalPart.instOrientedCmp : OrientedCmp LocalPart.compare where
  symm a b := by
    cases a <;> cases b <;>
      first | exact @OrientedCmp.symm ℕ Ord.compare _ _ _ | exact String.instTransOrd.symm _ _ | rfl

instance LocalPart.instTransCmp : TransCmp LocalPart.compare where
  le_trans {a b c} h1 h2 := by
    cases a <;> cases b <;> cases c
    all_goals first
      | exact @TransCmp.le_trans ℕ Ord.compare _ _ _ _ h1 h2
      | exact String.instTransOrd.le_trans h1 h2
      | exact absurd rfl h1
      | exact absurd rfl h2
      | nofun

/-! ## Versions -/

/-- **The order of `_cmpkey` is oriented and transitive**: it is the lexicographic order of the
epoch, the release key, and the pre-, post-, dev-release and local keys. -/
instance Version.instTransCmp : TransCmp Version.compare :=
  inferInstanceAs <| TransCmp <|
    compareLex (Ordering.byKey Version.epoch Ord.compare) <|
      compareLex (Ordering.byKey Version.releaseKey (compareList Ord.compare)) <|
        compareLex (Ordering.byKey Version.preKey (Bound.compare comparePair)) <|
          compareLex (Ordering.byKey Version.postKey (Bound.compare comparePair)) <|
            compareLex (Ordering.byKey Version.devKey (Bound.compare comparePair)) <|
              Ordering.byKey Version.localKey (Bound.compare (compareList LocalPart.compare))

/-- `>=` between versions is transitive. -/
theorem Version.compare_ge_trans {a b c : Version} (h1 : a.compare b ≠ .lt)
    (h2 : b.compare c ≠ .lt) : a.compare c ≠ .lt :=
  TransCmp.ge_trans h1 h2

end OspdOpenvas.Packaging
