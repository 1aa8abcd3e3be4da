import OspdOpenvas.Packaging.Version

/-!
# The pattern ignores the case of ASCII letters

`VERSION_PATTERN` is searched with `re.IGNORECASE`, and the labels and local segments it matches
are lower-cased before they are kept, so `parse_version` reads a version the same whatever the
case of its ASCII letters.

* `toUpper_eq_or_mem`: `Char.toUpper` changes only the 26 lower-case ASCII letters; every fact
  about one character below is a small decision over those.
* `parseVersionChars_map_toUpper`: upper-casing the ASCII letters of a text changes neither
  whether it matches the pattern nor the version it reads.
-/

namespace OspdOpenvas.Packaging

open Py

/-! ## Characters -/

/-- The lower-case ASCII letters. -/
def asciiLower : List Char := "abcdefghijklmnopqrstuvwxyz".data

theorem ofNat_mem_asciiLower : ∀ n < 123, 97 ≤ n → Char.ofNat n ∈ asciiLower := by
  decide

/-- `Char.toUpper` changes only the lower-case ASCII letters. -/
theorem toUpper_eq_or_mem (c : Char) : c.toUpper = c ∨ c ∈ asciiLower := by
  unfold Char.toUpper
  dsimp only
  split_ifs with h
  · exact .inr (Char.ofNat_toNat c ▸ ofNat_mem_asciiLower _ (by omega) h.1)
  · exact .inl rfl

/-- A function of a character that the upper-casing of each lower-case ASCII letter leaves as it
is, is left as it is by every upper-casing. -/
theorem toUpper_invariant {α : Type} (f : Char → α) (h : ∀ c ∈ asciiLower, f c.toUpper = f c)
    (c : Char) : f c.toUpper = f c := by
  rcases toUpper_eq_or_mem c with hc | hc
  · rw [hc]
  · exact h c hc

@[simp] theorem isDigit_toUpper (c : Char) : c.toUpper.isDigit = c.isDigit :=
  toUpper_invariant Char.isDigit (by decide) c

@[simp] theorem isSpace_toUpper (c : Char) : isSpace c.toUpper = isSpace c :=
  toUpper_invariant isSpace (by decide) c

@[simp] theorem isSep_toUpper (c : Char) : isSep c.toUpper = isSep c :=
  toUpper_invariant isSep (by decide) c

@[simp] theorem isLocalChar_toUpper (c : Char) : isLocalChar c.toUpper = isLocalChar c :=
  toUpper_invariant isLocalChar (by decide) c

@[simp] theorem lowerChar_toUpper (c : Char) : lowerChar c.toUpper = lowerChar c :=
  toUpper_invariant lowerChar (by decide) c

theorem toLower_toUpper (c : Char) : c.toUpper.toLower = c.toLower :=
  toUpper_invariant Char.toLower (by decide) c

/-- A test of a code point outside ASCII does not see the upper-casing. -/
theorem toNat_toUpper_beq {k : ℕ} (hk : 128 ≤ k) (c : Char) :
    (c.toUpper.toNat == k) = (c.toNat == k) := by
  rcases toUpper_eq_or_mem c with hc | hc
  · rw [hc]
  · have hlt : c.toUpper.toNat < 128 ∧ c.toNat < 128 := by
      revert c
      decide
    rw [beq_eq_false_iff_ne.mpr (by omega), beq_eq_false_iff_ne.mpr (by omega)]

@[simp] theorem matchesLetter_toUpper (x c : Char) : matchesLetter x c.toUpper = matchesLetter x c := by
  simp only [matchesLetter, toLower_toUpper, toNat_toUpper_beq (show 128 ≤ 0x130 by omega),
    toNat_toUpper_beq (show 128 ≤ 0x131 by omega), toNat_toUpper_beq (show 128 ≤ 0x17F by omega),
    toNat_toUpper_beq (show 128 ≤ 0x212A by omega)]

/-- The upper-casing of a character is one of the pattern's punctuation marks exactly when the
character is. -/
theorem toUpper_eq_punct {c d : Char} (hd : d ∈ ['!', '.', '-', '+']) : c.toUpper = d ↔ c = d := by
  have h : ∀ d ∈ ['!', '.', '-', '+'], ∀ c ∈ asciiLower, (c.toUpper == d) = (c == d) := by decide
  have := toUpper_invariant (· == d) (h d hd) c
  rwa [Bool.eq_iff_iff, beq_iff_eq, beq_iff_eq] at this

theorem toUpper_of_isDigit {c : Char} (h : c.isDigit = true) : c.toUpper = c := by
  rcases toUpper_eq_or_mem c with hc | hc
  · exact hc
  · have : ∀ c ∈ asciiLower, c.isDigit = false := by decide
    rw [this c hc] at h
    cases h

/-! ## Texts -/

theorem map_toUpper_of_digits {ds : List Char} (h : ∀ c ∈ ds, c.isDigit = true) :
    ds.map Char.toUpper = ds :=
  (List.map_congr_left fun c hc => toUpper_of_isDigit (h c hc)).trans (List.map_id ds)

theorem all_map_toUpper {p : Char → Bool} (hp : ∀ c, p c.toUpper = p c) (cs : List Char) :
    (cs.map Char.toUpper).all p = cs.all p := by
  rw [List.all_map, show p ∘ Char.toUpper = p from funext hp]

theorem dropWhile_map_toUpper {p : Char → Bool} (hp : ∀ c, p c.toUpper = p c) (cs : List Char) :
    (cs.map Char.toUpper).dropWhile p = (cs.dropWhile p).map Char.toUpper := by
  rw [List.dropWhile_map, show p ∘ Char.toUpper = p from funext hp]

theorem span_map_toUpper {p : Char → Bool} (hp : ∀ c, p c.toUpper = p c) (cs : List Char) :
    (cs.map Char.toUpper).span p =
      ((cs.span p).1.map Char.toUpper, (cs.span p).2.map Char.toUpper) := by
  rw [List.span_eq_take_drop, List.span_eq_take_drop, List.takeWhile_map, List.dropWhile_map,
    show p ∘ Char.toUpper = p from funext hp]

/-- The digits a span of digits takes are left as they are. -/
theorem span_isDigit_map_toUpper (cs : List Char) :
    (cs.map Char.toUpper).span Char.isDigit =
      ((cs.span Char.isDigit).1, (cs.span Char.isDigit).2.map Char.toUpper) := by
  rw [span_map_toUpper isDigit_toUpper, map_toUpper_of_digits]
  intro c hc
  rw [List.span_eq_take_drop] at hc
  exact List.mem_takeWhile_imp hc

@[simp] theorem lower_map_toUpper (cs : List Char) : lower (cs.map Char.toUpper) = lower cs := by
  simp [lower, List.flatMap_map]

/-! ## The stages of the scan -/

theorem dropPrefix_map_toUpper (s : List Char) :
    dropPrefix (s.map Char.toUpper) = (dropPrefix s).map Char.toUpper := by
  rw [dropPrefix, dropWhile_map_toUpper isSpace_toUpper, dropPrefix]
  cases s.dropWhile isSpace with
  | nil => rfl
  | cons c r =>
    simp only [List.map_cons, matchesLetter_toUpper]
    split_ifs <;> rfl

theorem epochPart_map_toUpper (cs : List Char) :
    epochPart (cs.map Char.toUpper) = ((epochPart cs).1, (epochPart cs).2.map Char.toUpper) := by
  unfold epochPart
  rw [span_isDigit_map_toUpper]
  rcases cs.span Char.isDigit with ⟨_ | ⟨d, ds⟩, _ | ⟨b, rest⟩⟩
  · rfl
  · rfl
  · rfl
  · by_cases hb : b = '!'
    · subst hb
      rfl
    · have hb' : b.toUpper ≠ '!' := fun h => hb ((toUpper_eq_punct (by simp)).mp h)
      simp only [List.map_cons]
      split
      · next h => exact absurd (List.cons.inj (Prod.mk.inj h).2).1 hb'
      · split
        · next h => exact absurd (List.cons.inj (Prod.mk.inj h).2).1 hb
        · rfl

theorem releaseAux_map_toUpper (cs : List Char) (n : ℕ) (acc : List ℕ) :
    releaseAux (cs.map Char.toUpper) n acc =
      ((releaseAux cs n acc).1, (releaseAux cs n acc).2.map Char.toUpper) := by
  induction cs generalizing n acc with
  | nil => rfl
  | cons c cs ih =>
    have hhead : (cs.map Char.toUpper).head?.any Char.isDigit = cs.head?.any Char.isDigit := by
      cases cs <;> simp
    simp only [List.map_cons, releaseAux, isDigit_toUpper, hhead,
      toUpper_eq_punct (d := '.') (by simp)]
    split_ifs with h1 h2
    · rw [toUpper_of_isDigit h1, ih]
    · exact ih _ _
    · rfl

theorem dropSep_map_toUpper (cs : List Char) :
    dropSep (cs.map Char.toUpper) = (dropSep cs).map Char.toUpper := by
  cases cs with
  | nil => rfl
  | cons c cs =>
    simp only [List.map_cons, dropSep, isSep_toUpper]
    split_ifs <;> rfl

theorem matchWord_map_toUpper (xs cs : List Char) :
    matchWord xs (cs.map Char.toUpper) =
      (matchWord xs cs).map (Prod.map (List.map Char.toUpper) (List.map Char.toUpper)) := by
  induction xs generalizing cs with
  | nil => rfl
  | cons x xs ih =>
    cases cs with
    | nil => rfl
    | cons c cs =>
      simp only [List.map_cons, matchWord, matchesLetter_toUpper]
      split_ifs
      · rw [ih]
        cases matchWord xs cs <;> rfl
      · rfl

theorem matchLabel_map_toUpper (labels : List String) (cs : List Char) :
    matchLabel labels (cs.map Char.toUpper) =
      (matchLabel labels cs).map (Prod.map (List.map Char.toUpper) (List.map Char.toUpper)) := by
  induction labels with
  | nil => rfl
  | cons l labels ih =>
    simp only [matchLabel, List.findSome?_cons, matchWord_map_toUpper] at ih ⊢
    cases matchWord l.data cs with
    | none => exact ih
    | some m => rfl

theorem letterPart_map_toUpper (labels : List String) (cs : List Char) :
    letterPart labels (cs.map Char.toUpper) =
      (letterPart labels cs).map (Prod.map (Prod.map (List.map Char.toUpper) id)
        (List.map Char.toUpper)) := by
  simp only [letterPart, dropSep_map_toUpper, matchLabel_map_toUpper, Option.map_map]
  congr 1
  funext m
  simp only [Function.comp, Prod.map, dropSep_map_toUpper, span_isDigit_map_toUpper, id]

/-- A text whose upper-casing starts with a punctuation mark and two more characters starts with
the mark. -/
theorem map_toUpper_eq_punct_cons {p d : Char} {cs rest : List Char} (hp : p ∈ ['!', '.', '-', '+'])
    (h : cs.map Char.toUpper = p :: d :: rest) :
    ∃ d₀ rest₀, cs = p :: d₀ :: rest₀ ∧ d₀.toUpper = d ∧ rest₀.map Char.toUpper = rest := by
  rcases cs with _ | ⟨c, _ | ⟨d₀, rest₀⟩⟩
  · cases h
  · cases h
  · obtain ⟨hc, hd, hr⟩ := List.cons.inj h |>.imp_right List.cons.inj
    exact ⟨d₀, rest₀, by rw [(toUpper_eq_punct hp).mp hc], hd, hr⟩

theorem postPart_dash_digit {d : Char} (rest : List Char) (hd : d.isDigit = true) :
    postPart ('-' :: d :: rest) =
      some ((none, some ((d :: rest).span Char.isDigit).1), ((d :: rest).span Char.isDigit).2) := by
  simp only [postPart, hd, if_true]

theorem postPart_eq_letterPart {cs : List Char}
    (h : ∀ d rest, cs = '-' :: d :: rest → d.isDigit ≠ true) :
    postPart cs = (letterPart postLabels cs).map fun p => ((some p.1.1, p.1.2), p.2) := by
  unfold postPart
  split
  · next d rest => rw [if_neg (h d rest rfl)]
  · rfl

theorem postPart_map_toUpper (cs : List Char) :
    postPart (cs.map Char.toUpper) =
      (postPart cs).map (Prod.map (Prod.map (Option.map (List.map Char.toUpper)) id)
        (List.map Char.toUpper)) := by
  by_cases hcs : ∃ d rest, cs = '-' :: d :: rest ∧ d.isDigit = true
  · obtain ⟨d, rest, rfl, hd⟩ := hcs
    have hmap : ('-' :: d :: rest).map Char.toUpper = '-' :: d :: rest.map Char.toUpper := by
      rw [List.map_cons, List.map_cons, toUpper_of_isDigit hd]
      rfl
    have hspan := span_isDigit_map_toUpper (d :: rest)
    rw [List.map_cons, toUpper_of_isDigit hd] at hspan
    rw [hmap, postPart_dash_digit _ hd, postPart_dash_digit _ hd, hspan]
    rfl
  · push_neg at hcs
    have hcs' : ∀ d rest, cs.map Char.toUpper = '-' :: d :: rest → d.isDigit ≠ true := by
      intro d rest h
      obtain ⟨d₀, rest₀, h₀, rfl, -⟩ := map_toUpper_eq_punct_cons (by simp) h
      rw [isDigit_toUpper]
      exact hcs d₀ rest₀ h₀
    rw [postPart_eq_letterPart hcs', postPart_eq_letterPart hcs, letterPart_map_toUpper,
      Option.map_map, Option.map_map]
    rfl

theorem localAux_map_toUpper (cs cur : List Char) (acc : List (List Char)) :
    localAux (cs.map Char.toUpper) (cur.map Char.toUpper) (acc.map (List.map Char.toUpper)) =
      Prod.map (List.map (List.map Char.toUpper)) (List.map Char.toUpper) (localAux cs cur acc) := by
  induction cs generalizing cur acc with
  | nil => simp [localAux]
  | cons c cs ih =>
    have hhead : (cs.map Char.toUpper).head?.any isLocalChar = cs.head?.any isLocalChar := by
      cases cs <;> simp
    simp only [List.map_cons, localAux, isLocalChar_toUpper, isSep_toUpper, hhead]
    split_ifs
    · exact ih (c :: cur) acc
    · rw [← List.map_reverse]
      exact ih [] (cur.reverse :: acc)
    · simp

theorem localPart_of_not_plus {cs : List Char} (h : ∀ c rest, cs ≠ '+' :: c :: rest) :
    localPart cs = (none, cs) := by
  unfold localPart
  split
  · next c rest => exact absurd rfl (h c rest)
  · rfl

theorem localPart_map_toUpper (cs : List Char) :
    localPart (cs.map Char.toUpper) =
      Prod.map (Option.map (List.map (List.map Char.toUpper))) (List.map Char.toUpper)
        (localPart cs) := by
  by_cases hcs : ∃ c rest, cs = '+' :: c :: rest
  · obtain ⟨c, rest, rfl⟩ := hcs
    have hmap : ('+' :: c :: rest).map Char.toUpper = '+' :: c.toUpper :: rest.map Char.toUpper :=
      rfl
    have haux := localAux_map_toUpper rest [c] []
    simp only [List.map_cons, List.map_nil] at haux
    simp only [hmap, localPart, isLocalChar_toUpper]
    split_ifs
    · rw [haux]
      rfl
    · rfl
  · push_neg at hcs
    rw [localPart_of_not_plus hcs, localPart_of_not_plus fun c rest h => ?_]
    · rfl
    · obtain ⟨c₀, rest₀, h₀, -⟩ := map_toUpper_eq_punct_cons (by simp) h
      exact hcs c₀ rest₀ h₀

@[simp] theorem parseLetterVersion_map_toUpper (letter number : Option (List Char)) :
    parseLetterVersion (letter.map (List.map Char.toUpper)) number =
      parseLetterVersion letter number := by
  cases letter <;> simp only [parseLetterVersion, Option.map_none', Option.map_some',
    lower_map_toUpper]

@[simp] theorem parseLetterVersion_some_map_toUpper (l : List Char) (number : Option (List Char)) :
    parseLetterVersion (some (l.map Char.toUpper)) number = parseLetterVersion (some l) number :=
  parseLetterVersion_map_toUpper (some l) number

@[simp] theorem parseLocalVersion_map_toUpper (local_ : Option (List (List Char))) :
    parseLocalVersion (local_.map (List.map (List.map Char.toUpper))) = parseLocalVersion local_ := by
  cases local_ with
  | none => rfl
  | some parts =>
    simp only [parseLocalVersion, Option.map_some', List.map_map, Option.some.injEq]
    refine List.map_congr_left fun part _ => ?_
    simp only [Function.comp, all_map_toUpper isDigit_toUpper, lower_map_toUpper]
    split_ifs with h
    · rw [map_toUpper_of_digits (List.all_eq_true.mp h)]
    · rfl

/-! ## The whole pattern -/

/-- What an optional part leaves of an upper-cased text is the upper-casing of what it leaves of
the text. -/
theorem getD_map_snd_map_toUpper {β : Type} (f : β → β) (o : Option (β × List Char))
    (cs : List Char) :
    ((o.map (Prod.map f (List.map Char.toUpper))).map Prod.snd).getD (cs.map Char.toUpper) =
      ((o.map Prod.snd).getD cs).map Char.toUpper := by
  cases o <;> rfl

theorem map_fst_map_prodMap {β γ : Type} (f : β → β) (g : γ → γ) (o : Option (β × γ)) :
    (o.map (Prod.map f g)).map Prod.fst = (o.map Prod.fst).map f := by
  cases o <;> rfl

theorem afterEpoch_map_toUpper (e : ℕ) (cs : List Char) :
    afterEpoch e (cs.map Char.toUpper) = afterEpoch e cs := by
  cases cs with
  | nil => rfl
  | cons d cs =>
    rw [List.map_cons]
    by_cases hd : d.isDigit = true
    · rw [toUpper_of_isDigit hd]
      simp only [afterEpoch, hd, if_true, releaseAux_map_toUpper, letterPart_map_toUpper,
        postPart_map_toUpper, localPart_map_toUpper, getD_map_snd_map_toUpper, Prod.map_fst,
        Prod.map_snd, all_map_toUpper isSpace_toUpper, map_fst_map_prodMap, Option.bind_map,
        Function.comp_def, id_eq, parseLetterVersion_some_map_toUpper, parseLetterVersion_map_toUpper,
        parseLocalVersion_map_toUpper]
    · simp only [afterEpoch, isDigit_toUpper, hd, Bool.false_eq_true, if_false]

/-- **The pattern ignores the case of ASCII letters**: upper-casing the ASCII letters of a text
changes neither whether it is a PEP 440 version nor the version it reads. -/
theorem parseVersionChars_map_toUpper (s : List Char) :
    parseVersionChars (s.map Char.toUpper) = parseVersionChars s := by
  simp only [parseVersionChars, dropPrefix_map_toUpper, epochPart_map_toUpper, afterEpoch_map_toUpper]

end OspdOpenvas.Packaging
