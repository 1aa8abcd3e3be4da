import OspdOpenvas.Python.Builtins

/-!
# PEP 440 versions, as `pkg_resources.parse_version` reads them

`parse_version` is `packaging.version.parse` of the `packaging` 20 series that `pkg_resources`
bundles: a string that matches the PEP 440 pattern becomes a `Version`, any other a
`LegacyVersion`, and a `LegacyVersion` sorts below every `Version`.

The pattern (`VERSION_PATTERN`, searched as `^\s*...\s*$` with `re.IGNORECASE`) is matched here
by a left-to-right scan (`parseVersionChars`) that takes every optional part when it can. This
is the match the regular expression finds: an optional part is tried first by the expression,
and where a separator or a shorter label could also be left to the next part, no later part can
use what is left (a label that is a prefix of another, `a` of `alpha`, `r` of `rev`, leaves
letters no later part starts with), or the groups come out the same.

Under `re.IGNORECASE` a letter of the pattern also matches its other ASCII case and the four
non-ASCII letters Python folds onto `i`, `s` and `k` (`matchesLetter`); the matched labels and
local segments are then lower-cased by `str.lower()` (`lower`).

* `Version.compare` is the order of `_cmpkey`: epoch, release without trailing zeros, then the
  pre-, post- and dev-release and local parts, padded with `NegativeInfinity` and `Infinity`.
* `Version.baseVersion` is `base_version`: the epoch, when it is not zero, and the release.
-/

namespace OspdOpenvas.Packaging

open Py

/-! ## Characters -/

/-- A separator of the pattern, `[-_\.]`. -/
def isSep (c : Char) : Bool := c == '-' || c == '_' || c == '.'

/-- The character `c` matches the lower-case letter `x` of the pattern under `re.IGNORECASE`:
either case of `x`, or one of `İ` and `ı` for `i`, `ſ` for `s` and the Kelvin sign for `k`. -/
def matchesLetter (x c : Char) : Bool :=
  c.toLower == x || (x == 'i' && (c.toNat == 0x130 || c.toNat == 0x131)) ||
    (x == 's' && c.toNat == 0x17F) || (x == 'k' && c.toNat == 0x212A)

/-- `[a-z0-9]` under `re.IGNORECASE`. -/
def isLocalChar (c : Char) : Bool :=
  c.isDigit || c.toLower.isLower || c.toNat == 0x130 || c.toNat == 0x131 || c.toNat == 0x17F ||
    c.toNat == 0x212A

/-- `str.lower()` on a character the pattern's letters match: `İ` lowers to two characters. -/
def lowerChar (c : Char) : List Char :=
  if c.toNat = 0x130 then ['i', Char.ofNat 0x307]
  else if c.toNat = 0x212A then ['k']
  else [c.toLower]

/-- `str.lower()` on matched text. -/
def lower (cs : List Char) : String := ⟨cs.flatMap lowerChar⟩

/-! ## The parts of the pattern -/

/-- An optional separator, `[-_\.]?`, taken when there is one. -/
def dropSep : List Char → List Char
  | c :: cs => if isSep c then cs else c :: cs
  | [] => []

/-- The text at the head of `cs` that matches the letters of `word`, and what follows it. -/
def matchWord : List Char → List Char → Option (List Char × List Char)
  | [], cs => some ([], cs)
  | _ :: _, [] => none
  | x :: xs, c :: cs =>
    if matchesLetter x c then (fun m => (c :: m.1, m.2)) <$> matchWord xs cs else none

/-- The first of `labels` that matches at the head of `cs`. -/
def matchLabel (labels : List String) (cs : List Char) : Option (List Char × List Char) :=
  labels.findSome? fun l => matchWord l.data cs

/-- `[-_\.]?(label)[-_\.]?([0-9]+)?`: the label's text and the number's digits, when the label
is there. -/
def letterPart (labels : List String) (cs : List Char) :
    Option ((List Char × Option (List Char)) × List Char) :=
  (matchLabel labels (dropSep cs)).map fun m =>
    let ds := (dropSep m.2).span Char.isDigit
    ((m.1, if ds.1 = [] then none else some ds.1), ds.2)

/-- The labels of a pre-release, a label before those it is a prefix of. -/
def preLabels : List String := ["preview", "alpha", "beta", "pre", "rc", "a", "b", "c"]

/-- The labels of a post-release. -/
def postLabels : List String := ["post", "rev", "r"]

/-- `(?:([0-9]+)!)?`: the epoch, `0` when there is none. -/
def epochPart (cs : List Char) : ℕ × List Char :=
  match cs.span Char.isDigit with
  | (d :: ds, '!' :: rest) => (digitsValue (d :: ds), rest)
  | _ => (0, cs)

/-- `(?:\.[0-9]+)*` after a number of the release: `n` is the number being read and `acc` the
numbers before it, reversed. -/
def releaseAux : List Char → ℕ → List ℕ → List ℕ × List Char
  | c :: cs, n, acc =>
    if c.isDigit then releaseAux cs (digitStep n c) acc
    else if c = '.' ∧ cs.head?.any Char.isDigit then releaseAux cs 0 (n :: acc)
    else ((n :: acc).reverse, c :: cs)
  | [], n, acc => ((n :: acc).reverse, [])

theorem releaseAux_ne_nil (cs : List Char) (n : ℕ) (acc : List ℕ) : (releaseAux cs n acc).1 ≠ [] := by
  induction cs generalizing n acc with
  | nil => simp [releaseAux]
  | cons c cs ih =>
    simp only [releaseAux]
    split_ifs
    · exact ih _ _
    · exact ih _ _
    · simp

/-- `(?:-([0-9]+))|(?:[-_\.]?(post|rev|r)[-_\.]?([0-9]+)?)`, the first alternative first. -/
def postPart (cs : List Char) : Option ((Option (List Char) × Option (List Char)) × List Char) :=
  match cs with
  | '-' :: d :: rest =>
    if d.isDigit then
      let ds := (d :: rest).span Char.isDigit
      some ((none, some ds.1), ds.2)
    else (letterPart postLabels cs).map fun p => ((some p.1.1, p.1.2), p.2)
  | _ => (letterPart postLabels cs).map fun p => ((some p.1.1, p.1.2), p.2)

/-- `[a-z0-9]+(?:[-_\.][a-z0-9]+)*` after its first character: `cur` is the segment being read,
reversed, and `acc` the segments before it, reversed. -/
def localAux : List Char → List Char → List (List Char) → List (List Char) × List Char
  | c :: cs, cur, acc =>
    if isLocalChar c then localAux cs (c :: cur) acc
    else if isSep c ∧ cs.head?.any isLocalChar then localAux cs [] (cur.reverse :: acc)
    else ((cur.reverse :: acc).reverse, c :: cs)
  | [], cur, acc => ((cur.reverse :: acc).reverse, [])

/-- `(?:\+(...))?`: the segments of the local version, when there is one. -/
def localPart : List Char → Option (List (List Char)) × List Char
  | '+' :: c :: cs => if isLocalChar c then (localAux cs [c] []).map some id else (none, '+' :: c :: cs)
  | cs => (none, cs)

/-! ## Versions -/

/-- A segment of a local version: a number, or lower-case text. -/
inductive LocalPart
  | num (n : ℕ)
  | str (s : String)
  deriving DecidableEq, Repr

/-- A PEP 440 version, the fields of `packaging.version._Version`; the release has a number. -/
structure Version where
  epoch : ℕ
  release : List ℕ
  release_ne_nil : release ≠ []
  pre : Option (String × ℕ)
  post : Option (String × ℕ)
  dev : Option (String × ℕ)
  local_ : Option (List LocalPart)

/-- `_parse_letter_version(letter, number)`: the label lower-cased and normalised, the number
`0` when it is missing; a number without a label is a post-release. -/
def parseLetterVersion (letter number : Option (List Char)) : Option (String × ℕ) :=
  match letter with
  | some l =>
    let l := lower l
    let l := if l = "alpha" then "a" else if l = "beta" then "b"
      else if l ∈ ["c", "pre", "preview"] then "rc" else if l ∈ ["rev", "r"] then "post" else l
    some (l, (number.map digitsValue).getD 0)
  | none => number.map fun n => ("post", digitsValue n)

/-- `_parse_local_version(local)`: digit segments as numbers, the others lower-cased. -/
def parseLocalVersion (local_ : Option (List (List Char))) : Option (List LocalPart) :=
  local_.map fun parts =>
    parts.map fun part => if part.all Char.isDigit then .num (digitsValue part) else .str (lower part)

/-- `^\s*v?`: the text after leading whitespace and an optional `v`. -/
def dropPrefix (s : List Char) : List Char :=
  match s.dropWhile isSpace with
  | c :: r => if matchesLetter 'v' c then r else c :: r
  | [] => []

/-- The pattern after the epoch: the release, the optional parts, and only whitespace after
them. -/
def afterEpoch (epoch : ℕ) : List Char → Option Version
  | d :: cs =>
    if d.isDigit then
      let r := releaseAux cs (digitStep 0 d) []
      let pre := letterPart preLabels r.2
      let cs := (pre.map Prod.snd).getD r.2
      let post := postPart cs
      let cs := (post.map Prod.snd).getD cs
      let dev := letterPart ["dev"] cs
      let cs := (dev.map Prod.snd).getD cs
      let loc := localPart cs
      if loc.2.all isSpace then
        some
          { epoch := epoch
            release := r.1
            release_ne_nil := releaseAux_ne_nil _ _ _
            pre := (pre.map (·.1)).bind fun p => parseLetterVersion (some p.1) p.2
            post := (post.map (·.1)).bind fun p => parseLetterVersion p.1 p.2
            dev := (dev.map (·.1)).bind fun p => parseLetterVersion (some p.1) p.2
            local_ := parseLocalVersion loc.1 }
      else none
    else none
  | [] => none

/-- The pattern matched against the whole string: the `Version`, when it matches. -/
def parseVersionChars (s : List Char) : Option Version :=
  let e := epochPart (dropPrefix s)
  afterEpoch e.1 e.2

/-- A version `packaging.version.parse` returns. -/
inductive ParsedVersion
  | version (v : Version)
  | legacy (s : String)

/-- `parse_version(s)`. -/
def parseVersion (s : String) : ParsedVersion :=
  match parseVersionChars s.data with
  | some v => .version v
  | none => .legacy s

/-! ## Order and base version -/

/-- A field of `_cmpkey`: `NegativeInfinity`, a value, or `Infinity`. -/
inductive Bound (α : Type)
  | negInf
  | val (a : α)
  | inf

/-- The place of a bound among the three kinds. -/
def Bound.rank {α : Type} : Bound α → ℕ
  | .negInf => 0
  | .val _ => 1
  | .inf => 2

def Bound.compare {α : Type} (cmp : α → α → Ordering) : Bound α → Bound α → Ordering
  | .val a, .val b => cmp a b
  | a, b => Ord.compare a.rank b.rank

/-- The order of Python tuples. -/
def compareList {α : Type} (cmp : α → α → Ordering) : List α → List α → Ordering
  | [], [] => .eq
  | [], _ :: _ => .lt
  | _ :: _, [] => .gt
  | a :: as, b :: bs => (cmp a b).then (compareList cmp as bs)

/-- The order of a `(letter, number)` pair. -/
def comparePair (a b : String × ℕ) : Ordering :=
  (Ord.compare a.1 b.1).then (Ord.compare a.2 b.2)

/-- The order of local segments: `(n, '')` for a number, `(NegativeInfinity, s)` for text. -/
def LocalPart.compare : LocalPart → LocalPart → Ordering
  | .num a, .num b => Ord.compare a b
  | .num _, .str _ => .gt
  | .str _, .num _ => .lt
  | .str a, .str b => Ord.compare a b

namespace Version

/-- The release without its trailing zeros. -/
def releaseKey (v : Version) : List ℕ := (v.release.reverse.dropWhile (· = 0)).reverse

/-- A version with neither a pre- nor a post-release but a dev-release sorts before its
pre-releases; one without a pre-release sorts after them. -/
def preKey (v : Version) : Bound (String × ℕ) :=
  match v.pre, v.post, v.dev with
  | none, none, some _ => .negInf
  | none, _, _ => .inf
  | some p, _, _ => .val p

def postKey (v : Version) : Bound (String × ℕ) := (v.post.map .val).getD .negInf

def devKey (v : Version) : Bound (String × ℕ) := (v.dev.map .val).getD .inf

def localKey (v : Version) : Bound (List LocalPart) := (v.local_.map .val).getD .negInf

/-- The order of `_cmpkey`, field by field. -/
def compare (a b : Version) : Ordering :=
  (Ord.compare a.epoch b.epoch).then <|
    (compareList Ord.compare a.releaseKey b.releaseKey).then <|
      (Bound.compare comparePair a.preKey b.preKey).then <|
        (Bound.compare comparePair a.postKey b.postKey).then <|
          (Bound.compare comparePair a.devKey b.devKey).then <|
            Bound.compare (compareList LocalPart.compare) a.localKey b.localKey

/-- `base_version`: `'{epoch}!'` when the epoch is not zero, then the release joined by `.`. -/
def baseVersion (v : Version) : String :=
  (if v.epoch ≠ 0 then Nat.repr v.epoch ++ "!" else "") ++ join "." (v.release.map Nat.repr)

end Version

/-- `installed >= supported` for a `Version` on the right: a `LegacyVersion` has the epoch `-1`
in its key, below every `Version`. -/
def ParsedVersion.geVersion : ParsedVersion → Version → Bool
  | .version a, b => decide (a.compare b ≠ .lt)
  | .legacy _, _ => false

/-- `base_version`; a `LegacyVersion` gives its string back. -/
def ParsedVersion.baseVersion : ParsedVersion → String
  | .version v => v.baseVersion
  | .legacy s => s

end OspdOpenvas.Packaging
