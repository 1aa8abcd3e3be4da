import OspdOpenvas.Python.Str
import Mathlib.Data.Nat.Digits

/-!
# Python built-ins: exceptions, indexing, `int()` and `bytes.decode`

A Python call that may raise is modelled as a value of `Except PyErr α`. The built-ins the NVT
cache code relies on are given here with the exceptions they raise:

* `getItem l i` is `l[i]`, raising `IndexError` past the end;
* `int s` is `int(s)` on a string, raising `ValueError` unless `s` is a base-10 literal, whose
  digits may be any Unicode decimal digits, with ASCII whitespace or whitespace outside ASCII
  around it;
* `unpack2 l` is `a, b = l`, raising `ValueError` unless `l` has two items;
* `decodeUtf8 b` is `b.decode('utf-8')`, raising `UnicodeDecodeError` on a malformed sequence.

`foldlM_eq_ok` and `foldlM_eq_error` say when a `for` loop whose body may raise runs to the end,
and which exception stops it.
-/

namespace OspdOpenvas.Py

/-- The exceptions the modelled code raises or lets through. The text of a built-in exception,
`str(e)`, is kept where the code formats it into a message of its own. -/
inductive PyErr
  | CalledProcessError (text : String)
  | PermissionError (text : String)
  | FileNotFoundError (text : String)
  | OSError (text : String)
  | UnicodeDecodeError
  | ValueError
  | IndexError
  | AttributeError
  | OspdOpenvasError (msg : String)
  deriving DecidableEq, Repr

/-! ## Indexing and loops -/

/-- `l[i]` for a non-negative index. -/
def getItem {α : Type} (l : List α) (i : ℕ) : Except PyErr α :=
  match l[i]? with
  | some a => .ok a
  | none => .error .IndexError

theorem getItem_of_lt {α : Type} {l : List α} {i : ℕ} (h : i < l.length) :
    getItem l i = .ok (l.get ⟨i, h⟩) := by
  simp [getItem, List.getElem?_eq_getElem h]

theorem getItem_of_le {α : Type} {l : List α} {i : ℕ} (h : l.length ≤ i) :
    getItem l i = .error .IndexError := by
  simp [getItem, List.getElem?_eq_none h]

/-- `a, b = l`. -/
def unpack2 {α : Type} (l : List α) : Except PyErr (α × α) :=
  match l with
  | [a, b] => .ok (a, b)
  | _ => .error .ValueError

theorem unpack2_eq_error {α : Type} {l : List α} {e : PyErr} (h : unpack2 l = .error e) :
    e = .ValueError := by
  unfold unpack2 at h
  split at h <;> cases h
  rfl

section loops

variable {α β ε : Type} {f : β → α → Except ε β}

/-- A loop whose body succeeds on every element is the plain fold. -/
theorem foldlM_eq_ok {g : β → α → β} {l : List α} (h : ∀ x ∈ l, ∀ b, f b x = .ok (g b x))
    (b : β) : l.foldlM f b = .ok (l.foldl g b) := by
  induction l generalizing b with
  | nil => rfl
  | cons x l ih =>
    simp only [List.foldlM_cons, List.foldl_cons, h x (by simp) b]
    exact ih (fun y hy => h y (by simp [hy])) _

/-- A loop whose body raises only `e`, and raises on some element whatever the state, raises
`e`. -/
theorem foldlM_eq_error {e : ε} {l : List α} (hx : ∃ x ∈ l, ∀ b, ∃ e', f b x = .error e')
    (he : ∀ x ∈ l, ∀ b e', f b x = .error e' → e' = e) (b : β) : l.foldlM f b = .error e := by
  induction l generalizing b with
  | nil => simp at hx
  | cons y l ih =>
    rw [List.foldlM_cons]
    cases hy : f b y with
    | error e' => rw [he y (by simp) b e' hy]; rfl
    | ok b' =>
      obtain ⟨x, hxl, hxf⟩ := hx
      rcases List.mem_cons.mp hxl with rfl | hxl
      · obtain ⟨e', he'⟩ := hxf b
        rw [he'] at hy
        cases hy
      · exact ih ⟨x, hxl, hxf⟩ (fun z hz => he z (by simp [hz])) b'

end loops

/-! ## `int()` -/

/-- Reading one more digit. -/
def digitStep (n : ℕ) (c : Char) : ℕ := 10 * n + (c.toNat - '0'.toNat)

/-- The number a run of ASCII digits spells. -/
def digitsValue (ds : List Char) : ℕ := ds.foldl digitStep 0

/-- The digits of a base-10 literal of `int()`: ASCII digits, with single underscores between
them. -/
def decimalDigits : List Char → Option (List Char)
  | [] => some []
  | '_' :: c :: cs => if c.isDigit then (c :: ·) <$> decimalDigits cs else none
  | c :: cs => if c.isDigit then (c :: ·) <$> decimalDigits cs else none

/-- `Py_ISSPACE`: the ASCII whitespace `PyLong_FromString` skips around a literal. Unlike
`str.isspace()`, it leaves out `\x1c`-`\x1f`. -/
def isAsciiSpace (c : Char) : Bool := c == ' ' || (0x09 ≤ c.toNat && c.toNat ≤ 0x0D)

/-- The code points of the zeros of the runs of ten decimal digits of Unicode 14.0: the
characters with a decimal value are the ten of each run, valued `0` to `9`. -/
def decimalZeros : List ℕ :=
  [0x30, 0x660, 0x6F0, 0x7C0, 0x966, 0x9E6, 0xA66, 0xAE6, 0xB66, 0xBE6, 0xC66, 0xCE6, 0xD66,
    0xDE6, 0xE50, 0xED0, 0xF20, 0x1040, 0x1090, 0x17E0, 0x1810, 0x1946, 0x19D0, 0x1A80, 0x1A90,
    0x1B50, 0x1BB0, 0x1C40, 0x1C50, 0xA620, 0xA8D0, 0xA900, 0xA9D0, 0xA9F0, 0xAA50, 0xABF0,
    0xFF10, 0x104A0, 0x10D30, 0x11066, 0x110F0, 0x11136, 0x111D0, 0x112F0, 0x11450, 0x114D0,
    0x11650, 0x116C0, 0x11730, 0x118E0, 0x11950, 0x11C50, 0x11D50, 0x11DA0, 0x16A60, 0x16AC0,
    0x16B50, 0x1D7CE, 0x1D7D8, 0x1D7E2, 0x1D7EC, 0x1D7F6, 0x1E140, 0x1E2F0, 0x1E950, 0x1FBF0]

/-- `Py_UNICODE_TODECIMAL(c)`: the value of a decimal digit of Unicode. -/
def toDecimal (c : Char) : Option ℕ :=
  (decimalZeros.find? fun z => z ≤ c.toNat && c.toNat < z + 10).map (c.toNat - ·)

/-- `_PyUnicode_TransformDecimalAndSpaceToASCII`: a character below `0x7f` is kept, other
whitespace becomes a space and another decimal digit the ASCII digit of its value; any other
character becomes `?` and ends the text. -/
def transformDecimalAndSpaceToASCII : List Char → List Char
  | [] => []
  | c :: cs =>
    if c.toNat < 127 then c :: transformDecimalAndSpaceToASCII cs
    else if isSpace c then ' ' :: transformDecimalAndSpaceToASCII cs
    else match toDecimal c with
      | some d => Char.ofNat ('0'.toNat + d) :: transformDecimalAndSpaceToASCII cs
      | none => ['?']

/-- `PyLong_FromString(s, base=10)`, required to read the whole text: ASCII whitespace around an
optional sign and a literal that starts with a digit. -/
def longFromString (s : List Char) : Except PyErr ℤ :=
  let (neg, body) : Bool × List Char :=
    match ((s.dropWhile isAsciiSpace).reverse.dropWhile isAsciiSpace).reverse with
    | '-' :: r => (true, r)
    | '+' :: r => (false, r)
    | r => (false, r)
  match body, decimalDigits body with
  | c :: _, some ds =>
    if c.isDigit then .ok (if neg then -(digitsValue ds : ℤ) else digitsValue ds)
    else .error .ValueError
  | _, _ => .error .ValueError

/-- `int(s)` on a `str`, base 10 (`PyLong_FromUnicodeObject`): the text with its decimal digits
and whitespace made ASCII, read by `PyLong_FromString`. -/
def int (s : String) : Except PyErr ℤ :=
  longFromString (transformDecimalAndSpaceToASCII s.data)

theorem digitChar_value : ∀ d < 10, (Nat.digitChar d).toNat - '0'.toNat = d := by
  decide

/-- The digits `Nat.toDigitsCore` produces, read after those already produced. -/
theorem toDigitsCore_value (fuel : ℕ) :
    ∀ n ds, n < fuel → digitsValue (Nat.toDigitsCore 10 fuel n ds) = ds.foldl digitStep n := by
  induction fuel with
  | zero => intro n _ h; omega
  | succ fuel ih =>
    intro n ds hn
    have hd := digitChar_value _ (Nat.mod_lt n (show 10 > 0 by omega))
    simp only [Nat.toDigitsCore]
    split
    · have hn10 : n % 10 = n := Nat.mod_eq_of_lt (by omega)
      simp only [digitsValue, List.foldl_cons, digitStep, Nat.mul_zero, Nat.zero_add]
      rw [hd, hn10]
    · rw [ih (n / 10) _ (by omega), List.foldl_cons, digitStep, hd, Nat.div_add_mod]

/-- `str(n)` read back as digits is `n`. -/
theorem digitsValue_repr (n : ℕ) : digitsValue (Nat.repr n).data = n :=
  toDigitsCore_value (n + 1) n [] (by omega)

theorem repr_injective : Function.Injective Nat.repr := fun m n h => by
  rw [← digitsValue_repr m, ← digitsValue_repr n, h]

theorem toDigitsCore_digits (fuel : ℕ) :
    ∀ n ds, (∀ c ∈ ds, ∃ d < 10, c = Nat.digitChar d) →
      ∀ c ∈ Nat.toDigitsCore 10 fuel n ds, ∃ d < 10, c = Nat.digitChar d := by
  induction fuel with
  | zero => intro n ds h; exact h
  | succ fuel ih =>
    intro n ds h
    have hd : ∃ d < 10, Nat.digitChar (n % 10) = Nat.digitChar d :=
      ⟨_, Nat.mod_lt n (by omega), rfl⟩
    simp only [Nat.toDigitsCore]
    split
    · simpa [hd] using h
    · exact ih _ _ (by simpa [hd] using h)

/-- `str(n)` is made of the ten digits. -/
theorem mem_repr {n : ℕ} {c : Char} (h : c ∈ (Nat.repr n).data) : ∃ d < 10, c = Nat.digitChar d :=
  toDigitsCore_digits (n + 1) n [] (by simp) c h

theorem digitChar_isDigit : ∀ d < 10, (Nat.digitChar d).isDigit = true := by
  decide

theorem isDigit_of_mem_repr {n : ℕ} {c : Char} (h : c ∈ (Nat.repr n).data) : c.isDigit = true := by
  obtain ⟨d, hd, rfl⟩ := mem_repr h
  exact digitChar_isDigit d hd

/-! ## `bytes.decode('utf-8')` -/

/-- A continuation byte, `10xxxxxx`. -/
def isCont (b : UInt8) : Bool := 0x80 ≤ b.toNat && b.toNat < 0xC0

/-- The characters of `b.decode('utf-8')` in the strict mode: sequences of one to four bytes,
with no overlong form, no surrogate and nothing past U+10FFFF. -/
def decodeUtf8Chars : List UInt8 → Option (List Char)
  | [] => some []
  | b :: bs =>
    let n := b.toNat
    if n < 0x80 then (Char.ofNat n :: ·) <$> decodeUtf8Chars bs
    else if 0xC2 ≤ n ∧ n < 0xE0 then
      match bs with
      | c :: bs =>
        if isCont c then (Char.ofNat ((n - 0xC0) * 64 + (c.toNat - 0x80)) :: ·) <$> decodeUtf8Chars bs
        else none
      | [] => none
    else if 0xE0 ≤ n ∧ n < 0xF0 then
      match bs with
      | c₁ :: c₂ :: bs =>
        let cp := (n - 0xE0) * 0x1000 + (c₁.toNat - 0x80) * 0x40 + (c₂.toNat - 0x80)
        if isCont c₁ ∧ isCont c₂ ∧ 0x800 ≤ cp ∧ ¬ (0xD800 ≤ cp ∧ cp < 0xE000) then
          (Char.ofNat cp :: ·) <$> decodeUtf8Chars bs
        else none
      | _ => none
    else if 0xF0 ≤ n ∧ n < 0xF5 then
      match bs with
      | c₁ :: c₂ :: c₃ :: bs =>
        let cp := (n - 0xF0) * 0x40000 + (c₁.toNat - 0x80) * 0x1000 + (c₂.toNat - 0x80) * 0x40 +
          (c₃.toNat - 0x80)
        if isCont c₁ ∧ isCont c₂ ∧ isCont c₃ ∧ 0x10000 ≤ cp ∧ cp < 0x110000 then
          (Char.ofNat cp :: ·) <$> decodeUtf8Chars bs
        else none
      | _ => none
    else none

/-- `b.decode('utf-8')`. -/
def decodeUtf8 (b : List UInt8) : Except PyErr String :=
  match decodeUtf8Chars b with
  | some cs => .ok ⟨cs⟩
  | none => .error .UnicodeDecodeError

example : decodeUtf8 [50, 48, 46, 52, 10] = .ok "20.4\n" := rfl

example : decodeUtf8 [0xED, 0xA0, 0x80] = .error .UnicodeDecodeError := rfl

end OspdOpenvas.Py
