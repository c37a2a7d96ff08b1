import Mathlib.Data.List.Basic
import Mathlib.Tactic.Ring

namespace AppManager

/-!
# AppManager — the Python string builtins the instance manager relies on

The instance manager names everything by strings it glues together and takes apart
again: watch names, revision keys, registry paths, process command lines.  Its
guarantees therefore rest on a handful of Python 2 builtins, which this file models on
`Str = List Char`:

* `startswith`, `split` (a one-character separator), `join`, the slice `s[n:]`;
* `rsplitOnce c s` — `s.rsplit(c, 1)` followed by the two-name unpacking the code always
  does, `none` being the `ValueError` of a string without `c`; `rsplitHead` is
  `s.rsplit(c, 1)[0]`, which never fails;
* `pyInt` — `int(s)`: surrounding whitespace, an optional sign (which whitespace may
  follow), one or more ASCII digits;
* `pyStr` — `str(i)` for an integer;
* `dictGet`, `dictSet`, `dictDel` — a `dict` kept as its list of items, in insertion order.

The main facts are the round trips the code depends on: `pyInt_pyStr` (every integer is
read back from its decimal form), `rsplitOnce_append` (the last separator is found again)
and `split_join` (Mathlib's `List.splitOn_intercalate` in the code's words).
-/

/-- A Python 2 `str`, as its list of characters. -/
abbrev Str := List Char

/-! ### Prefixes, separators, slices -/

/-- `s.startswith(pfx)`. -/
def startswith (s pfx : Str) : Bool := pfx.isPrefixOf s

/-- `s.split(sep)` for a one-character separator. -/
def split (sep : Char) (s : Str) : List Str := s.splitOn sep

/-- `sep.join(parts)`. -/
def join (sep : Str) (parts : List Str) : Str := sep.intercalate parts

@[simp] theorem startswith_append (p s : Str) : startswith (p ++ s) p = true := by
  simp [startswith, List.isPrefixOf_iff_prefix]

theorem startswith_iff (s p : Str) : startswith s p = true ↔ ∃ t, s = p ++ t := by
  simp only [startswith, List.isPrefixOf_iff_prefix, List.IsPrefix]
  exact ⟨fun ⟨t, h⟩ => ⟨t, h.symm⟩, fun ⟨t, h⟩ => ⟨t, h.symm⟩⟩

theorem startswith_of_append {w p q : Str} (h : startswith w (p ++ q) = true) :
    startswith w p = true := by
  obtain ⟨t, rfl⟩ := (startswith_iff _ _).1 h
  exact (startswith_iff _ _).2 ⟨q ++ t, List.append_assoc _ _ _⟩

/-- Splitting a join of separator-free parts gives the parts back. -/
theorem split_join (sep : Char) (parts : List Str) (h : ∀ p ∈ parts, sep ∉ p)
    (hne : parts ≠ []) : split sep (join [sep] parts) = parts :=
  List.splitOn_intercalate parts sep h hne

/-- Joining the pieces of a split gives the string back. -/
theorem join_split (sep : Char) (s : Str) : join [sep] (split sep s) = s :=
  List.intercalate_splitOn s sep

/-- `s.rsplit(c, 1)` unpacked into two names: the text before the last `c` and the text
    after it; `none` when `s` has no `c` (the unpacking raises `ValueError`). -/
def rsplitOnce (c : Char) : Str → Option (Str × Str)
  | [] => none
  | x :: xs =>
    match rsplitOnce c xs with
    | some (a, b) => some (x :: a, b)
    | none => if x = c then some ([], xs) else none

/-- `s.rsplit(c, 1)[0]`: the text before the last `c`, or all of `s`. -/
def rsplitHead (c : Char) (s : Str) : Str :=
  match rsplitOnce c s with
  | some (a, _) => a
  | none => s

theorem rsplitOnce_eq_none_iff {c : Char} {s : Str} : rsplitOnce c s = none ↔ c ∉ s := by
  induction s with
  | nil => simp [rsplitOnce]
  | cons x xs ih =>
    simp only [rsplitOnce, List.mem_cons, not_or]
    split <;> rename_i h
    · simp only [reduceCtorEq, false_iff, not_and, not_not]
      exact fun _ => by_contra fun hc => by simp [ih.2 hc] at h
    · simp only [ite_eq_right_iff, reduceCtorEq, imp_false, ih.1 h, not_false_eq_true, and_true]
      exact ⟨Ne.symm, Ne.symm⟩

/-- The last separator is found again: the split of `a ++ c :: b` with `c ∉ b`. -/
theorem rsplitOnce_append {c : Char} (a : Str) {b : Str} (h : c ∉ b) :
    rsplitOnce c (a ++ c :: b) = some (a, b) := by
  induction a with
  | nil => simp [rsplitOnce, rsplitOnce_eq_none_iff.2 h]
  | cons x xs ih => simp [rsplitOnce, ih]

/-- What `rsplitOnce` returns is a split at the last occurrence of `c`. -/
theorem rsplitOnce_some {c : Char} {s a b : Str} (h : rsplitOnce c s = some (a, b)) :
    s = a ++ c :: b ∧ c ∉ b := by
  induction s generalizing a with
  | nil => cases h
  | cons x xs ih =>
    simp only [rsplitOnce] at h
    split at h
    · rename_i a' b' h'
      cases h
      exact ⟨by simp [(ih h').1], (ih h').2⟩
    · rename_i h'
      split_ifs at h with hx
      cases h
      exact ⟨by simp [hx], rsplitOnce_eq_none_iff.1 h'⟩

/-! ### `int` and `str` -/

/-- The characters `str.strip()`, `str.split()` and `int()` treat as whitespace. -/
def isSpace (c : Char) : Bool :=
  c == ' ' || c == '\t' || c == '\n' || c == '\r' || c == '\x0b' || c == '\x0c'

/-- `s.strip()`. -/
def strip (s : Str) : Str := ((s.dropWhile isSpace).reverse.dropWhile isSpace).reverse

/-- The value of a run of decimal digits. -/
def digitsValue (ds : Str) : Nat := ds.foldl (fun n c => 10 * n + (c.toNat - 48)) 0

/-- A non-empty run of ASCII digits, read as a number. -/
def parseDigits (ds : Str) : Option Nat :=
  if ds ≠ [] ∧ ds.all Char.isDigit then some (digitsValue ds) else none

/-- The signed part of `int()`, once the whitespace is stripped: Python 2 skips whitespace
    again after a sign (`PyOS_strtol` hands the rest to `PyOS_strtoul`, which skips it), so
    `int('+ 5')` is 5. -/
def parseSigned : Str → Option Int
  | [] => none
  | c :: ds =>
    if c = '-' then (parseDigits (ds.dropWhile isSpace)).map fun n => -(n : Int)
    else if c = '+' then (parseDigits (ds.dropWhile isSpace)).map fun n => (n : Int)
    else (parseDigits (c :: ds)).map fun n => (n : Int)

/-- `int(s)` on a Python 2 `str`; `none` is the `ValueError`. -/
def pyInt (s : Str) : Option Int := parseSigned (strip s)

/-- `str(i)` for an integer. -/
def pyStr : Int → Str
  | .ofNat n => Nat.toDigits 10 n
  | .negSucc n => '-' :: Nat.toDigits 10 (n + 1)

/-- A decimal digit is none of the punctuation the code splits on. -/
theorem ne_of_isDigit {c d : Char} (hc : c.isDigit) (hd : d.isDigit = false) : c ≠ d := by
  rintro rfl; simp_all

theorem isSpace_of_isDigit {c : Char} (h : c.isDigit) : isSpace c = false := by
  simp only [isSpace, Bool.or_eq_false_iff, beq_eq_false_iff_ne]
  exact ⟨⟨⟨⟨⟨ne_of_isDigit h rfl, ne_of_isDigit h rfl⟩, ne_of_isDigit h rfl⟩,
    ne_of_isDigit h rfl⟩, ne_of_isDigit h rfl⟩, ne_of_isDigit h rfl⟩

theorem dropWhile_of_forall {p : Char → Bool} {s : Str} (h : ∀ c ∈ s, p c = false) :
    s.dropWhile p = s := by
  cases s with
  | nil => rfl
  | cons c cs => exact List.dropWhile_cons_of_neg (by simp [h c (by simp)])

/-- A string with no whitespace is its own `strip()`. -/
theorem strip_of_forall {s : Str} (h : ∀ c ∈ s, isSpace c = false) : strip s = s := by
  rw [strip, dropWhile_of_forall h, dropWhile_of_forall (by simpa using h), List.reverse_reverse]

theorem digitChar_spec : ∀ d < 10, (Nat.digitChar d).isDigit ∧ (Nat.digitChar d).toNat - 48 = d := by
  decide

theorem foldl_digits (ds : Str) (a : Nat) :
    ds.foldl (fun n c => 10 * n + (c.toNat - 48)) a = a * 10 ^ ds.length + digitsValue ds := by
  induction ds generalizing a with
  | nil => simp [digitsValue]
  | cons c cs ih =>
    have h0 : digitsValue (c :: cs) = (c.toNat - 48) * 10 ^ cs.length + digitsValue cs := by
      rw [digitsValue, List.foldl_cons, ih]; ring
    rw [List.foldl_cons, ih, h0, List.length_cons, pow_succ]; ring

theorem digitsValue_append (xs ys : Str) :
    digitsValue (xs ++ ys) = digitsValue xs * 10 ^ ys.length + digitsValue ys := by
  rw [digitsValue, List.foldl_append, foldl_digits]; rfl

/-- `Nat.toDigitsCore` with enough fuel puts the digits of `n` in front of `ds`. -/
theorem toDigitsCore_spec (fuel n : Nat) (ds : Str) (h : n < fuel) :
    ∃ pre, Nat.toDigitsCore 10 fuel n ds = pre ++ ds ∧ pre ≠ [] ∧
      (∀ c ∈ pre, c.isDigit) ∧ digitsValue pre = n := by
  induction fuel generalizing n ds with
  | zero => omega
  | succ fuel ih =>
    have hd := digitChar_spec (n % 10) (Nat.mod_lt _ (by omega))
    have hcore : Nat.toDigitsCore 10 (fuel + 1) n ds =
        if n / 10 = 0 then Nat.digitChar (n % 10) :: ds
        else Nat.toDigitsCore 10 fuel (n / 10) (Nat.digitChar (n % 10) :: ds) := rfl
    rw [hcore]
    split
    · refine ⟨[Nat.digitChar (n % 10)], rfl, by simp, by simpa using hd.1, ?_⟩
      simp [digitsValue, hd.2]; omega
    · obtain ⟨pre, hpre, hne, hdig, hval⟩ := ih (n / 10) (Nat.digitChar (n % 10) :: ds) (by omega)
      refine ⟨pre ++ [Nat.digitChar (n % 10)], by simp [hpre], by simp, ?_, ?_⟩
      · simpa [or_imp, forall_and] using ⟨hdig, hd.1⟩
      · rw [digitsValue_append, hval]; simp [digitsValue, hd.2]; omega

theorem toDigits_spec (n : Nat) :
    Nat.toDigits 10 n ≠ [] ∧ (∀ c ∈ Nat.toDigits 10 n, c.isDigit) ∧
      digitsValue (Nat.toDigits 10 n) = n := by
  obtain ⟨pre, h, hne, hdig, hval⟩ := toDigitsCore_spec (n + 1) n [] (by omega)
  simp only [List.append_nil] at h
  rw [show Nat.toDigits 10 n = Nat.toDigitsCore 10 (n + 1) n [] from rfl, h]
  exact ⟨hne, hdig, hval⟩

theorem parseDigits_toDigits (n : Nat) : parseDigits (Nat.toDigits 10 n) = some n := by
  obtain ⟨hne, hdig, hval⟩ := toDigits_spec n
  rw [parseDigits, if_pos ⟨hne, List.all_eq_true.2 hdig⟩, hval]

/-- Every character of the decimal form of a natural number is a digit. -/
theorem isDigit_of_mem_pyStr {n : Nat} {c : Char} (h : c ∈ pyStr n) : c.isDigit :=
  (toDigits_spec n).2.1 c h

/-- The decimal form of a natural number holds no character that is not a digit. -/
theorem not_mem_pyStr {n : Nat} {d : Char} (hd : d.isDigit = false) : d ∉ pyStr n :=
  fun h => ne_of_isDigit (isDigit_of_mem_pyStr h) hd rfl

/-- The decimal form of an integer holds no character but digits and `-`. -/
theorem not_mem_pyStr_int {d : Char} (hd : d.isDigit = false) (hm : d ≠ '-') (i : Int) :
    d ∉ pyStr i := by
  cases i with
  | ofNat n => exact not_mem_pyStr hd
  | negSucc n =>
    simp only [pyStr, List.mem_cons, not_or]
    exact ⟨hm, fun h => ne_of_isDigit ((toDigits_spec (n + 1)).2.1 d h) hd rfl⟩

/-- **`int(str(i)) == i`** for every integer. -/
theorem pyInt_pyStr (i : Int) : pyInt (pyStr i) = some i := by
  cases i with
  | ofNat n =>
    obtain ⟨hne, hdig, -⟩ := toDigits_spec n
    obtain ⟨c, cs, hcs⟩ := List.exists_cons_of_ne_nil hne
    have hc : c.isDigit := hdig c (by simp [hcs])
    rw [pyInt, pyStr, strip_of_forall fun c h => isSpace_of_isDigit (hdig c h), hcs, parseSigned,
      if_neg (ne_of_isDigit (d := '-') hc rfl),
      if_neg (ne_of_isDigit (d := '+') hc rfl), ← hcs, parseDigits_toDigits]
    rfl
  | negSucc n =>
    have hdig : ∀ c ∈ Nat.toDigits 10 (n + 1), isSpace c = false :=
      fun c h => isSpace_of_isDigit ((toDigits_spec (n + 1)).2.1 c h)
    have hsp : ∀ c ∈ pyStr (.negSucc n), isSpace c = false := by
      simp only [pyStr, List.mem_cons, forall_eq_or_imp]
      exact ⟨rfl, hdig⟩
    rw [pyInt, strip_of_forall hsp, pyStr, parseSigned, if_pos rfl, dropWhile_of_forall hdig,
      parseDigits_toDigits]
    rfl

/-! ### The one regular expression -/

/-- The regex `.*lit` matched at the start of a string (`re.match`): some prefix is
    newline-free text followed by `lit`. -/
def anyThen (lit : Str) : Str → Bool
  | [] => lit.isEmpty
  | c :: cs => lit.isPrefixOf (c :: cs) || (c != '\n' && anyThen lit cs)

/-- `.*lit` matches any newline-free text followed by `lit`, whatever comes after. -/
theorem anyThen_append (lit : Str) {t : Str} (u : Str) (ht : '\n' ∉ t) :
    anyThen lit (t ++ lit ++ u) = true := by
  induction t with
  | nil => cases lit <;> cases u <;> simp [anyThen, List.isPrefixOf_iff_prefix]
  | cons c t ih =>
    simp only [List.mem_cons, not_or] at ht
    simp only [List.append_assoc] at ih
    simp [anyThen, ih ht.2, Ne.symm ht.1]

/-! ### `str.split()` -/

/-- `s.split()` with no argument: the maximal runs of non-whitespace characters. -/
def splitWhitespace (s : Str) : List Str := (s.splitOnP isSpace).filter (· ≠ [])

/-- A string without whitespace, which `s.split()` keeps in one piece. -/
def noSpace (s : Str) : Bool := s.all (!isSpace ·)

/-- A separator ends the piece before it, whatever follows. -/
theorem splitOnP_append_cons (p : Char → Bool) (xs : Str) {c : Char} (hc : p c) (as : Str) :
    (xs ++ c :: as).splitOnP p = xs.splitOnP p ++ as.splitOnP p := by
  induction xs with
  | nil => simp [List.splitOnP_cons, hc]
  | cons x xs ih =>
    rw [List.cons_append, List.splitOnP_cons, List.splitOnP_cons, ih]
    split
    · rfl
    · obtain ⟨y, ys, hy⟩ := List.exists_cons_of_ne_nil (List.splitOnP_ne_nil p xs)
      simp [hy]

/-- Text on both sides of a whitespace character is split separately. -/
theorem splitWhitespace_append_cons (a : Str) {c : Char} (hc : isSpace c) (b : Str) :
    splitWhitespace (a ++ c :: b) = splitWhitespace a ++ splitWhitespace b := by
  simp [splitWhitespace, splitOnP_append_cons _ a hc]

/-- `' '.join(parts).split()` splits every part on its own. -/
theorem splitWhitespace_join (parts : List Str) :
    splitWhitespace (join [' '] parts) = (parts.map splitWhitespace).flatten := by
  induction parts with
  | nil => rfl
  | cons x xs ih =>
    cases xs with
    | nil => simp [join, List.intercalate]
    | cons y ys =>
      have h : join [' '] (x :: y :: ys) = x ++ ' ' :: join [' '] (y :: ys) := by
        simp [join, List.intercalate]
      rw [h, splitWhitespace_append_cons x (c := ' ') rfl, ih]
      rfl

/-- A non-empty string without whitespace: one field of `s.split()`. -/
def isWord (s : Str) : Bool := !s.isEmpty && noSpace s

@[simp] theorem noSpace_nil : noSpace [] = true := rfl

@[simp] theorem noSpace_append (a b : Str) : noSpace (a ++ b) = (noSpace a && noSpace b) :=
  List.all_append

@[simp] theorem noSpace_cons (c : Char) (s : Str) : noSpace (c :: s) = (!isSpace c && noSpace s) :=
  List.all_cons

theorem isWord_iff {s : Str} : isWord s ↔ s ≠ [] ∧ noSpace s := by
  simp [isWord]

/-- A word is one field. -/
theorem splitWhitespace_word {s : Str} (h : isWord s) : splitWhitespace s = [s] := by
  simp only [isWord, noSpace, Bool.and_eq_true, Bool.not_eq_true', List.isEmpty_eq_false,
    List.all_eq_true, Bool.not_eq_true'] at h
  rw [splitWhitespace, List.splitOnP_eq_single _ _ fun c hc => by simp [h.2 c hc]]
  simp [h.1]

/-- Joining words with spaces and splitting again gives the words back. -/
theorem splitWhitespace_join_words {parts : List Str} (h : ∀ w ∈ parts, isWord w) :
    splitWhitespace (join [' '] parts) = parts := by
  rw [splitWhitespace_join]
  induction parts with
  | nil => rfl
  | cons w ws ih =>
    rw [List.map_cons, List.flatten_cons, splitWhitespace_word (h w (by simp)),
      ih fun v hv => h v (by simp [hv])]
    rfl

/-- A piece of text ending in a space is split apart from what follows. -/
theorem splitWhitespace_append_of_space {a : Str} (b : Str) (h : a.getLast? = some ' ') :
    splitWhitespace (a ++ b) = splitWhitespace a.dropLast ++ splitWhitespace b := by
  conv_lhs => rw [← List.dropLast_append_getLast? _ h, List.append_assoc, List.singleton_append]
  exact splitWhitespace_append_cons _ (c := ' ') rfl _

theorem isWord_append {a b : Str} (ha : noSpace a) (hb : isWord b) : isWord (a ++ b) := by
  simp_all [isWord, noSpace]

/-- The decimal form of an integer is a word. -/
theorem isWord_pyStr (i : Int) : isWord (pyStr i) := by
  cases i with
  | ofNat n =>
    obtain ⟨hne, hdig, -⟩ := toDigits_spec n
    simpa [isWord, noSpace, pyStr, hne] using fun c h => isSpace_of_isDigit (hdig c h)
  | negSucc n =>
    simpa [isWord, noSpace, pyStr] using
      ⟨rfl, fun c h => isSpace_of_isDigit ((toDigits_spec (n + 1)).2.1 c h)⟩

theorem noSpace_pyStr (i : Int) : noSpace (pyStr i) := (isWord_iff.1 (isWord_pyStr i)).2

/-- The decimal form of a natural number starts with a digit. -/
theorem pyStr_eq_cons (n : Nat) : ∃ c cs, pyStr n = c :: cs ∧ c.isDigit := by
  obtain ⟨hne, hdig, -⟩ := toDigits_spec n
  obtain ⟨c, cs, h⟩ := List.exists_cons_of_ne_nil hne
  exact ⟨c, cs, h, hdig c (by simp [h])⟩

/-- Text that does not start with `/` does not start with an absolute path. -/
theorem startswith_slash {t r : Str} (h : t.head? ≠ some '/') : startswith t ('/' :: r) = false := by
  cases t with
  | nil => rfl
  | cons c cs =>
    have hc : c ≠ '/' := fun h' => h (by simp [h'])
    simp [startswith, List.isPrefixOf, hc.symm]

/-- The decimal form of a natural number does not start with `/`. -/
theorem head_pyStr_ne (n : Nat) : (pyStr n).head? ≠ some '/' := by
  obtain ⟨c, cs, h, hc⟩ := pyStr_eq_cons n
  rw [h]
  exact fun h' => ne_of_isDigit (d := '/') hc rfl (Option.some.inj h')

/-- `split` on a one-character separator cuts at every occurrence of it. -/
theorem split_append_cons (c : Char) (a b : Str) :
    split c (a ++ c :: b) = split c a ++ split c b :=
  splitOnP_append_cons (· == c) a (beq_self_eq_true c) b

/-- A string without the separator is one piece. -/
theorem split_of_not_mem {c : Char} {s : Str} (h : c ∉ s) : split c s = [s] :=
  List.splitOnP_eq_single _ _ fun x hx => by simpa using ne_of_mem_of_not_mem hx h

/-- No piece of a split holds the separator. -/
theorem not_mem_of_mem_split {c : Char} {s x : Str} (h : x ∈ split c s) : c ∉ x := by
  induction s generalizing x with
  | nil =>
    obtain rfl : x = [] := by simpa [split] using h
    simp
  | cons a s ih =>
    have hsplit : ∀ t, split c t = t.splitOnP (· == c) := fun _ => rfl
    rw [hsplit, List.splitOnP_cons] at h
    rw [hsplit] at ih
    obtain ⟨y, ys, hys⟩ := List.exists_cons_of_ne_nil (List.splitOnP_ne_nil (· == c) s)
    split at h
    · rcases List.mem_cons.1 h with rfl | h
      exacts [List.not_mem_nil c, ih h]
    · rename_i hac
      rw [hys, List.modifyHead_cons, List.mem_cons] at h
      rcases h with rfl | h
      · simp only [List.mem_cons, not_or]
        exact ⟨fun hca => hac (by simp [hca]), ih (by simp [hys])⟩
      · exact ih (by simp [hys, h])

/-- The only `-` of an integer's decimal form is its sign. -/
theorem eq_nil_of_pyStr_eq {i : Int} {a b : Str} (h : pyStr i = a ++ '-' :: b) : a = [] := by
  have hm : '-' ∈ a ++ '-' :: b := List.mem_append_right a (List.mem_cons_self '-' b)
  cases i with
  | ofNat n => exact absurd (h ▸ hm) (not_mem_pyStr (n := n) (d := '-') rfl)
  | negSucc n =>
    rcases a with _ | ⟨c, a⟩
    · rfl
    · simp only [pyStr, List.cons_append, List.cons.injEq] at h
      have hm' : '-' ∈ a ++ '-' :: b := List.mem_append_right a (List.mem_cons_self '-' b)
      exact absurd ((toDigits_spec (n + 1)).2.1 _ (h.2 ▸ hm')) (by decide)

/-! ### Dictionaries -/

section Dict

variable {κ β : Type} [DecidableEq κ]

/-- `d.get(k)` on a dictionary kept as its list of items. -/
def dictGet (k : κ) : List (κ × β) → Option β
  | [] => none
  | (k', v) :: d => if k' = k then some v else dictGet k d

/-- `d[k] = v`: the value replaced in place, or a new item at the end. -/
def dictSet (k : κ) (v : β) : List (κ × β) → List (κ × β)
  | [] => [(k, v)]
  | (k', w) :: d => if k' = k then (k, v) :: d else (k', w) :: dictSet k v d

/-- `del d[k]`. -/
def dictDel (k : κ) (d : List (κ × β)) : List (κ × β) := d.filter (·.1 ≠ k)

theorem dictGet_eq_none_iff {k : κ} {d : List (κ × β)} :
    dictGet k d = none ↔ k ∉ d.map Prod.fst := by
  induction d with
  | nil => simp [dictGet]
  | cons e d ih => obtain ⟨k', v⟩ := e; by_cases h : k' = k <;> simp [dictGet, h, ih, Ne.symm]

/-- In a dictionary whose keys are distinct, `get` finds every item. -/
theorem dictGet_eq_some_iff {k : κ} {v : β} {d : List (κ × β)} (h : (d.map Prod.fst).Nodup) :
    dictGet k d = some v ↔ (k, v) ∈ d := by
  induction d with
  | nil => simp [dictGet]
  | cons e d ih =>
    obtain ⟨k', v'⟩ := e
    simp only [List.map_cons, List.nodup_cons] at h
    by_cases hk : k' = k
    · subst hk
      have : (k', v) ∉ d := fun hm => h.1 (List.mem_map.2 ⟨_, hm, rfl⟩)
      simp [dictGet, this, eq_comm]
    · simp [dictGet, hk, ih h.2, Ne.symm hk]

theorem dictGet_isSome_iff {k : κ} {d : List (κ × β)} :
    (dictGet k d).isSome ↔ k ∈ d.map Prod.fst := by
  rw [← not_iff_not, Option.not_isSome_iff_eq_none, dictGet_eq_none_iff]

@[simp] theorem dictGet_dictSet (k k' : κ) (v : β) (d : List (κ × β)) :
    dictGet k' (dictSet k v d) = if k' = k then some v else dictGet k' d := by
  induction d with
  | nil => by_cases h : k = k' <;> simp [dictSet, dictGet, h, Ne.symm]
  | cons e d ih =>
    obtain ⟨k'', w⟩ := e
    by_cases h1 : k'' = k <;> by_cases h2 : k'' = k' <;> by_cases h3 : k' = k <;>
      simp_all [dictSet, dictGet]

@[simp] theorem mem_keys_dictSet (k k' : κ) (v : β) (d : List (κ × β)) :
    k' ∈ (dictSet k v d).map Prod.fst ↔ k' = k ∨ k' ∈ d.map Prod.fst := by
  have := (dictGet_eq_none_iff (k := k') (d := dictSet k v d)).not_left
  have h' := (dictGet_eq_none_iff (k := k') (d := d)).not_left
  rw [← this, dictGet_dictSet]
  by_cases h : k' = k <;> simp [h, ← h']

/-- Setting a key keeps the keys distinct. -/
theorem nodup_keys_dictSet (k : κ) (v : β) (d : List (κ × β)) (h : (d.map Prod.fst).Nodup) :
    ((dictSet k v d).map Prod.fst).Nodup := by
  induction d with
  | nil => simp [dictSet]
  | cons e d ih =>
    obtain ⟨k', w⟩ := e
    simp only [List.map_cons, List.nodup_cons] at h
    by_cases hk : k' = k
    · simp only [dictSet, hk, if_true, List.map_cons, List.nodup_cons]
      exact hk ▸ h
    · simp only [dictSet, hk, if_false, List.map_cons]
      refine List.nodup_cons.2 ⟨?_, ih h.2⟩
      rw [mem_keys_dictSet]
      exact not_or.2 ⟨hk, h.1⟩

/-- Deleting a key keeps the keys distinct. -/
theorem nodup_keys_dictDel (k : κ) (d : List (κ × β)) (h : (d.map Prod.fst).Nodup) :
    ((dictDel k d).map Prod.fst).Nodup :=
  ((List.filter_sublist d).map Prod.fst).nodup h

theorem mem_dictSet {k : κ} {v : β} {d : List (κ × β)} {e : κ × β} (h : e ∈ dictSet k v d) :
    e = (k, v) ∨ e ∈ d := by
  induction d with
  | nil => simpa [dictSet] using h
  | cons e' d ih =>
    obtain ⟨k', w⟩ := e'
    unfold dictSet at h
    split_ifs at h
    · rcases List.mem_cons.1 h with h | h
      exacts [.inl h, .inr (List.mem_cons_of_mem _ h)]
    · rcases List.mem_cons.1 h with h | h
      · exact .inr (h ▸ List.mem_cons_self _ _)
      · exact (ih h).imp_right (List.mem_cons_of_mem _)

/-- A new key goes at the end. -/
theorem dictSet_of_dictGet_eq_none {k : κ} {v : β} {d : List (κ × β)} (h : dictGet k d = none) :
    dictSet k v d = d ++ [(k, v)] := by
  induction d with
  | nil => rfl
  | cons e d ih =>
    obtain ⟨k', w⟩ := e
    simp only [dictGet] at h
    split_ifs at h with hk
    simp [dictSet, hk, ih h]

theorem mem_of_mem_dictDel {k : κ} {d : List (κ × β)} {e : κ × β} (h : e ∈ dictDel k d) : e ∈ d :=
  List.mem_of_mem_filter h

theorem dictDel_of_dictGet_eq_none {k : κ} {d : List (κ × β)} (h : dictGet k d = none) :
    dictDel k d = d :=
  List.filter_eq_self.2 fun e he => by
    have := dictGet_eq_none_iff.1 h
    simp only [ne_eq, decide_eq_true_eq]
    exact fun hk => this (hk ▸ List.mem_map_of_mem Prod.fst he)

@[simp] theorem mem_keys_dictDel (k k' : κ) (d : List (κ × β)) :
    k' ∈ (dictDel k d).map Prod.fst ↔ k' ≠ k ∧ k' ∈ d.map Prod.fst := by
  simp [dictDel, and_comm]

@[simp] theorem dictGet_dictDel (k k' : κ) (d : List (κ × β)) :
    dictGet k' (dictDel k d) = if k' = k then none else dictGet k' d := by
  induction d with
  | nil => simp [dictDel, dictGet]
  | cons e d ih =>
    obtain ⟨k'', v⟩ := e
    by_cases h1 : k'' = k <;> by_cases h2 : k'' = k' <;> simp_all [dictDel, dictGet]

end Dict

end AppManager
