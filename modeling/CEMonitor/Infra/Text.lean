import Mathlib.Data.List.Infix
import Mathlib.Data.List.TakeWhile
import Mathlib.Algebra.Order.Ring.Int

/-!
# C and C++ text functions

`std::string` is `String`; a `const char*` made from one ends at its first NUL.
-/

namespace Infra.Text

/-- What a reader of `s.c_str()` sees. -/
def cStr (s : String) : String := String.ofList (s.toList.takeWhile fun c => c ≠ '\x00')

/-- No NUL occurs in the text. -/
def NulFree (s : String) : Prop := ∀ c ∈ s.toList, c ≠ '\x00'

instance (s : String) : Decidable (NulFree s) :=
  List.decidableBAll (fun c => c ≠ '\x00') s.toList

theorem cStr_eq_self_iff {s : String} : cStr s = s ↔ NulFree s := by
  constructor
  · intro h c hc
    have hall : s.toList.takeWhile (fun c => c ≠ '\x00') = s.toList := by
      rw [← String.toList_ofList (l := s.toList.takeWhile _)]
      exact congrArg String.toList h
    simpa using List.takeWhile_eq_self_iff.mp hall c hc
  · intro h
    have hall : s.toList.takeWhile (fun c => c ≠ '\x00') = s.toList :=
      List.takeWhile_eq_self_iff.mpr fun c hc => by simpa using h c hc
    rw [cStr, hall, String.ofList_toList]

theorem cStr_of_nulFree {s : String} (h : NulFree s) : cStr s = s := cStr_eq_self_iff.mpr h

/-- `s.find(t, 0) != string::npos`. -/
def contains (s t : String) : Bool := decide (t.toList <:+: s.toList)

/-- Two texts are cut alike at the first place where a separator stands. -/
theorem append_cons_inj {α : Type} {a : α} {x y s t : List α} (hx : a ∉ x) (hy : a ∉ y) :
    x ++ a :: s = y ++ a :: t ↔ x = y ∧ s = t := by
  constructor
  · intro h
    induction x generalizing y with
    | nil =>
      cases y with
      | nil => exact ⟨rfl, (List.cons.inj h).2⟩
      | cons b y => exact absurd (List.cons.inj h).1 (fun hb => hy (hb ▸ List.mem_cons_self ..))
    | cons c x ih =>
      cases y with
      | nil => exact absurd (List.cons.inj h).1 (fun hc => hx (hc ▸ List.mem_cons_self ..))
      | cons b y =>
        obtain ⟨hcb, hrest⟩ := List.cons.inj h
        obtain ⟨hxy, hst⟩ := ih (fun hm => hx (List.mem_cons_of_mem c hm))
          (fun hm => hy (List.mem_cons_of_mem b hm)) hrest
        exact ⟨by rw [hcb, hxy], hst⟩
  · rintro ⟨rfl, rfl⟩
    rfl

/-- Cut at the last separator. -/
theorem exists_last_of_mem {α : Type} {a : α} {l : List α} (h : a ∈ l) :
    ∃ u v, l = u ++ a :: v ∧ a ∉ v := by
  obtain ⟨v, u, hrev, hv⟩ := List.eq_append_cons_of_mem (List.mem_reverse.mpr h)
  refine ⟨u.reverse, v.reverse, ?_, by simpa using hv⟩
  rw [← List.reverse_reverse l, hrev, List.reverse_append, List.reverse_cons, List.append_assoc,
    List.singleton_append]

/-- `boost::split(v, s, is_any_of(sep))` without token compression. -/
def split (sep : Char) (s : String) : List String := (s.toList.splitOn sep).map String.ofList

/-- A text is cut at every separator. -/
theorem split_append (sep : Char) (s t : String) :
    split sep (s ++ String.singleton sep ++ t) = split sep s ++ split sep t := by
  have hchars : (s ++ String.singleton sep ++ t).toList = s.toList ++ sep :: t.toList := by simp
  rw [split, hchars, List.splitOn_append_cons_self, List.map_append]
  rfl

/-- Joined and cut again. -/
theorem split_intercalate {sep : Char} {ss : List String} (h : ∀ s ∈ ss, sep ∉ s.toList)
    (hne : ss ≠ []) : split sep ((String.singleton sep).intercalate ss) = ss := by
  have hchars : ∀ l ∈ ss.map String.toList, sep ∉ l := by
    intro l hl
    obtain ⟨s, hs, rfl⟩ := List.mem_map.mp hl
    exact h s hs
  have hid : (String.ofList ∘ String.toList) = id := funext fun s => String.ofList_toList
  rw [split, String.toList_intercalate, String.toList_singleton,
    List.splitOn_intercalate sep hchars (by simpa using hne), List.map_map, hid, List.map_id]

/-- Runs of a separator shrunk to a single one. -/
def squeeze (sep : Char) : List Char → List Char
  | [] => []
  | c :: cs =>
    if c = sep ∧ (squeeze sep cs).head? = some sep then squeeze sep cs else c :: squeeze sep cs

/-- `boost::split(v, s, is_any_of(sep), token_compress_on)`. -/
def splitCompress (sep : Char) (s : String) : List String :=
  ((squeeze sep s.toList).splitOn sep).map String.ofList

theorem squeeze_of_not_mem {sep : Char} {l : List Char} (h : sep ∉ l) : squeeze sep l = l := by
  induction l with
  | nil => rfl
  | cons c cs ih =>
    obtain ⟨hc, hcs⟩ := List.ne_and_not_mem_of_not_mem_cons h
    rw [squeeze, if_neg (fun hand => hc hand.1.symm), ih hcs]

/-- What stands behind the last separator stays there. -/
theorem exists_squeeze_append {sep : Char} (u : List Char) {v : List Char} (h : sep ∉ v) :
    ∃ w, squeeze sep (u ++ sep :: v) = w ++ sep :: v := by
  induction u with
  | nil =>
    have hhead : ¬(sep = sep ∧ v.head? = some sep) := fun hand => h (List.mem_of_head? hand.2)
    exact ⟨[], by rw [List.nil_append, squeeze, squeeze_of_not_mem h, if_neg hhead]⟩
  | cons c u ih =>
    obtain ⟨w, hw⟩ := ih
    rw [List.cons_append, squeeze, hw]
    split
    · exact ⟨w, rfl⟩
    · exact ⟨c :: w, rfl⟩

/-- The last piece is what stands behind the last separator. -/
theorem getLast?_splitCompress {sep : Char} {s : String} {u v : List Char}
    (hs : s.toList = u ++ sep :: v) (h : sep ∉ v) :
    (splitCompress sep s).getLast? = some (String.ofList v) := by
  obtain ⟨w, hw⟩ := exists_squeeze_append u h
  rw [splitCompress, hs, hw, List.splitOn_append_cons_self, List.splitOn_eq_singleton h,
    List.map_append, List.map_singleton, List.getLast?_concat]

/-- `s.find_last_of(c, pos)`: the last place up to `pos` where `c` stands. -/
def findLastOf (s : String) (c : Char) (pos : Nat) : Option Nat :=
  (List.range (pos + 1)).reverse.find? fun i => s.toList[i]? = some c

/-- From the start of a text one can only look at its start. -/
theorem findLastOf_zero (s : String) (c : Char) :
    findLastOf s c 0 = if s.toList.head? = some c then some 0 else none := by
  rw [List.head?_eq_getElem?]
  by_cases h : s.toList[0]? = some c <;> simp [findLastOf, h]

/-! ## Numbers -/

/-- The spaces `strtol` skips. -/
def isSpace (c : Char) : Bool :=
  c = ' ' || c = '\t' || c = '\n' || c = '\x0b' || c = '\x0c' || c = '\r'

/-- The value of a string of decimal digits. -/
def digitsValue (l : List Char) : Nat :=
  l.foldl (fun n c => n * 10 + (c.toNat - '0'.toNat)) 0

/-- `strtol(s, NULL, 10)` with a 64-bit `long`: the longest numeral, clamped to the range. -/
def strtol (s : String) : Int :=
  let l := s.toList.dropWhile isSpace
  let neg := l.head? = some '-'
  let l := if neg ∨ l.head? = some '+' then l.tail else l
  let n : Int := digitsValue (l.takeWhile Char.isDigit)
  if neg then max (-n) (-2 ^ 63) else min n (2 ^ 63 - 1)

/-- `atoi`, as in glibc: `strtol` truncated to a 32-bit `int`. -/
def atoi (s : String) : Int := (strtol s).bmod (2 ^ 32)

/-- `s` is the decimal numeral of `n`; zeros in front are allowed. -/
structure IsNumeral (s : String) (n : Nat) : Prop where
  digit : ∀ c ∈ s.toList, c.isDigit
  nonempty : s ≠ ""
  value : digitsValue s.toList = n

theorem isSpace_of_isDigit {c : Char} (h : c.isDigit) : isSpace c = false := by
  have hne : ∀ d : Char, d.isDigit = false → c ≠ d := by
    rintro d hd rfl
    rw [h] at hd
    cases hd
  simp [isSpace, hne]

/-- `strtol` reads a numeral to its end, and clamps it. -/
theorem strtol_of_numeral {s : String} {n : Nat} (h : IsNumeral s n) :
    strtol s = min (n : Int) (2 ^ 63 - 1) := by
  have hspace : s.toList.dropWhile isSpace = s.toList := by
    cases hs : s.toList with
    | nil => rfl
    | cons c cs =>
      have hc := h.digit c (by rw [hs]; exact List.mem_cons_self ..)
      rw [List.dropWhile_cons_of_neg (by rw [isSpace_of_isDigit hc]; exact Bool.false_ne_true)]
  have hsign : ∀ c : Char, c.isDigit = false → s.toList.head? ≠ some c := by
    intro c hc hhead
    have hdigit := h.digit c (List.mem_of_head? hhead)
    rw [hc] at hdigit
    cases hdigit
  have hall : s.toList.takeWhile Char.isDigit = s.toList :=
    List.takeWhile_eq_self_iff.mpr h.digit
  have hneg : s.toList.head? ≠ some '-' := hsign '-' (by decide)
  have hpos : s.toList.head? ≠ some '+' := hsign '+' (by decide)
  simp only [strtol, hspace, hneg, hpos, or_self, if_false, hall, h.value]

/-- The wrap to 32 bits keeps a count exactly when it fits. -/
theorem bmod_eq_self_iff {n : Nat} : (n : Int).bmod (2 ^ 32) = n ↔ n < 2 ^ 31 := by
  rw [Int.bmod_eq_emod]
  split <;> omega

/-- `atoi` keeps the value of a numeral exactly when an `int` can hold it. -/
theorem atoi_eq_iff {s : String} {n : Nat} (h : IsNumeral s n) : atoi s = n ↔ n < 2 ^ 31 := by
  rw [atoi, strtol_of_numeral h]
  by_cases hn : (n : Int) ≤ 2 ^ 63 - 1
  · rw [min_eq_left hn]
    exact bmod_eq_self_iff
  · rw [min_eq_right (by omega)]
    have hwrap : (2 ^ 63 - 1 : Int).bmod (2 ^ 32) = -1 := by decide
    omega

end Infra.Text
