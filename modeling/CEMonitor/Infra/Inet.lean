import Mathlib.Data.List.Basic
import Mathlib.Data.List.TakeWhile
import Mathlib.Data.Nat.Init
import Mathlib.Algebra.Order.Ring.Int

/-!
# The texts of IP addresses

`inet_ntop` for IPv4 and IPv6 addresses, given as the bytes in network order. The text of an IPv6
address is the canonical one: numbers without zeros in front, the longest run of two or more zero
words, the first of them if there are several, written `::`, and the last four bytes in dotted
notation when only they, or only they and a word `ffff`, stand behind a run at the front.
-/

namespace Infra.Inet

/-! ## Numerals -/

section Numerals

variable {b m n : Nat}

theorem digitChar_inj {d e : Nat} (hd : d < 16) (he : e < 16)
    (h : Nat.digitChar d = Nat.digitChar e) : d = e := by
  have hall : ∀ d ∈ List.range 16, ∀ e ∈ List.range 16,
      Nat.digitChar d = Nat.digitChar e → d = e := by
    decide
  exact hall d (List.mem_range.mpr hd) e (List.mem_range.mpr he) h

/-- A number is read off its last digit and the digits before it. -/
theorem toDigits_inj (hb : 1 < b) (hb16 : b ≤ 16) (h : Nat.toDigits b m = Nat.toDigits b n) :
    m = n := by
  induction m using Nat.strong_induction_on generalizing n with
  | _ m ih =>
    by_cases hm : m < b
    · rw [Nat.toDigits_of_lt_base hm] at h
      by_cases hn : n < b
      · rw [Nat.toDigits_of_lt_base hn] at h
        exact digitChar_inj (by omega) (by omega) (List.singleton_inj.mp h)
      · rw [Nat.toDigits_of_base_le hb (not_lt.mp hn), ← List.nil_append [m.digitChar]] at h
        exact absurd (List.append_inj' h rfl).1.symm Nat.toDigits_ne_nil
    · rw [Nat.toDigits_of_base_le hb (not_lt.mp hm)] at h
      by_cases hn : n < b
      · rw [Nat.toDigits_of_lt_base hn, ← List.nil_append [n.digitChar]] at h
        exact absurd (List.append_inj' h rfl).1 Nat.toDigits_ne_nil
      · rw [Nat.toDigits_of_base_le hb (not_lt.mp hn)] at h
        obtain ⟨hinit, hlast⟩ := List.append_inj' h rfl
        have hm0 : m % b < b := Nat.mod_lt m (by omega)
        have hn0 : n % b < b := Nat.mod_lt n (by omega)
        have hdiv : m / b = n / b := ih (m / b) (Nat.div_lt_self (by omega) hb) hinit
        have hmod : m % b = n % b :=
          digitChar_inj (by omega) (by omega) (List.singleton_inj.mp hlast)
        rw [← Nat.div_add_mod m b, ← Nat.div_add_mod n b, hdiv, hmod]

theorem exists_digitChar_of_mem_toDigits {c : Char} (hb : 1 < b) (h : c ∈ Nat.toDigits b n) :
    ∃ d < b, c = Nat.digitChar d := by
  induction n using Nat.strong_induction_on with
  | _ n ih =>
    rw [Nat.toDigits_eq_if hb] at h
    split at h
    · exact ⟨n, ‹_›, List.mem_singleton.mp h⟩
    · rcases List.mem_append.mp h with hinit | hlast
      · exact ih (n / b) (Nat.div_lt_self (by omega) hb) hinit
      · exact ⟨n % b, Nat.mod_lt n (by omega), List.mem_singleton.mp hlast⟩

/-- A separator is not a digit. -/
theorem not_mem_toDigits {c : Char} (hb : 1 < b) (hb16 : b ≤ 16)
    (hc : ∀ d ∈ List.range 16, c ≠ Nat.digitChar d) : c ∉ Nat.toDigits b n := by
  intro h
  obtain ⟨d, hd, hcd⟩ := exists_digitChar_of_mem_toDigits hb h
  exact hc d (List.mem_range.mpr (by omega)) hcd

theorem colon_not_mem_toDigits (hb : 1 < b) (hb16 : b ≤ 16) : ':' ∉ Nat.toDigits b n :=
  not_mem_toDigits hb hb16 (by decide)

theorem dot_not_mem_toDigits (hb : 1 < b) (hb16 : b ≤ 16) : '.' ∉ Nat.toDigits b n :=
  not_mem_toDigits hb hb16 (by decide)

end Numerals

/-! ## Numerals between separators -/

section Joined

variable {α : Type} {sep : Char} {f : α → List Char}

/-- Joined numerals are told apart when the numerals are. -/
theorem intercalate_map_inj (hsep : ∀ a, sep ∉ f a) (hf : Function.Injective f) {x y : List α}
    (hx : x ≠ []) (hy : y ≠ [])
    (h : [sep].intercalate (x.map f) = [sep].intercalate (y.map f)) : x = y := by
  have hsplit : ∀ {l : List α}, l ≠ [] → ([sep].intercalate (l.map f)).splitOn sep = l.map f := by
    intro l hl
    refine List.splitOn_intercalate sep ?_ (by simpa using hl)
    intro p hp
    obtain ⟨a, -, rfl⟩ := List.mem_map.mp hp
    exact hsep a
  exact hf.list_map ((hsplit hx).symm.trans ((congrArg (List.splitOn sep) h).trans (hsplit hy)))

theorem mem_intercalate_map {c : Char} {l : List α} (h : c ∈ [sep].intercalate (l.map f)) :
    c = sep ∨ ∃ a ∈ l, c ∈ f a := by
  induction l with
  | nil => cases h
  | cons a l ih =>
    cases l with
    | nil => exact Or.inr ⟨a, List.mem_cons_self .., by simpa using h⟩
    | cons a' l =>
      rw [List.map_cons, List.map_cons, List.intercalate_cons_cons, ← List.map_cons] at h
      simp only [List.mem_append, List.mem_singleton] at h
      rcases h with (ha | hc) | hrest
      · exact Or.inr ⟨a, List.mem_cons_self .., ha⟩
      · exact Or.inl hc
      · rcases ih hrest with hc | ⟨e, he, hce⟩
        · exact Or.inl hc
        · exact Or.inr ⟨e, List.mem_cons_of_mem a he, hce⟩

theorem length_intercalate_map_le {k : Nat} {l : List α} (h : ∀ a ∈ l, (f a).length ≤ k) :
    ([sep].intercalate (l.map f)).length ≤ (k + 1) * l.length := by
  induction l with
  | nil => simp
  | cons a l ih =>
    have ha := h a (List.mem_cons_self ..)
    cases l with
    | nil => simpa using Nat.le_succ_of_le ha
    | cons a' l =>
      have hrest := ih fun e he => h e (List.mem_cons_of_mem a he)
      rw [List.map_cons, List.map_cons, List.intercalate_cons_cons, ← List.map_cons,
        List.length_append, List.length_append, List.length_singleton, List.length_cons (a := a),
        Nat.mul_succ]
      omega

end Joined

/-! ## IPv4 -/

/-- `%u` of a byte. -/
def dec (b : UInt8) : List Char := Nat.toDigits 10 b.toNat

/-- The dotted quad. -/
def inet_ntop4 (bytes : List UInt8) : List Char := ['.'].intercalate (bytes.map dec)

theorem dec_injective : Function.Injective dec := fun _ _ h =>
  UInt8.toNat_inj.mp (toDigits_inj (by decide) (by decide) h)

theorem inet_ntop4_inj {x y : List UInt8} (hx : x ≠ []) (hy : y ≠ [])
    (h : inet_ntop4 x = inet_ntop4 y) : x = y :=
  intercalate_map_inj (fun _ => dot_not_mem_toDigits (by decide) (by decide)) dec_injective hx hy h

theorem colon_not_mem_inet_ntop4 (bytes : List UInt8) : ':' ∉ inet_ntop4 bytes := by
  intro h
  rcases mem_intercalate_map h with hdot | ⟨b, -, hb⟩
  · cases hdot
  · exact colon_not_mem_toDigits (by decide) (by decide) hb

theorem inet_ntop4_ne_nil {bytes : List UInt8} (h : bytes ≠ []) : inet_ntop4 bytes ≠ [] := by
  cases bytes with
  | nil => exact absurd rfl h
  | cons b rest =>
    cases rest with
    | nil =>
      rw [inet_ntop4, List.map_singleton, List.intercalate_singleton]
      exact Nat.toDigits_ne_nil
    | cons b' rest =>
      rw [inet_ntop4, List.map_cons, List.map_cons, List.intercalate_cons_cons]
      simp

theorem length_inet_ntop4_le (bytes : List UInt8) : (inet_ntop4 bytes).length ≤ 4 * bytes.length :=
  length_intercalate_map_le fun b _ => by
    have hb : b.toNat < 10 ^ 3 := Nat.lt_trans b.toNat_lt_size (by decide)
    exact (Nat.length_toDigits_le_iff (by decide) (by decide)).mpr hb

/-! ## Runs of zero words -/

/-- The words of an address, of two bytes each. -/
def words : List UInt8 → List Nat
  | [] => []
  | [_] => []
  | hi :: lo :: rest => (hi.toNat * 256 + lo.toNat) :: words rest

/-- A run of zeros: where it begins and how long it is. -/
structure ZeroRun where
  base : Nat
  len : Nat
  deriving DecidableEq, Repr

/-- The longer of the best run so far and the one that has just ended; the older one if equal. -/
def note (best cur : Option ZeroRun) : Option ZeroRun :=
  match best, cur with
  | best, none => best
  | none, some c => some c
  | some b, some c => if b.len < c.len then some c else some b

/-- The current run with the zero at `i` in it. -/
def extend (i : Nat) (cur : Option ZeroRun) : ZeroRun :=
  match cur with
  | none => { base := i, len := 1 }
  | some c => { c with len := c.len + 1 }

/-- The loop over the words, at the `i`th. -/
def longest (i : Nat) (ws : List Nat) (best cur : Option ZeroRun) : Option ZeroRun :=
  match ws with
  | [] => note best cur
  | w :: ws =>
    if w = 0 then longest (i + 1) ws best (some (extend i cur))
    else longest (i + 1) ws (note best cur) none

/-- The run that is written `::`, if any. -/
def bestRun (ws : List Nat) : Option ZeroRun :=
  (longest 0 ws none none).filter fun r => 2 ≤ r.len

theorem length_words (bytes : List UInt8) : (words bytes).length = bytes.length / 2 := by
  induction bytes using words.induct with
  | case1 => rfl
  | case2 => simp [words]
  | case3 hi lo rest ih =>
    simp only [words, List.length_cons, ih]
    omega

theorem lt_of_mem_words {bytes : List UInt8} {w : Nat} (h : w ∈ words bytes) : w < 16 ^ 4 := by
  induction bytes using words.induct with
  | case1 => cases h
  | case2 => cases h
  | case3 hi lo rest ih =>
    rw [words, List.mem_cons] at h
    rcases h with rfl | hrest
    · have hhi := hi.toNat_lt
      have hlo := lo.toNat_lt
      omega
    · exact ih hrest

/-- The bytes of an even number are known from the words. -/
theorem words_inj {x y : List UInt8} (hlen : x.length = y.length) (heven : x.length % 2 = 0)
    (h : words x = words y) : x = y := by
  induction x using words.induct generalizing y with
  | case1 => exact (List.length_eq_zero_iff.mp hlen.symm).symm
  | case2 => cases heven
  | case3 hi lo rest ih =>
    match y, hlen with
    | hi' :: lo' :: rest', hlen =>
      obtain ⟨hword, hrest⟩ := List.cons.inj h
      simp only [List.length_cons] at hlen heven
      -- the low byte is the remainder of the word
      have hlt := lo.toNat_lt
      have hlt' := lo'.toNat_lt
      have hhi : hi = hi' := UInt8.toNat_inj.mp (by omega)
      have hlo : lo = lo' := UInt8.toNat_inj.mp (by omega)
      rw [hhi, hlo, ih (by omega) (by omega) hrest]

/-- `r` stands in `ws`. -/
def ZeroRun.In (r : ZeroRun) (ws : List Nat) : Prop :=
  ∃ pre post, ws = pre ++ List.replicate r.len 0 ++ post ∧ pre.length = r.base

theorem ZeroRun.In.append {r : ZeroRun} {ws : List Nat} (h : r.In ws) (ws' : List Nat) :
    r.In (ws ++ ws') := by
  obtain ⟨pre, post, rfl, hbase⟩ := h
  exact ⟨pre, post ++ ws', List.append_assoc .., hbase⟩

/-- What the loop has found in the words it has passed: the current run ends where it stands. -/
structure Found (passed : List Nat) (best cur : Option ZeroRun) : Prop where
  best : ∀ r, best = some r → r.In passed
  cur : ∀ r, cur = some r →
    ∃ pre, passed = pre ++ List.replicate r.len 0 ∧ pre.length = r.base

namespace Found

variable {passed : List Nat} {best cur : Option ZeroRun}

theorem start : Found [] none none where
  best _ hr := by cases hr
  cur _ hr := by cases hr

theorem note (h : Found passed best cur) {r : ZeroRun} (hr : Inet.note best cur = some r) :
    r.In passed := by
  have hcur : ∀ r, cur = some r → r.In passed := by
    intro r hr
    obtain ⟨pre, hpre, hbase⟩ := h.cur r hr
    exact ⟨pre, [], by rw [hpre, List.append_nil], hbase⟩
  unfold Inet.note at hr
  split at hr
  · exact h.best r hr
  · exact hcur r hr
  · split at hr
    · exact hcur r hr
    · exact h.best r hr

theorem zero (h : Found passed best cur) :
    Found (passed ++ [0]) best (some (extend passed.length cur)) where
  best r hr := (h.best r hr).append [0]
  cur r hr := by
    cases hr
    cases hc : cur with
    | none => exact ⟨passed, rfl, rfl⟩
    | some c =>
      obtain ⟨pre, hpre, hbase⟩ := h.cur c hc
      refine ⟨pre, ?_, hbase⟩
      show passed ++ [0] = pre ++ List.replicate (c.len + 1) 0
      rw [hpre, List.replicate_succ', List.append_assoc]

theorem other (h : Found passed best cur) (w : Nat) :
    Found (passed ++ [w]) (Inet.note best cur) none where
  best _ hr := (h.note hr).append [w]
  cur _ hr := by cases hr

end Found

theorem in_of_longest {passed ws : List Nat} {best cur : Option ZeroRun} {r : ZeroRun}
    (hfound : Found passed best cur) (h : longest passed.length ws best cur = some r) :
    r.In (passed ++ ws) := by
  induction ws generalizing passed best cur with
  | nil =>
    rw [List.append_nil]
    exact hfound.note h
  | cons w ws ih =>
    have hlen : passed.length + 1 = (passed ++ [w]).length := by simp
    rw [longest, hlen] at h
    rw [List.append_cons]
    split at h
    · obtain rfl := ‹w = 0›
      exact ih hfound.zero h
    · exact ih (hfound.other w) h

/-- The run that is written `::` is one. -/
theorem in_of_bestRun {ws : List Nat} {r : ZeroRun} (h : bestRun ws = some r) : r.In ws :=
  in_of_longest Found.start (Option.eq_some_of_filter_eq_some h)

/-! ## IPv6 -/

/-- `%x` of the words, with colons between them. -/
def hexWords (ws : List Nat) : List Char := [':'].intercalate (ws.map (Nat.toDigits 16))

/-- The text of an IPv6 address. -/
def inet_ntop6 (bytes : List UInt8) : List Char :=
  let ws := words bytes
  match bestRun ws with
  | none => hexWords ws
  | some r =>
    if r.base = 0 ∧ r.len = 6 then [':', ':'] ++ inet_ntop4 (bytes.drop 12)
    else if r.base = 0 ∧ r.len = 5 ∧ ws[5]? = some 0xffff then
      [':', ':'] ++ hexWords [0xffff] ++ [':'] ++ inet_ntop4 (bytes.drop 12)
    else hexWords (ws.take r.base) ++ [':', ':'] ++ hexWords (ws.drop (r.base + r.len))

theorem splitOn_hexWords {ws : List Nat} (h : ws ≠ []) :
    (hexWords ws).splitOn ':' = ws.map (Nat.toDigits 16) := by
  refine List.splitOn_intercalate ':' ?_ (by simpa using h)
  intro p hp
  obtain ⟨w, -, rfl⟩ := List.mem_map.mp hp
  exact colon_not_mem_toDigits (by decide) (by decide)

theorem filter_map_hex (ws : List Nat) :
    (ws.map (Nat.toDigits 16)).filter (· ≠ []) = ws.map (Nat.toDigits 16) := by
  refine List.filter_eq_self.mpr fun p hp => ?_
  obtain ⟨w, -, rfl⟩ := List.mem_map.mp hp
  simp

theorem filter_splitOn_hexWords (ws : List Nat) :
    ((hexWords ws).splitOn ':').filter (· ≠ []) = ws.map (Nat.toDigits 16) := by
  by_cases h : ws = []
  · rw [h]
    rfl
  · rw [splitOn_hexWords h, filter_map_hex]

theorem length_hexWords_le {ws : List Nat} (h : ∀ w ∈ ws, w < 16 ^ 4) :
    (hexWords ws).length ≤ 5 * ws.length :=
  length_intercalate_map_le fun w hw =>
    (Nat.length_toDigits_le_iff (by decide) (by decide)).mpr (h w hw)

/-- The three shapes of a text: no run left out, one left out, or the last bytes dotted. -/
theorem inet_ntop6_cases (bytes : List UInt8) :
    inet_ntop6 bytes = hexWords (words bytes) ∨
      (∃ pre n post, words bytes = pre ++ List.replicate n 0 ++ post ∧
        inet_ntop6 bytes = hexWords pre ++ [':', ':'] ++ hexWords post) ∨
      ∃ mark, mark.length ≤ 7 ∧
        inet_ntop6 bytes = [':', ':'] ++ mark ++ inet_ntop4 (bytes.drop 12) := by
  cases hbest : bestRun (words bytes) with
  | none => exact Or.inl (by simp only [inet_ntop6, hbest])
  | some r =>
    by_cases hcompatible : r.base = 0 ∧ r.len = 6
    · refine Or.inr (Or.inr ⟨[], by decide, ?_⟩)
      simp only [inet_ntop6, hbest, if_pos hcompatible, List.append_nil]
    · by_cases hmapped : r.base = 0 ∧ r.len = 5 ∧ (words bytes)[5]? = some 0xffff
      · refine Or.inr (Or.inr ⟨hexWords [0xffff] ++ [':'], by decide, ?_⟩)
        simp only [inet_ntop6, hbest, if_neg hcompatible, if_pos hmapped, List.append_assoc]
      · obtain ⟨pre, post, hws, hbase⟩ := in_of_bestRun hbest
        refine Or.inr (Or.inl ⟨pre, r.len, post, hws, ?_⟩)
        have htake : (words bytes).take r.base = pre := by
          rw [hws, List.append_assoc, ← hbase, List.take_left]
        have hdrop : (words bytes).drop (r.base + r.len) = post := by
          have hlen : r.base + r.len = (pre ++ List.replicate r.len 0).length := by
            rw [List.length_append, List.length_replicate, hbase]
          rw [hws, hlen, List.drop_left]
        simp only [inet_ntop6, hbest, if_neg hcompatible, if_neg hmapped, htake, hdrop]

/-- A text that does not begin with `::` shows which words stand around the run of zeros. -/
theorem exists_tokens {bytes : List UInt8} (hne : words bytes ≠ [])
    (h : (inet_ntop6 bytes).head? ≠ some ':') :
    ∃ pre n post, words bytes = pre ++ List.replicate n 0 ++ post ∧
      ((inet_ntop6 bytes).splitOn ':').takeWhile (· ≠ []) = pre.map (Nat.toDigits 16) ∧
      ((inet_ntop6 bytes).splitOn ':').filter (· ≠ []) = (pre ++ post).map (Nat.toDigits 16) := by
  rcases inet_ntop6_cases bytes with htext | ⟨pre, n, post, hws, htext⟩ | ⟨mark, -, htext⟩
  · refine ⟨words bytes, 0, [], by simp, ?_, ?_⟩
    · rw [htext, splitOn_hexWords hne]
      refine List.takeWhile_eq_self_iff.mpr fun p hp => ?_
      obtain ⟨w, -, rfl⟩ := List.mem_map.mp hp
      simp
    · rw [htext, splitOn_hexWords hne, filter_map_hex, List.append_nil]
  · have hpre : pre ≠ [] := by
      rintro rfl
      rw [htext] at h
      exact h rfl
    -- between the two colons stands an empty token, and it is the first one
    have htokens : (inet_ntop6 bytes).splitOn ':'
        = pre.map (Nat.toDigits 16) ++ [] :: (hexWords post).splitOn ':' := by
      have hcolons : inet_ntop6 bytes = hexWords pre ++ ':' :: ([] ++ ':' :: hexWords post) := by
        rw [htext, List.append_assoc]
        rfl
      rw [hcolons, List.splitOn_append_cons_self, List.splitOn_append_cons_self,
        splitOn_hexWords hpre]
      rfl
    refine ⟨pre, n, post, hws, ?_, ?_⟩
    · rw [htokens, List.takeWhile_append_of_pos, List.takeWhile_cons_of_neg (by simp),
        List.append_nil]
      intro p hp
      obtain ⟨w, -, rfl⟩ := List.mem_map.mp hp
      simp
    · rw [htokens, List.filter_append, filter_map_hex, List.map_append,
        List.filter_cons_of_neg (by simp), filter_splitOn_hexWords]
  · rw [htext] at h
    exact absurd rfl h

/-- Different addresses have different texts, if these do not begin with `::`. -/
theorem inet_ntop6_inj {x y : List UInt8} (hx : x.length = 16) (hy : y.length = 16)
    (hcx : (inet_ntop6 x).head? ≠ some ':') (hcy : (inet_ntop6 y).head? ≠ some ':')
    (h : inet_ntop6 x = inet_ntop6 y) : x = y := by
  have hwx : (words x).length = 8 := by rw [length_words, hx]
  have hwy : (words y).length = 8 := by rw [length_words, hy]
  have hne : ∀ {ws : List Nat}, ws.length = 8 → ws ≠ [] := by
    rintro ws hws rfl
    cases hws
  obtain ⟨pre, n, post, hwords, hbefore, haround⟩ := exists_tokens (hne hwx) hcx
  obtain ⟨pre', n', post', hwords', hbefore', haround'⟩ := exists_tokens (hne hwy) hcy
  have hhex : Function.Injective (Nat.toDigits 16) :=
    fun _ _ => toDigits_inj (by decide) (by decide)
  have hpre : pre = pre' := hhex.list_map (by rw [← hbefore, ← hbefore', h])
  have hboth : pre ++ post = pre' ++ post' := hhex.list_map (by rw [← haround, ← haround', h])
  obtain rfl := hpre
  obtain rfl := List.append_cancel_left hboth
  -- eight words leave no choice for the length of the run
  have hn : n = n' := by
    rw [hwords] at hwx
    rw [hwords'] at hwy
    simp only [List.length_append, List.length_replicate] at hwx hwy
    omega
  refine words_inj (hx.trans hy.symm) (by rw [hx]) ?_
  rw [hwords, hwords', hn]

theorem colon_mem_inet_ntop6 {bytes : List UInt8} (h : bytes.length = 16) :
    ':' ∈ inet_ntop6 bytes := by
  rcases inet_ntop6_cases bytes with htext | ⟨pre, n, post, hws, htext⟩ | ⟨mark, -, htext⟩
  · have hlen : (words bytes).length = 8 := by rw [length_words, h]
    match hws : words bytes, hlen with
    | w :: w' :: ws, _ =>
      rw [htext, hws, hexWords, List.map_cons, List.map_cons, List.intercalate_cons_cons]
      simp
  · simp [htext]
  · simp [htext]

/-- The text fits into `INET6_ADDRSTRLEN`, with the NUL behind it. -/
theorem length_inet_ntop6_lt {bytes : List UInt8} (h : bytes.length = 16) :
    (inet_ntop6 bytes).length < 46 := by
  have hlen : (words bytes).length = 8 := by rw [length_words, h]
  have hlt : ∀ w ∈ words bytes, w < 16 ^ 4 := fun w hw => lt_of_mem_words hw
  rcases inet_ntop6_cases bytes with htext | ⟨pre, n, post, hws, htext⟩ | ⟨mark, hmark, htext⟩
  · have hall := length_hexWords_le hlt
    rw [htext]
    omega
  · rw [hws] at hlt hlen
    have hpre : (hexWords pre).length ≤ 5 * pre.length :=
      length_hexWords_le fun w hw => hlt w (by simp [hw])
    have hpost : (hexWords post).length ≤ 5 * post.length :=
      length_hexWords_le fun w hw => hlt w (by simp [hw])
    simp only [List.length_append] at hlen
    simp only [htext, List.length_append, List.length_cons, List.length_nil]
    omega
  · have hquad := length_inet_ntop4_le (bytes.drop 12)
    rw [List.length_drop, h] at hquad
    simp only [htext, List.length_append, List.length_cons, List.length_nil]
    omega

/-- An IPv4 address in its mapped form. -/
def mapped (quad : List UInt8) : List UInt8 := List.replicate 10 0 ++ [0xff, 0xff] ++ quad

theorem inet_ntop6_mapped {quad : List UInt8} (h : quad.length = 4) :
    inet_ntop6 (mapped quad) = [':', ':', 'f', 'f', 'f', 'f', ':'] ++ inet_ntop4 quad := by
  match quad, h with
  | [a, b, c, d], _ =>
    have hwords : words (mapped [a, b, c, d])
        = [0, 0, 0, 0, 0, 0xffff, a.toNat * 256 + b.toNat, c.toNat * 256 + d.toNat] := rfl
    have hbest : ∀ v w, bestRun [0, 0, 0, 0, 0, 0xffff, v, w] = some { base := 0, len := 5 } := by
      intro v w
      -- the last two words may be a run too, but a shorter one
      by_cases hv : v = 0 <;> by_cases hw : w = 0 <;>
        simp [bestRun, longest, extend, note, hv, hw]
    have hdrop : (mapped [a, b, c, d]).drop 12 = [a, b, c, d] := rfl
    have hffff : hexWords [0xffff] = ['f', 'f', 'f', 'f'] := by decide
    simp only [inet_ntop6, hwords, hbest, hdrop, hffff]
    rfl

/-- The IPv4 address in a mapped one. -/
def quad? (bytes : List UInt8) : Option (List UInt8) :=
  if bytes.take 12 = mapped [] then some (bytes.drop 12) else none

theorem quad?_eq_some_iff {bytes quad : List UInt8} :
    quad? bytes = some quad ↔ bytes = mapped quad := by
  have hmapped : ∀ q, mapped q = mapped [] ++ q := fun _ => rfl
  unfold quad?
  constructor
  · intro h
    split at h
    · cases h
      rw [hmapped, ← ‹bytes.take 12 = mapped []›, List.take_append_drop]
    · cases h
  · rintro rfl
    have htake : (mapped quad).take 12 = mapped [] := rfl
    have hdrop : (mapped quad).drop 12 = quad := rfl
    rw [if_pos htake, hdrop]

theorem length_of_quad? {bytes quad : List UInt8} (h : bytes.length = 16)
    (hq : quad? bytes = some quad) : quad.length = 4 := by
  rw [quad?_eq_some_iff.mp hq] at h
  simp only [mapped, List.length_append, List.length_replicate, List.length_cons,
    List.length_nil] at h
  omega

/-- The text of an address, that of a mapped one being the dotted quad. -/
def shown (bytes : List UInt8) : List Char :=
  match quad? bytes with
  | some quad => inet_ntop4 quad
  | none => inet_ntop6 bytes

/-- Texts that do not begin with `::` and dotted quads tell the addresses apart. -/
theorem shown_inj {x y : List UInt8} (hx : x.length = 16) (hy : y.length = 16)
    (hcx : quad? x = none → (inet_ntop6 x).head? ≠ some ':')
    (hcy : quad? y = none → (inet_ntop6 y).head? ≠ some ':') (h : shown x = shown y) : x = y := by
  have hne : ∀ {quad : List UInt8}, quad.length = 4 → quad ≠ [] := by
    rintro quad hlen rfl
    cases hlen
  unfold shown at h
  cases hqx : quad? x with
  | some quad =>
    cases hqy : quad? y with
    | some quad' =>
      simp only [hqx, hqy] at h
      have hquad : quad = quad' :=
        inet_ntop4_inj (hne (length_of_quad? hx hqx)) (hne (length_of_quad? hy hqy)) h
      rw [quad?_eq_some_iff.mp hqx, quad?_eq_some_iff.mp hqy, hquad]
    | none =>
      simp only [hqx, hqy] at h
      exact absurd (h ▸ colon_mem_inet_ntop6 hy) (colon_not_mem_inet_ntop4 quad)
  | none =>
    cases hqy : quad? y with
    | some quad' =>
      simp only [hqx, hqy] at h
      exact absurd (h ▸ colon_mem_inet_ntop6 hx) (colon_not_mem_inet_ntop4 quad')
    | none =>
      simp only [hqx, hqy] at h
      exact inet_ntop6_inj hx hy (hcx hqx) (hcy hqy) h

end Infra.Inet
