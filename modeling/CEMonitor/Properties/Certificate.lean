import CEMonitor.Certificate

/-!
# The expiry of a certificate

A certificate says when it expires in one of two ASN.1 forms: UTCTime, with two digits of the
year, up to 2049, and GeneralizedTime, with four, from 2050 on. `ASN1_UTCTIME_get` only knows
the first. It is exact there, so the expiry check is right; of the second form it reads every
field two digits too early, and past the end of the text.
-/

namespace CEMonitor

open Infra Calendar

/-! ## The two forms -/

/-- The expiry date of a certificate, within the years the two forms can write. -/
structure NotAfter extends Date where
  year_mem : 1950 ≤ year ∧ year ≤ 9999

namespace NotAfter

/-- Two decimal digits in ASCII. -/
def digits (n : Nat) : List UInt8 := [UInt8.ofNat (48 + n / 10), UInt8.ofNat (48 + n % 10)]

/-- What both forms end with: month, day and time of day, and a `Z`. -/
def afterYear (d : NotAfter) : List UInt8 :=
  digits d.month ++ digits d.day ++ digits d.hour ++ digits d.minute ++ digits d.second ++ [90]

/-- The text of a date: YYMMDDHHMMSSZ up to 2049, YYYYMMDDHHMMSSZ from 2050 on. -/
def encoding (d : NotAfter) : List UInt8 :=
  if d.year ≤ 2049 then digits (d.year % 100) ++ d.afterYear
  else digits (d.year / 100) ++ digits (d.year % 100) ++ d.afterYear

/-- The bytes that can be read: the text, the NUL OpenSSL puts after it, and what the memory
behind them holds. -/
def memory (d : NotAfter) (behind : List UInt8) : List UInt8 := d.encoding ++ 0 :: behind

/-- The proxy file of such a certificate. -/
def file (d : NotAfter) (behind : List UInt8) : ProxyFile where
  allocated := true
  opened := true
  notAfter := some (d.memory behind)

end NotAfter

/-! ## Decoding -/

theorem toNat_digit {n : Nat} (h : n < 10) : (UInt8.ofNat (48 + n)).toNat = 48 + n := by
  rw [UInt8.toNat_ofNat']
  omega

/-- Two digits are read back. -/
theorem g2_digits {data : List UInt8} {i n : Nat} (hn : n < 100)
    (h₀ : data[i]? = some (UInt8.ofNat (48 + n / 10)))
    (h₁ : data[i + 1]? = some (UInt8.ofNat (48 + n % 10))) : g2 data i = .returned n := by
  rw [g2, h₀, h₁]
  simp only [toNat_digit (show n / 10 < 10 by omega), toNat_digit (show n % 10 < 10 by omega),
    Outcome.returned.injEq]
  omega

/-- Six fields, then the zone. -/
theorem ASN1_UTCTIME_get_of_fields {data : List UInt8} {y mo md h mi s : Int}
    (hy : g2 data 0 = .returned y) (hmo : g2 data 2 = .returned mo)
    (hmd : g2 data 4 = .returned md) (hh : g2 data 6 = .returned h)
    (hmi : g2 data 8 = .returned mi) (hs : g2 data 10 = .returned s) :
    ASN1_UTCTIME_get data = (zoneOffset data).map fun offset =>
      timegm ⟨if y < 50 then y + 100 else y, mo - 1, md, h, mi, s⟩ - offset * 60 := by
  simp only [ASN1_UTCTIME_get, hy, hmo, hmd, hh, hmi, hs, Outcome.bind_returned]
  rfl

/-- The twelve digits of a date in a UTCTime. -/
def civil (d : Date) : List UInt8 :=
  NotAfter.digits (d.year % 100) ++ NotAfter.digits d.month ++ NotAfter.digits d.day
    ++ NotAfter.digits d.hour ++ NotAfter.digits d.minute ++ NotAfter.digits d.second

/-- They are decoded exactly: the pivot puts the two digits of the year in the right century. -/
theorem ASN1_UTCTIME_get_civil (d : Date) (rest : List UInt8)
    (hy : 1950 ≤ d.year ∧ d.year ≤ 2049) :
    ASN1_UTCTIME_get (civil d ++ rest) =
      (zoneOffset (civil d ++ rest)).map fun offset => d.instant - offset * 60 := by
  obtain ⟨hy₁, hy₂⟩ := hy
  obtain ⟨hm₁, hm₂⟩ := d.month_mem
  have hd := d.day_le
  have hh := d.hour_lt
  have hmi := d.minute_lt
  have hs := d.second_lt
  rw [ASN1_UTCTIME_get_of_fields (g2_digits (n := d.year % 100) (by omega) rfl rfl)
    (g2_digits (n := d.month) (by omega) rfl rfl) (g2_digits (n := d.day) (by omega) rfl rfl)
    (g2_digits (n := d.hour) (by omega) rfl rfl) (g2_digits (n := d.minute) (by omega) rfl rfl)
    (g2_digits (n := d.second) (by omega) rfl rfl), ← timegm_tm]
  have hyear : (if ((d.year % 100 : Nat) : Int) < 50 then ((d.year % 100 : Nat) : Int) + 100
      else ((d.year % 100 : Nat) : Int)) = (d.year : Int) - 1900 := by
    split <;> omega
  rw [hyear]
  rfl

section

variable (d : NotAfter) (behind : List UInt8)

/-- UTCTime is decoded exactly. -/
theorem ASN1_UTCTIME_get_utcTime (hy : d.year ≤ 2049) :
    ASN1_UTCTIME_get (d.memory behind) = .returned d.instant := by
  have hmem : d.memory behind = civil d.toDate ++ 90 :: 0 :: behind := by
    rw [NotAfter.memory, NotAfter.encoding, if_pos hy]
    rfl
  have hzone : zoneOffset (civil d.toDate ++ 90 :: 0 :: behind) = .returned 0 := rfl
  rw [hmem, ASN1_UTCTIME_get_civil _ _ ⟨d.year_mem.1, hy⟩, hzone, Outcome.map_returned,
    Int.zero_mul, Int.sub_zero]

/--
What comes out of a GeneralizedTime when it is read as a UTCTime: the century counts as the
year, the year as the month, and so on, and the digits where a zone would be are the last digit
of the seconds, the `Z`, the NUL and the byte behind it.
-/
def misread (b : UInt8) : Int :=
  timegm
    { year := if (d.year : Int) / 100 < 50 then (d.year : Int) / 100 + 100 else (d.year : Int) / 100
      mon := (d.year : Int) % 100 - 1
      mday := d.month
      hour := d.day
      min := d.hour
      sec := d.minute }
    - ((d.second % 10 * 10 + 42) * 60 + (b.toNat - 528)) * 60

theorem memory_generalizedTime (hy : 2050 ≤ d.year) :
    d.memory behind = NotAfter.digits (d.year / 100) ++ NotAfter.digits (d.year % 100)
      ++ d.afterYear ++ 0 :: behind := by
  rw [NotAfter.memory, NotAfter.encoding, if_neg (by omega)]

/-- The zone of a UTCTime is sought in the last two bytes of the text and in two more. -/
theorem zoneOffset_generalizedTime (hy : 2050 ≤ d.year) :
    zoneOffset (d.memory behind) =
      match behind with
      | [] => .undefined
      | b :: _ => .returned ((d.second % 10 * 10 + 42) * 60 + (b.toNat - 528)) := by
  have hs := d.second_lt
  have hmem := memory_generalizedTime d behind hy
  have hzone : (d.memory behind)[12]? = some (UInt8.ofNat (48 + d.second / 10)) := by
    rw [hmem]
    rfl
  -- the tens of the seconds are none of the two bytes the decoder looks for
  have htens := toNat_digit (show d.second / 10 < 10 by omega)
  have hZ : UInt8.ofNat (48 + d.second / 10) ≠ 90 := by
    intro h
    rw [h] at htens
    have : (90 : UInt8).toNat = 90 := rfl
    omega
  have hminus : UInt8.ofNat (48 + d.second / 10) ≠ 45 := by
    intro h
    rw [h] at htens
    have : (45 : UInt8).toNat = 45 := rfl
    omega
  have hhours : g2 (d.memory behind) 13 = .returned (d.second % 10 * 10 + 42) := by
    have h₁₃ : (d.memory behind)[13]? = some (UInt8.ofNat (48 + d.second % 10)) := by
      rw [hmem]
      rfl
    have h₁₄ : (d.memory behind)[13 + 1]? = some 90 := by
      rw [hmem]
      rfl
    rw [g2, h₁₃, h₁₄]
    simp only [toNat_digit (show d.second % 10 < 10 by omega), Outcome.returned.injEq]
    have : (90 : UInt8).toNat = 90 := rfl
    omega
  have h₁₅ : (d.memory behind)[15]? = some 0 := by
    rw [hmem]
    rfl
  have h₁₆ : (d.memory behind)[15 + 1]? = behind[0]? := by
    rw [hmem]
    rfl
  rw [zoneOffset, hzone, Outcome.deref_some, Outcome.bind_returned, if_neg hZ, hhours,
    Outcome.bind_returned, g2, h₁₅, h₁₆]
  cases behind with
  | nil => rfl
  | cons b behind =>
    simp only [List.getElem?_cons_zero, Outcome.bind_returned, if_neg hminus]
    have : (0 : UInt8).toNat = 0 := rfl
    rw [this]
    congr 1
    omega

/-- The fields of a GeneralizedTime are each read two digits too early. -/
theorem ASN1_UTCTIME_get_generalizedTime (hy : 2050 ≤ d.year) :
    ASN1_UTCTIME_get (d.memory behind) =
      match behind with
      | [] => .undefined
      | b :: _ => .returned (misread d b) := by
  have hzone := zoneOffset_generalizedTime d behind hy
  obtain ⟨hy₁, hy₂⟩ := d.year_mem
  obtain ⟨hm₁, hm₂⟩ := d.month_mem
  have hd := d.day_le
  have hh := d.hour_lt
  have hmi := d.minute_lt
  have hs := d.second_lt
  rw [memory_generalizedTime d behind hy] at hzone ⊢
  rw [ASN1_UTCTIME_get_of_fields (g2_digits (n := d.year / 100) (by omega) rfl rfl)
      (g2_digits (n := d.year % 100) (by omega) rfl rfl)
      (g2_digits (n := d.month) (by omega) rfl rfl) (g2_digits (n := d.day) (by omega) rfl rfl)
      (g2_digits (n := d.hour) (by omega) rfl rfl) (g2_digits (n := d.minute) (by omega) rfl rfl),
    hzone]
  cases behind with
  | nil => rfl
  | cons b behind =>
    simp only [Outcome.map_returned, Int.natCast_ediv, Int.natCast_emod]
    rfl

/-- What is misread lies before what is written: the century makes it a year before 2050, the
other two digits of the year at most eight years more. -/
theorem misread_lt (hy : 2050 ≤ d.year) (b : UInt8) : misread d b < d.instant := by
  obtain ⟨hy₁, hy₂⟩ := d.year_mem
  obtain ⟨hm₁, hm₂⟩ := d.month_mem
  have hh := d.hour_lt
  have hmi := d.minute_lt
  have hd := d.day_le
  have hyear := d.instant_mem_year.1
  have hle := timegm_le
    { year := if (d.year : Int) / 100 < 50 then (d.year : Int) / 100 + 100 else (d.year : Int) / 100
      mon := (d.year : Int) % 100 - 1
      mday := d.month
      hour := d.day
      min := d.hour
      sec := d.minute }
  simp only at hle
  -- the month, whatever it is, carries less than nine years
  have hbefore : (1900 + (if (d.year : Int) / 100 < 50 then (d.year : Int) / 100 + 100
      else (d.year : Int) / 100) + ((d.year : Int) % 100 - 1) / 12) < (d.year : Int) - 1 := by
    split <;> omega
  have hdays := daysBeforeYear_add_le hbefore
  have hdays' := daysBeforeYear_add_le (show (d.year : Int) - 1 < d.year by omega)
  unfold misread
  omega

end

/-! ## The check -/

/-- The exception of an expired certificate. -/
def expired : Exception := .abs .authenticationInit expiredMessage

/-- Division and clamp leave zero exactly when less than a minute remains. -/
theorem checkExpiry_of_returned {data : List UInt8} {t : Int} (now : Int) (certificate : String)
    (h : ASN1_UTCTIME_get data = .returned t) :
    checkExpiry now ⟨true, true, some data⟩ certificate =
      if now + 60 ≤ t then .returned () else .raised expired := by
  have hleft : getProxyTimeLeft now ⟨true, true, some data⟩ certificate
      = .returned ((t - now).tdiv 60) := by
    simp only [getProxyTimeLeft, h, Outcome.map_returned]
    rfl
  rw [checkExpiry, hleft, Outcome.bind_returned]
  by_cases ht : now + 60 ≤ t
  · have hpos : 0 < (t - now).tdiv 60 := by
      rw [Int.tdiv_eq_ediv_of_nonneg (by omega)]
      omega
    have hclamp : (if (t - now).tdiv 60 < 0 then 0 else (t - now).tdiv 60) ≠ 0 := by
      rw [if_neg (by omega)]
      omega
    rw [if_pos ht]
    exact if_neg hclamp
  · have hnonpos : (t - now).tdiv 60 ≤ 0 := by
      by_cases hn : 0 ≤ t - now
      · rw [Int.tdiv_eq_ediv_of_nonneg hn]
        omega
      · have hneg : 0 ≤ (-(t - now)).tdiv 60 := Int.tdiv_nonneg (by omega) (by decide)
        rw [Int.neg_tdiv] at hneg
        omega
    have hclamp : (if (t - now).tdiv 60 < 0 then 0 else (t - now).tdiv 60) = 0 := by
      split <;> omega
    rw [if_neg ht]
    exact if_pos hclamp

theorem checkExpiry_of_undefined {data : List UInt8} (now : Int) (certificate : String)
    (h : ASN1_UTCTIME_get data = .undefined) :
    checkExpiry now ⟨true, true, some data⟩ certificate = .undefined := by
  simp only [checkExpiry, getProxyTimeLeft, h, Outcome.map_undefined]
  rfl

/-- What a user may expect of the check: an expired certificate is refused, and one with a
minute left is not. -/
structure ChecksExpiry (now : Int) (d : NotAfter) (behind : List UInt8) (certificate : String) :
    Prop where
  refuses : d.instant ≤ now → checkExpiry now (d.file behind) certificate = .raised expired
  accepts : now + 60 ≤ d.instant → checkExpiry now (d.file behind) certificate = .returned ()

section

variable (now : Int) (d : NotAfter) (behind : List UInt8) (certificate : String)

/-- The whole check of a UTCTime. -/
theorem checkExpiry_utcTime (hy : d.year ≤ 2049) :
    checkExpiry now (d.file behind) certificate =
      if now + 60 ≤ d.instant then .returned () else .raised expired :=
  checkExpiry_of_returned now certificate (ASN1_UTCTIME_get_utcTime d behind hy)

/-- The whole check of a GeneralizedTime goes by an earlier date, if the zone can be read. -/
theorem checkExpiry_generalizedTime (hy : 2050 ≤ d.year) :
    checkExpiry now (d.file behind) certificate = .undefined ∨
    ∃ t < d.instant, checkExpiry now (d.file behind) certificate =
      if now + 60 ≤ t then .returned () else .raised expired := by
  have hget := ASN1_UTCTIME_get_generalizedTime d behind hy
  cases behind with
  | nil => exact Or.inl (checkExpiry_of_undefined now certificate hget)
  | cons b behind =>
    exact Or.inr ⟨misread d b, misread_lt d hy b, checkExpiry_of_returned now certificate hget⟩

end

/--
**The expiry check of a certificate is right at every moment exactly when UTCTime can write its
expiry date.**

A later date is misread as an earlier one, so that the certificate is refused at the latest when
it has a minute left, if the check gets through at all.
-/
theorem checksExpiry_iff (d : NotAfter) (behind : List UInt8) (certificate : String) :
    (∀ now, ChecksExpiry now d behind certificate) ↔ d.year ≤ 2049 := by
  constructor
  · intro hchecks
    by_contra hy
    have haccepts := (hchecks (d.instant - 60)).accepts (by omega)
    rcases checkExpiry_generalizedTime (d.instant - 60) d behind certificate (by omega) with
      hcheck | ⟨t, hlt, hcheck⟩
    · rw [hcheck] at haccepts
      cases haccepts
    · rw [hcheck, if_neg (by omega)] at haccepts
      cases haccepts
  · intro hy now
    have hcheck := checkExpiry_utcTime now d behind certificate hy
    refine ⟨fun h => ?_, fun h => ?_⟩
    · rw [hcheck, if_neg (by omega)]
    · rw [hcheck, if_pos h]

/-- 2050-06-01 12:00:00 UTC. -/
def june2050 : NotAfter where
  year := 2050
  month := 6
  day := 1
  hour := 12
  minute := 0
  second := 0
  month_mem := by decide
  day_mem := by decide
  hour_lt := by decide
  minute_lt := by decide
  second_lt := by decide
  year_mem := by decide

/-- On 2026-01-01 a certificate that is valid until June 2050 is refused as expired. -/
theorem june2050_refused :
    1767225600 + 60 ≤ june2050.instant ∧
    checkExpiry 1767225600 (june2050.file [0]) "/tmp/x509up_u500" = .raised expired ∧
    ¬ChecksExpiry 1767225600 june2050 [0] "/tmp/x509up_u500" := by
  have hleft : 1767225600 + 60 ≤ june2050.instant := by decide
  have hrefused :
      checkExpiry 1767225600 (june2050.file [0]) "/tmp/x509up_u500" = .raised expired := by decide
  refine ⟨hleft, hrefused, ?_⟩
  rintro ⟨-, haccepts⟩
  have haccepted := haccepts hleft
  rw [hrefused] at haccepted
  cases haccepted

end CEMonitor
