import CEMonitor.Properties.Certificate

/-!
# UTCTime with a zone

A UTCTime gives the civil time of a zone, and then the zone: a `Z`, or the sign and the hours
and minutes of its offset. Reading it back gives the instant that was written, in any zone, as
long as the civil date falls in the hundred years that two digits of a year can tell.
-/

namespace CEMonitor

open Infra Calendar

/-! ## Zones -/

/-- How a zone is written. -/
inductive Zone where
  | utc
  | offset (negative : Bool) (hours minutes : Nat) (hours_lt : hours < 24)
      (minutes_lt : minutes < 60)

namespace Zone

/-- The offset in minutes, positive to the east. -/
def minutes : Zone → Int
  | .utc => 0
  | .offset negative hours minutes _ _ =>
    if negative then -(hours * 60 + minutes : Int) else hours * 60 + minutes

/-- What stands behind the twelve digits. -/
def text : Zone → List UInt8
  | .utc => [90]
  | .offset negative hours minutes _ _ =>
    (if negative then 45 else 43) :: (NotAfter.digits hours ++ NotAfter.digits minutes)

/-- Every offset of less than a day can be written. -/
theorem exists_minutes_eq {o : Int} (h : -1439 ≤ o ∧ o ≤ 1439) : ∃ z : Zone, z.minutes = o := by
  obtain ⟨h₁, h₂⟩ := h
  refine ⟨.offset (decide (o < 0)) (o.natAbs / 60) (o.natAbs % 60) (by omega) (by omega), ?_⟩
  by_cases hneg : o < 0
  · simp only [minutes, hneg, decide_true, if_true]
    omega
  · simp only [minutes, hneg, decide_false]
    rw [if_neg Bool.false_ne_true]
    omega

end Zone

/-- The UTCTime of a civil time in a zone. -/
def utcTime (d : Date) (z : Zone) : List UInt8 := civil d ++ z.text

/-- The zone is read from the text and from nothing behind it. -/
theorem zoneOffset_utcTime (d : Date) (z : Zone) :
    zoneOffset (utcTime d z) = .returned z.minutes := by
  cases z with
  | utc => rfl
  | offset negative hours minutes hours_lt minutes_lt =>
    have hsign : (utcTime d (.offset negative hours minutes hours_lt minutes_lt))[12]?
        = some (if negative then 45 else 43) := rfl
    have hhours : g2 (utcTime d (.offset negative hours minutes hours_lt minutes_lt)) 13
        = .returned hours := g2_digits (by omega) rfl rfl
    have hminutes : g2 (utcTime d (.offset negative hours minutes hours_lt minutes_lt)) 15
        = .returned minutes := g2_digits (by omega) rfl rfl
    rw [zoneOffset, hsign, Outcome.deref_some, Outcome.bind_returned, hhours,
      Outcome.bind_returned, hminutes, Outcome.bind_returned]
    cases negative <;> rfl

/--
**A UTCTime is read back as the instant it stands for, whatever zone it is written in.**

The data is the text alone, so nothing behind it is read. Every instant has a civil time in
every zone.
-/
theorem ASN1_UTCTIME_get_zone (t o : Int) (ho : -1439 ≤ o ∧ o ≤ 1439)
    (ht : 86400 * daysBeforeYear 1950 ≤ t + 60 * o ∧ t + 60 * o < 86400 * daysBeforeYear 2050) :
    (∃ (d : Date) (z : Zone), d.instant = t + 60 * o ∧ z.minutes = o) ∧
    ∀ (d : Date) (z : Zone), d.instant = t + 60 * o → z.minutes = o →
      ASN1_UTCTIME_get (utcTime d z) = .returned t := by
  obtain ⟨ht₁, ht₂⟩ := ht
  constructor
  · obtain ⟨d, hd⟩ := Date.exists_instant_eq (a := 1950) (k := 100) ht₁ ht₂
    obtain ⟨z, hz⟩ := Zone.exists_minutes_eq ho
    exact ⟨d, z, hd, hz⟩
  · intro d z hd hz
    have hyear : 1950 ≤ d.year ∧ d.year < 2050 :=
      Date.year_mem_of_instant (by rw [hd]; exact ht₁) (by rw [hd]; exact ht₂)
    have hzone : zoneOffset (civil d ++ z.text) = .returned o := by
      rw [← hz]
      exact zoneOffset_utcTime d z
    rw [utcTime, ASN1_UTCTIME_get_civil d z.text ⟨hyear.1, by omega⟩, hzone, Outcome.map_returned,
      hd]
    congr 1
    omega

/-- 2000-01-01 00:30:01. -/
def newYear2000 : Date where
  year := 2000
  month := 1
  day := 1
  hour := 0
  minute := 30
  second := 1
  month_mem := by decide
  day_mem := by decide
  hour_lt := by decide
  minute_lt := by decide
  second_lt := by decide

/-- `000101003001+0100` is 1999-12-31 23:30:01 in UTC. -/
theorem ASN1_UTCTIME_get_newYear2000 :
    ASN1_UTCTIME_get
        [48, 48, 48, 49, 48, 49, 48, 48, 51, 48, 48, 49, 43, 48, 49, 48, 48]
      = .returned 946683001 :=
  (ASN1_UTCTIME_get_zone 946683001 60 (by decide) (by decide)).2 newYear2000
    (.offset false 1 0 (by decide) (by decide)) (by decide) (by decide)

end CEMonitor
