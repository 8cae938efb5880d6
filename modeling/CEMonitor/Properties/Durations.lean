import CEMonitor.Properties.Commands
import CEMonitor.Properties.Options

/-!
# How long a subscription lasts

`--duration` goes through `atoi`, an `int`, for `subscribe` a `long`, and a `time_t`, and is
then added to the clock. The first of these is the narrowest: a numeral from 2 147 483 648 on
arrives as another number, and perhaps as a negative one.
-/

namespace CEMonitor

open Infra CliUtils

namespace Commands

/--
**The expiration time that `subscribe` and `subupdate` send is the current time and the
duration, exactly when the duration is below 2 147 483 648.**

The last `--duration` of the command line is the numeral of `n`.
-/
theorem expirationTime_iff (rt : SoapRuntime) (w : World (Option SubscriptionRef))
    (cl : CommandLine) (arg : String) (n : Nat)
    (harg : cl.last 'd' = some arg) (hn : Text.IsNumeral arg n) :
    (∀ endpoint sub, SoapCall.subscribe endpoint sub ∈ (Commands.subscribe rt w cl).sent →
      (sub.expirationTime = some (w.call.now + n) ↔ n < 2 ^ 31)) ∧
    (∀ endpoint sub, SoapCall.update endpoint sub ∈ (Commands.subupdate rt w cl).sent →
      (sub.expirationTime = some (w.call.now + n) ↔ n < 2 ^ 31)) := by
  have hiff : ∀ {letters : List Char} {opts : Options}, parse letters w.env cl = some opts →
      (some (w.call.now + opts.duration) = some (w.call.now + n) ↔ n < 2 ^ 31) := by
    intro letters opts hp
    have hduration : opts.duration = Text.atoi arg := by
      rw [meant_of_parse hp, CommandLine.meant, harg, Option.map_some, Option.getD_some]
    rw [hduration, Option.some.injEq, Int.add_right_inj]
    exact Text.atoi_eq_iff hn
  constructor
  · intro endpoint sub hsent
    cases hp : parse subscribeLetters w.env cl with
    | none =>
      rw [Commands.subscribe, hp] at hsent
      cases hsent
    | some opts =>
      rw [(subscribe_request rt hp hsent).2]
      exact hiff hp
  · intro endpoint sub hsent
    cases hp : parse subupdateLetters w.env cl with
    | none =>
      rw [Commands.subupdate, hp] at hsent
      cases hsent
    | some opts =>
      rw [(subupdate_request rt hp hsent).2]
      exact hiff hp

/-- A command line for both programs, with the given `--duration`. -/
def durationLine (duration : String) : CommandLine where
  options := [('U', "http://consumer:9000"), ('T', "CE_MONITOR"), ('d', duration)]
  operand := some "ce"

/-- The first number that an `int` does not hold: both requests expire long before now. -/
theorem expirationTime_2147483648_past :
    Text.IsNumeral "2147483648" 2147483648 ∧
    ∃ endpoint₁ endpoint₂ sub₁ sub₂,
      (Commands.subscribe (.plain "SOAP-ENV:Client" "Client fault") (goodWorld none)
        (durationLine "2147483648")).sent = [.subscribe endpoint₁ sub₁] ∧
      (Commands.subupdate (.plain "SOAP-ENV:Client" "Client fault") (goodWorld none)
        (durationLine "2147483648")).sent = [.update endpoint₂ sub₂] ∧
      sub₁.expirationTime = some (-2147483648) ∧ sub₂.expirationTime = some (-2147483648) :=
  ⟨⟨List.all_eq_true.mp (by decide), by decide, by decide⟩, _, _, _, _, rfl, rfl, by decide,
    by decide⟩

/-- A year. -/
theorem expirationTime_31536000 :
    (∀ endpoint sub, SoapCall.subscribe endpoint sub
        ∈ (Commands.subscribe (.plain "SOAP-ENV:Client" "Client fault") (goodWorld none)
          (durationLine "31536000")).sent → sub.expirationTime = some 31536000) ∧
    ∀ endpoint sub, SoapCall.update endpoint sub
        ∈ (Commands.subupdate (.plain "SOAP-ENV:Client" "Client fault") (goodWorld none)
          (durationLine "31536000")).sent → sub.expirationTime = some 31536000 := by
  have hiff := expirationTime_iff (.plain "SOAP-ENV:Client" "Client fault") (goodWorld none)
    (durationLine "31536000") "31536000" 31536000 rfl
    ⟨List.all_eq_true.mp (by decide), by decide, by decide⟩
  exact ⟨fun endpoint sub h => (hiff.1 endpoint sub h).mpr (by decide),
    fun endpoint sub h => (hiff.2 endpoint sub h).mpr (by decide)⟩

end Commands

end CEMonitor
