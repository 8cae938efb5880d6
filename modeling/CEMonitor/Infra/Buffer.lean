import CEMonitor.Infra.Outcome

/-!
# Buffers of bytes

A local variable seen as its bytes, some of which may not have been initialised. A read is defined
only when all the bytes it touches are in the buffer and initialised.
-/

namespace Infra

/-- The bytes; `none` where nothing has been written yet. -/
abbrev Buffer := List (Option UInt8)

namespace Buffer

variable {ε : Type}

def uninitialised (n : Nat) : Buffer := List.replicate n none

/-- What `memset(b, 0, n)` leaves. -/
def zeroed (n : Nat) : Buffer := List.replicate n (some 0)

/-- `bytes` copied to the start; what does not fit is cut off. -/
def store (bytes : List UInt8) (b : Buffer) : Buffer :=
  (bytes.take b.length).map some ++ b.drop bytes.length

/-- The `n` bytes at `off`. -/
def load (off n : Nat) (b : Buffer) : Outcome ε (List UInt8) :=
  let part := (b.drop off).take n
  if part.length < n ∨ none ∈ part then .undefined else .returned (part.filterMap id)

/-- A read of a C string up to its NUL. -/
def scan : Buffer → Outcome ε (List UInt8)
  | [] => .undefined
  | none :: _ => .undefined
  | some c :: b => if c = 0 then .returned [] else (scan b).map (c :: ·)

theorem store_uninitialised {bytes : List UInt8} {n : Nat} (h : bytes.length ≤ n) :
    store bytes (uninitialised n) = bytes.map some ++ uninitialised (n - bytes.length) := by
  rw [store, uninitialised, List.length_replicate, List.take_of_length_le h, List.drop_replicate]
  rfl

theorem store_zeroed {bytes : List UInt8} {n : Nat} (h : bytes.length ≤ n) :
    store bytes (zeroed n) = (bytes ++ List.replicate (n - bytes.length) 0).map some := by
  rw [store, zeroed, List.length_replicate, List.take_of_length_le h, List.drop_replicate,
    List.map_append, List.map_replicate]

/-- Initialised bytes are loaded as they are. -/
theorem load_map_some {off n : Nat} {pre bytes post : List UInt8} {b : Buffer}
    (hpre : pre.length = off) (hn : bytes.length = n) :
    load off n ((pre ++ bytes ++ post).map some ++ b)
      = (.returned bytes : Outcome ε (List UInt8)) := by
  have hpart : (((pre ++ bytes ++ post).map some ++ b).drop off).take n = bytes.map some := by
    rw [List.map_append, List.map_append, List.append_assoc, List.append_assoc, ← hpre,
      ← List.length_map some, List.drop_left, ← hn, ← List.length_map some, List.take_left]
  have hwhole : ¬((bytes.map some).length < n ∨ none ∈ bytes.map some) := by simp [hn]
  simp only [load, hpart, if_neg hwhole, List.filterMap_map]
  simp

/-- A C string ends within initialised bytes exactly when one of them is zero. -/
theorem scan_map_some (bytes : List UInt8) :
    scan (bytes.map some)
      = if 0 ∈ bytes then (.returned (bytes.takeWhile (· ≠ 0)) : Outcome ε (List UInt8))
        else .undefined := by
  induction bytes with
  | nil => rfl
  | cons c bytes ih =>
    rw [List.map_cons, scan, ih]
    by_cases hc : c = 0
    · simp [hc]
    · have hmem : 0 ∈ c :: bytes ↔ 0 ∈ bytes := by simp [Ne.symm hc]
      rw [if_neg hc, List.takeWhile_cons_of_pos (by simpa using hc)]
      by_cases h : 0 ∈ bytes
      · rw [if_pos h, if_pos (hmem.mpr h)]
        rfl
      · rw [if_neg h, if_neg (mt hmem.mp h)]
        rfl

end Buffer

end Infra
