import Mathlib.Order.Lattice
import Mathlib.Algebra.Order.Ring.Int
/-!
# Instants and durations

`chrono`'s `DateTime<Utc>` and `Duration`, in nanoseconds. An instant outside
the representable years cannot be built, so `checked_add_signed` can fail, and
the unchecked `+` of the source panics where it does.
-/

namespace ResticPal

/-- Nanoseconds; `chrono::Duration` (a `TimeDelta`). -/
abbrev Duration := Int

namespace Duration

/-- The largest number of whole seconds a `TimeDelta` holds (`i64::MAX` milliseconds). -/
def maxSeconds : Int := 9223372036854775

/-- `Duration::seconds`, which panics out of range. -/
def seconds (s : Int) : Option Duration :=
  if -maxSeconds ≤ s ∧ s ≤ maxSeconds then some (s * 1000000000) else none

/-- `Duration::minutes` of a 32-bit count, always in range. -/
def minutes (m : UInt32) : Duration := m.toNat * 60 * 1000000000

/-- `Duration::hours` of a 32-bit count, always in range. -/
def hours (h : UInt32) : Duration := h.toNat * 3600 * 1000000000

/-- `Duration::days` of a 32-bit count, always in range. -/
def days (d : UInt32) : Duration := d.toNat * 86400 * 1000000000

/-- `num_milliseconds`, which rounds towards zero. -/
def num_milliseconds (d : Duration) : Int := d.tdiv 1000000

end Duration

/-- `DateTime<Utc>`: nanoseconds since 1970, within the years chrono represents
(-262143-01-01T00:00:00 to 262142-12-31T23:59:59.999999999). -/
structure DateTime where
  nanos : Int
  min_le : -8334601228800 * 1000000000 ≤ nanos
  le_max : nanos ≤ 8210266876799 * 1000000000 + 999999999
  deriving DecidableEq

namespace DateTime

/-- `DateTime::<Utc>::MAX_UTC`. -/
def MAX_UTC : DateTime := ⟨8210266876799 * 1000000000 + 999999999, by decide, by decide⟩

/-- `DateTime::<Utc>::UNIX_EPOCH`. -/
def UNIX_EPOCH : DateTime := ⟨0, by decide, by decide⟩

theorem nanos_injective : Function.Injective nanos := by
  rintro ⟨a, _, _⟩ ⟨b, _, _⟩ h
  simpa using h

instance : LinearOrder DateTime := LinearOrder.lift' nanos nanos_injective

theorem le_iff {a b : DateTime} : a ≤ b ↔ a.nanos ≤ b.nanos := Iff.rfl

theorem lt_iff {a b : DateTime} : a < b ↔ a.nanos < b.nanos := Iff.rfl

theorem min_nanos (a b : DateTime) : (min a b).nanos = min a.nanos b.nanos := by
  rcases le_total a b with h | h
  · rw [min_eq_left h, min_eq_left (le_iff.1 h)]
  · rw [min_eq_right h, min_eq_right (le_iff.1 h)]

/-- `checked_add_signed`: `none` where the sum is not representable. -/
def checked_add_signed (t : DateTime) (d : Duration) : Option DateTime :=
  if h : -8334601228800 * 1000000000 ≤ t.nanos + d ∧ t.nanos + d ≤ 8210266876799 * 1000000000 + 999999999 then
    some ⟨t.nanos + d, h.1, h.2⟩
  else none

/-- `Utc.timestamp_millis_opt(..).single()`. -/
def timestamp_millis_opt (ms : Int) : Option DateTime :=
  if h : -8334601228800 * 1000000000 ≤ ms * 1000000 ∧ ms * 1000000 ≤ 8210266876799 * 1000000000 + 999999999 then
    some ⟨ms * 1000000, h.1, h.2⟩
  else none

/-- `signed_duration_since`, also written `self - other`; always representable. -/
def signed_duration_since (t u : DateTime) : Duration := t.nanos - u.nanos

theorem checked_add_signed_eq_some {t u : DateTime} {d : Duration} :
    t.checked_add_signed d = some u ↔ u.nanos = t.nanos + d := by
  unfold checked_add_signed
  constructor
  · intro h
    split at h
    · cases h; rfl
    · cases h
  · intro h
    have h1 := u.min_le
    have h2 := u.le_max
    rw [dif_pos ⟨by omega, by omega⟩]
    simp only [Option.some.injEq]
    exact nanos_injective h.symm

theorem checked_add_signed_eq_none {t : DateTime} {d : Int} (hd : 0 ≤ d) :
    t.checked_add_signed d = none ↔ MAX_UTC.nanos < t.nanos + d := by
  have h1 := t.min_le
  unfold checked_add_signed
  split
  · rename_i h
    have : t.nanos + d ≤ MAX_UTC.nanos := h.2
    constructor
    · intro h'; cases h'
    · intro h'; omega
  · rename_i h
    have hm : MAX_UTC.nanos = 8210266876799 * 1000000000 + 999999999 := rfl
    constructor
    · intro _
      rw [hm]
      by_contra hn
      exact h ⟨by omega, by omega⟩
    · intro _; rfl

end DateTime

end ResticPal
