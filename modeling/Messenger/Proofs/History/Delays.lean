import Mathlib.Algebra.Group.Nat.Defs
import Messenger.History.Retry
import Messenger.Proofs.Word.Checked

/-!
# The delays between attempts

The delay doubles from attempt to attempt until it meets the greatest delay, and then stays
there.  Neither the factor, which stops at 32 bits, nor the product, which stops at the longest
duration, is ever cut below that.
-/

namespace Messenger

namespace Duration

theorem ofNanos?_eq_some_iff {nanoseconds : Nat} {d : Duration} :
    ofNanos? nanoseconds = some d ↔ d.nanoseconds = nanoseconds := by
  unfold ofNanos?
  split
  · next representable =>
      rw [Option.some.injEq]
      constructor
      · rintro rfl
        rfl
      · rintro rfl
        rfl
  · next tooLong =>
      refine iff_of_false nofun fun same => tooLong ?_
      rw [← same]
      exact d.representable

theorem ofNanos?_eq_none_iff {nanoseconds : Nat} :
    ofNanos? nanoseconds = none ↔ UInt64.size * nanosPerSecond ≤ nanoseconds := by
  unfold ofNanos?
  split
  · next representable => exact iff_of_false nofun (Nat.not_le.mpr representable)
  · next tooLong => exact iff_of_true rfl (Nat.le_of_not_lt tooLong)

theorem nanoseconds_shorter (d e : Duration) :
    (d.shorter e).nanoseconds = min d.nanoseconds e.nanoseconds := by
  unfold shorter
  split
  · next shorter => exact (Nat.min_eq_left shorter).symm
  · next longer => exact (Nat.min_eq_right (Nat.le_of_not_le longer)).symm

/-- A product that is too long is replaced by the bound, which it would exceed: the result is the
same as without a longest duration. -/
theorem nanoseconds_scaled_shorter (d bound : Duration) (factor : Nat) :
    (((d.scaled? factor).getD bound).shorter bound).nanoseconds =
      min (d.nanoseconds * factor) bound.nanoseconds := by
  rw [nanoseconds_shorter]
  cases scaled : d.scaled? factor with
  | some product => rw [Option.getD_some, ofNanos?_eq_some_iff.mp scaled]
  | none =>
      have tooLong := ofNanos?_eq_none_iff.mp scaled
      rw [Option.getD_none, Nat.min_self, Nat.min_eq_right]
      exact Nat.le_trans (Nat.le_of_lt bound.representable) tooLong

/-! ## Products by words -/

/-- The product with a factor, computed in words: the nanoseconds beyond the whole seconds first,
then the seconds with what is carried over. -/
def scaledInWords? (d : Duration) (factor : UInt32) : Option Duration := do
  let nanos ← Word.mul? (.ofNat d.subseconds) factor.toUInt64
  let whole ← Word.mul? (.ofNat d.seconds) factor.toUInt64
  let seconds ← Word.add? whole (nanos / .ofNat nanosPerSecond)
  ofParts? seconds.toNat (nanos % .ofNat nanosPerSecond).toNat

theorem seconds_lt (d : Duration) : d.seconds < UInt64.size :=
  Nat.div_lt_of_lt_mul (by rw [Nat.mul_comm]; exact d.representable)

theorem subseconds_lt (d : Duration) : d.subseconds < nanosPerSecond :=
  Nat.mod_lt _ (by decide)

/-- What the nanoseconds have beyond whole seconds is carried over to the seconds. -/
theorem carried (seconds nanoseconds : Nat) :
    (seconds + nanoseconds / nanosPerSecond) * nanosPerSecond + nanoseconds % nanosPerSecond =
      seconds * nanosPerSecond + nanoseconds := by
  rw [Nat.add_mul, Nat.add_assoc, Nat.div_add_mod']

/-- The product of the nanoseconds beyond the whole seconds is always a word, and that of the seconds
with what is carried over is one unless the whole product is too long. -/
theorem scaledInWords?_eq (d : Duration) (factor : UInt32) :
    d.scaledInWords? factor = d.scaled? factor.toNat := by
  have secondsEq : (UInt64.ofNat d.seconds).toNat = d.seconds :=
    UInt64.toNat_ofNat_of_lt' d.seconds_lt
  have subsecondsEq : (UInt64.ofNat d.subseconds).toNat = d.subseconds :=
    UInt64.toNat_ofNat_of_lt' (Nat.lt_trans d.subseconds_lt (by decide))
  have perSecond : (UInt64.ofNat nanosPerSecond).toNat = nanosPerSecond := rfl
  have small : d.subseconds * factor.toNat < UInt64.size :=
    Nat.lt_of_lt_of_le (Nat.mul_lt_mul'' d.subseconds_lt factor.toNat_lt) (by decide)
  have product : d.nanoseconds * factor.toNat =
      d.seconds * factor.toNat * nanosPerSecond + d.subseconds * factor.toNat := by
    rw [← Nat.div_add_mod' d.nanoseconds nanosPerSecond, Nat.add_mul, Nat.mul_right_comm]
    rfl
  apply Option.ext
  intro e
  unfold scaledInWords? scaled? ofParts?
  simp only [Option.bind_eq_bind, Option.bind_eq_some_iff, Word.mul?_eq_some_iff,
    Word.add?_eq_some_iff, ofNanos?_eq_some_iff, secondsEq, subsecondsEq, perSecond,
    UInt64.toNat_div, UInt64.toNat_mod, UInt32.toNat_toUInt64]
  constructor
  · rintro ⟨nanos, nanosEq, whole, wholeEq, seconds, secondsTotal, total⟩
    rw [total, secondsTotal, carried, wholeEq, nanosEq, product]
  · intro total
    have fits := e.representable
    rw [total, product, ← carried] at fits
    have secondsFit := Nat.lt_of_mul_lt_mul_right (Nat.lt_of_le_of_lt (Nat.le_add_right ..) fits)
    have wholeFit := Nat.lt_of_le_of_lt (Nat.le_add_right ..) secondsFit
    refine ⟨.ofNat _, UInt64.toNat_ofNat_of_lt' small, .ofNat _, UInt64.toNat_ofNat_of_lt' wholeFit,
      .ofNat _, (UInt64.toNat_ofNat_of_lt' secondsFit).trans ?_, ?_⟩
    · rw [UInt64.toNat_ofNat_of_lt' wholeFit, UInt64.toNat_ofNat_of_lt' small]
    · rw [UInt64.toNat_ofNat_of_lt' secondsFit, UInt64.toNat_ofNat_of_lt' small, carried, total,
        product]

end Duration

namespace RetryPolicy

variable {attempt : UInt32}

/-- The factor doubles until it would have more than 32 bits. -/
theorem factor_eq_min (attempt : UInt32) :
    factor attempt = min (2 ^ (attempt.toNat - 1)) (UInt32.size - 1) := by
  unfold factor
  dsimp only
  split
  · next few =>
      have below : 2 ^ (attempt.toNat - 1) ≤ 2 ^ 31 := Nat.pow_le_pow_right (by decide) (by omega)
      rw [Nat.one_shiftLeft, Nat.min_eq_left (Nat.le_trans below (by decide))]
  · next many =>
      have above : 2 ^ 32 ≤ 2 ^ (attempt.toNat - 1) := Nat.pow_le_pow_right (by decide) (by omega)
      rw [Nat.min_eq_right (Nat.le_trans (by decide) above)]

theorem factor_of_le (few : attempt.toNat ≤ 32) : factor attempt = 2 ^ (attempt.toNat - 1) := by
  have below : 2 ^ (attempt.toNat - 1) ≤ 2 ^ 31 := Nat.pow_le_pow_right (by decide) (by omega)
  rw [factor_eq_min, Nat.min_eq_left (Nat.le_trans below (by decide))]

theorem factor_lt (attempt : UInt32) : factor attempt < UInt32.size := by
  rw [factor_eq_min]
  exact Nat.lt_of_le_of_lt (Nat.min_le_right ..) (by decide)

theorem factor_mono {earlier later : UInt32} (order : earlier ≤ later) :
    factor earlier ≤ factor later := by
  rw [UInt32.le_iff_toNat_le] at order
  rw [factor_eq_min, factor_eq_min]
  have doubled : 2 ^ (earlier.toNat - 1) ≤ 2 ^ (later.toNat - 1) :=
    Nat.pow_le_pow_right (by decide) (by omega)
  omega

theorem nanoseconds_backoff (policy : RetryPolicy) (attempt : UInt32) :
    (policy.backoff attempt).nanoseconds =
      min (policy.baseDelay.nanoseconds * factor attempt) policy.maxDelay.nanoseconds :=
  Duration.nanoseconds_scaled_shorter ..

theorem backoff_eq_scaledInWords? (policy : RetryPolicy) (attempt : UInt32) :
    policy.backoff attempt =
      ((policy.baseDelay.scaledInWords? (.ofNat (factor attempt))).getD policy.maxDelay).shorter
        policy.maxDelay := by
  rw [Duration.scaledInWords?_eq, UInt32.toNat_ofNat_of_lt' (factor_lt attempt)]
  rfl

theorem backoff_le_maxDelay (policy : RetryPolicy) (attempt : UInt32) :
    (policy.backoff attempt).nanoseconds ≤ policy.maxDelay.nanoseconds := by
  rw [nanoseconds_backoff]
  exact Nat.min_le_right ..

theorem backoff_mono (policy : RetryPolicy) {earlier later : UInt32} (order : earlier ≤ later) :
    (policy.backoff earlier).nanoseconds ≤ (policy.backoff later).nanoseconds := by
  have scaled := Nat.mul_le_mul_left policy.baseDelay.nanoseconds (factor_mono order)
  rw [nanoseconds_backoff, nanoseconds_backoff]
  omega

/-- Up to attempt 32 the delay is the base delay doubled as often as there were attempts before, or
the greatest delay if that is less, however long the product would be.  From each attempt to the
next one it does not fall, and it never exceeds the greatest delay.  Computed in words, nothing but
a product that exceeds the longest duration overflows. -/
theorem backoff_exact (policy : RetryPolicy) (attempt : UInt32) :
    (1 ≤ attempt → attempt ≤ 32 →
        (policy.backoff attempt).nanoseconds =
          min (policy.baseDelay.nanoseconds * 2 ^ (attempt.toNat - 1))
            policy.maxDelay.nanoseconds) ∧
      (attempt.toNat < UInt32.size - 1 →
        (policy.backoff attempt).nanoseconds ≤ (policy.backoff (attempt + 1)).nanoseconds ∧
          (policy.backoff (attempt + 1)).nanoseconds ≤ policy.maxDelay.nanoseconds) ∧
      policy.backoff attempt =
        ((policy.baseDelay.scaledInWords? (.ofNat (factor attempt))).getD policy.maxDelay).shorter
          policy.maxDelay := by
  refine ⟨fun _ few => ?_, fun below => ⟨policy.backoff_mono ?_, policy.backoff_le_maxDelay _⟩,
    policy.backoff_eq_scaledInWords? attempt⟩
  · rw [UInt32.le_iff_toNat_le] at few
    rw [nanoseconds_backoff, factor_of_le few]
  · rw [UInt32.le_iff_toNat_le, UInt32.toNat_add, Nat.mod_eq_of_lt]
    · exact Nat.le_add_right ..
    · exact Nat.add_lt_of_lt_sub below

/-- A delay of a nanosecond doubles up to attempt 32 and grows once more; the longest duration cannot
be doubled and stays. -/
theorem backoff_at_both_limits :
    let steady : RetryPolicy := { baseDelay := ⟨1, by decide⟩, maxDelay := .longest }
    let longest : RetryPolicy := { baseDelay := .longest, maxDelay := .longest }
    (steady.backoff 32).nanoseconds = 2 ^ 31 ∧ (steady.backoff 33).nanoseconds = 2 ^ 32 - 1 ∧
      (steady.backoff 32).nanoseconds ≤ (steady.backoff 33).nanoseconds ∧
      (longest.backoff 2).nanoseconds = Duration.longest.nanoseconds := by
  intro steady longest
  have doubled := (backoff_exact steady 32).1 (by decide) (by decide)
  have grown := (backoff_exact steady 32).2.1 (by decide)
  have capped := (backoff_exact longest 2).1 (by decide) (by decide)
  exact ⟨doubled.trans (by decide), by decide, grown.1, capped.trans (by decide)⟩

end RetryPolicy

end Messenger
