import Mathlib.Data.Int.Log
import Mathlib.Data.Rat.Floor
import Mathlib.Tactic.Linarith

/-!
# The MPEG-TS timestamps of the SRT reader

`durationGoToMPEGTS` converts a duration to 90 kHz ticks in `float64`, where the recorder's
`durationGoToMp4` is exact.  A `float64` is the rational it stands for, and each operation its
exact result rounded to the nearest double, ties to even; subnormal and overflowing results are
left out, since no `int64` duration gives one.
-/

namespace RtspSimpleServer
namespace Float64

/-- The nearest integer, ties to the even one. -/
def roundHalfEven (y : ℚ) : ℤ :=
  if Int.fract y < 1 / 2 then ⌊y⌋
  else if 1 / 2 < Int.fract y then ⌊y⌋ + 1
  else if ⌊y⌋ % 2 = 0 then ⌊y⌋ else ⌊y⌋ + 1

/-- The unit of the 53-bit significands of the doubles in the binade of `x`. -/
def ulp (x : ℚ) : ℚ := 2 ^ (Int.log 2 |x| - 52)

/-- The double nearest to `x`, ties to an even significand. -/
def toFloat64 (x : ℚ) : ℚ := roundHalfEven (x / ulp x) * ulp x

theorem abs_roundHalfEven_sub_le (y : ℚ) : |(roundHalfEven y : ℚ) - y| ≤ 1 / 2 := by
  have lo := Int.floor_le y
  have hi := Int.lt_floor_add_one y
  rw [abs_sub_le_iff]
  simp only [roundHalfEven, ← Int.self_sub_floor]
  split_ifs <;> push_cast <;> constructor <;> linarith

theorem roundHalfEven_of_le {y : ℚ} {n : ℤ} (lo : n ≤ y) (hi : y - n < 1 / 2) :
    roundHalfEven y = n := by
  have floor : ⌊y⌋ = n := Int.floor_eq_iff.2 ⟨lo, by linarith⟩
  rw [roundHalfEven, ← Int.self_sub_floor, floor, if_pos hi]

@[simp]
theorem roundHalfEven_intCast (n : ℤ) : roundHalfEven n = n :=
  roundHalfEven_of_le le_rfl (by norm_num)

/-- Ties to even are symmetric: rounding commutes with negation. -/
theorem roundHalfEven_neg (y : ℚ) : roundHalfEven (-y) = -roundHalfEven y := by
  by_cases whole : Int.fract y = 0
  · have : y = ⌊y⌋ := by simpa [whole] using (Int.floor_add_fract y).symm
    rw [this, ← Int.cast_neg, roundHalfEven_intCast, roundHalfEven_intCast]
  · have fract : Int.fract (-y) = 1 - Int.fract y := Int.fract_neg whole
    have floor : ⌊-y⌋ = -⌊y⌋ - 1 := by
      have := Int.floor_add_fract (-y)
      have := Int.floor_add_fract y
      exact_mod_cast (by linarith : ((⌊-y⌋ : ℤ) : ℚ) = -⌊y⌋ - 1)
    simp only [roundHalfEven, fract, floor]
    split_ifs <;> first | omega | linarith

/-- The integer within a half of `y`. -/
theorem roundHalfEven_of_near {y : ℚ} {n : ℤ} (above : n - 1 / 2 < y) (below : y < n + 1 / 2) :
    roundHalfEven y = n := by
  rcases le_or_lt (n : ℚ) y with up | down
  · exact roundHalfEven_of_le up (by linarith)
  · have flipped := roundHalfEven_of_le (y := -y) (n := -n) (by push_cast; linarith)
      (by push_cast; linarith)
    rw [roundHalfEven_neg] at flipped
    exact neg_inj.1 flipped

theorem ulp_pos (x : ℚ) : 0 < ulp x := zpow_pos two_pos _

/-- The unit of a binade is `2 ^ -52` of its least value. -/
theorem ulp_mul_le {x : ℚ} (nonzero : x ≠ 0) : ulp x * 2 ^ 52 ≤ |x| := by
  have least := Int.zpow_log_le_self (b := 2) one_lt_two (abs_pos.2 nonzero)
  rw [ulp, ← zpow_natCast, ← zpow_add₀ two_ne_zero, Nat.cast_ofNat, sub_add_cancel]
  exact_mod_cast least

/-- The unit of the binade between two powers of two. -/
theorem ulp_of_le {x : ℚ} {k : ℤ} (lo : 2 ^ k ≤ |x|) (hi : |x| < 2 ^ (k + 1)) :
    ulp x = 2 ^ (k - 52) := by
  have pos : 0 < |x| := lt_of_lt_of_le (zpow_pos two_pos k) lo
  have below := (Int.lt_zpow_iff_log_lt (b := 2) one_lt_two pos).1 (by exact_mod_cast hi)
  have above := (Int.zpow_le_iff_le_log (b := 2) one_lt_two pos).1 (by exact_mod_cast lo)
  rw [ulp, show Int.log 2 |x| = k by omega]

@[simp]
theorem toFloat64_zero : toFloat64 0 = 0 := by
  simpa [toFloat64] using .inl (roundHalfEven_intCast 0)

theorem toFloat64_neg (x : ℚ) : toFloat64 (-x) = -toFloat64 x := by
  simp only [toFloat64, ulp, abs_neg, neg_div, roundHalfEven_neg, Int.cast_neg, neg_mul]

/-- The double nearest to `x`, read off the binade of `x` and the integer nearest to `x` in the
units of that binade. -/
theorem toFloat64_eq {x : ℚ} {k n : ℤ} (lo : 2 ^ k ≤ |x|) (hi : |x| < 2 ^ (k + 1))
    (above : n - 1 / 2 < x / 2 ^ (k - 52)) (below : x / 2 ^ (k - 52) < n + 1 / 2) :
    toFloat64 x = n * 2 ^ (k - 52) := by
  rw [toFloat64, ulp_of_le lo hi, roundHalfEven_of_near above below]

theorem abs_toFloat64_sub_le_ulp (x : ℚ) : |toFloat64 x - x| ≤ ulp x / 2 := by
  have scaled : toFloat64 x - x = (roundHalfEven (x / ulp x) - x / ulp x) * ulp x := by
    rw [toFloat64, sub_mul, div_mul_cancel₀ _ (ulp_pos x).ne']
  rw [scaled, abs_mul, abs_of_pos (ulp_pos x)]
  linarith [mul_le_mul_of_nonneg_right (abs_roundHalfEven_sub_le (x / ulp x)) (ulp_pos x).le]

/-- A rounding moves a value by at most `2 ^ -53` of it. -/
theorem abs_toFloat64_sub_le (x : ℚ) : |toFloat64 x - x| ≤ |x| / 2 ^ 53 := by
  rcases eq_or_ne x 0 with rfl | nonzero
  · simp
  · have := ulp_mul_le nonzero
    have := abs_toFloat64_sub_le_ulp x
    rw [le_div_iff₀ (by norm_num)]
    linarith

/-- A rounding of a non-negative value, as two bounds. -/
theorem toFloat64_bounds {x : ℚ} (nonneg : 0 ≤ x) :
    x - x / 2 ^ 53 ≤ toFloat64 x ∧ toFloat64 x ≤ x + x / 2 ^ 53 := by
  have := abs_toFloat64_sub_le x
  rw [abs_of_nonneg nonneg, abs_sub_le_iff] at this
  constructor <;> linarith

/-- Integers below `2 ^ 53` are doubles. -/
theorem toFloat64_intCast {k : ℤ} (small : |k| < 2 ^ 53) : toFloat64 k = k := by
  rcases eq_or_ne k 0 with rfl | nonzero
  · simp
  have log : Int.log 2 |(k : ℚ)| < 53 :=
    (Int.lt_zpow_iff_log_lt one_lt_two (abs_pos.2 (Int.cast_ne_zero.2 nonzero))).1
      (by norm_num; exact_mod_cast small)
  obtain ⟨m, unit⟩ : ∃ m : ℕ, ulp k = ((2 : ℚ) ^ m)⁻¹ :=
    ⟨(52 - Int.log 2 |(k : ℚ)|).toNat, by
      rw [ulp, ← zpow_natCast, ← zpow_neg, Int.toNat_of_nonneg (by omega), neg_sub]⟩
  have scaled : (k : ℚ) / ulp k = ((k * 2 ^ m : ℤ) : ℚ) := by
    rw [unit, div_inv_eq_mul]; push_cast; rfl
  rw [toFloat64, scaled, roundHalfEven_intCast, unit]
  push_cast
  exact mul_inv_cancel_right₀ (pow_ne_zero _ two_ne_zero) _

/-- Rounding to the nearest integer is monotone: two values apart round at most one apart, and
the same value the same way. -/
theorem roundHalfEven_mono {y z : ℚ} (le : y ≤ z) : roundHalfEven y ≤ roundHalfEven z := by
  rcases le.eq_or_lt with rfl | lt
  · exact le_rfl
  · have near_y := abs_roundHalfEven_sub_le y
    have near_z := abs_roundHalfEven_sub_le z
    rw [abs_sub_le_iff] at near_y near_z
    have : (roundHalfEven y : ℚ) < roundHalfEven z + 1 := by linarith
    exact Int.lt_add_one_iff.1 (by exact_mod_cast this)

/-- A positive value rounds within its binade, its upper end included. -/
theorem toFloat64_mem_binade {x : ℚ} (pos : 0 < x) :
    2 ^ Int.log 2 x ≤ toFloat64 x ∧ toFloat64 x ≤ 2 ^ (Int.log 2 x + 1) := by
  have lo := Int.zpow_log_le_self (b := 2) one_lt_two pos
  have hi := Int.lt_zpow_succ_log_self (b := 2) one_lt_two x
  push_cast at lo hi
  have unit : ulp x = 2 ^ (Int.log 2 x - 52) := by rw [ulp, abs_of_pos pos]
  have least : (2 : ℚ) ^ Int.log 2 x = 2 ^ 52 * ulp x := by
    rw [unit, ← zpow_natCast, ← zpow_add₀ two_ne_zero]; congr 1; omega
  have next : (2 : ℚ) ^ (Int.log 2 x + 1) = 2 ^ 53 * ulp x := by
    rw [unit, ← zpow_natCast, ← zpow_add₀ two_ne_zero]; congr 1; omega
  have scaled_lo : (((2 ^ 52 : ℤ)) : ℚ) ≤ x / ulp x := by
    rw [le_div_iff₀ (ulp_pos x), Int.cast_pow, Int.cast_ofNat, ← least]; exact lo
  have scaled_hi : x / ulp x ≤ (((2 ^ 53 : ℤ)) : ℚ) := by
    rw [div_le_iff₀ (ulp_pos x), Int.cast_pow, Int.cast_ofNat, ← next]; exact hi.le
  have r_lo := roundHalfEven_mono scaled_lo
  have r_hi := roundHalfEven_mono scaled_hi
  rw [roundHalfEven_intCast] at r_lo r_hi
  rw [least, next, toFloat64]
  exact ⟨mul_le_mul_of_nonneg_right (by exact_mod_cast r_lo) (ulp_pos x).le,
    mul_le_mul_of_nonneg_right (by exact_mod_cast r_hi) (ulp_pos x).le⟩

theorem toFloat64_mono_of_pos {x y : ℚ} (pos : 0 < x) (le : x ≤ y) : toFloat64 x ≤ toFloat64 y := by
  have logs := Int.log_mono_right (b := 2) pos le
  rcases logs.eq_or_lt with same | lower
  · have unit : ulp y = ulp x := by
      rw [ulp, ulp, abs_of_pos pos, abs_of_pos (pos.trans_le le), same]
    rw [toFloat64, toFloat64, unit]
    have scaled := roundHalfEven_mono (div_le_div_of_nonneg_right le (ulp_pos x).le)
    exact mul_le_mul_of_nonneg_right (by exact_mod_cast scaled) (ulp_pos x).le
  · calc toFloat64 x ≤ 2 ^ (Int.log 2 x + 1) := (toFloat64_mem_binade pos).2
      _ ≤ 2 ^ Int.log 2 y := zpow_le_zpow_right₀ one_le_two lower
      _ ≤ toFloat64 y := (toFloat64_mem_binade (pos.trans_le le)).1

theorem toFloat64_nonneg {x : ℚ} (nonneg : 0 ≤ x) : 0 ≤ toFloat64 x := by
  rcases nonneg.eq_or_lt with rfl | pos
  · simp
  · exact (zpow_pos two_pos _).le.trans (toFloat64_mem_binade pos).1

/-- Rounding to the nearest double is monotone. -/
theorem toFloat64_mono {x y : ℚ} (le : x ≤ y) : toFloat64 x ≤ toFloat64 y := by
  rcases lt_or_le 0 x with pos | nonpos
  · exact toFloat64_mono_of_pos pos le
  rcases lt_or_le y 0 with neg | nonneg
  · have := toFloat64_mono_of_pos (neg_pos.2 neg) (neg_le_neg le)
    rwa [toFloat64_neg, toFloat64_neg, neg_le_neg_iff] at this
  · have := toFloat64_nonneg (neg_nonneg.2 nonpos)
    rw [toFloat64_neg] at this
    linarith [toFloat64_nonneg nonneg]

end Float64

namespace Duration

open Float64

/-- `time.Duration.Seconds`: the whole seconds, and the nanoseconds left divided by `1e9`, added
in `float64`.  Go's `/` and `%` truncate toward zero. -/
def seconds (d : Int) : ℚ :=
  let sec := d.tdiv 1000000000
  let nsec := d.tmod 1000000000
  toFloat64 (toFloat64 sec + toFloat64 (toFloat64 nsec / 1000000000))

theorem seconds_neg (d : Int) : seconds (-d) = -seconds d := by
  have nsec : (-d).tmod 1000000000 = -d.tmod 1000000000 := by
    have := Int.tmod_add_tdiv (-d) 1000000000
    have := Int.tmod_add_tdiv d 1000000000
    rw [Int.neg_tdiv] at *
    omega
  simp only [seconds, Int.neg_tdiv, nsec, Int.cast_neg, toFloat64_neg, neg_div, ← neg_add]

/-- For a non-negative `int64` duration Go's `/` and `%` are the Euclidean ones, and the whole
seconds and the nanoseconds convert exactly. -/
theorem seconds_of_nonneg {d : Int} (nonneg : 0 ≤ d) (int64 : d ≤ 2 ^ 63) :
    seconds d = toFloat64 ((d / 1000000000 : Int) +
      toFloat64 ((d % 1000000000 : Int) / 1000000000)) := by
  have secs := Int.tdiv_eq_ediv nonneg (by decide : (0 : Int) ≤ 1000000000)
  have nsecs := Int.tmod_eq_emod nonneg (by decide : (0 : Int) ≤ 1000000000)
  have s_small : |d / 1000000000| < 2 ^ 53 := by
    rw [abs_of_nonneg (Int.ediv_nonneg nonneg (by decide))]; omega
  have n_small : |d % 1000000000| < 2 ^ 53 := by
    rw [abs_of_nonneg (Int.emod_nonneg d (by decide))]; omega
  simp only [seconds, secs, nsecs, toFloat64_intCast s_small, toFloat64_intCast n_small]

/-- The seconds of a non-negative `int64` duration are within two roundings of their exact value:
the division of the nanoseconds and the addition each round. -/
theorem seconds_bounds {d : Int} (nonneg : 0 ≤ d) (int64 : d < 2 ^ 63) :
    (1 - 1 / 2 ^ 53) ^ 2 * ((d : ℚ) / 1000000000) ≤ seconds d ∧
      seconds d ≤ (1 + 1 / 2 ^ 53) ^ 2 * ((d : ℚ) / 1000000000) := by
  rw [seconds_of_nonneg nonneg int64.le]
  have split : (d : ℚ) = 1000000000 * (d / 1000000000 : Int) + (d % 1000000000 : Int) := by
    exact_mod_cast (Int.ediv_add_emod d 1000000000).symm
  have n_nonneg : (0 : ℚ) ≤ (d % 1000000000 : Int) := by
    exact_mod_cast Int.emod_nonneg d (by decide)
  have s_nonneg : (0 : ℚ) ≤ (d / 1000000000 : Int) := by
    exact_mod_cast Int.ediv_nonneg nonneg (by decide)
  obtain ⟨a_lo, a_hi⟩ := toFloat64_bounds (x := ((d % 1000000000 : Int) : ℚ) / 1000000000)
    (by positivity)
  obtain ⟨b_lo, b_hi⟩ := toFloat64_bounds (x := ((d / 1000000000 : Int) : ℚ) +
    toFloat64 (((d % 1000000000 : Int) : ℚ) / 1000000000)) (by linarith)
  constructor <;> linarith

theorem seconds_nonneg {d : Int} (nonneg : 0 ≤ d) : 0 ≤ seconds d := by
  have secs : (0 : ℚ) ≤ d.tdiv 1000000000 := by exact_mod_cast Int.tdiv_nonneg nonneg (by decide)
  have nsecs : (0 : ℚ) ≤ d.tmod 1000000000 := by exact_mod_cast Int.tmod_nonneg _ nonneg
  exact toFloat64_nonneg (add_nonneg (toFloat64_nonneg secs)
    (toFloat64_nonneg (div_nonneg (toFloat64_nonneg nsecs) (by norm_num))))

/-- `Seconds` is monotone on non-negative `int64` durations: within a second the nanoseconds
grow, and across seconds the rounded fraction of the earlier one stays at most one. -/
theorem seconds_mono_of_nonneg {d e : Int} (nonneg : 0 ≤ d) (le : d ≤ e) (int64 : e ≤ 2 ^ 63) :
    seconds d ≤ seconds e := by
  have second_pos : (0 : Int) < 1000000000 := by decide
  have fraction_le_one : toFloat64 (((d % 1000000000 : Int) : ℚ) / 1000000000) ≤ 1 := by
    have below : ((d % 1000000000 : Int) : ℚ) / 1000000000 ≤ (1 : Int) := by
      rw [div_le_iff₀ (by norm_num)]
      exact_mod_cast (by omega : d % 1000000000 ≤ 1 * 1000000000)
    exact (toFloat64_mono below).trans_eq (toFloat64_intCast (by decide))
  have fraction_nonneg : 0 ≤ toFloat64 (((e % 1000000000 : Int) : ℚ) / 1000000000) :=
    toFloat64_nonneg (div_nonneg (by exact_mod_cast Int.emod_nonneg e second_pos.ne')
      (by norm_num))
  rw [seconds_of_nonneg nonneg (le.trans int64), seconds_of_nonneg (nonneg.trans le) int64]
  apply toFloat64_mono
  rcases (Int.ediv_le_ediv second_pos le).eq_or_lt with same | later
  · have nsecs : ((d % 1000000000 : Int) : ℚ) ≤ (e % 1000000000 : Int) := by
      exact_mod_cast (by omega : d % 1000000000 ≤ e % 1000000000)
    rw [same]
    exact add_le_add_left (toFloat64_mono (div_le_div_of_nonneg_right nsecs (by norm_num))) _
  · have : ((d / 1000000000 : Int) : ℚ) + 1 ≤ (e / 1000000000 : Int) := by exact_mod_cast later
    linarith

/-- `Seconds` is monotone on `int64` durations. -/
theorem seconds_mono {d e : Int} (lo : -2 ^ 63 ≤ d) (le : d ≤ e) (hi : e ≤ 2 ^ 63) :
    seconds d ≤ seconds e := by
  rcases le_total 0 d with d_nonneg | d_nonpos
  · exact seconds_mono_of_nonneg d_nonneg le hi
  rcases le_total e 0 with e_nonpos | e_nonneg
  · have := seconds_mono_of_nonneg (neg_nonneg.2 e_nonpos) (neg_le_neg le) (by omega)
    rwa [seconds_neg, seconds_neg, neg_le_neg_iff] at this
  · have := seconds_nonneg (neg_nonneg.2 d_nonpos)
    rw [seconds_neg] at this
    linarith [seconds_nonneg e_nonneg]

end Duration

open Float64

/-- Go's conversion of a `float64` to an integer: the fraction is discarded, toward zero. -/
def truncate (x : ℚ) : ℤ := if 0 ≤ x then ⌊x⌋ else ⌈x⌉

theorem truncate_neg (x : ℚ) : truncate (-x) = -truncate x := by
  rcases lt_trichotomy x 0 with neg | rfl | pos
  · simp [truncate, neg.le, not_le.2 neg, Int.floor_neg]
  · simp [truncate]
  · simp [truncate, pos.le, not_le.2 (neg_lt_zero.2 pos), Int.ceil_neg]

theorem truncate_mono {x y : ℚ} (le : x ≤ y) : truncate x ≤ truncate y := by
  unfold truncate
  split_ifs with x_nonneg y_nonneg y_nonneg
  · exact Int.floor_mono le
  · exact absurd (x_nonneg.trans le) y_nonneg
  · exact (Int.ceil_le.2 (by push_cast; linarith)).trans (Int.floor_nonneg.2 y_nonneg)
  · exact Int.ceil_mono le

/-- `durationGoToMPEGTS`. -/
def durationGoToMPEGTS (v : Int) : Int := truncate (toFloat64 (Duration.seconds v * 90000))

/-- The conversion is odd, and a non-negative `int64` duration gives the exact tick count, one tick
less or one tick more; up to `2 ^ 48` ns it never gives more. -/
theorem durationGoToMPEGTS_bounds (v : Int) :
    durationGoToMPEGTS (-v) = -durationGoToMPEGTS v ∧
    (0 ≤ v → v < 2 ^ 63 → v * 90000 / 1000000000 - 1 ≤ durationGoToMPEGTS v ∧
      durationGoToMPEGTS v ≤ v * 90000 / 1000000000 + 1 ∧
      (v ≤ 2 ^ 48 → durationGoToMPEGTS v ≤ v * 90000 / 1000000000)) := by
  refine ⟨by simp only [durationGoToMPEGTS, Duration.seconds_neg, neg_mul, toFloat64_neg,
    truncate_neg], fun nonneg int64 => ?_⟩
  obtain ⟨sec_lo, sec_hi⟩ := Duration.seconds_bounds nonneg int64
  have v_nonneg : (0 : ℚ) ≤ v := by exact_mod_cast nonneg
  obtain ⟨c_lo, c_hi⟩ := toFloat64_bounds (x := Duration.seconds v * 90000) (by linarith)
  set c := toFloat64 (Duration.seconds v * 90000)
  have value : durationGoToMPEGTS v = ⌊c⌋ := if_pos (by linarith)
  set q := v * 90000 / 1000000000
  have q_lo : ((100000 * q : ℤ) : ℚ) ≤ (9 * v : ℤ) := by exact_mod_cast (by omega : 100000 * q ≤ 9 * v)
  have q_hi : ((9 * v : ℤ) : ℚ) ≤ (100000 * q + 99999 : ℤ) := by
    exact_mod_cast (by omega : 9 * v ≤ 100000 * q + 99999)
  have v_lt : (v : ℚ) < 2 ^ 63 := by exact_mod_cast int64
  push_cast at q_lo q_hi
  rw [value]
  refine ⟨Int.le_floor.2 (by push_cast; linarith), ?_, fun small => ?_⟩
  · exact Int.lt_add_one_iff.1 (Int.floor_lt.2 (by push_cast; linarith))
  · have v_le : (v : ℚ) ≤ 2 ^ 48 := by exact_mod_cast small
    exact Int.lt_add_one_iff.1 (Int.floor_lt.2 (by push_cast; linarith))

/-- The conversion of a duration, read off its three roundings. -/
theorem durationGoToMPEGTS_eq_floor {v sec nsec : Int} {a b c : ℚ}
    (secs : v.tdiv 1000000000 = sec) (nsecs : v.tmod 1000000000 = nsec)
    (sec_small : |sec| < 2 ^ 53) (nsec_small : |nsec| < 2 ^ 53)
    (fraction : toFloat64 ((nsec : ℚ) / 1000000000) = a) (sum : toFloat64 ((sec : ℚ) + a) = b)
    (product : toFloat64 (b * 90000) = c) (nonneg : 0 ≤ c) : durationGoToMPEGTS v = ⌊c⌋ := by
  simp only [durationGoToMPEGTS, Duration.seconds, secs, nsecs, toFloat64_intCast sec_small,
    toFloat64_intCast nsec_small, fraction, sum, product, truncate, if_pos nonneg]

/-- Both bounds are reached: at `0.3` ms the conversion gives 26 ticks where the exact count is 27,
and at `1142325.281311111` s it gives 102809275318 where the exact count is 102809275317. -/
theorem durationGoToMPEGTS_bounds_tight :
    durationGoToMPEGTS 300000 = 300000 * 90000 / 1000000000 - 1 ∧
      durationGoToMPEGTS 1142325281311111 = 1142325281311111 * 90000 / 1000000000 + 1 ∧
      ((0 : Int) ≤ 1142325281311111 ∧ (1142325281311111 : Int) < 2 ^ 63) ∧
      1142325281311111 * 90000 / 1000000000 - 1 ≤ durationGoToMPEGTS 1142325281311111 ∧
      durationGoToMPEGTS 1142325281311111 ≤ 1142325281311111 * 90000 / 1000000000 + 1 := by
  have lagging : durationGoToMPEGTS 300000 = 26 := by
    have a : toFloat64 (((300000 : Int) : ℚ) / 1000000000) = 5534023222112865 * 2 ^ (-64 : ℤ) :=
      toFloat64_eq (k := -12) (by norm_num [abs_of_pos]) (by norm_num [abs_of_pos]) (by norm_num)
        (by norm_num)
    have b : toFloat64 (((0 : Int) : ℚ) + 5534023222112865 * 2 ^ (-64 : ℤ)) =
        5534023222112865 * 2 ^ (-64 : ℤ) :=
      toFloat64_eq (k := -12) (by norm_num [abs_of_pos]) (by norm_num [abs_of_pos]) (by norm_num)
        (by norm_num)
    have c : toFloat64 (5534023222112865 * 2 ^ (-64 : ℤ) * 90000) =
        7599824371187711 * 2 ^ (-48 : ℤ) :=
      toFloat64_eq (k := 4) (by norm_num [abs_of_pos]) (by norm_num [abs_of_pos]) (by norm_num)
        (by norm_num)
    rw [durationGoToMPEGTS_eq_floor (v := 300000) (by decide) (by decide) (by decide) (by decide)
      a b c (by norm_num)]
    exact Int.floor_eq_iff.2 (by norm_num)
  have leading : durationGoToMPEGTS 1142325281311111 = 102809275318 := by
    have a : toFloat64 (((281311111 : Int) : ℚ) / 1000000000) =
        5067650458699121 * 2 ^ (-54 : ℤ) :=
      toFloat64_eq (k := -2) (by norm_num [abs_of_pos]) (by norm_num [abs_of_pos]) (by norm_num)
        (by norm_num)
    have b : toFloat64 (((1142325 : Int) : ℚ) + 5067650458699121 * 2 ^ (-54 : ℤ)) =
        4906249724625222 * 2 ^ (-32 : ℤ) :=
      toFloat64_eq (k := 20) (by norm_num [abs_of_pos]) (by norm_num [abs_of_pos]) (by norm_num)
        (by norm_num)
    have c : toFloat64 (4906249724625222 * 2 ^ (-32 : ℤ) * 90000) =
        6737708667240448 * 2 ^ (-16 : ℤ) :=
      toFloat64_eq (k := 36) (by norm_num [abs_of_pos]) (by norm_num [abs_of_pos]) (by norm_num)
        (by norm_num)
    rw [durationGoToMPEGTS_eq_floor (v := 1142325281311111) (by decide) (by decide) (by decide)
      (by decide) a b c (by norm_num)]
    exact Int.floor_eq_iff.2 (by norm_num)
  have bounds := (durationGoToMPEGTS_bounds 1142325281311111).2 (by decide) (by decide)
  exact ⟨by rw [lagging]; decide, by rw [leading]; decide, ⟨by decide, by decide⟩, bounds.1,
    bounds.2.1⟩

/-- The conversion keeps the order of `int64` durations: a DTS at most its PTS gives at most the
PTS's ticks, and growing DTSs give non-decreasing ticks. -/
theorem durationGoToMPEGTS_mono {v w : Int} (lo : -2 ^ 63 ≤ v) (le : v ≤ w) (hi : w < 2 ^ 63) :
    durationGoToMPEGTS v ≤ durationGoToMPEGTS w :=
  truncate_mono (toFloat64_mono
    (mul_le_mul_of_nonneg_right (Duration.seconds_mono lo le hi.le) (by norm_num)))

/-- A DTS of 0.27 ms before its PTS of 0.3 ms. -/
theorem durationGoToMPEGTS_mono_dts :
    (-2 ^ 63 ≤ (270000 : Int) ∧ (270000 : Int) ≤ 300000 ∧ (300000 : Int) < 2 ^ 63) ∧
      durationGoToMPEGTS 270000 ≤ durationGoToMPEGTS 300000 :=
  ⟨⟨by decide, by decide, by decide⟩, durationGoToMPEGTS_mono (by decide) (by decide) (by decide)⟩

end RtspSimpleServer
