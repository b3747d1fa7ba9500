import Autoresponder.Number.Double

/-!
# Order of doubles and the rounding of a difference

Comparison of doubles is a preorder once NaN is set aside, and rounding to the nearest double
never reverses an order: a larger exact value rounds to a double that is at least as large.
Together they give what a clock reading minus a fixed span does as the clock moves forward:
a double below the difference at one reading is below it at every later reading
(`lt_sub_of_le`), whatever the span, infinite or NaN included.
-/

namespace Autoresponder.Number.Double

/-! ### The order on the constructors -/

-- Each comparison of two constructors reduces by the definition of `le` and `lt`; these are the
-- goals a case split on the operands leaves, for `simp` to close.

@[simp] theorem finite_le_finite {a b : Int} : finite a ≤ finite b ↔ a ≤ b := decide_eq_true_iff

@[simp] theorem finite_lt_finite {a b : Int} : finite a < finite b ↔ a < b := decide_eq_true_iff

@[simp] theorem inf_le_inf {a b : Bool} : inf a ≤ inf b ↔ (a || !b) = true := by
  cases a <;> exact Iff.rfl

@[simp] theorem inf_lt_inf {a b : Bool} : inf a < inf b ↔ (a && !b) = true := by
  cases a <;> exact Iff.rfl

@[simp] theorem negInf_le_finite (x : Int) : inf true ≤ finite x := rfl

@[simp] theorem negInf_lt_finite (x : Int) : inf true < finite x := rfl

@[simp] theorem finite_le_posInf (x : Int) : finite x ≤ inf false := rfl

@[simp] theorem finite_lt_posInf (x : Int) : finite x < inf false := rfl

@[simp] theorem not_posInf_le_finite (x : Int) : ¬ inf false ≤ finite x := Bool.false_ne_true

@[simp] theorem not_posInf_lt_finite (x : Int) : ¬ inf false < finite x := Bool.false_ne_true

@[simp] theorem not_finite_le_negInf (x : Int) : ¬ finite x ≤ inf true := Bool.false_ne_true

@[simp] theorem not_finite_lt_negInf (x : Int) : ¬ finite x < inf true := Bool.false_ne_true

@[simp] theorem not_lt_nan (a : Double) : ¬ a < nan := by
  rcases a with _ | ⟨_ | _⟩ | _ <;> exact Bool.false_ne_true

@[simp] theorem not_nan_lt (a : Double) : ¬ nan < a := Bool.false_ne_true

@[simp] theorem not_le_nan (a : Double) : ¬ a ≤ nan := by
  rcases a with _ | ⟨_ | _⟩ | _ <;> exact Bool.false_ne_true

@[simp] theorem not_nan_le (a : Double) : ¬ nan ≤ a := Bool.false_ne_true

@[simp] theorem not_lt_negInf (a : Double) : ¬ a < inf true := by
  rcases a with _ | ⟨_ | _⟩ | _ <;> exact Bool.false_ne_true

@[simp] theorem not_posInf_lt (a : Double) : ¬ inf false < a := by
  rcases a with _ | ⟨_ | _⟩ | _ <;> exact Bool.false_ne_true

theorem le_posInf {a : Double} (h : a ≠ nan) : a ≤ inf false := by
  rcases a with _ | ⟨_ | _⟩ | _ <;> simp_all

theorem negInf_le {a : Double} (h : a ≠ nan) : inf true ≤ a := by
  rcases a with _ | ⟨_ | _⟩ | _ <;> simp_all

theorem le_trans {a b c : Double} (hab : a ≤ b) (hbc : b ≤ c) : a ≤ c := by
  rcases a with _ | ⟨_ | _⟩ | a <;> rcases b with _ | ⟨_ | _⟩ | b <;>
    rcases c with _ | ⟨_ | _⟩ | c <;> simp_all
  -- what is left compares three finite values
  omega

theorem lt_of_lt_of_le {a b c : Double} (hab : a < b) (hbc : b ≤ c) : a < c := by
  rcases a with _ | ⟨_ | _⟩ | a <;> rcases b with _ | ⟨_ | _⟩ | b <;>
    rcases c with _ | ⟨_ | _⟩ | c <;> simp_all
  omega

theorem lt_of_le_of_lt {a b c : Double} (hab : a ≤ b) (hbc : b < c) : a < c := by
  rcases a with _ | ⟨_ | _⟩ | a <;> rcases b with _ | ⟨_ | _⟩ | b <;>
    rcases c with _ | ⟨_ | _⟩ | c <;> simp_all
  omega

/-! ### Rounding to fifty-three bits is monotone -/

theorem roundDiv_cases (n unit : Nat) :
    (roundDiv n unit = n / unit ∧ 2 * (n % unit) ≤ unit) ∨
      (roundDiv n unit = n / unit + 1 ∧ unit ≤ 2 * (n % unit)) := by
  unfold roundDiv
  split
  · rename_i hup
    simp only [Bool.or_eq_true, decide_eq_true_eq, Bool.and_eq_true, beq_iff_eq] at hup
    exact .inr ⟨rfl, by omega⟩
  · rename_i hdown
    simp only [Bool.or_eq_true, decide_eq_true_eq, Bool.and_eq_true, beq_iff_eq] at hdown
    exact .inl ⟨rfl, by omega⟩

theorem div_le_roundDiv (n unit : Nat) : n / unit ≤ roundDiv n unit := by
  rcases roundDiv_cases n unit with ⟨h, -⟩ | ⟨h, -⟩ <;> omega

theorem roundDiv_le_succ (n unit : Nat) : roundDiv n unit ≤ n / unit + 1 := by
  rcases roundDiv_cases n unit with ⟨h, -⟩ | ⟨h, -⟩ <;> omega

/-- At a fixed spacing, a larger number rounds to a multiple at least as large: with the same
quotient the larger remainder is the one that rounds up. -/
theorem roundDiv_mono {a b unit : Nat} (hab : a ≤ b) :
    roundDiv a unit ≤ roundDiv b unit := by
  have hq : a / unit ≤ b / unit := Nat.div_le_div_right hab
  rcases Nat.lt_or_eq_of_le hq with hlt | heq
  · calc roundDiv a unit ≤ a / unit + 1 := roundDiv_le_succ a unit
      _ ≤ b / unit := hlt
      _ ≤ roundDiv b unit := div_le_roundDiv b unit
  · have ha := Nat.div_add_mod a unit
    have hb := Nat.div_add_mod b unit
    have hr : a % unit ≤ b % unit := by
      rw [heq] at ha
      omega
    unfold roundDiv
    rw [heq]
    split
    · rename_i hup
      simp only [Bool.or_eq_true, decide_eq_true_eq, Bool.and_eq_true, beq_iff_eq] at hup
      have hup' : unit < 2 * (b % unit) ∨ (2 * (b % unit) = unit ∧ b / unit % 2 = 1) := by
        omega
      simp [hup']
    · split <;> omega

/-- In a binade `[2^L, 2^(L+1))` from `2^53` up, the doubles are `2^(L-52)` apart, and
rounding stays within the binade's closure. -/
theorem roundSteps_binade {n : Nat} (hn : Nat.pow 2 53 ≤ n) :
    Nat.pow 2 n.log2 ≤ roundSteps n ∧ roundSteps n ≤ Nat.pow 2 (n.log2 + 1) := by
  have hn0 : n ≠ 0 := by
    intro h
    subst h
    exact absurd hn (by decide)
  have hlow : Nat.pow 2 n.log2 ≤ n := Nat.log2_self_le hn0
  have hhigh : n < Nat.pow 2 (n.log2 + 1) := Nat.lt_log2_self
  have hL : 53 ≤ n.log2 := (Nat.le_log2 hn0).mpr hn
  have hsplit : ∀ j, Nat.pow 2 (j + (n.log2 - 52)) = Nat.pow 2 j * Nat.pow 2 (n.log2 - 52) :=
    fun j => Nat.pow_add 2 j (n.log2 - 52)
  have hlogLow : Nat.pow 2 n.log2 = Nat.pow 2 52 * Nat.pow 2 (n.log2 - 52) := by
    rw [← hsplit]
    congr 1
    omega
  have hlogHigh : Nat.pow 2 (n.log2 + 1) = Nat.pow 2 53 * Nat.pow 2 (n.log2 - 52) := by
    rw [← hsplit]
    congr 1
    omega
  have hunit : 0 < Nat.pow 2 (n.log2 - 52) := Nat.two_pow_pos _
  -- the quotient by the spacing has exactly fifty-three bits
  have hqLow : Nat.pow 2 52 ≤ n / Nat.pow 2 (n.log2 - 52) :=
    (Nat.le_div_iff_mul_le hunit).mpr (hlogLow ▸ hlow)
  have hqHigh : n / Nat.pow 2 (n.log2 - 52) < Nat.pow 2 53 :=
    (Nat.div_lt_iff_lt_mul hunit).mpr (hlogHigh ▸ hhigh)
  have hnot : ¬ n < Nat.pow 2 53 := Nat.not_lt.mpr hn
  simp only [roundSteps, hnot, if_false]
  constructor
  · rw [hlogLow]
    exact Nat.mul_le_mul_right _ (Nat.le_trans hqLow (div_le_roundDiv _ _))
  · rw [hlogHigh]
    exact Nat.mul_le_mul_right _ (Nat.le_trans (roundDiv_le_succ _ _) hqHigh)

theorem roundSteps_mono {a b : Nat} (hab : a ≤ b) : roundSteps a ≤ roundSteps b := by
  by_cases hb : b < Nat.pow 2 53
  · have ha : a < Nat.pow 2 53 := Nat.lt_of_le_of_lt hab hb
    simp only [roundSteps, ha, hb, if_true]
    exact hab
  have h53 : 0 < Nat.pow 2 53 := Nat.two_pow_pos 53
  have hb' : Nat.pow 2 53 ≤ b := Nat.not_lt.mp hb
  have hbBinade := roundSteps_binade hb'
  have hb0 : b ≠ 0 := by omega
  have hbLog : 53 ≤ b.log2 := (Nat.le_log2 hb0).mpr hb'
  by_cases ha : a < Nat.pow 2 53
  · -- a small number is its own rounding, below the first rounded binade
    have hstep : Nat.pow 2 53 ≤ Nat.pow 2 b.log2 := Nat.pow_le_pow_right (by decide) hbLog
    have hsmall : roundSteps a = a := by simp [roundSteps, ha]
    omega
  have ha' : Nat.pow 2 53 ≤ a := Nat.not_lt.mp ha
  have haBinade := roundSteps_binade ha'
  have hlog : a.log2 ≤ b.log2 := by
    have ha0 : a ≠ 0 := by omega
    exact (Nat.le_log2 hb0).mpr (Nat.le_trans (Nat.log2_self_le ha0) hab)
  rcases Nat.lt_or_eq_of_le hlog with hlt | heq
  · -- different binades: the closure of the lower one ends where the higher one starts
    have hstep : Nat.pow 2 (a.log2 + 1) ≤ Nat.pow 2 b.log2 := Nat.pow_le_pow_right (by decide) hlt
    omega
  · simp only [roundSteps, ha, hb, if_false, heq]
    exact Nat.mul_le_mul_right _ (roundDiv_mono hab)

theorem ofSteps_ne_nan (x : Int) : ofSteps x ≠ nan := by
  unfold ofSteps
  by_cases hover : maxSteps < roundSteps x.natAbs <;> simp [hover]

/-- The double nearest an exact value is monotone in the value. -/
theorem ofSteps_mono {x y : Int} (hxy : x ≤ y) : ofSteps x ≤ ofSteps y := by
  by_cases hx : x < 0
  · by_cases hy : y < 0
    · -- both negative: the larger magnitude rounds to the larger magnitude
      have hr := roundSteps_mono (show y.natAbs ≤ x.natAbs by omega)
      unfold ofSteps
      simp only [hx, hy, decide_true, if_true]
      split
      · exact negInf_le (by split <;> simp)
      · split
        · omega
        · simp only [finite_le_finite]
          omega
    · -- a negative value rounds to at most zero, a non-negative one to at least zero
      have hy' : ¬ y < 0 := hy
      unfold ofSteps
      simp only [hx, hy', decide_true, decide_false, if_true, if_false]
      split
      · exact negInf_le (by split <;> simp)
      · split
        · exact le_posInf (by simp)
        · simp only [finite_le_finite]
          omega
  · have hy : ¬ y < 0 := by omega
    have hr := roundSteps_mono (show x.natAbs ≤ y.natAbs by omega)
    unfold ofSteps
    simp only [hx, hy, decide_false, if_false]
    split
    · split
      · simp
      · omega
    · split
      · exact le_posInf (by simp)
      · simp only [finite_le_finite]
        omega

/-! ### A clock reading minus a span -/

-- Subtraction on the constructors, by the definition of `sub`.

@[simp] theorem nan_sub (a : Double) : nan - a = nan := rfl

@[simp] theorem sub_nan (a : Double) : a - nan = nan := by
  cases a <;> rfl

@[simp] theorem inf_sub_inf (a b : Bool) : inf a - inf b = if a == b then nan else inf a := rfl

@[simp] theorem inf_sub_finite (a : Bool) (y : Int) : inf a - finite y = inf a := rfl

@[simp] theorem finite_sub_inf (x : Int) (b : Bool) : finite x - inf b = inf (!b) := rfl

@[simp] theorem finite_sub_finite (x y : Int) : finite x - finite y = ofSteps (x - y) := by
  -- unfolding `sub` before `ofSteps` keeps the largest double out of the unifier's way
  show sub (finite x) (finite y) = _
  rfl

/-- What is below `t - span` stays below it as `t` grows. -/
theorem lt_sub_of_le {x t t' span : Double} (hx : x < t - span) (ht : t ≤ t') :
    x < t' - span := by
  rcases span with _ | ⟨_ | _⟩ | u
  case nan => simp at hx
  case inf.false =>
    -- minus an infinity the difference is an infinity below everything, or NaN
    rcases t with _ | ⟨_ | _⟩ | a <;> simp at hx
  case inf.true =>
    rcases t with _ | ⟨_ | _⟩ | a <;> rcases t' with _ | ⟨_ | _⟩ | b <;> simp_all
  case finite =>
    rcases t with _ | ⟨_ | _⟩ | a <;> rcases t' with _ | ⟨_ | _⟩ | b <;> simp_all
    · exact lt_of_lt_of_le hx (le_posInf (ofSteps_ne_nan _))
    · exact lt_of_lt_of_le hx (ofSteps_mono (by omega))

end Autoresponder.Number.Double
