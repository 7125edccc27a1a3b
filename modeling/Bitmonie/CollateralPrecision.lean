import Bitmonie.CollateralWebhook
import Bitmonie.SignificantDigits

/-! The calculator on decimals of 20 significant digits. A loan's collateral comes from two
rounded quotients and a ceiling. Within the limits of a loan the ceiling is that of the exact
quotient: a quotient that is an integer has few digits, and any other one is further from
the integers around it than the two roundings move it. -/
namespace Bitmonie.CollateralPrecision
open FixedScale SignificantDigits CalculatorService

/-- The defaults of decimal.js: 20 digits, `ROUND_HALF_UP`. -/
def precision : Nat := 20

def div (x y : ℚ) : ℚ := toDigits precision (x / y)
def mul (x y : ℚ) : ℚ := toDigits precision (x * y)
def minus (x y : ℚ) : ℚ := toDigits precision (x - y)

/-- `CalculatorService.calculate` as it is computed; `ceil` is exact. -/
def calculate (input : CalculatorInput) : Except AppError CalculatorResult := do
  validate input
  let collateralNgn := div input.principalNgn loanLtvPercent
  let collateralAmountSat := ⌈div collateralNgn input.satNgnRate⌉.toNat
  let originationUnits : ℚ := ⌈div input.principalNgn hundredKNgn⌉
  let originationFeeNgn := mul originationUnits originationFeePer100kNgn
  return {
    principalNgn := input.principalNgn
    originationFeeNgn := originationFeeNgn
    dailyCustodyFeeNgn := 0
    dailyInterestRateBps := dailyInterestRateBps
    dailyInterestNgn := div (mul input.principalNgn dailyInterestRateBps) bpsDenominator
    collateralAmountSat := collateralAmountSat
    initialCollateralUsd := mul (div collateralAmountSat satsPerBtc) input.btcUsdRate
    ltvPercent := loanLtvPercent
    satNgnRateAtCreation := input.satNgnRate
    amountToReceiveNgn := minus input.principalNgn originationFeeNgn
    initialLiquidationRateNgn := div (mul input.principalNgn liquidationThreshold) collateralAmountSat
    initialAlertRateNgn := div (mul input.principalNgn alertThreshold) collateralAmountSat }

section Quotient
variable {principal rate : ℚ}

/-- The collateral in satoshis before the ceiling, exactly. -/
def exactSat (principal rate : ℚ) : ℚ := principal / loanLtvPercent / rate

/-- And with both quotients rounded. -/
def roundedSat (principal rate : ℚ) : ℚ := div (div principal loanLtvPercent) rate

theorem roundedSat_error (principal_pos : 0 < principal) (rate_pos : 0 < rate) :
    |roundedSat principal rate - exactSat principal rate| ≤ exactSat principal rate * (11 / 10 ^ 20) := by
  have value_pos : 0 < principal / loanLtvPercent := by
    rw [loanLtvPercent]
    positivity
  have first := toDigits_error precision value_pos
  have nonneg : (0 : ℚ) ≤ 10 ^ (1 - (precision : Int)) / 2 := by rw [precision]; norm_num
  have near_pos : 0 < div principal loanLtvPercent :=
    pos_of_near value_pos (by rw [precision]; norm_num) first
  have second := toDigits_error precision (div_pos near_pos rate_pos)
  have error := div_error rate_pos nonneg first second
  refine error.trans (mul_le_mul_of_nonneg_left ?_ (div_pos value_pos rate_pos).le)
  rw [precision]
  norm_num

/-- In hundredths of a naira and millionths of a naira per satoshi. -/
theorem exactSat_fraction {hundredths millionths : Int} (rate_pos : 0 < rate)
    (principal_units : principal * 100 = hundredths) (rate_units : rate * 10 ^ 6 = millionths) :
    exactSat principal rate * (3 * millionths : Int) = 50000 * hundredths := by
  push_cast
  rw [exactSat, loanLtvPercent, ← rate_units, ← principal_units]
  field_simp
  ring

theorem exactSat_pos (principal_pos : 0 < principal) (rate_pos : 0 < rate) :
    0 < exactSat principal rate := by
  rw [exactSat, loanLtvPercent]
  positivity

/-- A quotient that is an integer makes the principal a multiple of three hundredths, and then
neither quotient is rounded. -/
theorem roundedSat_eq_of_whole {hundredths millionths : Int} (principal_pos : 0 < principal)
    (rate_pos : 0 < rate) (most : principal ≤ maxSelfserveLoanNgn)
    (principal_units : principal * 100 = hundredths) (rate_units : rate * 10 ^ 6 = millionths)
    (least : 1 ≤ millionths) (whole : (⌈exactSat principal rate⌉ : ℚ) = exactSat principal rate) :
    roundedSat principal rate = exactSat principal rate := by
  have fraction := exactSat_fraction rate_pos principal_units rate_units
  have bound : (hundredths : ℚ) ≤ 10 ^ 9 := by
    rw [maxSelfserveLoanNgn] at most
    linarith
  have few : exactSat principal rate < 10 ^ 20 := by
    have one : exactSat principal rate * 1 ≤ exactSat principal rate * (3 * millionths : Int) :=
      mul_le_mul_of_nonneg_left (by exact_mod_cast (by omega : (1 : Int) ≤ 3 * millionths))
        (exactSat_pos principal_pos rate_pos).le
    linarith
  have value : div principal loanLtvPercent = principal / loanLtvPercent := by
    have units : ⌈exactSat principal rate⌉ * (3 * millionths) = 50000 * hundredths := by
      rw [← whole] at fraction
      exact_mod_cast fraction
    have divides : (3 : Int) ∣ 50000 * hundredths :=
      ⟨⌈exactSat principal rate⌉ * millionths, by rw [← units]; ring⟩
    obtain ⟨thirds, rfl⟩ := Int.dvd_of_dvd_mul_right_of_gcd_one divides (by decide)
    push_cast at principal_units bound
    apply toDigits_eq_self 2
    · rw [loanLtvPercent]
      positivity
    · refine ⟨5 * thirds, ?_⟩
      rw [loanLtvPercent]
      push_cast
      linarith
    · rw [loanLtvPercent, precision]
      norm_num
      linarith
  rw [roundedSat, value]
  apply toDigits_eq_self 0 (exactSat_pos principal_pos rate_pos)
  · exact ⟨⌈exactSat principal rate⌉, by rw [whole, pow_zero, mul_one, exactSat]⟩
  · exact_mod_cast few

/-- The ceiling of the rounded quotient is that of the exact one. -/
theorem ceil_roundedSat (principal_pos : 0 < principal) (most : principal ≤ maxSelfserveLoanNgn)
    (kobo : OnScale 100 principal) (rate_pos : 0 < rate) (places : OnScale (10 ^ 6) rate) :
    ⌈roundedSat principal rate⌉ = ⌈exactSat principal rate⌉ := by
  obtain ⟨hundredths, principal_units⟩ := kobo
  obtain ⟨millionths, rate_units⟩ := places
  have least : 1 ≤ millionths := by
    have pos : (0 : ℚ) < millionths := rate_units ▸ mul_pos rate_pos (by norm_num)
    exact_mod_cast pos
  by_cases whole : (⌈exactSat principal rate⌉ : ℚ) = exactSat principal rate
  · rw [roundedSat_eq_of_whole principal_pos rate_pos most principal_units rate_units least whole]
  · have fraction := exactSat_fraction rate_pos principal_units rate_units
    have parts : 0 < 3 * millionths := by omega
    obtain ⟨above, below⟩ := fraction_gap parts ⟨50000 * hundredths, by exact_mod_cast fraction⟩ whole
    refine ceil_eq_of_near ((roundedSat_error principal_pos rate_pos).trans_lt ?_) above below
    -- In all of its parts the quotient is 5 * 10 ^ 13 at most.
    rw [lt_div_iff₀ (by exact_mod_cast parts), mul_right_comm, fraction, ← principal_units]
    rw [maxSelfserveLoanNgn] at most
    linarith

end Quotient

theorem validate_ok {input : CalculatorInput} (least : minLoanNgn ≤ input.principalNgn)
    (most : input.principalNgn ≤ maxSelfserveLoanNgn) (rate_pos : 0 < input.satNgnRate)
    (quoted : 0 < input.btcUsdRate) : validate input = .ok () := by
  simp [validate, not_le.mpr rate_pos, not_le.mpr quoted, not_lt.mpr least, not_lt.mpr most]

theorem calculate_ok {input : CalculatorInput} {quote : CalculatorResult}
    (done : calculate input = .ok quote) :
    quote.collateralAmountSat = ⌈roundedSat input.principalNgn input.satNgnRate⌉.toNat := by
  obtain ⟨_, _, ended⟩ := bind_ok.mp done
  obtain rfl := Except.ok.inj ended
  rfl

/-- Within the limits of a loan the calculator answers, if Bitcoin has a price, and the
collateral that it asks for is the least that covers the principal at the LTV. -/
theorem collateral_least {input : CalculatorInput} (least : minLoanNgn ≤ input.principalNgn)
    (most : input.principalNgn ≤ maxSelfserveLoanNgn) (kobo : OnScale 100 input.principalNgn)
    (rate_pos : 0 < input.satNgnRate) (places : OnScale (10 ^ 6) input.satNgnRate) :
    (0 < input.btcUsdRate → ∃ quote, calculate input = .ok quote) ∧
    ∀ quote, calculate input = .ok quote →
      IsLeast {n : Int | input.principalNgn ≤ n * input.satNgnRate * loanLtvPercent}
        (quote.collateralAmountSat : Int) := by
  constructor
  · intro quoted
    exact ⟨_, by rw [calculate, validate_ok least most rate_pos quoted]; rfl⟩
  · intro quote done
    have principal_pos : 0 < input.principalNgn := lt_of_lt_of_le (by norm_num [minLoanNgn]) least
    have pos := exactSat_pos principal_pos rate_pos
    have ltv : (0 : ℚ) < loanLtvPercent := by norm_num [loanLtvPercent]
    have covers : {n : Int | input.principalNgn ≤ n * input.satNgnRate * loanLtvPercent} =
        {n : Int | exactSat input.principalNgn input.satNgnRate ≤ n} := by
      ext n
      simp only [Set.mem_ofPred_eq, exactSat, div_le_iff₀ rate_pos, div_le_iff₀ ltv]
    rw [covers, calculate_ok done, ceil_roundedSat principal_pos most kobo rate_pos places,
      Int.toNat_of_nonneg (Int.ceil_nonneg pos.le)]
    constructor
    · rw [Set.mem_ofPred_eq]
      exact Int.le_ceil _
    · intro n enough
      rw [Set.mem_ofPred_eq] at enough
      exact Int.ceil_le.mpr enough

def sampleInput : CalculatorInput := ⟨100000.01, 0.412345, 97000⟩

theorem collateral_least_sample : ∃ quote, calculate sampleInput = .ok quote ∧
    IsLeast {n : Int | sampleInput.principalNgn ≤ n * sampleInput.satNgnRate * loanLtvPercent}
      (quote.collateralAmountSat : Int) := by
  obtain ⟨answers, tight⟩ := @collateral_least sampleInput (by norm_num [sampleInput, minLoanNgn])
    (by norm_num [sampleInput, maxSelfserveLoanNgn]) ⟨10000001, by norm_num [sampleInput]⟩
    (by norm_num [sampleInput]) ⟨412345, by norm_num [sampleInput]⟩
  obtain ⟨quote, done⟩ := answers (by norm_num [sampleInput])
  exact ⟨quote, done, tight quote done⟩

end Bitmonie.CollateralPrecision
