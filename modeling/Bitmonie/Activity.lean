import Bitmonie.Service
import Bitmonie.Paging

/-! The activity feed of a customer: loan events and unmatched inflows, merged and paged. -/
namespace Bitmonie.ActivityService

inductive ActivityType where
  | loanCreated | collateralReceived | collateralToppedUp | loanDisbursed | repaymentReceived
  | loanRepaid | collateralReleased | loanLiquidated | loanExpired | loanCancelled
  | inflowReceivedUnmatched
  deriving DecidableEq, Repr

/-- The two reasons of a liquidation that are left out repeat or undo one that is shown. -/
def reasonToType : LoanReasonCode → Option ActivityType
  | .loanCreated => some .loanCreated
  | .collateralConfirmed => some .collateralReceived
  | .collateralToppedUp => some .collateralToppedUp
  | .disbursementConfirmed => some .loanDisbursed
  | .repaymentPartialNgn => some .repaymentReceived
  | .repaymentCompleted => some .loanRepaid
  | .collateralReleased => some .collateralReleased
  | .liquidationTriggered => some .loanLiquidated
  | .invoiceExpired => some .loanExpired
  | .customerCancelled => some .loanCancelled
  | .liquidationCompleted | .liquidationReversedBadRate => none

def untrustedUnmatchedReasons : List UnmatchedReason :=
  [.requeryMismatch, .requeryUnconfirmed, .creditFailed]

inductive Source where
  | log | inflow
  deriving DecidableEq, Repr

/-- The key that both queries are ordered by, with the time in milliseconds. Ids are texts
of one length, so they are compared as numbers. -/
structure RowKey where
  createdAt : Int
  id : Nat
  deriving DecidableEq

/-- The loan of a log row, with the provider and the number of its account. -/
structure IncludedLoan where
  id : String
  principalNgn : ℚ
  collateralAmountSat : Int
  disbursementAccount : Option (String × String)
  deriving DecidableEq

/-- The entries of `metadata` that the feed reads, as `readBigInt` and `readDecimal` give
them. -/
structure ActivityMetadata where
  amountSat : Option Int := none
  topUpSat : Option Int := none
  appliedToPrincipal : Option ℚ := none
  appliedToInterest : Option ℚ := none
  appliedToCustody : Option ℚ := none
  deriving DecidableEq

structure LogRow where
  key : RowKey
  userId : Nat
  reasonCode : LoanReasonCode
  metadata : ActivityMetadata := {}
  loan : Option IncludedLoan
  deriving DecidableEq

structure InflowRow where
  key : RowKey
  inflow : Inflow
  deriving DecidableEq

/-- The two tables. No two rows of one have the same id. -/
structure Tables where
  logs : List LogRow
  inflows : List InflowRow
  logIds : (logs.map fun row => row.key.id).Nodup
  inflowIds : (inflows.map fun row => row.key.id).Nodup

/-- Digits from the right, with a comma before each further group of three. -/
def groupDigits : List Char → List Char
  | a :: b :: c :: d :: rest => a :: b :: c :: ',' :: groupDigits (d :: rest)
  | short => short

def toLocaleString (n : Int) : String :=
  (if n < 0 then "-" else "") ++
    String.ofList (groupDigits (toString n.natAbs).toList.reverse).reverse

def formatNgn (amount : ℚ) : String := "₦" ++ toLocaleString ⌈amount⌉

def formatSat (amountSat : Int) : String := toLocaleString amountSat

def maskAccount (accountUnique : String) : String :=
  if accountUnique.length ≤ 4 then "****" ++ accountUnique
  else "****" ++ String.ofList (accountUnique.toList.drop (accountUnique.length - 4))

def sumApplied (metadata : ActivityMetadata) : Option ℚ :=
  if metadata.appliedToPrincipal.isNone && metadata.appliedToInterest.isNone &&
      metadata.appliedToCustody.isNone then none
  else some (metadata.appliedToPrincipal.getD 0 + metadata.appliedToInterest.getD 0 +
    metadata.appliedToCustody.getD 0)

/-- `id` is the text `source:row_id`. -/
structure ActivityItem where
  source : Source
  rowId : Nat
  occurredAt : Int
  type : ActivityType
  title : String
  subtitle : Option String := none
  amountNgn : Option String := none
  amountSat : Option String := none
  loanId : Option String := none
  link : Option String := none
  deriving DecidableEq

def ActivityType.name : ActivityType → String
  | .loanCreated => "LOAN_CREATED"
  | .collateralReceived => "COLLATERAL_RECEIVED"
  | .collateralToppedUp => "COLLATERAL_TOPPED_UP"
  | .loanDisbursed => "LOAN_DISBURSED"
  | .repaymentReceived => "REPAYMENT_RECEIVED"
  | .loanRepaid => "LOAN_REPAID"
  | .collateralReleased => "COLLATERAL_RELEASED"
  | .loanLiquidated => "LOAN_LIQUIDATED"
  | .loanExpired => "LOAN_EXPIRED"
  | .loanCancelled => "LOAN_CANCELLED"
  | .inflowReceivedUnmatched => "INFLOW_RECEIVED_UNMATCHED"

structure Wording where
  title : String
  subtitle : Option String := none
  amountNgn : Option String := none
  amountSat : Option String := none

def logWording (row : LogRow) (type : ActivityType) : Wording :=
  let loanShort := row.loan.map fun loan => String.ofList (loan.id.toList.take 8)
  let ofLoan (rest none : String) :=
    (loanShort.map fun short => "Loan #" ++ short ++ rest).getD none
  let loanLine := loanShort.map fun short => "Loan #" ++ short
  let principal := row.loan.map IncludedLoan.principalNgn
  let collateral := row.loan.map IncludedLoan.collateralAmountSat
  match type with
  | .loanCreated =>
      { title := (principal.map fun p => formatNgn p ++ " loan started").getD "Loan started"
        subtitle := some "Awaiting collateral"
        amountNgn := principal.map fun p => displayNgn p .ceil }
  | .collateralReceived =>
      { title := (collateral.map fun sat => formatSat sat ++ " SAT collateral received").getD
          "Collateral received"
        subtitle := loanLine
        amountSat := collateral.map toString }
  | .collateralToppedUp =>
      let topUpSat := row.metadata.amountSat <|> row.metadata.topUpSat
      -- an amount of zero is shown, but not named in the title
      { title := ((topUpSat.filter (· ≠ 0)).map fun sat =>
          formatSat sat ++ " SAT added to collateral").getD "Collateral topped up"
        subtitle := loanLine
        amountSat := topUpSat.map toString }
  | .loanDisbursed =>
      let destination := ((row.loan.bind IncludedLoan.disbursementAccount).map fun account =>
        " to " ++ account.1 ++ " " ++ maskAccount account.2).getD ""
      { title := (principal.map fun p => formatNgn p ++ " sent" ++ destination).getD
          "Loan disbursed"
        subtitle := loanLine
        amountNgn := principal.map fun p => displayNgn p .floor }
  | .repaymentReceived =>
      let applied := sumApplied row.metadata
      { title := (applied.map fun a => formatNgn a ++ " repayment received").getD
          "Repayment received"
        subtitle := some (ofLoan " — partial repayment" "Partial repayment")
        amountNgn := applied.map fun a => displayNgn a .ceil }
  | .loanRepaid =>
      let applied := sumApplied row.metadata
      { title := ofLoan " fully repaid" "Loan fully repaid"
        subtitle := applied.map fun a => "Final payment " ++ formatNgn a
        amountNgn := applied.map fun a => displayNgn a .ceil }
  | .collateralReleased =>
      { title := (collateral.map fun sat => formatSat sat ++ " SAT returned").getD
          "Collateral returned"
        subtitle := some "Sent to your address"
        amountSat := collateral.map toString }
  | .loanLiquidated =>
      { title := ofLoan " liquidated" "Loan liquidated"
        subtitle := some "Collateral seized to cover outstanding" }
  | .loanExpired =>
      { title := ofLoan " expired" "Loan expired"
        subtitle := some "Collateral wasn't paid in time" }
  | .loanCancelled =>
      { title := ofLoan " cancelled" "Loan cancelled"
        subtitle := some "Cancelled by you" }
  | .inflowReceivedUnmatched => { title := type.name }

def buildLogItem (row : LogRow) (type : ActivityType) : ActivityItem :=
  let wording := logWording row type
  let loanId := row.loan.map IncludedLoan.id
  { source := .log
    rowId := row.key.id
    occurredAt := row.key.createdAt
    type := type
    title := wording.title
    subtitle := wording.subtitle
    amountNgn := wording.amountNgn
    amountSat := wording.amountSat
    loanId := loanId
    link := loanId.map fun id => "/loans/" ++ id }

def buildInflowItem (row : InflowRow) : ActivityItem :=
  { source := .inflow
    rowId := row.key.id
    occurredAt := row.key.createdAt
    type := .inflowReceivedUnmatched
    title := formatNgn row.inflow.amount ++ " received — needs matching"
    subtitle := some "Tap to apply to a loan"
    amountNgn := some (displayNgn row.inflow.amount .ceil)
    link := some "/inflows" }

/-- The three parts of `occurred_at|source|id`, the text of a cursor. -/
structure Cursor where
  occurredAt : Int
  source : Source
  id : Nat
  deriving DecidableEq

def encodeCursorFromItem (item : ActivityItem) : Cursor :=
  ⟨item.occurredAt, item.source, item.rowId⟩

/-- The filter that a cursor adds to both queries. Its source is not looked at. -/
def cursorOr : Option Cursor → RowKey → Bool
  | none, _ => true
  | some cursor, key => key.createdAt < cursor.occurredAt ||
      (key.createdAt == cursor.occurredAt && key.id < cursor.id)

/-- `orderBy: [{ created_at: 'desc' }, { id: 'desc' }]` -/
def newestFirst (a b : RowKey) : Bool :=
  b.createdAt < a.createdAt || (b.createdAt == a.createdAt && b.id ≤ a.id)

def logWhere (userId : Nat) (row : LogRow) : Bool :=
  row.userId == userId && (reasonToType row.reasonCode).isSome

def inflowWhere (userId : Nat) (row : InflowRow) : Bool :=
  row.inflow.userId == some userId && row.inflow.currency == .ngn &&
    !row.inflow.isMatched && row.inflow.sourceType.isNone

/-- The first `take` of the rows that a filter leaves after a cursor. -/
def findMany {Row : Type} (key : Row → RowKey) (kept : Row → Bool) (cursor : Option Cursor)
    (take : Nat) (rows : List Row) : List Row :=
  ((rows.filter fun row => kept row && cursorOr cursor (key row)).mergeSort
    fun a b => newestFirst (key a) (key b)).take take

def trusted (row : InflowRow) : Bool :=
  match row.inflow.unmatchedReason with
  | none => true
  | some reason => !untrustedUnmatchedReasons.contains reason

def logItem (row : LogRow) : Option ActivityItem :=
  (reasonToType row.reasonCode).map (buildLogItem row)

/-- A later item stands first. At one time the log comes before the inflows, as its prefix
sorts after theirs, and then the larger id. -/
def Cursor.ahead (a b : Cursor) : Bool :=
  b.occurredAt < a.occurredAt || (b.occurredAt == a.occurredAt &&
    ((a.source == .log && b.source == .inflow) || (a.source == b.source && b.id < a.id)))

/-- The comparison that the items are merged by. -/
def feedOrder (a b : ActivityItem) : Bool :=
  !(encodeCursorFromItem b).ahead (encodeCursorFromItem a)

structure ActivityPage where
  items : List ActivityItem
  nextCursor : Option Cursor
  deriving DecidableEq

def getPage (tables : Tables) (userId : Nat) (cursor : Option Cursor) (limit : Nat) :
    ActivityPage :=
  let logRows := findMany LogRow.key (logWhere userId) cursor limit tables.logs
  let inflowRows := findMany InflowRow.key (inflowWhere userId) cursor limit tables.inflows
  let logItems := logRows.filterMap logItem
  let inflowItems := (inflowRows.filter trusted).map buildInflowItem
  let merged := (logItems ++ inflowItems).mergeSort feedOrder
  let page := merged.take limit
  let hasMore := decide (limit < merged.length) || logRows.length == limit ||
    inflowRows.length == limit
  { items := page
    nextCursor := if hasMore then page.getLast?.map encodeCursorFromItem else none }

@[simp] theorem encode_buildLogItem (row : LogRow) (type : ActivityType) :
    encodeCursorFromItem (buildLogItem row type) = ⟨row.key.createdAt, .log, row.key.id⟩ := rfl

@[simp] theorem encode_buildInflowItem (row : InflowRow) :
    encodeCursorFromItem (buildInflowItem row) = ⟨row.key.createdAt, .inflow, row.key.id⟩ := rfl

theorem newestFirst_iff {a b : RowKey} : newestFirst a b = true ↔
    b.createdAt < a.createdAt ∨ (b.createdAt = a.createdAt ∧ b.id ≤ a.id) := by
  simp [newestFirst]

theorem cursorOr_iff {cursor : Cursor} {key : RowKey} : cursorOr (some cursor) key = true ↔
    key.createdAt < cursor.occurredAt ∨
      (key.createdAt = cursor.occurredAt ∧ key.id < cursor.id) := by
  simp [cursorOr]

theorem Cursor.ahead_iff {a b : Cursor} : a.ahead b = true ↔
    b.occurredAt < a.occurredAt ∨ (b.occurredAt = a.occurredAt ∧
      ((a.source = .log ∧ b.source = .inflow) ∨ (a.source = b.source ∧ b.id < a.id))) := by
  simp [Cursor.ahead]

theorem feedOrder_iff {a b : ActivityItem} : feedOrder a b = true ↔
    ¬(encodeCursorFromItem b).ahead (encodeCursorFromItem a) = true := by
  simp [feedOrder]

theorem newestFirst_laws {Row : Type} (key : Row → RowKey) :
    Paging.Ordering fun a b => newestFirst (key a) (key b) where
  trans a b c := by
    simp only [newestFirst_iff]
    omega
  total a b := by
    simp only [Bool.or_eq_true, newestFirst_iff]
    omega

theorem Cursor.ahead_trans {a b c : Cursor} (first : ¬b.ahead a = true)
    (second : ¬c.ahead b = true) : ¬c.ahead a = true := by
  obtain ⟨ta, sa, ia⟩ := a
  obtain ⟨tb, sb, ib⟩ := b
  obtain ⟨tc, sc, ic⟩ := c
  rw [Cursor.ahead_iff] at *
  cases sa <;> cases sb <;> cases sc <;> simp at * <;> omega

theorem Cursor.ahead_total (a b : Cursor) : ¬b.ahead a = true ∨ ¬a.ahead b = true := by
  rw [Cursor.ahead_iff, Cursor.ahead_iff]
  cases a.source <;> cases b.source <;> simp <;> omega

theorem Cursor.ahead_antisymm {a b : Cursor} (first : ¬b.ahead a = true)
    (second : ¬a.ahead b = true) : a = b := by
  rw [Cursor.ahead_iff] at *
  obtain ⟨time, source, id⟩ := a
  obtain ⟨time', source', id'⟩ := b
  cases source <;> cases source' <;> simp at * <;> omega

theorem Cursor.not_ahead_self (a : Cursor) : ¬a.ahead a = true := by
  simpa using Cursor.ahead_total a a

theorem feedOrder_laws : Paging.Ordering feedOrder where
  trans a b c := by
    simp only [feedOrder_iff]
    exact Cursor.ahead_trans
  total a b := by
    simpa only [Bool.or_eq_true, feedOrder_iff] using Cursor.ahead_total _ _

end Bitmonie.ActivityService
