import Bitmonie.SharedClock
import Bitmonie.Service

/-! The price feed: a worker that polls the provider, writes what it fetched to the
database and to a cache, and flags a feed that is down; and the readers of the current rate.
The flag is the text of an instant, and a key of the cache that of two rates with six
decimals; both are kept as numbers. Instants are in milliseconds. -/
namespace Bitmonie.PriceFeed
open Expiring

def rateMarkupPercent : ℚ := 5 / 1000
def priceFeedStaleMs : Int := 1200000
def priceCacheTtlSec : Int := 600
def staleAlertThresholdMs : Int := 15 * 60 * 1000

inductive AssetPair where
  | satNgn | btcNgn | usdtNgn | usdcNgn
  deriving DecidableEq, Repr

structure Ticker where
  buy : ℚ
  sell : ℚ
  deriving DecidableEq

structure Tickers where
  btcngn : Ticker
  usdtngn : Ticker
  deriving DecidableEq

structure RateResult where
  pair : AssetPair
  rateBuy : ℚ
  rateSell : ℚ
  fetchedAt : Int
  deriving DecidableEq

/-- What customers pay is what the market asks. -/
def rateResults (tickers : Tickers) (fetchedAt : Int) : List RateResult :=
  [⟨.btcNgn, tickers.btcngn.sell, tickers.btcngn.buy, fetchedAt⟩,
    ⟨.satNgn, tickers.btcngn.sell / satsPerBtc, tickers.btcngn.buy / satsPerBtc, fetchedAt⟩,
    ⟨.usdtNgn, tickers.usdtngn.sell, tickers.usdtngn.buy, fetchedAt⟩]

structure CurrentRate where
  rateBuy : ℚ
  rateSell : ℚ
  deriving DecidableEq

/-- The columns have six decimals, and four for the markup. `cycle` is auxiliary. -/
structure PriceFeedRow where
  pair : AssetPair
  rateBuyOrigin : ℚ
  rateSellOrigin : ℚ
  rateBuy : ℚ
  rateSell : ℚ
  markupPercent : ℚ
  fetchedAt : Int
  cycle : Nat
  deriving DecidableEq

/-- `toFixed(6)`, and a column with six decimals. -/
def sixDecimals (rate : ℚ) : ℚ := FixedScale.atScale 1000000 rate

def priceRow (cycle : Nat) (rate : RateResult) : PriceFeedRow where
  pair := rate.pair
  rateBuyOrigin := sixDecimals rate.rateBuy
  rateSellOrigin := sixDecimals rate.rateSell
  rateBuy := sixDecimals (rate.rateBuy * (1 + rateMarkupPercent))
  rateSell := sixDecimals (rate.rateSell * (1 - rateMarkupPercent))
  markupPercent := FixedScale.atScale 10000 rateMarkupPercent
  fetchedAt := rate.fetchedAt
  cycle := cycle

/-- `price:{pair}`. The cycle that set it and the time of its fetch are auxiliary. -/
structure CachedRate where
  rate : CurrentRate
  cycle : Nat
  fetchedAt : Int
  deriving DecidableEq

/-- The cache holds the rates as they were fetched. -/
def cachedRate (cycle : Nat) (rate : RateResult) : CachedRate :=
  ⟨⟨sixDecimals rate.rateBuy, sixDecimals rate.rateSell⟩, cycle, rate.fetchedAt⟩

/-- Where the worker is in its cycle. -/
inductive Phase where
  | idle
  | writing (tid : Nat)
  | failing (tid : Nat)
  deriving DecidableEq

/-- A read that was answered. `since` is the length of the journal when it began, `source` the
cycle that set the cache it was served from, `age` the time since the fetch of its rate, and
`phase` where the worker was. -/
structure ServedRate where
  pair : AssetPair
  since : Nat
  source : Option Nat
  rate : CurrentRate
  age : Int
  phase : Phase
  deriving DecidableEq

/-- What became of a read, and what a cycle wrote. -/
inductive JournalEntry where
  | rejected (pair : AssetPair)
  | served (read : ServedRate)
  | wrote
  | succeeded
  deriving DecidableEq

/-- Rows, Redis keys and the memory of the worker. `inFlight` are the rows that were still
being created when another one of their fetch failed. The last group is auxiliary. -/
structure Feed where
  now : Int
  rows : List PriceFeedRow := []
  cache : Keys AssetPair CachedRate := fun _ => none
  /-- `price:stale` -/
  staleFlag : Option Int := none
  /-- `worker:price_feed:last_run` -/
  lastRun : Option Int := none
  staleSince : Option Int := none
  consecutiveFailures : Nat := 0
  inFlight : List (Nat × RateResult) := []
  fetches : List (Tickers × Int) := []
  phase : Phase := .idle
  journal : List JournalEntry := []

instance : Clocked Feed where
  now s := s.now
  tick elapsed s := { s with now := s.now + elapsed }
  now_tick _ _ := rfl

/-- The answer of the provider, if there is one that can be read. -/
structure FeedReply where
  tickers : Option Tickers := none
  text : String := ""

inductive FeedAccess where
  | fetchRates
  | createRow (fetchedAt : Int)
  | finishRow
  | setCache (fetchedAt : Int)
  | delStale
  | cycleSuccess
  | cycleFailure
  | setStale
  | setLastRun
  | getStale (pair : AssetPair)
  | getCache (pair : AssetPair)
  | getLatestRate (pair : AssetPair)
  deriving DecidableEq

abbrev FeedAction := Proc Feed (Reply FeedReply) FeedAccess AppError

namespace PriceFeedWorker

structure Fetched where
  cycle : Nat
  rates : List RateResult

def fetchRates (tid : Nat) : FeedAction Fetched :=
  .access .fetchRates (fun _ => true) fun i s =>
    let s := Clocked.tick i.elapsed s
    match (if i.fails || i.lost then none else i.data.tickers) with
    | none => (.error (.failure i.data.text), { s with phase := .failing tid })
    | some tickers => (.ok ⟨s.fetches.length, rateResults tickers s.now⟩,
        { s with fetches := s.fetches ++ [(tickers, s.now)], phase := .writing tid })

def addRow (cycle : Nat) (rate : RateResult) (s : Feed) : Feed :=
  { s with rows := s.rows ++ [priceRow cycle rate], journal := s.journal ++ [.wrote] }

/-- The first row that fails makes the whole fail; nobody waits for the `others` then. -/
def createRow (cycle : Nat) (rate : RateResult) (others : List RateResult) : FeedAction Unit :=
  .access (.createRow rate.fetchedAt) (fun _ => true) fun i s =>
    let s := Clocked.tick i.elapsed s
    let t := if i.fails then s else addRow cycle rate s
    if i.fails || i.lost then
      (.error .unavailable, { t with inFlight := t.inFlight ++ others.map fun rate => (cycle, rate) })
    else (.ok (), t)

def createRows (cycle : Nat) : List RateResult → FeedAction Unit
  | [] => .pure ()
  | rate :: others => (createRow cycle rate others).bind fun _ => createRows cycle others

def finishRow (position : Nat) : FeedAction Unit :=
  .access .finishRow (fun s => position < s.inFlight.length) fun i s =>
    let s := Clocked.tick i.elapsed s
    match s.inFlight[position]? with
    | none => (.ok (), s)
    | some (cycle, rate) =>
      let t := { s with inFlight := s.inFlight.eraseIdx position }
      (.ok (), if i.fails then t else addRow cycle rate t)

/-- The commands of a pipeline are made one by one; that one of them fails is only told in
the results of `exec`, which nobody looks at. -/
def setCache (cycle : Nat) (rate : RateResult) : FeedAction Unit :=
  (statement .unavailable (.setCache rate.fetchedAt) fun _ s => (.ok (),
    { s with
      cache := set s.cache rate.pair (cachedRate cycle rate) (some (s.now + priceCacheTtlSec * 1000))
      journal := s.journal ++ [.wrote] })).catching fun _ => .pure ()

def delStale : FeedAction Unit :=
  (statement .unavailable .delStale fun _ s => (.ok (),
    { s with staleFlag := none, journal := s.journal ++ [.wrote] })).catching fun _ => .pure ()

/-- The last command of the pipeline, and the memory of the worker after it. -/
def cycleSuccess : FeedAction Unit :=
  .access .cycleSuccess (fun _ => true) fun i s =>
    let s := Clocked.tick i.elapsed s
    (.ok (), { s with
      lastRun := if i.fails then s.lastRun else some s.now
      consecutiveFailures := 0
      staleSince := none
      phase := .idle
      journal := s.journal ++ [.succeeded] })

/-- The rows are created together, in any order; then comes the pipeline. -/
def writeRates (order : List RateResult → List RateResult) (fetched : Fetched) : FeedAction Unit :=
  (createRows fetched.cycle (order fetched.rates)).bind fun _ =>
  (Proc.each fetched.rates (setCache fetched.cycle)).bind fun _ =>
  delStale.bind fun _ => cycleSuccess

/-- The instant of the failure, and the first one since the last success. -/
def cycleFailure (tid : Nat) : FeedAction (Int × Int) :=
  .access .cycleFailure (fun _ => true) fun i s =>
    let s := Clocked.tick i.elapsed s
    -- An instant of zero would be taken for none.
    let staleSince := (s.staleSince.filter (· ≠ 0)).getD s.now
    (.ok (s.now, staleSince), { s with
      consecutiveFailures := s.consecutiveFailures + 1
      staleSince := some staleSince
      phase := .failing tid })

/-- After an alert the outage counts from now on. -/
def setStale (now staleSince : Int) : FeedAction Unit :=
  .access .setStale (fun _ => true) fun i s =>
    let s := Clocked.tick i.elapsed s
    (.ok (), { s with
      staleFlag := if i.fails then s.staleFlag else some staleSince
      staleSince := if staleAlertThresholdMs < now - staleSince then some now else s.staleSince })

def setLastRun (now : Int) : FeedAction Unit :=
  .access .setLastRun (fun _ => true) fun i s =>
    let s := Clocked.tick i.elapsed s
    (.ok (), { s with lastRun := if i.fails then s.lastRun else some now, phase := .idle })

def runCycle (tid : Nat) (order : List RateResult → List RateResult) : FeedAction Unit :=
  ((fetchRates tid).bind (writeRates order)).catching fun _ =>
    (cycleFailure tid).bind fun failure =>
    (setStale failure.1 failure.2).bind fun _ => setLastRun failure.1

end PriceFeedWorker

namespace PriceFeedService

def isPastStaleness (fetchedAt now : Int) : Bool := priceFeedStaleMs < now - fetchedAt

/-- `findFirst` with the latest `fetched_at`. -/
def latestRate (pair : AssetPair) (rows : List PriceFeedRow) : Option PriceFeedRow :=
  (rows.filter fun row => row.pair = pair).maxOn? (·.fetchedAt)

def reject (pair : AssetPair) (lastUpdatedMs : Int) (s : Feed) : Except AppError α × Feed :=
  (.error (.priceFeedStale lastUpdatedMs), { s with journal := s.journal ++ [.rejected pair] })

def checkStale (pair : AssetPair) : FeedAction Nat :=
  statement .unavailable (.getStale pair) fun _ s =>
    match s.staleFlag with
    | none => (.ok s.journal.length, s)
    | some staleFlag =>
      if priceFeedStaleMs < s.now - staleFlag then reject pair (s.now - staleFlag) s
      else (.ok s.journal.length, s)

def getCached (pair : AssetPair) (since : Nat) : FeedAction (Option CurrentRate) :=
  statement .unavailable (.getCache pair) fun _ s =>
    match get s.now s.cache pair with
    | none => (.ok none, s)
    | some cached => (.ok (some cached.rate), { s with journal := s.journal ++
        [.served ⟨pair, since, some cached.cycle, cached.rate, s.now - cached.fetchedAt, s.phase⟩] })

def getLatestRate (pair : AssetPair) (since : Nat) : FeedAction CurrentRate :=
  statement .unavailable (.getLatestRate pair) fun _ s =>
    match latestRate pair s.rows with
    | none => reject pair priceFeedStaleMs s
    | some dbRate =>
      if isPastStaleness dbRate.fetchedAt s.now then reject pair (s.now - dbRate.fetchedAt) s
      else (.ok ⟨dbRate.rateBuy, dbRate.rateSell⟩, { s with journal := s.journal ++
        [.served ⟨pair, since, none, ⟨dbRate.rateBuy, dbRate.rateSell⟩, s.now - dbRate.fetchedAt,
          s.phase⟩] })

def getCurrentRate (pair : AssetPair) : FeedAction CurrentRate :=
  (checkStale pair).bind fun since =>
  (getCached pair since).bind fun cached =>
  match cached with
  | some rate => .pure rate
  | none => getLatestRate pair since

end PriceFeedService

open PriceFeedWorker PriceFeedService

/-- Rows that are created together are created in some order. -/
structure CreationOrder where
  order : List RateResult → List RateResult
  perm : ∀ rates, (order rates).Perm rates

inductive Operation where
  | runCycle (creation : CreationOrder)
  | finishRow (position : Nat)
  | getCurrentRate (pair : AssetPair)

def procedure (tid : Nat) : Operation → FeedAction Unit
  | .runCycle creation => runCycle tid creation.order
  | .finishRow position => finishRow position
  | .getCurrentRate pair => (getCurrentRate pair).bind fun _ => .pure ()

def opened (now : Int) : Feed := { now := now }

def Quoted (s : Feed) (cycle : Nat) (rate : RateResult) : Prop :=
  ∃ fetch, s.fetches[cycle]? = some fetch ∧ rate ∈ rateResults fetch.1 fetch.2

/-- The row of the rate was written before its cache was. -/
def CachedFrom (s : Feed) (pair : AssetPair) (cached : CachedRate) : Prop :=
  ∃ rate, Quoted s cached.cycle rate ∧ rate.pair = pair ∧ cached = cachedRate cached.cycle rate ∧
    priceRow cached.cycle rate ∈ s.rows

structure Priced (s : Feed) : Prop where
  rows : ∀ row ∈ s.rows, ∃ rate, Quoted s row.cycle rate ∧ row = priceRow row.cycle rate
  inFlight : ∀ waiting ∈ s.inFlight, Quoted s waiting.1 waiting.2
  cached : ∀ pair entry, s.cache pair = some entry → CachedFrom s pair entry.value
  served : ∀ read cycle, read.source = some cycle → .served read ∈ s.journal →
    ∃ fetchedAt, CachedFrom s read.pair ⟨read.rate, cycle, fetchedAt⟩

structure Grows (s t : Feed) : Prop where
  fetches : s.fetches <+: t.fetches
  rows : ∀ row ∈ s.rows, row ∈ t.rows

theorem Grows.refl (s : Feed) : Grows s s := ⟨List.prefix_rfl, fun _ member => member⟩

theorem Grows.trans {r s t : Feed} (first : Grows r s) (second : Grows s t) : Grows r t :=
  ⟨first.fetches.trans second.fetches, fun row member => second.rows row (first.rows row member)⟩

def pricing : Discipline Feed (Reply FeedReply) FeedAccess where
  inv := Priced
  allowed _ _ _ := True
  fresh _ _ := True
  rely _ := Grows
  guar _ _ _ := Grows

theorem pricing_sound : pricing.Sound where
  refl _ := Grows.refl
  trans _ _ _ _ := Grows.trans
  compatible _ _ _ _ _ _ _ _ grows := grows
  fresh _ _ _ _ _ := trivial

section Priced
variable {s t : Feed} {cycle : Nat} {rate : RateResult} {pair : AssetPair}

theorem Quoted.mono (grows : Grows s t) (quoted : Quoted s cycle rate) : Quoted t cycle rate := by
  obtain ⟨fetch, found, member⟩ := quoted
  obtain ⟨added, whole⟩ := grows.fetches
  refine ⟨fetch, ?_, member⟩
  rw [← whole, List.getElem?_append_left (List.getElem?_eq_some_iff.mp found).1, found]

theorem CachedFrom.mono {cached : CachedRate} (grows : Grows s t)
    (cachedFrom : CachedFrom s pair cached) : CachedFrom t pair cached := by
  obtain ⟨rate, quoted, same, value, row⟩ := cachedFrom
  exact ⟨rate, quoted.mono grows, same, value, grows.rows _ row⟩

/-- A step that writes no rate. -/
theorem Priced.quiet (priced : Priced s) (grows : Grows s t) (rows : t.rows = s.rows)
    (inFlight : t.inFlight = s.inFlight) (cache : t.cache = s.cache)
    (journal : ∀ read cycle, read.source = some cycle → .served read ∈ t.journal →
      .served read ∈ s.journal) : Priced t := by
  refine ⟨fun row member => ?_, fun waiting member => ?_, fun pair entry found => ?_,
    fun read cycle source member => ?_⟩
  · rw [rows] at member
    obtain ⟨rate, quoted, same⟩ := priced.rows row member
    exact ⟨rate, quoted.mono grows, same⟩
  · rw [inFlight] at member
    exact (priced.inFlight waiting member).mono grows
  · rw [cache] at found
    exact (priced.cached pair entry found).mono grows
  · obtain ⟨fetchedAt, cachedFrom⟩ := priced.served read cycle source
      (journal read cycle source member)
    exact ⟨fetchedAt, cachedFrom.mono grows⟩

theorem Priced.tick (priced : Priced s) (elapsed : Nat) : Priced (Clocked.tick elapsed s) :=
  priced.quiet ⟨List.prefix_rfl, fun _ member => member⟩ rfl rfl rfl fun _ _ _ member => member

theorem grows_tick (s : Feed) (elapsed : Nat) : Grows s (Clocked.tick elapsed s) :=
  ⟨List.prefix_rfl, fun _ member => member⟩

/-- One more row. -/
theorem Priced.addRow (priced : Priced s) (quoted : Quoted s cycle rate) :
    Priced (PriceFeedWorker.addRow cycle rate s) ∧
      Grows s (PriceFeedWorker.addRow cycle rate s) := by
  have grows : Grows s (PriceFeedWorker.addRow cycle rate s) :=
    ⟨List.prefix_rfl, fun row member => List.mem_append_left _ member⟩
  refine ⟨⟨fun row member => ?_, fun waiting member => (priced.inFlight waiting member).mono grows,
    fun pair entry found => (priced.cached pair entry found).mono grows,
    fun read cycle source member => ?_⟩, grows⟩
  · rcases List.mem_append.mp member with old | new
    · obtain ⟨rate, quoted, same⟩ := priced.rows row old
      exact ⟨rate, quoted.mono grows, same⟩
    · obtain rfl := List.mem_singleton.mp new
      exact ⟨rate, quoted.mono grows, rfl⟩
  · obtain ⟨fetchedAt, cachedFrom⟩ := priced.served read cycle source
      (by simpa [PriceFeedWorker.addRow] using member)
    exact ⟨fetchedAt, cachedFrom.mono grows⟩

/-- Other rows of the fetch, or fewer, are being created. -/
theorem Priced.waiting {inFlight : List (Nat × RateResult)} (priced : Priced s)
    (quoted : ∀ waiting ∈ inFlight, Quoted s waiting.1 waiting.2) :
    Priced { s with inFlight := inFlight } :=
  ⟨priced.rows, quoted, priced.cached, priced.served⟩

/-- One more key of the cache. -/
theorem Priced.cache_rate {expiresAt : Option Int} (priced : Priced s)
    (quoted : Quoted s cycle rate) (row : priceRow cycle rate ∈ s.rows) :
    let t := { s with
      cache := set s.cache rate.pair (cachedRate cycle rate) expiresAt
      journal := s.journal ++ [.wrote] }
    Priced t ∧ Grows s t := by
  refine ⟨⟨priced.rows, priced.inFlight, fun pair entry found => ?_,
    fun read cycle source member => ?_⟩, ⟨List.prefix_rfl, fun _ member => member⟩⟩
  · by_cases same : pair = rate.pair
    · subst same
      obtain rfl := Option.some.inj (set_self.symm.trans found)
      exact ⟨rate, quoted, rfl, rfl, row⟩
    · exact priced.cached pair entry ((set_of_ne same).symm.trans found)
  · exact priced.served read cycle source (by simpa using member)

/-- A read from the cache hands out what a cycle put there. -/
theorem Priced.serve {since : Nat} {cached : CachedRate} {age : Int} {phase : Phase}
    (priced : Priced s) (found : get s.now s.cache pair = some cached) :
    Priced { s with journal := s.journal ++
      [.served ⟨pair, since, some cached.cycle, cached.rate, age, phase⟩] } := by
  refine ⟨priced.rows, priced.inFlight, priced.cached, fun read cycle source member => ?_⟩
  rcases List.mem_append.mp member with old | new
  · exact priced.served read cycle source old
  · obtain ⟨entry, there, _, rfl⟩ := get_eq_some.mp found
    obtain rfl := JournalEntry.served.inj (List.mem_singleton.mp new)
    obtain rfl := Option.some.inj source
    exact ⟨entry.value.fetchedAt, priced.cached pair entry there⟩

end Priced

section Contracts
variable {s : Feed} {tid : Nat} {pair : AssetPair}

def Recorded (fetched : Fetched) (made : List RateResult) (s : Feed) : Prop :=
  (∀ rate ∈ fetched.rates, Quoted s fetched.cycle rate) ∧
    ∀ rate ∈ made, priceRow fetched.cycle rate ∈ s.rows

theorem Recorded.mono {t : Feed} {fetched : Fetched} {made : List RateResult} (grows : Grows s t)
    (recorded : Recorded fetched made s) : Recorded fetched made t :=
  ⟨fun rate member => (recorded.1 rate member).mono grows,
    fun rate member => grows.rows _ (recorded.2 rate member)⟩

/-- An access that writes no rate. -/
theorem quiet_meets {α : Type} {label : FeedAccess}
    {f : Reply FeedReply → Feed → Except AppError α × Feed}
    (quiet : ∀ i t, (f i t).2.fetches = t.fetches ∧ (f i t).2.rows = t.rows ∧
      (f i t).2.inFlight = t.inFlight ∧ (f i t).2.cache = t.cache ∧ ∀ read cycle, read.source = some cycle →
        .served read ∈ (f i t).2.journal → .served read ∈ t.journal) :
    (Proc.access label (fun _ => true) f).Meets (pricing.contract tid) (fun _ _ => True)
      (fun _ _ => True) s := by
  rw [Proc.meets_access]
  intro t _ priced _ i _
  obtain ⟨fetches, rows, inFlight, cache, journal⟩ := quiet i t
  have grows : Grows t (f i t).2 := ⟨fetches ▸ List.prefix_rfl, fun row member => rows ▸ member⟩
  refine ⟨Priced.quiet priced grows rows inFlight cache journal, grows, ?_⟩
  rcases f i t with ⟨_ | _, _⟩ <;> trivial

theorem fetchRates_meets : (fetchRates tid).Meets (pricing.contract tid)
    (fun fetched => Recorded fetched []) (fun _ _ => True) s := by
  rw [fetchRates, Proc.meets_access]
  intro t _ priced _ i _
  dsimp only
  cases (if i.fails || i.lost then none else i.data.tickers) with
  | none =>
    have grows : Grows t { Clocked.tick i.elapsed t with phase := .failing tid } :=
      ⟨List.prefix_rfl, fun _ member => member⟩
    exact ⟨Priced.quiet priced grows rfl rfl rfl fun _ _ _ member => member, grows, trivial⟩
  | some tickers =>
    have grows : Grows t { Clocked.tick i.elapsed t with
        fetches := t.fetches ++ [(tickers, (Clocked.tick i.elapsed t).now)]
        phase := .writing tid } := ⟨List.prefix_append _ _, fun _ member => member⟩
    refine ⟨Priced.quiet priced grows rfl rfl rfl fun _ _ _ member => member, grows, ?_⟩
    refine ⟨fun rate member => ⟨(tickers, (Clocked.tick i.elapsed t).now), ?_, member⟩, by simp⟩
    exact List.getElem?_concat_length ..

theorem createRow_meets {fetched : Fetched} {made others : List RateResult} {rate : RateResult}
    (member : ∀ other ∈ rate :: others, other ∈ fetched.rates) (recorded : Recorded fetched made s) :
    (createRow fetched.cycle rate others).Meets (pricing.contract tid)
      (fun _ => Recorded fetched (made ++ [rate])) (fun _ _ => True) s := by
  rw [createRow, Proc.meets_access]
  intro t moved priced _ i _
  have ticked := grows_tick t i.elapsed
  have recorded := (recorded.mono moved).mono ticked
  have quoted (other : RateResult) (among : other ∈ rate :: others) :=
    recorded.1 other (member other among)
  obtain ⟨priced', grows⟩ := (Priced.tick priced i.elapsed).addRow (quoted rate (by simp))
  have stopped (u : Feed) (priced : Priced u) (grows : Grows t u)
      (later : Grows (Clocked.tick i.elapsed t) u) :
      Priced { u with inFlight := u.inFlight ++ others.map fun rate => (fetched.cycle, rate) } ∧
        Grows t { u with inFlight := u.inFlight ++ others.map fun rate => (fetched.cycle, rate) } := by
    refine ⟨priced.waiting fun waiting member => ?_, ⟨grows.fetches, grows.rows⟩⟩
    rcases List.mem_append.mp member with old | new
    · exact priced.inFlight waiting old
    · obtain ⟨other, among, rfl⟩ := List.mem_map.mp new
      exact (quoted other (List.mem_cons_of_mem _ among)).mono later
  cases fails : i.fails with
  | true =>
    obtain ⟨priced, grows⟩ := stopped _ (Priced.tick priced _) ticked (Grows.refl _)
    exact ⟨priced, grows, trivial⟩
  | false =>
    cases lost : i.lost with
    | true =>
      obtain ⟨priced, grows⟩ := stopped _ priced' (ticked.trans grows) grows
      exact ⟨priced, grows, trivial⟩
    | false =>
      refine ⟨priced', ticked.trans grows, (recorded.mono grows).1, fun other made' => ?_⟩
      rcases List.mem_append.mp made' with old | new
      · exact grows.rows _ (recorded.2 other old)
      · obtain rfl := List.mem_singleton.mp new
        exact List.mem_append_right _ (List.mem_singleton_self _)

theorem createRows_meets {fetched : Fetched} {made rates : List RateResult}
    (member : ∀ rate ∈ rates, rate ∈ fetched.rates) (recorded : Recorded fetched made s) :
    (createRows fetched.cycle rates).Meets (pricing.contract tid)
      (fun _ => Recorded fetched (made ++ rates)) (fun _ _ => True) s := by
  induction rates generalizing made s with
  | nil => simpa [createRows] using recorded
  | cons rate others ih =>
    simp only [createRows, Proc.meets_bind]
    apply (createRow_meets member recorded).imp _ fun _ _ _ => trivial
    intro _ t recorded
    have rest := ih (fun other among => member other (List.mem_cons_of_mem _ among)) recorded
    rwa [List.append_assoc] at rest

theorem finishRow_meets {position : Nat} : (finishRow position).Meets (pricing.contract tid)
    (fun _ _ => True) (fun _ _ => True) s := by
  rw [finishRow, Proc.meets_access]
  intro t _ priced _ i _
  have ticked := grows_tick t i.elapsed
  have priced := Priced.tick priced i.elapsed
  dsimp only
  cases found : (Clocked.tick i.elapsed t).inFlight[position]? with
  | none => exact ⟨priced, ticked, trivial⟩
  | some waiting =>
    have fewer : Priced { Clocked.tick i.elapsed t with
        inFlight := (Clocked.tick i.elapsed t).inFlight.eraseIdx position } :=
      priced.waiting fun other among => priced.inFlight other (List.mem_of_mem_eraseIdx among)
    have quoted := priced.inFlight waiting (List.mem_of_getElem? found)
    cases fails : i.fails with
    | true => exact ⟨fewer, ⟨ticked.fetches, ticked.rows⟩, trivial⟩
    | false =>
      have quoted : Quoted { Clocked.tick i.elapsed t with
          inFlight := (Clocked.tick i.elapsed t).inFlight.eraseIdx position } waiting.1 waiting.2 := quoted
      obtain ⟨priced', grows⟩ := fewer.addRow quoted
      exact ⟨priced', ⟨grows.fetches, grows.rows⟩, trivial⟩

theorem setCache_meets {fetched : Fetched} {made : List RateResult} {rate : RateResult}
    (member : rate ∈ fetched.rates) (written : rate ∈ made) (recorded : Recorded fetched made s) :
    (setCache fetched.cycle rate).Meets (pricing.contract tid)
      (fun _ => Recorded fetched made) (fun _ _ => True) s := by
  rw [setCache, Proc.meets_catching]
  refine statement_meets fun t moved priced i _ => ?_
  have ticked := grows_tick t i.elapsed
  have recorded := (recorded.mono moved).mono ticked
  refine ⟨fun _ => ⟨Priced.tick priced _, ticked, recorded⟩, fun _ => ?_⟩
  obtain ⟨priced', grows⟩ := (Priced.tick priced i.elapsed).cache_rate
    (recorded.1 rate member) (recorded.2 rate written)
  exact ⟨priced', ticked.trans grows, fun _ => recorded.mono grows, fun _ => recorded.mono grows⟩

theorem delStale_meets : delStale.Meets (pricing.contract tid) (fun _ _ => True)
    (fun _ _ => True) s := by
  rw [delStale, Proc.meets_catching]
  apply (quiet_meets _).imp
  · exact fun _ _ _ => trivial
  · exact fun _ _ _ => trivial
  · intro i t
    cases i.fails <;> simp [Clocked.tick]

theorem cycleSuccess_meets : cycleSuccess.Meets (pricing.contract tid) (fun _ _ => True)
    (fun _ _ => True) s :=
  quiet_meets fun i t => by simp [Clocked.tick]

/-- The rows first: what reaches the cache has its row. -/
theorem writeRates_meets (creation : CreationOrder) {fetched : Fetched}
    (recorded : Recorded fetched [] s) : (writeRates creation.order fetched).Meets
      (pricing.contract tid) (fun _ _ => True) (fun _ _ => True) s := by
  have mem_rates (rate : RateResult) : rate ∈ creation.order fetched.rates ↔ rate ∈ fetched.rates :=
    (creation.perm _).mem_iff
  have rows : (createRows fetched.cycle (creation.order fetched.rates)).Meets
      (pricing.contract tid) (fun _ => Recorded fetched ([] ++ creation.order fetched.rates))
      (fun _ _ => True) s := createRows_meets (fun rate => (mem_rates rate).mp) recorded
  have cache (t : Feed) (recorded : Recorded fetched fetched.rates t) :
      (Proc.each fetched.rates (setCache fetched.cycle)).Meets (pricing.contract tid)
        (fun _ => Recorded fetched fetched.rates) (fun _ _ => True) t := by
    apply Proc.meets_each recorded
    intro rate member u recorded
    exact setCache_meets member member recorded
  simp only [writeRates, Proc.meets_bind]
  apply rows.imp _ fun _ _ _ => trivial
  intro _ t recorded
  apply (cache t _).imp _ fun _ _ _ => trivial
  · exact ⟨recorded.1, fun rate member => recorded.2 rate ((mem_rates rate).mpr member)⟩
  · intro _ u _
    exact delStale_meets.imp (fun _ _ _ => cycleSuccess_meets) fun _ _ _ => trivial

theorem runCycle_meets (creation : CreationOrder) : (runCycle tid creation.order).Meets
    (pricing.contract tid) (fun _ _ => True) (fun _ _ => True) s := by
  have failed (t : Feed) : ((cycleFailure tid).bind fun failure =>
      (setStale failure.1 failure.2).bind fun _ => setLastRun failure.1).Meets
        (pricing.contract tid) (fun _ _ => True) (fun _ _ => True) t := by
    simp only [Proc.meets_bind]
    apply (quiet_meets fun i t => by simp [Clocked.tick]).imp _ fun _ _ _ => trivial
    intro failure u _
    apply (quiet_meets fun i t => by simp [Clocked.tick]).imp _ fun _ _ _ => trivial
    intro _ v _
    exact quiet_meets fun i t => by simp [Clocked.tick]
  simp only [runCycle, Proc.meets_catching, Proc.meets_bind]
  apply fetchRates_meets.imp _ fun _ t _ => failed t
  intro fetched t recorded
  exact (writeRates_meets creation recorded).imp (fun _ _ _ => trivial) fun _ u _ => failed u

theorem getCurrentRate_meets : (getCurrentRate pair).Meets (pricing.contract tid)
    (fun _ _ => True) (fun _ _ => True) s := by
  have stale (u : Feed) : (checkStale pair).Meets (pricing.contract tid) (fun _ _ => True)
      (fun _ _ => True) u := by
    apply quiet_meets
    intro i t
    cases fails : i.fails with
    | true => simp [Clocked.tick]
    | false =>
      cases flag : t.staleFlag with
      | none => simp [Clocked.tick, flag]
      | some staleFlag =>
        simp only [Clocked.tick, flag, Bool.false_eq_true, if_false]
        split <;> simp [reject]
  have latest (since : Nat) (u : Feed) : (getLatestRate pair since).Meets (pricing.contract tid)
      (fun _ _ => True) (fun _ _ => True) u := by
    apply quiet_meets
    intro i t
    cases fails : i.fails with
    | true => simp [Clocked.tick]
    | false =>
      cases row : latestRate pair t.rows with
      | none => simp [Clocked.tick, row, reject]
      | some dbRate =>
        simp only [Clocked.tick, row, Bool.false_eq_true, if_false]
        split
        · simp [reject]
        · refine ⟨rfl, rfl, rfl, rfl, fun read cycle source member => ?_⟩
          rcases List.mem_append.mp member with old | new
          · exact old
          · obtain rfl := JournalEntry.served.inj (List.mem_singleton.mp new)
            cases source
  have cached (since : Nat) (u : Feed) : (getCached pair since).Meets (pricing.contract tid)
      (fun _ _ => True) (fun _ _ => True) u := by
    refine statement_meets fun t _ priced i _ => ?_
    have ticked := grows_tick t i.elapsed
    refine ⟨fun _ => ⟨Priced.tick priced _, ticked, trivial⟩, fun _ => ?_⟩
    cases found : get (Clocked.tick i.elapsed t).now (Clocked.tick i.elapsed t).cache pair with
    | none => exact ⟨Priced.tick priced _, ticked, fun _ => trivial, fun _ => trivial⟩
    | some cached =>
      have grows : Grows t { Clocked.tick i.elapsed t with journal := t.journal ++
          [.served ⟨pair, since, some cached.cycle, cached.rate,
            (Clocked.tick i.elapsed t).now - cached.fetchedAt, t.phase⟩] } :=
        ⟨List.prefix_rfl, fun _ member => member⟩
      exact ⟨(Priced.tick priced _).serve found, grows, fun _ => trivial, fun _ => trivial⟩
  simp only [getCurrentRate, Proc.meets_bind]
  apply (stale s).imp _ fun _ _ _ => trivial
  intro since t _
  apply (cached since t).imp _ fun _ _ _ => trivial
  intro cached u _
  cases cached with
  | none => exact latest since u
  | some rate => trivial

theorem procedure_meets (operation : Operation) : (procedure tid operation).Meets
    (pricing.contract tid) (fun _ _ => True) (fun _ _ => True) s := by
  cases operation with
  | runCycle creation => exact runCycle_meets creation
  | finishRow position => exact finishRow_meets
  | getCurrentRate pair =>
    rw [procedure, Proc.meets_bind]
    exact getCurrentRate_meets.imp (fun _ _ _ => trivial) fun _ _ _ => trivial

end Contracts

/-- Six decimals of the rate with the markup are those of the rate without. -/
def Unmoved (rate : RateResult) : Prop :=
  sixDecimals (rate.rateBuy * (1 + rateMarkupPercent)) = sixDecimals rate.rateBuy ∧
    sixDecimals (rate.rateSell * (1 - rateMarkupPercent)) = sixDecimals rate.rateSell

instance (rate : RateResult) : Decidable (Unmoved rate) := by unfold Unmoved; infer_instance

theorem opened_priced (now : Int) : Priced (opened now) :=
  ⟨by simp [opened], by simp [opened], by simp [opened], by simp [opened]⟩

theorem run_priced {now : Int} {trace : List (Nat × Event Feed (Reply FeedReply) FeedAccess)}
    {c : Config Feed (Reply FeedReply) FeedAccess AppError Unit}
    (run : Runs procedure (opened now) trace c) : Priced c.shared := by
  have held : pricing.Holds (fun _ _ _ => True) (fun _ _ _ => True) trace c :=
    run.holds pricing_sound (fun _ _ _ _ _ _ => trivial) (fun _ _ _ _ _ _ => trivial)
      (opened_priced now) (fun _ => trivial) (fun _ operation _ _ _ => procedure_meets operation)
      fun _ _ => trivial
  exact held.inv

/-- A fetch has one rate for each pair. -/
theorem Quoted.unique {s : Feed} {cycle : Nat} {rate other : RateResult}
    (quoted : Quoted s cycle rate) (again : Quoted s cycle other) (pair : rate.pair = other.pair) :
    rate = other := by
  obtain ⟨fetch, found, member⟩ := quoted
  obtain ⟨fetch', found', member'⟩ := again
  obtain rfl := Option.some.inj (found.symm.trans found')
  simp only [rateResults, List.mem_cons, List.not_mem_nil, or_false] at member member'
  rcases member with rfl | rfl | rfl <;> rcases member' with rfl | rfl | rfl <;> simp_all

/-- What is served from the cache comes from a fetch that has a row; the row says the same
exactly when the markup gets lost in the rounding. -/
theorem served_as_recorded {now : Int}
    {trace : List (Nat × Event Feed (Reply FeedReply) FeedAccess)}
    {c : Config Feed (Reply FeedReply) FeedAccess AppError Unit}
    (run : Runs procedure (opened now) trace c) {read : ServedRate} {cycle : Nat}
    (served : .served read ∈ c.shared.journal) (source : read.source = some cycle) :
    ∃ fetched, Quoted c.shared cycle fetched ∧ fetched.pair = read.pair ∧
      (∃ row ∈ c.shared.rows, row.cycle = cycle ∧ row.pair = read.pair) ∧
      ∀ row ∈ c.shared.rows, row.cycle = cycle → row.pair = read.pair →
        (read.rate = ⟨row.rateBuy, row.rateSell⟩ ↔ Unmoved fetched) := by
  have priced := run_priced run
  obtain ⟨fetchedAt, fetched, quoted, same, value, there⟩ :=
    priced.served read cycle source served
  refine ⟨fetched, quoted, same, ⟨_, there, rfl, same⟩, fun row member ofCycle ofPair => ?_⟩
  obtain ⟨other, again, recorded⟩ := priced.rows row member
  subst ofCycle
  have pairs : other.pair = fetched.pair := by
    rw [recorded] at ofPair
    exact ofPair.trans same.symm
  obtain rfl := again.unique quoted pairs
  have cached : read.rate = ⟨sixDecimals other.rateBuy, sixDecimals other.rateSell⟩ :=
    congrArg CachedRate.rate value
  rw [cached, recorded]
  simp only [priceRow, CurrentRate.mk.injEq, Unmoved]
  constructor
  · rintro ⟨buy, sell⟩
    exact ⟨buy.symm, sell.symm⟩
  · rintro ⟨buy, sell⟩
    exact ⟨buy.symm, sell.symm⟩

def soon : Reply FeedReply := { data := {} }

def asFetched : CreationOrder := ⟨id, fun _ => .refl _⟩

def succeedingCycle (tid : Nat) (tickers : Tickers) : List (Choice Operation (Reply FeedReply)) :=
  [.start (.runCycle asFetched), .run tid { data := { tickers := some tickers } }] ++
    List.replicate 8 (.run tid soon)

def readTwice : List (Choice Operation (Reply FeedReply)) :=
  [.start (.getCurrentRate .satNgn), .run 1 soon, .run 1 soon, .start (.getCurrentRate .satNgn),
    .run 2 { soon with elapsed := 600000 }, .run 2 soon, .run 2 soon]

def ordinary : Tickers := ⟨⟨99000000, 100000000⟩, ⟨1500, 1510⟩⟩

def worthless : Tickers := ⟨⟨10, 100⟩, ⟨1500, 1510⟩⟩

def fromCache (rate : CurrentRate) : ServedRate := ⟨.satNgn, 8, some 0, rate, 0, .idle⟩

def fromRow (rate : CurrentRate) : ServedRate := ⟨.satNgn, 9, none, rate, 600000, .idle⟩

def servedBoth (cached recorded : CurrentRate) (c : Config Feed (Reply FeedReply) FeedAccess
    AppError Unit) : Bool :=
  decide (.served (fromCache cached) ∈ c.shared.journal ∧
    .served (fromRow recorded) ∈ c.shared.journal) &&
  c.shared.rows.any fun row => row.cycle = 0 ∧ row.pair = .satNgn ∧
    (⟨row.rateBuy, row.rateSell⟩ : CurrentRate) = recorded

theorem of_servedBoth {cached recorded : CurrentRate} {c : Config Feed (Reply FeedReply) FeedAccess
    AppError Unit} (checked : servedBoth cached recorded c = true) :
    .served (fromCache cached) ∈ c.shared.journal ∧ .served (fromRow recorded) ∈ c.shared.journal ∧
      ∃ row ∈ c.shared.rows, row.cycle = 0 ∧ row.pair = .satNgn ∧
        (⟨row.rateBuy, row.rateSell⟩ : CurrentRate) = recorded := by
  simp only [servedBoth, Bool.and_eq_true, decide_eq_true_eq, List.any_eq_true] at checked
  exact ⟨checked.1.1, checked.1.2, checked.2⟩

theorem served_as_recorded_sample : ∃ trace c, Runs procedure (opened 0) trace c ∧
    ∃ fetched row, Quoted c.shared 0 fetched ∧ row ∈ c.shared.rows ∧ row.cycle = 0 ∧
      row.pair = .satNgn ∧ (⟨0.000001, 0⟩ = CurrentRate.mk row.rateBuy row.rateSell ↔
        Unmoved fetched) := by
  obtain ⟨trace, c, run, checked⟩ := exists_run procedure (opened 0)
    (succeedingCycle 0 worthless ++ readTwice)
    (fun _ => servedBoth ⟨0.000001, 0⟩ ⟨0.000001, 0⟩) (by decide +kernel)
  obtain ⟨cached, _, row, member, cycle, pair, _⟩ := of_servedBoth checked
  obtain ⟨fetched, quoted, _, _, agrees⟩ := served_as_recorded run cached rfl
  exact ⟨trace, c, run, fetched, row, quoted, member, cycle, pair, agrees row member cycle pair⟩

/-- The cache hands out 1 for the satoshi, and the row of the same cycle 1.005. -/
theorem served_without_markup : ∃ trace c, Runs procedure (opened 0) trace c ∧
    .served (fromCache ⟨1, 0.99⟩) ∈ c.shared.journal ∧
    .served (fromRow ⟨1.005, 0.98505⟩) ∈ c.shared.journal ∧
    ∃ row ∈ c.shared.rows, row.cycle = 0 ∧ row.pair = .satNgn ∧
      (⟨row.rateBuy, row.rateSell⟩ : CurrentRate) = ⟨1.005, 0.98505⟩ := by
  obtain ⟨trace, c, run, checked⟩ := exists_run procedure (opened 0)
    (succeedingCycle 0 ordinary ++ readTwice)
    (fun _ => servedBoth ⟨1, 0.99⟩ ⟨1.005, 0.98505⟩) (by decide +kernel)
  exact ⟨trace, c, run, of_servedBoth checked⟩

end Bitmonie.PriceFeed
