import Bitmonie.PriceFeed

/-! How old a rate is that a reader gets, and what a reader that was turned away learns about
the next ones, when the cycles of the worker come one after the other. -/
namespace Bitmonie.PriceFreshness
open Expiring PriceFeed PriceFeedWorker PriceFeedService

/-- A cycle has its rates and has not come to its end. -/
def isWriting : Phase → Bool
  | .writing _ => true
  | _ => false

/-- No cycle starts during another one. One that has its rates writes them all, and each key
of the cache within its time to live. -/
def Orderly (label : FeedAccess) (i : Reply FeedReply) (s : Feed) : Prop :=
  match label with
  | .fetchRates => s.phase = .idle
  | .createRow _ | .delStale => i.fails = false ∧ i.lost = false
  | .setCache fetchedAt => (i.fails = false ∧ i.lost = false) ∧
      s.now + i.elapsed ≤ fetchedAt + priceCacheTtlSec * 1000
  | _ => True

instance (label : FeedAccess) (i : Reply FeedReply) (s : Feed) : Decidable (Orderly label i s) := by
  unfold Orderly
  split <;> infer_instance

/-- Neither the cache nor a row has a rate that can be served. -/
structure Dead (pair : AssetPair) (s : Feed) : Prop where
  rows : ∀ row ∈ s.rows, row.pair = pair → priceFeedStaleMs < s.now - row.fetchedAt
  cache : get s.now s.cache pair = none

/-- The flag turns every reader away. -/
def Flagged (s : Feed) : Prop := ∃ since, s.staleFlag = some since ∧ priceFeedStaleMs < s.now - since

def After (journal : List JournalEntry) (position : Nat) (entry : JournalEntry) : Prop :=
  ∃ later, position < later ∧ journal[later]? = some entry

/-- A reader that was turned away here: nobody is served before a rate is written. While
the rates of a cycle are being written the flag is what bars them. -/
def Barred (s : Feed) (position : Nat) (pair : AssetPair) : Prop :=
  After s.journal position .wrote ∨ Dead pair s ∨ (isWriting s.phase = true ∧ Flagged s)

/-- What is said about a rate that was served at this position. -/
structure Served (journal : List JournalEntry) (position : Nat) (read : ServedRate) : Prop where
  began : read.since ≤ position
  age : read.age ≤ priceFeedStaleMs
  turned : ∀ earlier < read.since, journal[earlier]? = some (.rejected read.pair) →
    (∃ between < position, earlier < between ∧ journal[between]? = some .wrote) ∧
    (isWriting read.phase = false →
      ∃ between < position, earlier < between ∧ journal[between]? = some .succeeded)

def Explained (s : Feed) (position : Nat) : JournalEntry → Prop
  | .rejected pair => Barred s position pair
  | .served read => Served s.journal position read
  | .wrote => After s.journal position .succeeded ∨ isWriting s.phase = true
  | .succeeded => True

structure Fresh (s : Feed) : Prop where
  rows : ∀ row ∈ s.rows, row.fetchedAt ≤ s.now
  inFlight : s.inFlight = []
  cache : ∀ pair entry, s.cache pair = some entry →
    (∃ row ∈ s.rows, row.pair = pair ∧ row.fetchedAt = entry.value.fetchedAt) ∧
      ∃ expiresAt, entry.expiresAt = some expiresAt ∧
        expiresAt ≤ entry.value.fetchedAt + priceFeedStaleMs
  /-- An outage began after the last rates were fetched. -/
  flags : isWriting s.phase = false → ∀ row ∈ s.rows, ∀ since,
    s.staleFlag = some since ∨ s.staleSince = some since → row.fetchedAt ≤ since
  journal : ∀ position entry, s.journal[position]? = some entry → Explained s position entry

def Mine (tid : Nat) (s : Feed) : Prop := s.phase = .writing tid ∨ s.phase = .failing tid

/-- What other procedures leave alone during a cycle. -/
structure Still (s t : Feed) : Prop where
  phase : t.phase = s.phase
  rows : t.rows = s.rows
  staleFlag : t.staleFlag = s.staleFlag
  staleSince : t.staleSince = s.staleSince

/-- The second journal has such an entry and the first one is too short to have it. -/
def New (s t : Feed) (entry : JournalEntry) : Prop :=
  ∃ position, s.journal.length ≤ position ∧ t.journal[position]? = some entry

/-- Without a new entry for a write, a pair stays dead. -/
structure Moves (s t : Feed) : Prop where
  now : s.now ≤ t.now
  journal : s.journal <+: t.journal
  dead : ∀ pair, Dead pair s → New s t .wrote ∨ Dead pair t

/-- A cycle that writes goes on or ends, and takes the flag away before. -/
structure Continues (s t : Feed) : Prop where
  phase : isWriting s.phase = true → New s t .succeeded ∨ isWriting t.phase = true
  flag : isWriting s.phase = true → Flagged s →
    New s t .wrote ∨ (isWriting t.phase = true ∧ Flagged t)

def freshness : Discipline Feed (Reply FeedReply) FeedAccess where
  inv := Fresh
  allowed := Orderly
  fresh _ _ := True
  rely tid s t := Moves s t ∧ (Mine tid s → Still s t)
  guar tid _ _ s t := Moves s t ∧ (Still s t ∨ Mine tid s ∨ s.phase = .idle)

section Moves
variable {r s t : Feed} {position : Nat} {entry : JournalEntry} {pair : AssetPair}

theorem getElem?_of_prefix {α : Type} {first whole : List α} {value : α}
    (start : first <+: whole) (found : first[position]? = some value) :
    whole[position]? = some value := by
  obtain ⟨rest, rfl⟩ := start
  rw [List.getElem?_append_left (List.getElem?_eq_some_iff.mp found).1, found]

theorem After.mono {journal longer : List JournalEntry} (start : journal <+: longer)
    (after : After journal position entry) : After longer position entry := by
  obtain ⟨later, beyond, found⟩ := after
  exact ⟨later, beyond, getElem?_of_prefix start found⟩

theorem Moves.refl (s : Feed) : Moves s s :=
  ⟨Int.le_refl _, List.prefix_rfl, fun _ dead => .inr dead⟩

theorem Moves.trans (first : Moves r s) (second : Moves s t) : Moves r t := by
  refine ⟨first.now.trans second.now, first.journal.trans second.journal, fun pair dead => ?_⟩
  rcases first.dead pair dead with ⟨position, beyond, found⟩ | dead
  · exact .inl ⟨position, beyond, getElem?_of_prefix second.journal found⟩
  · rcases second.dead pair dead with ⟨position, beyond, found⟩ | dead
    · exact .inl ⟨position, first.journal.length_le.trans beyond, found⟩
    · exact .inr dead

theorem Mine.still {tid : Nat} (mine : Mine tid s) (still : Still s t) : Mine tid t := by
  unfold Mine at mine ⊢
  rwa [still.phase]

theorem Still.trans (first : Still r s) (second : Still s t) : Still r t :=
  ⟨second.phase.trans first.phase, second.rows.trans first.rows,
    second.staleFlag.trans first.staleFlag, second.staleSince.trans first.staleSince⟩

theorem freshness_sound : freshness.Sound where
  refl _ s := ⟨Moves.refl s, fun _ => ⟨rfl, rfl, rfl, rfl⟩⟩
  trans _ r s t first second := ⟨first.1.trans second.1, fun mine =>
    (first.2 mine).trans (second.2 (mine.still (first.2 mine)))⟩
  compatible i j _ _ s t different _ moved := by
    refine ⟨moved.1, fun mine => ?_⟩
    rcases moved.2 with still | other | idle
    · exact still
    · rcases mine with mine | mine <;> rcases other with other | other <;>
        simp_all
    · rcases mine with mine | mine <;> simp_all
  fresh _ _ _ _ _ := trivial

/-- A key that is gone stays gone. -/
theorem Dead.expired (dead : Dead pair s) {later : Int} (le : s.now ≤ later) :
    get later s.cache pair = none := by
  rw [Option.eq_none_iff_forall_ne_some]
  intro value found
  obtain ⟨entry, there, lives, rfl⟩ := get_eq_some.mp found
  have found : get s.now s.cache pair = some entry.value :=
    get_eq_some.mpr ⟨entry, there, entry.live_of_later le lives, rfl⟩
  rw [dead.cache] at found
  cases found

theorem Flagged.later (flagged : Flagged s) (now : s.now ≤ t.now)
    (flag : t.staleFlag = s.staleFlag) : Flagged t := by
  obtain ⟨since, found, past⟩ := flagged
  exact ⟨since, flag.trans found, by omega⟩

theorem Continues.same (now : s.now ≤ t.now) (phase : t.phase = s.phase)
    (flag : t.staleFlag = s.staleFlag) : Continues s t :=
  ⟨fun writing => .inr (phase ▸ writing),
    fun writing flagged => .inr ⟨phase ▸ writing, flagged.later now flag⟩⟩

theorem Continues.idle (idle : isWriting s.phase = false) : Continues s t := by
  constructor <;> (rw [idle]; intro impossible; cases impossible)

theorem New.after (new : New s t entry) (below : position < s.journal.length) :
    After t.journal position entry := by
  obtain ⟨later, beyond, found⟩ := new
  exact ⟨later, by omega, found⟩

theorem Served.mono {journal longer : List JournalEntry} {read : ServedRate}
    (start : journal <+: longer) (inside : position < journal.length)
    (served : Served journal position read) : Served longer position read := by
  refine ⟨served.began, served.age, fun earlier before found => ?_⟩
  obtain ⟨rest, rfl⟩ := start
  have began := served.began
  rw [List.getElem?_append_left (by omega)] at found
  obtain ⟨wrote, succeeded⟩ := served.turned earlier before found
  constructor
  · obtain ⟨between, below, beyond, there⟩ := wrote
    exact ⟨between, below, beyond, getElem?_of_prefix (List.prefix_append _ _) there⟩
  · intro idle
    obtain ⟨between, below, beyond, there⟩ := succeeded idle
    exact ⟨between, below, beyond, getElem?_of_prefix (List.prefix_append _ _) there⟩

theorem Explained.mono (moves : Moves s t) (continues : Continues s t)
    (found : s.journal[position]? = some entry) (explained : Explained s position entry) :
    Explained t position entry := by
  have below : position < s.journal.length := (List.getElem?_eq_some_iff.mp found).1
  cases entry with
  | rejected pair =>
    rcases explained with wrote | dead | ⟨writing, flagged⟩
    · exact .inl (wrote.mono moves.journal)
    · exact (moves.dead pair dead).imp (fun new => new.after below) .inl
    · exact (continues.flag writing flagged).imp (fun new => new.after below) .inr
  | served read => exact Served.mono moves.journal below explained
  | wrote =>
    rcases explained with succeeded | writing
    · exact .inl (succeeded.mono moves.journal)
    · exact (continues.phase writing).imp_left fun new => new.after below
  | succeeded => trivial

/-- A step keeps the invariant when it explains the entries that it adds. -/
theorem Fresh.step (fresh : Fresh s) (moves : Moves s t) (continues : Continues s t)
    (rows : ∀ row ∈ t.rows, row.fetchedAt ≤ t.now) (inFlight : t.inFlight = s.inFlight)
    (cache : ∀ pair entry, t.cache pair = some entry →
      (∃ row ∈ t.rows, row.pair = pair ∧ row.fetchedAt = entry.value.fetchedAt) ∧
        ∃ expiresAt, entry.expiresAt = some expiresAt ∧
          expiresAt ≤ entry.value.fetchedAt + priceFeedStaleMs)
    (flags : isWriting t.phase = false → ∀ row ∈ t.rows, ∀ since,
      t.staleFlag = some since ∨ t.staleSince = some since → row.fetchedAt ≤ since)
    (new : ∀ position entry, s.journal.length ≤ position → t.journal[position]? = some entry →
      Explained t position entry) : Fresh t := by
  refine ⟨rows, inFlight.trans fresh.inFlight, cache, flags, fun position entry found => ?_⟩
  by_cases below : position < s.journal.length
  · obtain ⟨rest, whole⟩ := moves.journal
    rw [← whole, List.getElem?_append_left below] at found
    exact (fresh.journal position entry found).mono moves continues found
  · exact new position entry (by omega) found

/-- A step that adds no entry and moves no rate. -/
theorem Fresh.quiet (fresh : Fresh s) (now : s.now ≤ t.now) (rows : t.rows = s.rows)
    (inFlight : t.inFlight = s.inFlight) (cache : t.cache = s.cache)
    (journal : t.journal = s.journal) (continues : Continues s t)
    (flags : isWriting t.phase = false → ∀ row ∈ s.rows, ∀ since,
      t.staleFlag = some since ∨ t.staleSince = some since → row.fetchedAt ≤ since) :
    Fresh t ∧ Moves s t := by
  have moves : Moves s t := by
    refine ⟨now, journal ▸ List.prefix_rfl, fun pair dead => .inr ⟨fun row member same => ?_, ?_⟩⟩
    · rw [rows] at member
      have := dead.rows row member same
      omega
    · rw [cache]
      exact dead.expired now
  refine ⟨fresh.step moves continues (fun row member => ?_) inFlight ?_ ?_ ?_, moves⟩
  · rw [rows] at member
    exact (fresh.rows row member).trans now
  · rw [cache, rows]
    exact fresh.cache
  · rw [rows]
    exact flags
  · intro position entry beyond found
    rw [journal, List.getElem?_eq_none beyond] at found
    cases found

theorem Fresh.tick (fresh : Fresh s) (elapsed : Nat) :
    Fresh (Clocked.tick elapsed s) ∧ Moves s (Clocked.tick elapsed s) := by
  have now : s.now ≤ (Clocked.tick elapsed s).now :=
    Int.le_add_of_nonneg_right (Int.natCast_nonneg elapsed)
  exact fresh.quiet now rfl rfl rfl rfl (Continues.same now rfl rfl) fresh.flags

theorem new_of_append (journal : t.journal = s.journal ++ [entry]) : New s t entry :=
  ⟨s.journal.length, Nat.le_refl _, by simp [journal]⟩

/-- The one entry that is added is the last one. -/
theorem explained_append (journal : t.journal = s.journal ++ [entry])
    (explained : Explained t s.journal.length entry) (position : Nat) (added : JournalEntry)
    (beyond : s.journal.length ≤ position) (found : t.journal[position]? = some added) :
    Explained t position added := by
  have inside := (List.getElem?_eq_some_iff.mp found).1
  rw [journal, List.length_append, List.length_singleton] at inside
  obtain rfl : position = s.journal.length := by omega
  rw [journal, List.getElem?_concat_length] at found
  obtain rfl := Option.some.inj found
  exact explained

/-- A write of the cycle that goes on. -/
theorem Fresh.write (fresh : Fresh s) (writing : isWriting s.phase = true) (now : t.now = s.now)
    (phase : t.phase = s.phase) (journal : t.journal = s.journal ++ [.wrote])
    (inFlight : t.inFlight = s.inFlight) (rows : ∀ row ∈ t.rows, row.fetchedAt ≤ t.now)
    (cache : ∀ pair entry, t.cache pair = some entry →
      (∃ row ∈ t.rows, row.pair = pair ∧ row.fetchedAt = entry.value.fetchedAt) ∧
        ∃ expiresAt, entry.expiresAt = some expiresAt ∧
          expiresAt ≤ entry.value.fetchedAt + priceFeedStaleMs) : Fresh t ∧ Moves s t := by
  have wrote : New s t .wrote := new_of_append journal
  have moves : Moves s t :=
    ⟨now ▸ Int.le_refl _, journal ▸ List.prefix_append _ _, fun _ _ => .inl wrote⟩
  have going : isWriting t.phase = true := phase ▸ writing
  refine ⟨fresh.step moves ⟨fun _ => .inr going, fun _ _ => .inl wrote⟩ rows inFlight cache ?_
    (explained_append journal (.inr going)), moves⟩
  intro idle
  rw [going] at idle
  cases idle

/-- The last step of a cycle that took the flag down. -/
theorem Fresh.finish (fresh : Fresh s) (flag : s.staleFlag = none) (lastRun : Option Int) :
    let t := { s with
      lastRun := lastRun
      consecutiveFailures := 0
      staleSince := none
      phase := .idle
      journal := s.journal ++ [.succeeded] }
    Fresh t ∧ Moves s t := by
  intro t
  have succeeded : New s t .succeeded := new_of_append rfl
  have moves : Moves s t :=
    ⟨Int.le_refl _, List.prefix_append _ _, fun _ dead => .inr ⟨dead.rows, dead.cache⟩⟩
  have continues : Continues s t := by
    refine ⟨fun _ => .inl succeeded, fun _ flagged => ?_⟩
    obtain ⟨since, found, _⟩ := flagged
    rw [flag] at found
    cases found
  refine ⟨fresh.step moves continues fresh.rows rfl fresh.cache ?_
    (explained_append rfl trivial), moves⟩
  rintro - row _ since (found | found)
  · cases flag.symm.trans found
  · cases found

/-- What became of a read. -/
theorem Fresh.answer (fresh : Fresh s)
    (explained : Explained { s with journal := s.journal ++ [entry] } s.journal.length entry) :
    let t := { s with journal := s.journal ++ [entry] }
    Fresh t ∧ Moves s t := by
  intro t
  have moves : Moves s t :=
    ⟨Int.le_refl _, List.prefix_append _ _, fun _ dead => .inr ⟨dead.rows, dead.cache⟩⟩
  exact ⟨fresh.step moves (Continues.same (Int.le_refl _) rfl rfl) fresh.rows rfl fresh.cache
    fresh.flags (explained_append rfl explained), moves⟩

end Moves

section Worker
variable {s : Feed} {tid : Nat}

/-- Time passes, and then comes the step that the cycle makes. -/
theorem cycle_step {t u v : Feed} {label : FeedAccess} {i : Reply FeedReply}
    (ticked : Moves t u) (moves : Moves u v) (mine : Mine tid t ∨ t.phase = .idle) :
    (freshness.contract tid).guar label i t v := ⟨ticked.trans moves, .inr mine⟩

structure Writing (tid : Nat) (fetched : Fetched) (made : List RateResult) (s : Feed) : Prop where
  phase : s.phase = .writing tid
  past : ∀ rate ∈ fetched.rates, rate.fetchedAt ≤ s.now
  made : ∀ rate ∈ made, priceRow fetched.cycle rate ∈ s.rows

theorem Writing.mine {fetched : Fetched} {made : List RateResult}
    (writing : Writing tid fetched made s) : Mine tid s := .inl writing.phase

theorem Writing.rely {t : Feed} {fetched : Fetched} {made : List RateResult}
    (writing : Writing tid fetched made s) (moved : (freshness.contract tid).rely s t) :
    Writing tid fetched made t := by
  have still := moved.2 writing.mine
  exact ⟨still.phase.trans writing.phase,
    fun rate member => (writing.past rate member).trans moved.1.now,
    fun rate member => still.rows ▸ writing.made rate member⟩

theorem Writing.tick {fetched : Fetched} {made : List RateResult}
    (writing : Writing tid fetched made s) (elapsed : Nat) :
    Writing tid fetched made (Clocked.tick elapsed s) :=
  ⟨writing.phase, fun rate member => (writing.past rate member).trans
    (Int.le_add_of_nonneg_right (Int.natCast_nonneg elapsed)), writing.made⟩

theorem Writing.isWriting {fetched : Fetched} {made : List RateResult}
    (writing : Writing tid fetched made s) : isWriting s.phase = true := by
  rw [writing.phase]
  rfl

theorem fetchRates_meets : (fetchRates tid).Meets (freshness.contract tid)
    (fun fetched => Writing tid fetched []) (fun _ t => t.phase = .failing tid) s := by
  rw [fetchRates, Proc.meets_access]
  intro t _ fresh _ i allowed
  have idle : t.phase = .idle := allowed
  obtain ⟨fresh', ticked⟩ := Fresh.tick fresh i.elapsed
  have unwritten : PriceFreshness.isWriting (Clocked.tick i.elapsed t).phase = false := by
    change PriceFreshness.isWriting t.phase = false
    rw [idle]
    rfl
  have kept : ∀ u : Feed, u.now = (Clocked.tick i.elapsed t).now → u.rows = t.rows →
      u.inFlight = t.inFlight → u.cache = t.cache → u.journal = t.journal →
      u.staleFlag = t.staleFlag → u.staleSince = t.staleSince →
      Fresh u ∧ Moves (Clocked.tick i.elapsed t) u := by
    intro u now rows inFlight cache journal flag since
    refine fresh'.quiet (now ▸ Int.le_refl _) rows inFlight cache journal (.idle unwritten) ?_
    rw [flag, since]
    exact fun _ => fresh'.flags unwritten
  dsimp only
  cases (if i.fails || i.lost then none else i.data.tickers) with
  | none =>
    obtain ⟨fresh'', moves⟩ := kept { Clocked.tick i.elapsed t with phase := .failing tid }
      rfl rfl rfl rfl rfl rfl rfl
    exact ⟨fresh'', cycle_step ticked moves (.inr idle), rfl⟩
  | some tickers =>
    obtain ⟨fresh'', moves⟩ := kept { Clocked.tick i.elapsed t with
      fetches := t.fetches ++ [(tickers, (Clocked.tick i.elapsed t).now)]
      phase := .writing tid } rfl rfl rfl rfl rfl rfl rfl
    refine ⟨fresh'', cycle_step ticked moves (.inr idle), rfl, fun rate member => ?_, by simp⟩
    simp only [rateResults, List.mem_cons, List.not_mem_nil, or_false] at member
    rcases member with rfl | rfl | rfl <;> exact Int.le_refl _

theorem createRow_meets {fetched : Fetched} {made others : List RateResult} {rate : RateResult}
    (member : rate ∈ fetched.rates) (writing : Writing tid fetched made s) :
    (createRow fetched.cycle rate others).Meets (freshness.contract tid)
      (fun _ => Writing tid fetched (made ++ [rate])) (fun _ _ => False) s := by
  rw [createRow, Proc.meets_access]
  intro t moved fresh _ i allowed
  obtain ⟨fails, lost⟩ : i.fails = false ∧ i.lost = false := allowed
  obtain ⟨fresh', ticked⟩ := Fresh.tick fresh i.elapsed
  have writing := writing.rely moved
  have later := writing.tick i.elapsed
  obtain ⟨fresh'', moves⟩ : Fresh (addRow fetched.cycle rate (Clocked.tick i.elapsed t)) ∧
      Moves (Clocked.tick i.elapsed t) (addRow fetched.cycle rate (Clocked.tick i.elapsed t)) := by
    refine fresh'.write later.isWriting rfl rfl rfl rfl (fun row member' => ?_) fun pair entry found => ?_
    · rcases List.mem_append.mp member' with old | new
      · exact fresh'.rows row old
      · obtain rfl := List.mem_singleton.mp new
        exact later.past rate member
    · obtain ⟨⟨row, there, same⟩, expires⟩ := fresh'.cache pair entry found
      exact ⟨⟨row, List.mem_append_left _ there, same⟩, expires⟩
  simp only [fails, lost, Bool.or_self, Bool.false_eq_true, if_false, Proc.outcome_ok]
  refine ⟨fresh'', cycle_step ticked moves (.inl writing.mine), later.phase, later.past,
    fun other made' => ?_⟩
  rcases List.mem_append.mp made' with old | new
  · exact List.mem_append_left _ (later.made other old)
  · obtain rfl := List.mem_singleton.mp new
    exact List.mem_append_right _ (List.mem_singleton_self _)

theorem createRows_meets {fetched : Fetched} {made rates : List RateResult}
    (member : ∀ rate ∈ rates, rate ∈ fetched.rates) (writing : Writing tid fetched made s) :
    (createRows fetched.cycle rates).Meets (freshness.contract tid)
      (fun _ => Writing tid fetched (made ++ rates)) (fun _ _ => False) s := by
  induction rates generalizing made s with
  | nil => simpa [createRows] using writing
  | cons rate others ih =>
    simp only [createRows, Proc.meets_bind]
    apply (createRow_meets (member rate (by simp)) writing).imp _ fun _ _ never => never
    intro _ t writing
    have rest := ih (fun other among => member other (List.mem_cons_of_mem _ among)) writing
    rwa [List.append_assoc] at rest

/-- A key expires before its rate is stale. -/
theorem setCache_meets {fetched : Fetched} {made : List RateResult} {rate : RateResult}
    (written : rate ∈ made) (writing : Writing tid fetched made s) :
    (setCache fetched.cycle rate).Meets (freshness.contract tid)
      (fun _ => Writing tid fetched made) (fun _ _ => False) s := by
  rw [setCache, Proc.meets_catching]
  refine served_meets fun t moved fresh i allowed => ?_
  obtain ⟨answered, inTime⟩ : (i.fails = false ∧ i.lost = false) ∧
      t.now + i.elapsed ≤ rate.fetchedAt + priceCacheTtlSec * 1000 := allowed
  obtain ⟨fresh', ticked⟩ := Fresh.tick fresh i.elapsed
  have writing := writing.rely moved
  have later := writing.tick i.elapsed
  dsimp only
  obtain ⟨fresh'', moves⟩ := fresh'.write (t := { Clocked.tick i.elapsed t with
      cache := set t.cache rate.pair (cachedRate fetched.cycle rate)
        (some ((Clocked.tick i.elapsed t).now + priceCacheTtlSec * 1000))
      journal := t.journal ++ [.wrote] }) later.isWriting rfl rfl rfl rfl fresh'.rows (by
    intro pair entry found
    by_cases same : pair = rate.pair
    · subst same
      obtain rfl := Option.some.inj (set_self.symm.trans found)
      refine ⟨⟨_, later.made rate written, rfl, rfl⟩, _, rfl, ?_⟩
      change t.now + i.elapsed + priceCacheTtlSec * 1000 ≤ rate.fetchedAt + priceFeedStaleMs
      unfold priceCacheTtlSec priceFeedStaleMs at *
      omega
    · exact fresh'.cache pair entry ((set_of_ne same).symm.trans found))
  exact ⟨answered, fresh'', cycle_step ticked moves (.inl writing.mine), later.phase, later.past,
    later.made⟩

structure Cleared (tid : Nat) (s : Feed) : Prop where
  phase : s.phase = .writing tid
  staleFlag : s.staleFlag = none

theorem delStale_meets {fetched : Fetched} {made : List RateResult}
    (writing : Writing tid fetched made s) : delStale.Meets (freshness.contract tid)
      (fun _ => Cleared tid) (fun _ _ => False) s := by
  rw [delStale, Proc.meets_catching]
  refine served_meets fun t moved fresh i answered => ?_
  obtain ⟨fresh', ticked⟩ := Fresh.tick fresh i.elapsed
  have writing := writing.rely moved
  have later := writing.tick i.elapsed
  dsimp only
  obtain ⟨fresh'', moves⟩ := fresh'.write (t := { Clocked.tick i.elapsed t with
    staleFlag := none, journal := t.journal ++ [.wrote] }) later.isWriting rfl rfl rfl rfl
    fresh'.rows fresh'.cache
  exact ⟨answered, fresh'', cycle_step ticked moves (.inl writing.mine), later.phase, rfl⟩

theorem cycleSuccess_meets (cleared : Cleared tid s) : cycleSuccess.Meets (freshness.contract tid)
    (fun _ _ => True) (fun _ _ => False) s := by
  rw [cycleSuccess, Proc.meets_access]
  intro t moved fresh _ i _
  obtain ⟨fresh', ticked⟩ := Fresh.tick fresh i.elapsed
  have mine : Mine tid s := .inl cleared.phase
  have still := moved.2 mine
  have flag : t.staleFlag = none := still.staleFlag.trans cleared.staleFlag
  obtain ⟨fresh'', moves⟩ := fresh'.finish flag (if i.fails then t.lastRun else some (t.now + i.elapsed))
  exact ⟨fresh'', cycle_step ticked moves (.inl (mine.still still)), trivial⟩

theorem writeRates_meets (creation : CreationOrder) {fetched : Fetched}
    (writing : Writing tid fetched [] s) : (writeRates creation.order fetched).Meets
      (freshness.contract tid) (fun _ _ => True) (fun _ _ => False) s := by
  have mem_rates (rate : RateResult) : rate ∈ creation.order fetched.rates ↔ rate ∈ fetched.rates :=
    (creation.perm _).mem_iff
  have cache (t : Feed) (written : Writing tid fetched fetched.rates t) :
      (Proc.each fetched.rates (setCache fetched.cycle)).Meets (freshness.contract tid)
        (fun _ => Writing tid fetched fetched.rates) (fun _ _ => False) t := by
    apply Proc.meets_each written
    intro rate member u written
    exact setCache_meets member written
  simp only [writeRates, Proc.meets_bind]
  apply (createRows_meets (fun rate => (mem_rates rate).mp) writing).imp _ fun _ _ never => never
  intro _ t written
  apply (cache t _).imp _ fun _ _ never => never
  · exact ⟨written.phase, written.past,
      fun rate member => written.made rate ((mem_rates rate).mpr member)⟩
  · intro _ u written
    exact (delStale_meets written).imp (fun _ _ => cycleSuccess_meets) fun _ _ never => never

/-- The cycle has failed, and the outage began after the last rates were fetched. -/
structure Failing (tid : Nat) (failure : Int × Int) (s : Feed) : Prop where
  phase : s.phase = .failing tid
  now : ∀ row ∈ s.rows, row.fetchedAt ≤ failure.1
  since : ∀ row ∈ s.rows, row.fetchedAt ≤ failure.2

theorem not_writing_of_failing (failing : s.phase = .failing tid) (elapsed : Nat) :
    isWriting (Clocked.tick elapsed s).phase = false := by
  change isWriting s.phase = false
  rw [failing]
  rfl

theorem cycleFailure_meets (failing : s.phase = .failing tid) :
    (cycleFailure tid).Meets (freshness.contract tid) (Failing tid) (fun _ _ => False) s := by
  rw [cycleFailure, Proc.meets_access]
  intro t moved fresh _ i _
  obtain ⟨fresh', ticked⟩ := Fresh.tick fresh i.elapsed
  have mine : Mine tid s := .inr failing
  have still := moved.2 mine
  have unwritten := not_writing_of_failing (still.phase.trans failing) i.elapsed
  have since : ∀ row ∈ t.rows,
      row.fetchedAt ≤ (t.staleSince.filter (· ≠ 0)).getD (Clocked.tick i.elapsed t).now := by
    intro row member
    cases found : t.staleSince.filter (· ≠ 0) with
    | none => exact fresh'.rows row member
    | some instant =>
      exact fresh'.flags unwritten row member instant (.inr (Option.filter_eq_some_iff.mp found).1)
  obtain ⟨fresh'', moves⟩ := fresh'.quiet (t := { Clocked.tick i.elapsed t with
      consecutiveFailures := t.consecutiveFailures + 1
      staleSince := some ((t.staleSince.filter (· ≠ 0)).getD (Clocked.tick i.elapsed t).now)
      phase := .failing tid }) (Int.le_refl _) rfl rfl rfl rfl (.idle unwritten) (by
    rintro - row member instant (flag | memory)
    · exact fresh'.flags unwritten row member instant (.inl flag)
    · obtain rfl := Option.some.inj memory
      exact since row member)
  exact ⟨fresh'', cycle_step ticked moves (.inl (mine.still still)), rfl, fresh'.rows, since⟩

theorem setStale_meets {failure : Int × Int} (failing : Failing tid failure s) :
    (setStale failure.1 failure.2).Meets (freshness.contract tid)
      (fun _ t => t.phase = .failing tid) (fun _ _ => False) s := by
  rw [setStale, Proc.meets_access]
  intro t moved fresh _ i _
  obtain ⟨fresh', ticked⟩ := Fresh.tick fresh i.elapsed
  have mine : Mine tid s := .inr failing.phase
  have still := moved.2 mine
  have failed : t.phase = .failing tid := still.phase.trans failing.phase
  have unwritten := not_writing_of_failing failed i.elapsed
  obtain ⟨fresh'', moves⟩ := fresh'.quiet (t := { Clocked.tick i.elapsed t with
      staleFlag := if i.fails then t.staleFlag else some failure.2
      staleSince := if staleAlertThresholdMs < failure.1 - failure.2 then some failure.1
        else t.staleSince }) (Int.le_refl _) rfl rfl rfl rfl (.idle unwritten) (by
    rintro - row member instant (flag | memory)
    · dsimp only at flag
      split at flag
      · exact fresh'.flags unwritten row member instant (.inl flag)
      · obtain rfl := Option.some.inj flag
        exact failing.since row (still.rows ▸ member)
    · dsimp only at memory
      split at memory
      · obtain rfl := Option.some.inj memory
        exact failing.now row (still.rows ▸ member)
      · exact fresh'.flags unwritten row member instant (.inr memory))
  exact ⟨fresh'', cycle_step ticked moves (.inl (mine.still still)), failed⟩

theorem setLastRun_meets {now : Int} (failing : s.phase = .failing tid) :
    (setLastRun now).Meets (freshness.contract tid) (fun _ _ => True) (fun _ _ => False) s := by
  rw [setLastRun, Proc.meets_access]
  intro t moved fresh _ i _
  obtain ⟨fresh', ticked⟩ := Fresh.tick fresh i.elapsed
  have mine : Mine tid s := .inr failing
  have still := moved.2 mine
  have unwritten := not_writing_of_failing (still.phase.trans failing) i.elapsed
  obtain ⟨fresh'', moves⟩ := fresh'.quiet (t := { Clocked.tick i.elapsed t with
      lastRun := if i.fails then t.lastRun else some now
      phase := .idle }) (Int.le_refl _) rfl rfl rfl rfl (.idle unwritten)
    fun _ => fresh'.flags unwritten
  exact ⟨fresh'', cycle_step ticked moves (.inl (mine.still still)), trivial⟩

theorem runCycle_meets (creation : CreationOrder) : (runCycle tid creation.order).Meets
    (freshness.contract tid) (fun _ _ => True) (fun _ _ => False) s := by
  simp only [runCycle, Proc.meets_catching, Proc.meets_bind]
  apply fetchRates_meets.imp
  · intro fetched t writing
    exact (writeRates_meets creation writing).imp (fun _ _ _ => trivial) fun _ _ never => never.elim
  · intro _ t failing
    apply (cycleFailure_meets failing).imp _ fun _ _ never => never
    intro failure u failing
    apply (setStale_meets failing).imp _ fun _ _ never => never
    intro _ v failing
    exact setLastRun_meets failing

/-- No row is waited for by nobody. -/
theorem finishRow_meets {position : Nat} : (finishRow position).Meets (freshness.contract tid)
    (fun _ _ => True) (fun _ _ => False) s := by
  rw [finishRow, Proc.meets_access]
  intro t _ fresh waiting i _
  simp [Fresh.inFlight fresh] at waiting

end Worker

section Readers
variable {s : Feed} {tid : Nat} {pair : AssetPair}

/-- A read that began here and was let through: earlier ones were turned away because the
pair is dead, or a rate was written since. -/
structure Admitted (pair : AssetPair) (since : Nat) (s : Feed) : Prop where
  began : since ≤ s.journal.length
  turned : ∀ earlier < since, s.journal[earlier]? = some (.rejected pair) →
    After s.journal earlier .wrote ∨ Dead pair s

theorem Admitted.moves {t : Feed} {since : Nat} (admitted : Admitted pair since s)
    (moves : Moves s t) : Admitted pair since t := by
  refine ⟨admitted.began.trans moves.journal.length_le, fun earlier before found => ?_⟩
  have below : earlier < s.journal.length := before.trans_le admitted.began
  obtain ⟨rest, whole⟩ := moves.journal
  rw [← whole, List.getElem?_append_left below] at found
  rcases admitted.turned earlier before found with wrote | dead
  · exact .inl (wrote.mono moves.journal)
  · exact (moves.dead pair dead).imp_left fun new => new.after below

/-- A reader that nothing fresh is found for is turned away. -/
theorem Fresh.reject (fresh : Fresh s)
    (barred : Dead pair s ∨ (isWriting s.phase = true ∧ Flagged s)) :
    let t := { s with journal := s.journal ++ [.rejected pair] }
    Fresh t ∧ Moves s t := by
  refine fresh.answer (.inr ?_)
  exact barred.imp_left fun dead => ⟨dead.rows, dead.cache⟩

/-- What is in the cache is not older than the rows. -/
theorem Fresh.dead (fresh : Fresh s)
    (rows : ∀ row ∈ s.rows, row.pair = pair → priceFeedStaleMs < s.now - row.fetchedAt) :
    Dead pair s := by
  refine ⟨rows, ?_⟩
  rw [Option.eq_none_iff_forall_ne_some]
  intro value found
  obtain ⟨entry, there, lives, rfl⟩ := get_eq_some.mp found
  obtain ⟨⟨row, member, same, fetched⟩, expiresAt, expires, le⟩ := fresh.cache pair entry there
  have stale := rows row member same
  simp only [Entry.live, expires, Option.all_some, decide_eq_true_eq] at lives
  omega

theorem checkStale_meets : (checkStale pair).Meets (freshness.contract tid)
    (fun since => Admitted pair since) (fun _ _ => True) s := by
  refine statement_meets fun t _ fresh i _ => ?_
  obtain ⟨fresh', ticked⟩ := Fresh.tick fresh i.elapsed
  refine ⟨fun _ => ⟨fresh', ⟨ticked, .inl ⟨rfl, rfl, rfl, rfl⟩⟩, trivial⟩, fun _ => ?_⟩
  have admitted (down : ¬ Flagged (Clocked.tick i.elapsed t)) :
      Admitted pair t.journal.length (Clocked.tick i.elapsed t) := by
    refine ⟨Nat.le_refl _, fun earlier _ found => ?_⟩
    rcases fresh'.journal earlier _ found with wrote | dead | ⟨_, flagged⟩
    · exact .inl wrote
    · exact .inr dead
    · exact absurd flagged down
  cases flag : t.staleFlag with
  | none =>
    have flag' : (Clocked.tick i.elapsed t).staleFlag = none := flag
    have down : ¬ Flagged (Clocked.tick i.elapsed t) := by
      rintro ⟨since, found, _⟩
      cases flag'.symm.trans found
    dsimp only
    exact ⟨fresh', ⟨ticked, .inl ⟨rfl, rfl, rfl, rfl⟩⟩, fun _ => trivial, fun _ => admitted down⟩
  | some staleFlag =>
    have flag' : (Clocked.tick i.elapsed t).staleFlag = some staleFlag := flag
    dsimp only
    split
    · rename_i past
      have barred : Dead pair (Clocked.tick i.elapsed t) ∨
          (isWriting (Clocked.tick i.elapsed t).phase = true ∧ Flagged (Clocked.tick i.elapsed t)) := by
        cases going : isWriting (Clocked.tick i.elapsed t).phase with
        | true => exact .inr ⟨rfl, staleFlag, flag', past⟩
        | false =>
          refine .inl (fresh'.dead fun row member _ => ?_)
          have := fresh'.flags going row member staleFlag (.inl flag')
          omega
      obtain ⟨fresh'', moves⟩ := fresh'.reject barred
      exact ⟨fresh'', ⟨ticked.trans moves, .inl ⟨rfl, rfl, rfl, rfl⟩⟩, fun _ => trivial,
        fun _ => trivial⟩
    · rename_i young
      have down : ¬ Flagged (Clocked.tick i.elapsed t) := by
        rintro ⟨since, found, past⟩
        obtain rfl := Option.some.inj (flag'.symm.trans found)
        exact young past
      exact ⟨fresh', ⟨ticked, .inl ⟨rfl, rfl, rfl, rfl⟩⟩, fun _ => trivial, fun _ => admitted down⟩

/-- A pair that is not dead: what turned earlier readers away is over. -/
theorem Fresh.serve {since : Nat} {age : Int} (fresh : Fresh s) (source : Option Nat)
    (rate : CurrentRate) (admitted : Admitted pair since s) (young : age ≤ priceFeedStaleMs)
    (lives : ¬ Dead pair s) :
    let t := { s with journal := s.journal ++ [.served ⟨pair, since, source, rate, age, s.phase⟩] }
    Fresh t ∧ Moves s t := by
  refine fresh.answer ⟨admitted.began, young, fun earlier before found => ?_⟩
  have below : earlier < s.journal.length := before.trans_le admitted.began
  rw [List.getElem?_append_left below] at found
  have inside {later : Nat} {entry : JournalEntry} (there : s.journal[later]? = some entry) :
      later < s.journal.length := (List.getElem?_eq_some_iff.mp there).1
  rcases admitted.turned earlier before found with ⟨between, beyond, wrote⟩ | dead
  · refine ⟨⟨between, inside wrote, beyond, ?_⟩, fun idle => ?_⟩
    · rw [List.getElem?_append_left (inside wrote), wrote]
    · rcases fresh.journal between .wrote wrote with ⟨later, after, succeeded⟩ | writing
      · refine ⟨later, inside succeeded, beyond.trans after, ?_⟩
        rw [List.getElem?_append_left (inside succeeded), succeeded]
      · cases writing.symm.trans idle
  · exact absurd dead lives

theorem getCached_meets {since : Nat} (admitted : Admitted pair since s) :
    (getCached pair since).Meets (freshness.contract tid)
      (fun _ => Admitted pair since) (fun _ _ => True) s := by
  refine statement_meets fun t moved fresh i _ => ?_
  obtain ⟨fresh', ticked⟩ := Fresh.tick fresh i.elapsed
  have admitted := (admitted.moves moved.1).moves ticked
  refine ⟨fun _ => ⟨fresh', ⟨ticked, .inl ⟨rfl, rfl, rfl, rfl⟩⟩, trivial⟩, fun _ => ?_⟩
  cases found : get (Clocked.tick i.elapsed t).now (Clocked.tick i.elapsed t).cache pair with
  | none => exact ⟨fresh', ⟨ticked, .inl ⟨rfl, rfl, rfl, rfl⟩⟩, fun _ => trivial, fun _ => admitted⟩
  | some cached =>
    have lives : ¬ Dead pair (Clocked.tick i.elapsed t) := by
      intro dead
      cases dead.cache.symm.trans found
    have young : (Clocked.tick i.elapsed t).now - cached.fetchedAt ≤ priceFeedStaleMs := by
      obtain ⟨entry, there, lives, rfl⟩ := get_eq_some.mp found
      obtain ⟨_, expiresAt, expires, le⟩ := fresh'.cache pair entry there
      simp only [Entry.live, expires, Option.all_some, decide_eq_true_eq] at lives
      omega
    obtain ⟨fresh'', moves⟩ := fresh'.serve (some cached.cycle) cached.rate
      admitted young lives
    exact ⟨fresh'', ⟨ticked.trans moves, .inl ⟨rfl, rfl, rfl, rfl⟩⟩, fun _ => trivial,
      fun _ => admitted.moves moves⟩

theorem latestRate_none {rows : List PriceFeedRow} (missing : latestRate pair rows = none) :
    ∀ row ∈ rows, row.pair ≠ pair := by
  intro row member same
  rw [latestRate] at missing
  have listed : row ∈ rows.filter fun row => row.pair = pair :=
    List.mem_filter.mpr ⟨member, decide_eq_true same⟩
  have found := @List.isSome_maxOn?_iff _ _ _ _ PriceFeedRow.fetchedAt _ |>.mpr
    (List.ne_nil_of_mem listed)
  rw [missing] at found
  cases found

theorem latestRate_some {rows : List PriceFeedRow} {row : PriceFeedRow}
    (found : latestRate pair rows = some row) : row ∈ rows ∧ row.pair = pair ∧
      ∀ other ∈ rows, other.pair = pair → other.fetchedAt ≤ row.fetchedAt := by
  rw [latestRate] at found
  obtain ⟨member, same⟩ := List.mem_filter.mp (List.maxOn?_mem found)
  refine ⟨member, of_decide_eq_true same, fun other there same' => ?_⟩
  have listed : other ∈ rows.filter fun row => row.pair = pair :=
    List.mem_filter.mpr ⟨there, decide_eq_true same'⟩
  have latest := @List.le_apply_get_maxOn?_of_mem _ _ _ _ _ PriceFeedRow.fetchedAt _ _ listed
  simpa [found] using latest

theorem getLatestRate_meets {since : Nat} (admitted : Admitted pair since s) :
    (getLatestRate pair since).Meets (freshness.contract tid)
      (fun _ _ => True) (fun _ _ => True) s := by
  refine statement_meets fun t moved fresh i _ => ?_
  obtain ⟨fresh', ticked⟩ := Fresh.tick fresh i.elapsed
  have admitted := (admitted.moves moved.1).moves ticked
  refine ⟨fun _ => ⟨fresh', ⟨ticked, .inl ⟨rfl, rfl, rfl, rfl⟩⟩, trivial⟩, fun _ => ?_⟩
  cases found : latestRate pair (Clocked.tick i.elapsed t).rows with
  | none =>
    have dead : Dead pair (Clocked.tick i.elapsed t) := by
      refine fresh'.dead fun row member same => ?_
      exact absurd (latestRate_none found row member) (not_not.mpr same)
    obtain ⟨fresh'', moves⟩ := fresh'.reject (.inl dead)
    exact ⟨fresh'', ⟨ticked.trans moves, .inl ⟨rfl, rfl, rfl, rfl⟩⟩, fun _ => trivial,
      fun _ => trivial⟩
  | some dbRate =>
    obtain ⟨member, same, latest⟩ := latestRate_some found
    dsimp only
    cases past : isPastStaleness dbRate.fetchedAt (Clocked.tick i.elapsed t).now with
    | true =>
      have stale := of_decide_eq_true past
      have dead : Dead pair (Clocked.tick i.elapsed t) := by
        refine fresh'.dead fun row there same => ?_
        have := latest row there same
        omega
      obtain ⟨fresh'', moves⟩ := fresh'.reject (.inl dead)
      exact ⟨fresh'', ⟨ticked.trans moves, .inl ⟨rfl, rfl, rfl, rfl⟩⟩, fun _ => trivial,
        fun _ => trivial⟩
    | false =>
      have young : (Clocked.tick i.elapsed t).now - dbRate.fetchedAt ≤ priceFeedStaleMs :=
        Int.not_lt.mp (of_decide_eq_false past)
      have lives : ¬ Dead pair (Clocked.tick i.elapsed t) := fun dead =>
        Int.not_lt.mpr young (dead.rows dbRate member same)
      obtain ⟨fresh'', moves⟩ := fresh'.serve none
        ⟨dbRate.rateBuy, dbRate.rateSell⟩ admitted young lives
      exact ⟨fresh'', ⟨ticked.trans moves, .inl ⟨rfl, rfl, rfl, rfl⟩⟩, fun _ => trivial,
        fun _ => trivial⟩

theorem getCurrentRate_meets : (getCurrentRate pair).Meets (freshness.contract tid)
    (fun _ _ => True) (fun _ _ => True) s := by
  simp only [getCurrentRate, Proc.meets_bind]
  apply checkStale_meets.imp _ fun _ _ _ => trivial
  intro since t admitted
  apply (getCached_meets admitted).imp _ fun _ _ _ => trivial
  intro cached u admitted
  cases cached with
  | none => exact getLatestRate_meets admitted
  | some rate => trivial

end Readers

theorem procedure_meets {tid : Nat} {operation : Operation} {s : Feed} :
    (procedure tid operation).Meets (freshness.contract tid) (fun _ _ => True) (fun _ _ => True) s := by
  cases operation with
  | runCycle creation => exact (runCycle_meets creation).imp (fun _ _ _ => trivial) fun _ _ _ => trivial
  | finishRow position => exact finishRow_meets.imp (fun _ _ _ => trivial) fun _ _ _ => trivial
  | getCurrentRate pair =>
    rw [procedure, Proc.meets_bind]
    exact getCurrentRate_meets.imp (fun _ _ _ => trivial) fun _ _ _ => trivial

theorem opened_fresh (now : Int) : Fresh (opened now) := by
  constructor <;> simp [opened]

/-- A rate that is served is fresh. After a read of the pair was turned away, one that begins
later is not served before a rate was written, nor, when the worker is not writing, before a
cycle has succeeded. -/
theorem served_fresh {now : Int} {trace : List (Nat × Event Feed (Reply FeedReply) FeedAccess)}
    {c : Config Feed (Reply FeedReply) FeedAccess AppError Unit}
    (run : Runs procedure (opened now) trace c)
    (orderly : ∀ e ∈ trace, Orderly e.2.label e.2.answer e.2.before) :
    ∀ position read, c.shared.journal[position]? = some (.served read) →
      Served c.shared.journal position read := by
  have held : freshness.Holds (fun _ _ _ => True) (fun _ _ _ => True) trace c :=
    run.holds freshness_sound (fun _ _ _ _ _ _ => trivial) (fun _ _ _ _ _ _ => trivial)
      (opened_fresh now) (fun _ => trivial) (fun _ _ _ _ _ => procedure_meets) orderly
  exact fun position read found => held.inv.journal position (.served read) found

def outage : List (Choice Operation (Reply FeedReply)) :=
  succeedingCycle 0 ordinary ++ [.start (.getCurrentRate .satNgn),
    .run 1 { soon with elapsed := 1200001 }, .run 1 soon, .run 1 soon]

def recovered : List (Choice Operation (Reply FeedReply)) :=
  outage ++ succeedingCycle 2 ordinary ++ [.start (.getCurrentRate .satNgn), .run 3 soon, .run 3 soon]

/-- The read comes when the rows of the next cycle are there and the cache is not. -/
def recovering : List (Choice Operation (Reply FeedReply)) :=
  outage ++ (succeedingCycle 2 ordinary).take 5 ++
    [.start (.getCurrentRate .satNgn), .run 3 soon, .run 3 soon, .run 3 soon]

def recoveredRead : ServedRate := ⟨.satNgn, 17, some 1, ⟨1, 0.99⟩, 0, .idle⟩

def recoveringRead : ServedRate := ⟨.satNgn, 12, none, ⟨1.005, 0.98505⟩, 0, .writing 2⟩

def turnedThenServed (read : ServedRate) (position : Nat)
    (trace : List (Nat × Event Feed (Reply FeedReply) FeedAccess))
    (c : Config Feed (Reply FeedReply) FeedAccess AppError Unit) : Bool :=
  trace.all (fun e => Orderly e.2.label e.2.answer e.2.before) &&
    decide (c.shared.journal[8]? = some (.rejected .satNgn)) &&
    decide (c.shared.journal[position]? = some (.served read))

theorem of_turnedThenServed {read : ServedRate} {position : Nat}
    {trace : List (Nat × Event Feed (Reply FeedReply) FeedAccess)}
    {c : Config Feed (Reply FeedReply) FeedAccess AppError Unit}
    (checked : turnedThenServed read position trace c = true) :
    (∀ e ∈ trace, Orderly e.2.label e.2.answer e.2.before) ∧
      c.shared.journal[8]? = some (.rejected .satNgn) ∧
      c.shared.journal[position]? = some (.served read) := by
  simp only [turnedThenServed, Bool.and_eq_true, List.all_eq_true, decide_eq_true_eq] at checked
  exact ⟨checked.1.1, checked.1.2, checked.2⟩

theorem served_fresh_sample : ∃ trace c, Runs procedure (opened 0) trace c ∧
    c.shared.journal[8]? = some (.rejected .satNgn) ∧
    Served c.shared.journal 17 recoveredRead := by
  obtain ⟨trace, c, run, checked⟩ := exists_run procedure (opened 0) recovered
    (turnedThenServed recoveredRead 17) (by decide +kernel)
  obtain ⟨orderly, rejected, served⟩ := of_turnedThenServed checked
  exact ⟨trace, c, run, rejected, served_fresh run orderly 17 recoveredRead served⟩

/-- A reader is served again while the cycle that ends the outage is still writing. -/
theorem served_before_success : ∃ trace c, Runs procedure (opened 0) trace c ∧
    (∀ e ∈ trace, Orderly e.2.label e.2.answer e.2.before) ∧
    c.shared.journal[8]? = some (.rejected .satNgn) ∧ 8 < recoveringRead.since ∧
    c.shared.journal[12]? = some (.served recoveringRead) ∧
    ∀ later < 12, 8 < later → c.shared.journal[later]? ≠ some .succeeded := by
  obtain ⟨trace, c, run, checked⟩ := exists_run procedure (opened 0) recovering
    (fun trace c => turnedThenServed recoveringRead 12 trace c &&
      decide (∀ later < 12, 8 < later → c.shared.journal[later]? ≠ some JournalEntry.succeeded))
    (by decide +kernel)
  rw [Bool.and_eq_true, decide_eq_true_eq] at checked
  obtain ⟨orderly, rejected, served⟩ := of_turnedThenServed checked.1
  exact ⟨trace, c, run, orderly, rejected, by decide, served, checked.2⟩

end Bitmonie.PriceFreshness
