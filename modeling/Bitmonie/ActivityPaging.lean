import Bitmonie.Activity

/-! What a customer reads who follows the cursors of the activity feed to its end. -/
namespace Bitmonie.ActivityPaging
open ActivityService
open Paging (Pager Separates)

def eligible (tables : Tables) (userId : Nat) : List ActivityItem :=
  (tables.logs.filter (logWhere userId)).filterMap logItem ++
    ((tables.inflows.filter (inflowWhere userId)).filter trusted).map buildInflowItem

def feed (tables : Tables) (userId limit : Nat) : Pager Cursor ActivityItem where
  items cursor := (getPage tables userId cursor limit).items
  next cursor := (getPage tables userId cursor limit).nextCursor

/-- Following the cursors ends, with every eligible item once and never a newer item after
an older one. -/
def PagesExactly (tables : Tables) (userId limit : Nat) : Prop :=
  ∃ items, (feed tables userId limit).Yields none items ∧
    items.Perm (eligible tables userId) ∧
    items.Pairwise fun a b => b.occurredAt ≤ a.occurredAt

def key (item : ActivityItem) : RowKey := ⟨item.occurredAt, item.rowId⟩

/-- The rows after the cursor that the query of the item's table returns before it. -/
def rowsAhead (tables : Tables) (userId : Nat) (cursor : Option Cursor)
    (item : ActivityItem) : Nat :=
  match item.source with
  | .log => tables.logs.countP fun row =>
      logWhere userId row && cursorOr cursor row.key && !newestFirst (key item) row.key
  | .inflow => tables.inflows.countP fun row =>
      inflowWhere userId row && cursorOr cursor row.key && !newestFirst (key item) row.key

/-- The eligible items after the cursor that stand among the first `limit` rows of their
own table. -/
def inReach (tables : Tables) (userId limit : Nat) (cursor : Option Cursor) :
    List ActivityItem :=
  (eligible tables userId).filter fun item =>
    cursorOr cursor (key item) && decide (rowsAhead tables userId cursor item < limit)

/-- The cursor's id, which is the id of one table, splits the rows of the other that have
its very time as the feed does: all of the inflows come after a log row, none of the log
rows after an inflow. -/
def CutsCleanly (tables : Tables) (userId : Nat) (cursor : Option Cursor) : Prop :=
  ∀ last, cursor = some last → ∀ item ∈ eligible tables userId,
    item.occurredAt = last.occurredAt → item.source ≠ last.source →
      (item.rowId < last.id ↔ last.source = .log)

/-- An inflow that is pushed out of reach, by inflows that are not shown among others, is
behind a full page or behind all that is in reach. -/
def Covers (tables : Tables) (userId limit : Nat) (cursor : Option Cursor) : Prop :=
  ∀ item ∈ eligible tables userId, item.source = .inflow →
    cursorOr cursor (key item) = true → limit ≤ rowsAhead tables userId cursor item →
      limit ≤ (inReach tables userId limit cursor).countP (fun other => feedOrder other item) ∨
        (inReach tables userId limit cursor ≠ [] ∧
          ∀ other ∈ inReach tables userId limit cursor, feedOrder other item = true)

structure Serves (tables : Tables) (userId limit : Nat) (cursor : Option Cursor) : Prop where
  cuts : CutsCleanly tables userId cursor
  covers : Covers tables userId limit cursor

section Items

variable {tables : Tables} {userId limit : Nat} {cursor : Option Cursor}

theorem mem_eligible {item : ActivityItem} : item ∈ eligible tables userId ↔
    (∃ row ∈ tables.logs, logWhere userId row = true ∧ logItem row = some item) ∨
    (∃ row ∈ tables.inflows, inflowWhere userId row = true ∧ trusted row = true ∧
      buildInflowItem row = item) := by
  simp only [eligible, List.mem_append, List.mem_filterMap, List.mem_map, List.mem_filter]
  grind

theorem logItem_eq {row : LogRow} {item : ActivityItem} (built : logItem row = some item) :
    item.source = .log ∧ key item = row.key := by
  obtain ⟨type, -, rfl⟩ := Option.map_eq_some_iff.1 built
  exact ⟨rfl, rfl⟩

theorem logItem_of_where {row : LogRow} (kept : logWhere userId row = true) :
    ∃ item, logItem row = some item := by
  simp only [logWhere, Bool.and_eq_true] at kept
  obtain ⟨type, typed⟩ := Option.isSome_iff_exists.1 kept.2
  exact ⟨buildLogItem row type, by simp [logItem, typed]⟩

theorem log_row_unique {a b : LogRow} (ina : a ∈ tables.logs) (inb : b ∈ tables.logs)
    (same : a.key.id = b.key.id) : a = b :=
  List.inj_on_of_nodup_map tables.logIds ina inb same

theorem inflow_row_unique {a b : InflowRow} (ina : a ∈ tables.inflows)
    (inb : b ∈ tables.inflows) (same : a.key.id = b.key.id) : a = b :=
  List.inj_on_of_nodup_map tables.inflowIds ina inb same

/-- The cursor of an eligible item is its own. -/
theorem eligible_unique {a b : ActivityItem} (ina : a ∈ eligible tables userId)
    (inb : b ∈ eligible tables userId)
    (same : encodeCursorFromItem a = encodeCursorFromItem b) : a = b := by
  have sources : a.source = b.source := congrArg Cursor.source same
  have ids : a.rowId = b.rowId := congrArg Cursor.id same
  rcases mem_eligible.1 ina with ⟨row, among, -, built⟩ | ⟨row, among, -, -, rfl⟩ <;>
    rcases mem_eligible.1 inb with ⟨row', among', -, built'⟩ | ⟨row', among', -, -, rfl⟩
  · obtain ⟨-, keyed⟩ := logItem_eq built
    obtain ⟨-, keyed'⟩ := logItem_eq built'
    have rows : row = row' := log_row_unique among among' (by rw [← keyed, ← keyed']; exact ids)
    subst rows
    exact Option.some.inj (built.symm.trans built')
  · rw [(logItem_eq built).1] at sources
    exact absurd sources (by simp [buildInflowItem])
  · rw [(logItem_eq built').1] at sources
    exact absurd sources (by simp [buildInflowItem])
  · rw [inflow_row_unique among among' ids]

theorem eligible_separates : Separates feedOrder (eligible tables userId) := by
  intro a ina b inb ab ba
  exact eligible_unique ina inb
    (Cursor.ahead_antisymm (feedOrder_iff.1 ab) (feedOrder_iff.1 ba))

end Items

section Queries

variable {Row : Type} {rowKey : Row → RowKey} {kept : Row → Bool}
  {cursor : Option Cursor} {limit : Nat} {rows : List Row} {row : Row}

/-- The rows of a query, in the order of the database, before the limit. -/
theorem findMany_split : findMany rowKey kept cursor limit rows =
    ((rows.filter fun row => kept row && cursorOr cursor (rowKey row)).mergeSort
      fun a b => newestFirst (rowKey a) (rowKey b)).take limit := rfl

theorem findMany_subset (found : row ∈ findMany rowKey kept cursor limit rows) :
    row ∈ rows ∧ kept row = true ∧ cursorOr cursor (rowKey row) = true := by
  have among := List.mem_mergeSort.1 (List.mem_of_mem_take found)
  simpa [and_assoc] using among

theorem findMany_nodup (distinct : rows.Nodup) :
    (findMany rowKey kept cursor limit rows).Nodup :=
  ((List.mergeSort_perm _ _).nodup_iff.2 (distinct.filter _)).sublist (List.take_sublist _ _)

/-- A row is returned when fewer than `limit` of the others come before it. -/
theorem mem_findMany (ids : (rows.map fun row => (rowKey row).id).Nodup) (among : row ∈ rows)
    (fits : kept row = true) (passes : cursorOr cursor (rowKey row) = true) :
    row ∈ findMany rowKey kept cursor limit rows ↔
      (rows.countP fun other => kept other && cursorOr cursor (rowKey other) &&
        !newestFirst (rowKey row) (rowKey other)) < limit := by
  have apart : Separates (fun a b => newestFirst (rowKey a) (rowKey b))
      (rows.filter fun row => kept row && cursorOr cursor (rowKey row)) := by
    intro a ina b inb ab ba
    rw [newestFirst_iff] at ab ba
    exact List.inj_on_of_nodup_map ids (List.mem_filter.1 ina).1 (List.mem_filter.1 inb).1
      (by omega)
  rw [findMany_split, Paging.mem_take_sort_iff (newestFirst_laws rowKey) apart
    ((List.Nodup.of_map _ ids).filter _) (List.mem_filter.2 ⟨among, by simp [fits, passes]⟩),
    List.countP_filter]
  simp only [Bool.and_comm]

/-- A query that leaves a row out returns `limit` rows, all before it. -/
theorem findMany_full (among : row ∈ rows) (fits : kept row = true)
    (passes : cursorOr cursor (rowKey row) = true)
    (left : row ∉ findMany rowKey kept cursor limit rows) :
    (findMany rowKey kept cursor limit rows).length = limit ∧
      ∀ other ∈ findMany rowKey kept cursor limit rows,
        newestFirst (rowKey other) (rowKey row) = true := by
  rw [findMany_split] at left ⊢
  have laws := newestFirst_laws rowKey
  have listed : row ∈ rows.filter fun row => kept row && cursorOr cursor (rowKey row) :=
    List.mem_filter.2 ⟨among, by simp [fits, passes]⟩
  refine ⟨?_, fun other front => laws.le_of_not_mem_take front listed left⟩
  rw [List.length_take]
  by_contra short
  rw [List.take_of_length_le (by omega)] at left
  exact left (List.mem_mergeSort.2 listed)

end Queries

section Page

variable {tables : Tables} {userId limit : Nat} {cursor : Option Cursor}

abbrev fetchedLogs (tables : Tables) (userId limit : Nat) (cursor : Option Cursor) :
    List LogRow :=
  findMany LogRow.key (logWhere userId) cursor limit tables.logs

abbrev fetchedInflows (tables : Tables) (userId limit : Nat) (cursor : Option Cursor) :
    List InflowRow :=
  findMany InflowRow.key (inflowWhere userId) cursor limit tables.inflows

def candidates (tables : Tables) (userId limit : Nat) (cursor : Option Cursor) :
    List ActivityItem :=
  (fetchedLogs tables userId limit cursor).filterMap logItem ++
    ((fetchedInflows tables userId limit cursor).filter trusted).map buildInflowItem

def page (tables : Tables) (userId limit : Nat) (cursor : Option Cursor) :
    List ActivityItem :=
  ((candidates tables userId limit cursor).mergeSort feedOrder).take limit

theorem items_eq : (feed tables userId limit).items cursor = page tables userId limit cursor :=
  rfl

theorem next_eq : (feed tables userId limit).next cursor =
    if decide (limit < (candidates tables userId limit cursor).length) ||
        (fetchedLogs tables userId limit cursor).length == limit ||
        (fetchedInflows tables userId limit cursor).length == limit then
      (page tables userId limit cursor).getLast?.map encodeCursorFromItem
    else none := by
  rw [← (List.mergeSort_perm (candidates tables userId limit cursor) feedOrder).length_eq]
  rfl

theorem mem_candidates {item : ActivityItem} :
    item ∈ candidates tables userId limit cursor ↔
    (∃ row ∈ fetchedLogs tables userId limit cursor, logItem row = some item) ∨
    (∃ row ∈ fetchedInflows tables userId limit cursor, trusted row = true ∧
      buildInflowItem row = item) := by
  simp only [candidates, List.mem_append, List.mem_filterMap, List.mem_map, List.mem_filter]
  grind

theorem logs_nodup : tables.logs.Nodup := List.Nodup.of_map _ tables.logIds

theorem inflows_nodup : tables.inflows.Nodup := List.Nodup.of_map _ tables.inflowIds

/-- Items of different tables, and of different rows of one, differ. -/
theorem items_nodup {logs : List LogRow} {inflows : List InflowRow} (logRows : logs.Nodup)
    (inflowRows : inflows.Nodup) (inLogs : ∀ row ∈ logs, row ∈ tables.logs)
    (inInflows : ∀ row ∈ inflows, row ∈ tables.inflows) :
    (logs.filterMap logItem ++ (inflows.filter trusted).map buildInflowItem).Nodup := by
  refine List.Nodup.append ?_ ?_ ?_
  · rw [List.Nodup, List.pairwise_filterMap]
    refine logRows.imp_of_mem ?_
    intro a b ina inb differ item built item' built' same
    subst same
    exact differ (log_row_unique (inLogs a ina) (inLogs b inb)
      (by rw [← (logItem_eq built).2, ← (logItem_eq built').2]))
  · refine List.Nodup.map_on ?_ (inflowRows.filter _)
    intro a ina b inb same
    exact inflow_row_unique (inInflows a (List.mem_filter.1 ina).1)
      (inInflows b (List.mem_filter.1 inb).1) (congrArg ActivityItem.rowId same)
  · intro item log inflow
    obtain ⟨row, -, built⟩ := List.mem_filterMap.1 log
    obtain ⟨row', -, rfl⟩ := List.mem_map.1 inflow
    exact absurd (logItem_eq built).1 (by simp [buildInflowItem])

theorem eligible_nodup : (eligible tables userId).Nodup :=
  items_nodup (logs_nodup.filter _) (inflows_nodup.filter _)
    (fun _ among => (List.mem_filter.1 among).1) (fun _ among => (List.mem_filter.1 among).1)

theorem candidates_nodup : (candidates tables userId limit cursor).Nodup :=
  items_nodup (findMany_nodup logs_nodup) (findMany_nodup inflows_nodup)
    (fun _ among => (findMany_subset among).1) (fun _ among => (findMany_subset among).1)

/-- The candidates are the eligible items in reach. -/
theorem mem_candidates_iff {item : ActivityItem} :
    item ∈ candidates tables userId limit cursor ↔
      item ∈ inReach tables userId limit cursor := by
  rw [mem_candidates, inReach, List.mem_filter, mem_eligible]
  simp only [Bool.and_eq_true, decide_eq_true_eq]
  constructor
  · rintro (⟨row, found, built⟩ | ⟨row, found, shown, rfl⟩)
    · obtain ⟨among, fits, passes⟩ := findMany_subset found
      obtain ⟨source, keyed⟩ := logItem_eq built
      refine ⟨.inl ⟨row, among, fits, built⟩, keyed ▸ passes, ?_⟩
      simpa only [rowsAhead, source, keyed] using
        (mem_findMany tables.logIds among fits passes).1 found
    · obtain ⟨among, fits, passes⟩ := findMany_subset found
      exact ⟨.inr ⟨row, among, fits, shown, rfl⟩, passes,
        (mem_findMany tables.inflowIds among fits passes).1 found⟩
  · rintro ⟨⟨row, among, fits, built⟩ | ⟨row, among, fits, shown, rfl⟩, passes, few⟩
    · obtain ⟨source, keyed⟩ := logItem_eq built
      simp only [rowsAhead, source, keyed] at few passes
      exact .inl ⟨row, (mem_findMany tables.logIds among fits passes).2 few, built⟩
    · exact .inr ⟨row, (mem_findMany tables.inflowIds among fits passes).2 few, shown, rfl⟩

theorem candidates_perm : (candidates tables userId limit cursor).Perm
    (inReach tables userId limit cursor) :=
  (List.perm_ext_iff_of_nodup candidates_nodup (eligible_nodup.filter _)).2
    fun _ => mem_candidates_iff

/-- A log item out of reach is behind `limit` candidates. -/
theorem log_behind {item : ActivityItem} (listed : item ∈ eligible tables userId)
    (source : item.source = .log) (passes : cursorOr cursor (key item) = true)
    (left : item ∉ candidates tables userId limit cursor) :
    limit ≤ (candidates tables userId limit cursor).countP
      fun other => feedOrder other item := by
  rcases mem_eligible.1 listed with ⟨row, among, fits, built⟩ | ⟨row, -, -, -, rfl⟩
  swap
  · exact absurd source (by simp [buildInflowItem])
  obtain ⟨-, keyed⟩ := logItem_eq built
  rw [keyed] at passes
  have out : row ∉ fetchedLogs tables userId limit cursor := fun found =>
    left (mem_candidates.2 (.inl ⟨row, found, built⟩))
  obtain ⟨full, before⟩ := findMany_full among fits passes out
  have whole : ((fetchedLogs tables userId limit cursor).filterMap logItem).length = limit := by
    rw [List.length_filterMap_eq_countP, List.countP_eq_length.2 ?_, full]
    intro other found
    obtain ⟨shown, built'⟩ := logItem_of_where (findMany_subset found).2.1
    simp [built']
  have ahead : ((fetchedLogs tables userId limit cursor).filterMap logItem).countP
      (fun other => feedOrder other item) = limit := by
    rw [List.countP_eq_length.2, whole]
    intro other shown
    obtain ⟨otherRow, found, built'⟩ := List.mem_filterMap.1 shown
    obtain ⟨source', keyed'⟩ := logItem_eq built'
    have first := newestFirst_iff.1 (before otherRow found)
    rw [← keyed, ← keyed'] at first
    rw [feedOrder_iff, Cursor.ahead_iff]
    simp only [encodeCursorFromItem, key, source, source'] at first ⊢
    simp
    omega
  rw [candidates, List.countP_append, ahead]
  omega

def after : Option Cursor → ActivityItem → Bool
  | none, _ => true
  | some last, item => last.ahead (encodeCursorFromItem item)

theorem filter_after_none :
    (eligible tables userId).filter (after none) = eligible tables userId :=
  List.filter_eq_self.2 fun _ _ => rfl

/-- Where the cursor cuts cleanly, the filter of the queries leaves what comes after it. -/
theorem cursorOr_eq (cuts : CutsCleanly tables userId cursor) {item : ActivityItem}
    (listed : item ∈ eligible tables userId) :
    cursorOr cursor (key item) = after cursor item := by
  cases cursor with
  | none => rfl
  | some last =>
    have tie := cuts last rfl item listed
    rw [Bool.eq_iff_iff, after, cursorOr_iff, Cursor.ahead_iff]
    simp only [key, encodeCursorFromItem]
    cases itemSource : item.source <;> cases lastSource : last.source <;>
      simp [itemSource, lastSource] at tie ⊢ <;> omega

theorem page_subset {item : ActivityItem} (shown : item ∈ page tables userId limit cursor) :
    item ∈ inReach tables userId limit cursor :=
  mem_candidates_iff.1 (List.mem_mergeSort.1 (List.mem_of_mem_take shown))

theorem mem_inReach {item : ActivityItem} (reached : item ∈ inReach tables userId limit cursor) :
    item ∈ eligible tables userId ∧ cursorOr cursor (key item) = true ∧
      rowsAhead tables userId cursor item < limit := by
  simpa [inReach] using reached

theorem page_sorted : (page tables userId limit cursor).Pairwise
    fun a b => feedOrder a b = true :=
  (feedOrder_laws.sorted _).sublist (List.take_sublist _ _)

theorem page_nodup : (page tables userId limit cursor).Nodup :=
  ((List.mergeSort_perm _ _).nodup_iff.2 candidates_nodup).sublist (List.take_sublist _ _)

/-- A page holds `limit` items or all candidates. -/
theorem page_full {item : ActivityItem}
    (found : item ∈ candidates tables userId limit cursor)
    (left : item ∉ page tables userId limit cursor) :
    (page tables userId limit cursor).length = limit := by
  rw [page, List.length_take]
  by_contra short
  rw [page, List.take_of_length_le (by omega)] at left
  exact left (List.mem_mergeSort.2 found)

/-- What comes after a cursor and is not on its page comes after the whole page. -/
theorem page_before (serves : Serves tables userId limit cursor) {item shown : ActivityItem}
    (listed : item ∈ eligible tables userId) (passes : cursorOr cursor (key item) = true)
    (left : item ∉ page tables userId limit cursor)
    (front : shown ∈ page tables userId limit cursor) : feedOrder shown item = true := by
  by_cases found : item ∈ candidates tables userId limit cursor
  · exact feedOrder_laws.le_of_not_mem_take front found left
  · -- the page is among the candidates, so their places decide
    have full : ∀ {n}, n ≤ (candidates tables userId limit cursor).countP
        (fun other => feedOrder other item) → n = limit → feedOrder shown item = true := by
      intro n many same
      subst same
      rw [← (List.mergeSort_perm (candidates tables userId n cursor) feedOrder).countP_eq] at many
      exact Paging.take_of_countP (feedOrder_laws.sorted _)
        (fun a b ab behind => feedOrder_laws.trans a b item ab behind) many shown front
    cases source : item.source with
    | log => exact full (log_behind listed source passes found) rfl
    | inflow =>
      have beyond : limit ≤ rowsAhead tables userId cursor item := by
        by_contra few
        refine found (mem_candidates_iff.2 (List.mem_filter.2 ⟨listed, ?_⟩))
        simp only [passes, Bool.true_and, decide_eq_true_eq]
        omega
      rcases serves.covers item listed source passes beyond with many | ⟨-, all⟩
      · rw [← candidates_perm.countP_eq] at many
        exact full many rfl
      · exact all shown (page_subset front)

/-- Where there is no next cursor, the page holds all that comes after this one. -/
theorem page_last (serves : Serves tables userId limit cursor) (positive : 0 < limit)
    (done : (feed tables userId limit).next cursor = none) {item : ActivityItem}
    (listed : item ∈ eligible tables userId) (passes : cursorOr cursor (key item) = true) :
    item ∈ page tables userId limit cursor := by
  rw [next_eq] at done
  split at done
  · -- the page is empty, so nothing is in reach and nothing may be out of it
    have empty : page tables userId limit cursor = [] := by simpa using done
    have nothing : candidates tables userId limit cursor = [] := by
      have sizes := (List.mergeSort_perm (candidates tables userId limit cursor)
        feedOrder).length_eq
      have none_taken := congrArg List.length empty
      rw [page, List.length_take, List.length_nil] at none_taken
      exact List.length_eq_zero_iff.1 (by omega)
    have found : item ∉ candidates tables userId limit cursor := by simp [nothing]
    cases source : item.source with
    | log =>
      have many := log_behind listed source passes found
      rw [nothing, List.countP_nil] at many
      omega
    | inflow =>
      have unreached : inReach tables userId limit cursor = [] := by
        have same : (candidates tables userId limit cursor).Perm
          (inReach tables userId limit cursor) := candidates_perm
        rw [nothing] at same
        exact List.nil_perm.1 same
      by_cases few : rowsAhead tables userId cursor item < limit
      · have reached : item ∈ inReach tables userId limit cursor :=
          List.mem_filter.2 ⟨listed, by simp [passes, few]⟩
        simp [unreached] at reached
      · rcases serves.covers item listed source passes (by omega) with many | ⟨some_item, -⟩
        · rw [unreached, List.countP_nil] at many
          omega
        · exact absurd unreached some_item
  · next short =>
    simp only [Bool.or_eq_true, decide_eq_true_eq, beq_iff_eq, not_or] at short
    obtain ⟨⟨small, fewLogs⟩, fewInflows⟩ := short
    have found : item ∈ candidates tables userId limit cursor := by
      rcases mem_eligible.1 listed with ⟨row, among, fits, built⟩ | ⟨row, among, fits, shown, rfl⟩
      · rw [(logItem_eq built).2] at passes
        by_contra left
        exact fewLogs (findMany_full among fits passes fun found =>
          left (mem_candidates.2 (.inl ⟨row, found, built⟩))).1
      · by_contra left
        exact fewInflows (findMany_full among fits passes fun found =>
          left (mem_candidates.2 (.inr ⟨row, found, shown, rfl⟩))).1
    rw [page, List.take_of_length_le
      (by rw [(List.mergeSort_perm _ feedOrder).length_eq]; omega)]
    exact List.mem_mergeSort.2 found

/-- The next cursor is that of the last item of the page. -/
theorem next_last {last : Cursor}
    (more : (feed tables userId limit).next cursor = some last) :
    ∃ item front, page tables userId limit cursor = front ++ [item] ∧
      last = encodeCursorFromItem item := by
  rw [next_eq] at more
  split at more
  · obtain ⟨item, ends, rfl⟩ := Option.map_eq_some_iff.1 more
    obtain ⟨front, split⟩ := List.getLast?_eq_some_iff.1 ends
    exact ⟨item, front, split, rfl⟩
  · cases more

/-- All of the page comes up to the next cursor. -/
theorem page_upto {last : Cursor} (more : (feed tables userId limit).next cursor = some last)
    {shown : ActivityItem} (front : shown ∈ page tables userId limit cursor) :
    ¬last.ahead (encodeCursorFromItem shown) = true := by
  obtain ⟨item, before, split, rfl⟩ := next_last more
  have sorted : (page tables userId limit cursor).Pairwise
    fun a b => feedOrder a b = true := page_sorted
  rw [split, List.pairwise_append] at sorted
  rw [split] at front
  rcases List.mem_append.1 front with early | final
  · exact feedOrder_iff.1 (sorted.2.2 shown early item (by simp))
  · rw [List.mem_singleton.1 final]
    exact Cursor.not_ahead_self _

/-- After the next cursor comes what came after this one and was not on the page. -/
theorem after_next (serves : Serves tables userId limit cursor) {last : Cursor}
    (more : (feed tables userId limit).next cursor = some last) {item : ActivityItem}
    (listed : item ∈ eligible tables userId) :
    after (some last) item =
      (after cursor item && !decide (item ∈ page tables userId limit cursor)) := by
  rw [← cursorOr_eq serves.cuts listed, Bool.eq_iff_iff]
  simp only [after, Bool.and_eq_true, Bool.not_eq_true', decide_eq_false_iff_not]
  obtain ⟨final, before, split, same⟩ := next_last more
  have shown : final ∈ page tables userId limit cursor := by simp [split]
  obtain ⟨finalListed, finalPasses, -⟩ := mem_inReach (page_subset shown)
  constructor
  · intro later
    refine ⟨?_, fun front => page_upto more front later⟩
    rw [cursorOr_eq serves.cuts finalListed] at finalPasses
    rw [cursorOr_eq serves.cuts listed]
    cases cursor with
    | none => rfl
    | some earlier =>
      subst same
      by_contra behind
      exact Cursor.ahead_trans (Cursor.ahead_total .. |>.resolve_right (fun h => h later))
        behind finalPasses
  · rintro ⟨passes, left⟩
    have behind := feedOrder_iff.1 (page_before serves listed passes left shown)
    subst same
    by_contra still
    have same := eligible_unique finalListed listed (Cursor.ahead_antisymm behind still)
    exact left (same ▸ shown)

/-- A page with what comes after it is what came after its cursor. -/
theorem page_append (serves : Serves tables userId limit cursor) {last : Cursor}
    (more : (feed tables userId limit).next cursor = some last) :
    (page tables userId limit cursor ++ (eligible tables userId).filter (after (some last))).Perm
      ((eligible tables userId).filter (after cursor)) := by
  have rest : (eligible tables userId).filter (after (some last)) =
      ((eligible tables userId).filter (after cursor)).filter
        fun item => !decide (item ∈ page tables userId limit cursor) := by
    rw [List.filter_filter]
    refine List.filter_congr fun item listed => ?_
    rw [after_next serves more listed, Bool.and_comm]
  have front : (page tables userId limit cursor).Perm
      (((eligible tables userId).filter (after cursor)).filter
        fun item => decide (item ∈ page tables userId limit cursor)) := by
    refine (List.perm_ext_iff_of_nodup page_nodup
      ((eligible_nodup.filter _).filter _)).2 fun item => ?_
    simp only [List.mem_filter, decide_eq_true_eq]
    refine ⟨fun shown => ⟨?_, shown⟩, fun kept => kept.2⟩
    obtain ⟨listed, passes, -⟩ := mem_inReach (page_subset shown)
    exact ⟨listed, cursorOr_eq serves.cuts listed ▸ passes⟩
  rw [rest]
  exact (front.append_right _).trans (List.filter_append_perm _ _)

def remaining (tables : Tables) (userId : Nat) (cursor : Option Cursor) : List ActivityItem :=
  ((eligible tables userId).filter (after cursor)).mergeSort feedOrder

theorem remaining_separates :
    Separates feedOrder ((eligible tables userId).filter (after cursor)) :=
  fun a ina b inb => eligible_separates a (List.mem_filter.1 ina).1 b (List.mem_filter.1 inb).1

/-- A page that hands out a cursor takes the front off what remains. -/
theorem remaining_next (serves : Serves tables userId limit cursor) {last : Cursor}
    (more : (feed tables userId limit).next cursor = some last) :
    remaining tables userId cursor =
      page tables userId limit cursor ++ remaining tables userId (some last) := by
  refine Paging.sort_eq_append feedOrder_laws remaining_separates page_sorted
    (page_append serves more) fun shown front item later => ?_
  obtain ⟨listed, behind⟩ := List.mem_filter.1 later
  rw [after_next serves more listed] at behind
  simp only [Bool.and_eq_true, Bool.not_eq_true', decide_eq_false_iff_not] at behind
  exact page_before serves listed (cursorOr_eq serves.cuts listed ▸ behind.1) behind.2 front

/-- A page that hands out none is what remains. -/
theorem remaining_last (serves : Serves tables userId limit cursor) (positive : 0 < limit)
    (done : (feed tables userId limit).next cursor = none) :
    remaining tables userId cursor = page tables userId limit cursor := by
  have whole : (page tables userId limit cursor ++ []).Perm
      ((eligible tables userId).filter (after cursor)) := by
    rw [List.append_nil]
    refine (List.perm_ext_iff_of_nodup page_nodup (eligible_nodup.filter _)).2 fun item => ?_
    rw [List.mem_filter]
    constructor
    · intro shown
      obtain ⟨listed, passes, -⟩ := mem_inReach (page_subset shown)
      exact ⟨listed, cursorOr_eq serves.cuts listed ▸ passes⟩
    · rintro ⟨listed, behind⟩
      exact page_last serves positive done listed (cursorOr_eq serves.cuts listed ▸ behind)
  simpa [remaining] using Paging.sort_eq_append feedOrder_laws remaining_separates page_sorted
    whole (by simp)

theorem pagesExactly_of_serves (positive : 0 < limit)
    (serve : ∀ cursor, (feed tables userId limit).Asked none cursor →
      Serves tables userId limit cursor) :
    PagesExactly tables userId limit := by
  refine ⟨remaining tables userId none, ?_, ?_, ?_⟩
  · refine Pager.yields_of_front _ ?_ ?_
    · intro cursor asked done
      exact remaining_last (serve cursor asked) positive done
    · intro cursor last asked more
      refine ⟨?_, remaining_next (serve cursor asked) more⟩
      obtain ⟨item, front, split, -⟩ := next_last more
      rw [items_eq, split]
      simp
  · simpa [remaining, filter_after_none] using
      List.mergeSort_perm (eligible tables userId) feedOrder
  · refine (feedOrder_laws.sorted _).imp fun ordered => ?_
    have late := feedOrder_iff.1 ordered
    rw [Cursor.ahead_iff] at late
    simp only [encodeCursorFromItem, not_or] at late
    omega

end Page

section Exact

variable {tables : Tables} {userId limit : Nat} {cursor : Option Cursor}

def Good (tables : Tables) (userId limit : Nat) (cursor : Option Cursor) : Prop :=
  ∃ rest, (feed tables userId limit).Yields cursor rest ∧
    rest.Perm ((eligible tables userId).filter (after cursor))

/-- What passes the next cursor passes this one. -/
theorem next_passes {last : Cursor} (more : (feed tables userId limit).next cursor = some last)
    {item : RowKey} (late : cursorOr (some last) item = true) : cursorOr cursor item = true := by
  obtain ⟨final, before, split, rfl⟩ := next_last more
  have shown : final ∈ page tables userId limit cursor := by simp [split]
  obtain ⟨-, early, -⟩ := mem_inReach (page_subset shown)
  cases cursor with
  | none => rfl
  | some first =>
    rw [cursorOr_iff] at *
    simp only [key, encodeCursorFromItem] at *
    omega

/-- What a reader gets from a cursor on passes the filter of that cursor. -/
theorem read_passes {rest : List ActivityItem}
    (yields : (feed tables userId limit).Yields cursor rest) {item : ActivityItem}
    (read : item ∈ rest) : cursorOr cursor (key item) = true := by
  obtain ⟨later, asked, shown⟩ := yields.asked read
  have passes := (mem_inReach (page_subset shown)).2.1
  clear shown
  induction asked with
  | start => exact passes
  | next _ more ih => exact ih (next_passes more passes)

/-- The first page is part of what is read. -/
theorem page_read {rest : List ActivityItem}
    (yields : (feed tables userId limit).Yields cursor rest) {item : ActivityItem}
    (shown : item ∈ page tables userId limit cursor) : item ∈ rest := by
  cases yields with
  | last => exact shown
  | more => exact List.mem_append_left _ shown

/-- An item that the page passes by and the next cursor shuts out is not read. -/
theorem not_read {rest : List ActivityItem}
    (yields : (feed tables userId limit).Yields cursor rest) {item : ActivityItem}
    (left : item ∉ page tables userId limit cursor)
    (shut : ∀ last, (feed tables userId limit).next cursor = some last →
      ¬cursorOr (some last) (key item) = true) : item ∉ rest := by
  intro read
  cases yields with
  | last => exact left read
  | more more yields =>
    rcases List.mem_append.1 read with here | later
    · exact left here
    · exact shut _ more (read_passes yields later)

theorem Good.mem {rest : List ActivityItem}
    (perm : rest.Perm ((eligible tables userId).filter (after cursor))) {item : ActivityItem} :
    item ∈ rest ↔ item ∈ eligible tables userId ∧ after cursor item = true := by
  rw [perm.mem_iff, List.mem_filter]

/-- The first item of a page comes no later than a log item after its cursor. -/
theorem first_shown (positive : 0 < limit) {item : ActivityItem}
    (listed : item ∈ eligible tables userId) (source : item.source = .log)
    (passes : cursorOr cursor (key item) = true) :
    ∃ first ∈ page tables userId limit cursor, feedOrder first item = true := by
  obtain ⟨candidate, found, early⟩ : ∃ candidate ∈ candidates tables userId limit cursor,
      feedOrder candidate item = true := by
    by_cases found : item ∈ candidates tables userId limit cursor
    · exact ⟨item, found, feedOrder_laws.refl item⟩
    · have many := log_behind listed source passes found
      exact List.countP_pos_iff.1 (Nat.lt_of_lt_of_le positive many)
  have sorted := feedOrder_laws.sorted (candidates tables userId limit cursor)
  have among : candidate ∈ (candidates tables userId limit cursor).mergeSort feedOrder :=
    List.mem_mergeSort.2 found
  obtain ⟨n, rfl⟩ := Nat.exists_eq_succ_of_ne_zero (Nat.ne_of_gt positive)
  rw [page]
  cases merged : (candidates tables userId (n + 1) cursor).mergeSort feedOrder with
  | nil => simp [merged] at among
  | cons first others =>
    rw [merged] at among sorted
    refine ⟨first, by simp, ?_⟩
    rcases List.mem_cons.1 among with rfl | later
    · exact early
    · exact feedOrder_laws.trans _ _ _ ((List.pairwise_cons.1 sorted).1 _ later) early

/-- A log item that the filter lets through again comes back on the page. -/
theorem Good.cuts (good : Good tables userId limit cursor) (positive : 0 < limit) :
    CutsCleanly tables userId cursor := by
  obtain ⟨rest, yields, perm⟩ := good
  rintro last rfl item listed time other
  cases lastSource : last.source with
  | log =>
    have source : item.source = .inflow := by
      cases source : item.source with
      | log => exact absurd (source.trans lastSource.symm) other
      | inflow => rfl
    have behind : after (some last) item = true := by
      rw [after, Cursor.ahead_iff]
      exact .inr ⟨time, .inl ⟨lastSource, source⟩⟩
    have passes := cursorOr_iff.1 (read_passes yields ((Good.mem perm).2 ⟨listed, behind⟩))
    simp only [key] at passes
    simp only [iff_true]
    omega
  | inflow =>
    have source : item.source = .log := by
      cases source : item.source with
      | log => rfl
      | inflow => exact absurd (source.trans lastSource.symm) other
    simp only [reduceCtorEq, iff_false]
    intro smaller
    have passes : cursorOr (some last) (key item) = true :=
      cursorOr_iff.2 (.inr ⟨time, smaller⟩)
    -- the first item of the page comes no later than that one, so it comes back
    obtain ⟨first, shown, early⟩ := first_shown positive listed source passes
    obtain ⟨-, behind⟩ := (Good.mem perm).1 (page_read yields shown)
    have ahead : (encodeCursorFromItem item).ahead last = true :=
      Cursor.ahead_iff.2 (.inr ⟨time.symm, .inl ⟨source, lastSource⟩⟩)
    have notBack : ¬(encodeCursorFromItem first).ahead last = true :=
      (Cursor.ahead_total last (encodeCursorFromItem first)).resolve_right (absurd behind)
    exact Cursor.ahead_trans notBack (feedOrder_iff.1 early) ahead

/-- Where a page passes an inflow by, the next cursor shuts it out. -/
theorem Good.covers (good : Good tables userId limit cursor)
    (cuts : CutsCleanly tables userId cursor) : Covers tables userId limit cursor := by
  obtain ⟨rest, yields, perm⟩ := good
  intro item listed source passes beyond
  by_contra uncovered
  rw [not_or, not_and] at uncovered
  obtain ⟨few, notAll⟩ := uncovered
  have left : item ∉ page tables userId limit cursor := fun shown => by
    have := (mem_inReach (page_subset shown)).2.2
    omega
  have behind : after cursor item = true := cursorOr_eq cuts listed ▸ passes
  refine not_read yields left ?_ ((Good.mem perm).2 ⟨listed, behind⟩)
  intro last more
  obtain ⟨final, front, split, rfl⟩ := next_last more
  have shown : final ∈ page tables userId limit cursor := by simp [split]
  -- an item of the page comes after the inflow, and so does the last one
  have passed : ¬feedOrder final item = true := by
    intro early
    have all : ∀ other ∈ page tables userId limit cursor, feedOrder other item = true := by
      intro other front
      exact feedOrder_laws.trans _ _ _ (feedOrder_iff.2 (page_upto more front)) early
    by_cases full : (page tables userId limit cursor).length = limit
    · rw [← candidates_perm.countP_eq,
        ← (List.mergeSort_perm (candidates tables userId limit cursor) feedOrder).countP_eq] at few
      have part := (List.take_sublist limit
        ((candidates tables userId limit cursor).mergeSort feedOrder)).countP_le
          (p := fun other => feedOrder other item)
      rw [← page, List.countP_eq_length.2 all, full] at part
      exact few part
    · refine notAll (fun nothing => ?_) (fun other reached => all other ?_)
      · have reached := page_subset shown
        simp [nothing] at reached
      · by_contra absent
        exact full (page_full (mem_candidates_iff.2 reached) absent)
  rw [feedOrder_iff, not_not, Cursor.ahead_iff] at passed
  rw [cursorOr_iff]
  simp only [encodeCursorFromItem, key, source, reduceCtorEq, false_and, false_or] at passed ⊢
  omega

theorem Good.next (good : Good tables userId limit cursor)
    (serves : Serves tables userId limit cursor) {last : Cursor}
    (more : (feed tables userId limit).next cursor = some last) :
    Good tables userId limit (some last) := by
  obtain ⟨rest, yields, perm⟩ := good
  cases yields with
  | last done => simp [more] at done
  | more more' yields =>
    obtain rfl : last = _ := Option.some.inj (more.symm.trans more')
    refine ⟨_, yields, ?_⟩
    exact (List.perm_append_left_iff _).1 (perm.trans (page_append serves more).symm)

end Exact

/-- The feed pages exactly just when every cursor that is asked for serves. -/
theorem pagesExactly_iff (tables : Tables) (userId limit : Nat) (positive : 0 < limit) :
    PagesExactly tables userId limit ↔
      ∀ cursor, (feed tables userId limit).Asked none cursor →
        Serves tables userId limit cursor := by
  refine ⟨?_, pagesExactly_of_serves positive⟩
  rintro ⟨items, yields, perm, -⟩ cursor asked
  have start : Good tables userId limit none :=
    ⟨items, yields, by rwa [filter_after_none]⟩
  have serves : ∀ {cursor}, Good tables userId limit cursor →
      Serves tables userId limit cursor := fun good =>
    ⟨good.cuts positive, good.covers (good.cuts positive)⟩
  suffices good : Good tables userId limit cursor from serves good
  induction asked with
  | start => exact start
  | next _ more ih => exact ih.next (serves ih) more

def created (id : Nat) (createdAt : Int) : LogRow :=
  { key := ⟨createdAt, id⟩, userId := 1, reasonCode := .loanCreated, loan := none }

def stored (id : Nat) (createdAt : Int) (reason : Option UnmatchedReason) : InflowRow :=
  { key := ⟨createdAt, id⟩
    inflow :=
      { userId := some 1, amount := 500, currency := .ngn, receivingAddress := "6600000001"
        providerReference := toString id, unmatchedReason := reason, createdAt := createdAt } }

/-- A log row and an older inflow. -/
def apart : Tables where
  logs := [created 2 30]
  inflows := [stored 1 20 none]
  logIds := by simp
  inflowIds := by decide

/-- One item to a page, and an empty page at the end. -/
theorem pagesExactly_apart : PagesExactly apart 1 1 := by
  have ordered : (candidates apart 1 1 none).Pairwise fun a b => feedOrder a b = true := by
    decide +kernel
  have first : (feed apart 1 1).next none = some ⟨30, .log, 2⟩ := by
    rw [next_eq, page, List.mergeSort_of_pairwise ordered]
    decide +kernel
  have second : (feed apart 1 1).next (some ⟨30, .log, 2⟩) = some ⟨20, .inflow, 1⟩ := by
    decide +kernel
  have third : (feed apart 1 1).next (some ⟨20, .inflow, 1⟩) = none := by decide +kernel
  have asks {cursor : Option Cursor} (asked : (feed apart 1 1).Asked none cursor) :
      cursor = none ∨ cursor = some ⟨30, .log, 2⟩ ∨ cursor = some ⟨20, .inflow, 1⟩ := by
    induction asked with
    | start => exact .inl rfl
    | next _ more ih =>
      rcases ih with rfl | rfl | rfl
      · exact .inr (.inl (more.symm.trans first))
      · exact .inr (.inr (more.symm.trans second))
      · rw [third] at more
        cases more
  refine (pagesExactly_iff apart 1 1 (by decide)).2 fun cursor asked => ?_
  rcases asks asked with rfl | rfl | rfl
  · refine ⟨fun last impossible => ?_, by unfold Covers; decide⟩
    cases impossible
  · refine ⟨fun last same => ?_, by unfold Covers; decide⟩
    obtain rfl := Option.some.inj same
    decide
  · refine ⟨fun last same => ?_, by unfold Covers; decide⟩
    obtain rfl := Option.some.inj same
    decide

/-- A log row and an inflow of one time, and a newer inflow that is not shown. -/
def mixed : Tables where
  logs := [created 1 10]
  inflows := [stored 1 20 (some .requeryMismatch), stored 2 10 none]
  logIds := by simp
  inflowIds := by decide

theorem mixed_first : getPage mixed 1 none 1 =
    ⟨[buildLogItem (created 1 10) .loanCreated], some ⟨10, .log, 1⟩⟩ := by
  simp [getPage, findMany, mixed, created, stored, List.mergeSort, inflowWhere, logWhere,
    cursorOr, List.MergeSort.Internal.splitInTwo, newestFirst, reasonToType, logItem, trusted,
    untrustedUnmatchedReasons]

theorem mixed_second : getPage mixed 1 (some ⟨10, .log, 1⟩) 1 = ⟨[], none⟩ := by
  decide +kernel

/-- One item to a page. The inflow that is not shown uses up the first page, and the id of
the log row on it shuts out the inflow behind. -/
theorem mixed_loses_inflow : ¬PagesExactly mixed 1 1 := by
  rintro ⟨items, yields, perm, -⟩
  have size := perm.length_eq
  rw [show (eligible mixed 1).length = 2 by decide] at size
  have first : (feed mixed 1 1).next none = some ⟨10, .log, 1⟩ :=
    congrArg ActivityPage.nextCursor mixed_first
  have second : (feed mixed 1 1).next (some ⟨10, .log, 1⟩) = none :=
    congrArg ActivityPage.nextCursor mixed_second
  cases yields with
  | last done => simp [first] at done
  | more more rest =>
    obtain rfl := Option.some.inj (first.symm.trans more)
    cases rest with
    | last => simp [feed, mixed_first, mixed_second] at size
    | more more => simp [second] at more

end Bitmonie.ActivityPaging
