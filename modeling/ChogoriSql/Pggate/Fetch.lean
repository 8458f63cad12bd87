import Mathlib

/-! Reading a scan's rows through pggate: `PgDml::Fetch` takes the next row of its rowsets and,
when they are exhausted, asks its `PgReadOp` for the next response (`PgOp::GetResult`), which
`handleReadOp` built from one SKV page.  The read operation sends the next request as soon as a
response carries a paging state, so the responses arrive in page order.  The model is the
scan without a secondary index, whose rowsets carry no row orders; the SKV side is the list of
pages it returns. -/

namespace ChogoriSql

structure Page (α : Type) where
  records : List α
  done : Bool
  deriving DecidableEq, Repr

structure ReadResponse (α : Type) where
  rowsData : List α
  hasPagingState : Bool
  deriving DecidableEq, Repr

def handleReadOpResponse {α : Type} (page : Page α) : ReadResponse α :=
  { rowsData := page.records, hasPagingState := !page.done }

structure ScanState (α : Type) where
  endOfData : Bool
  serverPages : List (Page α)
  rowsets : List (List α)
  deriving DecidableEq, Repr

def ScanState.init {α : Type} (pages : List (Page α)) : ScanState α :=
  { endOfData := false, serverPages := pages, rowsets := [] }

section Fetch

variable {α : Type}

/-- `PgOp::ProcessResponseResult` for the one read operation: a response with rows is one
rowset, a response without rows adds none. -/
def processResponseResult (response : ReadResponse α) : List (List α) :=
  if response.rowsData.isEmpty then [] else [response.rowsData]

/-- `PgReadOp::ProcessResponsePagingState` for the one operation, whose request population is
complete: the data ends when the response carries no paging state. -/
def processResponsePagingState (response : ReadResponse α) : Bool :=
  !response.hasPagingState

/-- `PgOp::GetResult` (prefetching is never suppressed for a read, since only
`SetRequestTotalLimit` runs): at the end of data nothing changes; otherwise the outstanding
response is processed, and if it has a paging state the next request goes out at once.  The
`DCHECK` that a response has rows or ends the data is not compiled into release builds. -/
def getResult (scan : ScanState α) : ScanState α :=
  if scan.endOfData then scan
  else
    match scan.serverPages with
    -- no outstanding response: not reached while only the last page is done
    | [] => { scan with endOfData := true }
    | page :: later =>
        let response := handleReadOpResponse page
        { endOfData := processResponsePagingState response, serverPages := later,
          rowsets := scan.rowsets ++ processResponseResult response }

/-- `PgDml::GetNextRow`: the next row of the first rowset that still has one, erasing the
exhausted rowsets in front of it. -/
def getNextRow : List (List α) → Option (α × List (List α))
  | [] => none
  | [] :: rest => getNextRow rest
  | (row :: more) :: rest => some (row, more :: rest)

/-- `PgDml::FetchDataFromServer` without a secondary index: `GetResult`, and whether it left
any rowset.  No rowset is taken as the end of the scan. -/
def fetchDataFromServer (scan : ScanState α) : Bool × ScanState α :=
  let next := getResult scan
  (!next.rowsets.isEmpty, next)

def fetchLoop : Nat → ScanState α → Option α × ScanState α
  | 0, scan => (none, scan)
  | fuel + 1, scan =>
      match getNextRow scan.rowsets with
      | some (row, rowsets) => (some row, { scan with rowsets })
      | none =>
          let (more, next) := fetchDataFromServer { scan with rowsets := [] }
          if more then fetchLoop fuel next else (none, next)

/-- `PgDml::Fetch`.  A server fetch that returns true leaves a rowset with a row, so the loop
turns at most twice (`fetchLoop_add_two`). -/
def fetch (scan : ScanState α) : Option α × ScanState α :=
  fetchLoop 2 scan

/-- `Fetch` called up to `count` times, stopping at the first `has_data = false`: the rows
returned, and whether the scan reported its end. -/
def fetchRun : Nat → ScanState α → List α × Bool
  | 0, _ => ([], false)
  | count + 1, scan =>
      match fetch scan with
      | (some row, next) =>
          let (rows, ended) := fetchRun count next
          (row :: rows, ended)
      | (none, _) => ([], true)

def onlyLastDone : List (Page α) → Bool
  | [] => false
  | [page] => page.done
  | page :: later => !page.done && onlyLastDone later

def recordsBeforeEmptyPage (pages : List (Page α)) : List α :=
  (pages.takeWhile fun page => !page.records.isEmpty).flatMap Page.records

theorem getNextRow_of_flatten_nil (rowsets : List (List α)) (empty : rowsets.flatten = []) :
    getNextRow rowsets = none := by
  induction rowsets with
  | nil => rfl
  | cons rowset rest ih =>
      have rowsetEmpty : rowset = [] := (List.append_eq_nil_iff.mp empty).1
      have restEmpty : rest.flatten = [] := (List.append_eq_nil_iff.mp empty).2
      subst rowsetEmpty
      simpa [getNextRow] using ih restEmpty

theorem getNextRow_of_flatten_cons (rowsets : List (List α)) (row : α) (pending : List α)
    (front : rowsets.flatten = row :: pending) :
    ∃ remaining, getNextRow rowsets = some (row, remaining) ∧ remaining.flatten = pending := by
  induction rowsets with
  | nil => simp at front
  | cons rowset rest ih =>
      cases rowset with
      | nil => simpa [getNextRow] using ih (by simpa using front)
      | cons first more =>
          simp only [List.flatten_cons, List.cons_append, List.cons.injEq] at front
          obtain ⟨rfl, rfl⟩ := front
          exact ⟨more :: rest, rfl, by simp⟩

theorem getNextRow_of_fetchDataFromServer (scan next : ScanState α)
    (fetched : fetchDataFromServer { scan with rowsets := [] } = (true, next)) :
    ∃ row remaining, getNextRow next.rowsets = some (row, remaining) := by
  obtain ⟨endOfData, serverPages, rowsets⟩ := scan
  simp only [fetchDataFromServer, Prod.mk.injEq] at fetched
  obtain ⟨nonEmpty, rfl⟩ := fetched
  cases endOfData with
  | true => simp [getResult] at nonEmpty
  | false =>
      cases serverPages with
      | nil => simp [getResult] at nonEmpty
      | cons page later =>
          cases records : page.records with
          | nil =>
              simp [getResult, handleReadOpResponse, processResponseResult, records] at nonEmpty
          | cons row more =>
              refine ⟨row, [more], ?_⟩
              simp [getResult, handleReadOpResponse, processResponseResult, records, getNextRow]

theorem fetchLoop_add_two (fuel : Nat) (scan : ScanState α) :
    fetchLoop (fuel + 2) scan = fetch scan := by
  unfold fetch
  rw [fetchLoop, fetchLoop]
  cases found : getNextRow scan.rowsets with
  | some entry => rfl
  | none =>
      simp only
      cases fetched : fetchDataFromServer { scan with rowsets := [] } with
      | mk more next =>
          cases more with
          | false => rfl
          | true =>
              obtain ⟨row, remaining, nextFound⟩ :=
                getNextRow_of_fetchDataFromServer _ next fetched
              cases fuel <;> simp [fetchLoop, nextFound]

theorem fetch_of_pending (scan : ScanState α) (row : α) (pending : List α)
    (front : scan.rowsets.flatten = row :: pending) :
    ∃ rowsets, fetch scan = (some row, { scan with rowsets }) ∧ rowsets.flatten = pending := by
  obtain ⟨remaining, found, rest⟩ := getNextRow_of_flatten_cons scan.rowsets row pending front
  exact ⟨remaining, by simp [fetch, fetchLoop, found], rest⟩

theorem fetch_of_exhausted (scan : ScanState α) (exhausted : scan.rowsets.flatten = []) :
    fetch scan = fetch { scan with rowsets := [] } := by
  have none : getNextRow scan.rowsets = none := getNextRow_of_flatten_nil _ exhausted
  simp [fetch, fetchLoop, none, getNextRow]

theorem fetch_at_end (serverPages : List (Page α)) :
    fetch { endOfData := true, serverPages, rowsets := [] } =
      (none, { endOfData := true, serverPages, rowsets := [] }) := by
  simp [fetch, fetchLoop, getNextRow, fetchDataFromServer, getResult]

theorem fetch_next_page (page : Page α) (later : List (Page α)) :
    fetch { endOfData := false, serverPages := page :: later, rowsets := [] } =
      match page.records with
      | [] => (none, { endOfData := page.done, serverPages := later, rowsets := [] })
      | row :: rest =>
          (some row, { endOfData := page.done, serverPages := later, rowsets := [rest] }) := by
  cases page with
  | mk records done =>
      cases records <;>
        simp [fetch, fetchLoop, getNextRow, fetchDataFromServer, getResult, handleReadOpResponse,
          processResponseResult, processResponsePagingState]

theorem fetchRun_congr_exhausted (count : Nat) (scan : ScanState α)
    (exhausted : scan.rowsets.flatten = []) :
    fetchRun count scan = fetchRun count { scan with rowsets := [] } := by
  cases count with
  | zero => rfl
  | succ count => simp only [fetchRun, fetch_of_exhausted scan exhausted]

theorem fetchRun_pending (pending : List α) (count : Nat) (scan : ScanState α)
    (queued : scan.rowsets.flatten = pending) :
    fetchRun (pending.length + count) scan =
      (pending ++ (fetchRun count { scan with rowsets := [] }).1,
        (fetchRun count { scan with rowsets := [] }).2) := by
  induction pending generalizing scan with
  | nil => simp [fetchRun_congr_exhausted count scan queued]
  | cons row rest ih =>
      obtain ⟨rowsets, fetched, remaining⟩ := fetch_of_pending scan row rest queued
      have later := ih { scan with rowsets } remaining
      rw [List.length_cons, Nat.add_right_comm, fetchRun, fetched]
      simp only [later, List.cons_append]

theorem fetchRun_nonempty_page (row : α) (more : List α) (done : Bool) (later : List (Page α))
    (count : Nat) :
    fetchRun (more.length + count + 1)
        { endOfData := false, serverPages := ⟨row :: more, done⟩ :: later, rowsets := [] } =
      (row :: more ++ (fetchRun count { endOfData := done, serverPages := later, rowsets := [] }).1,
        (fetchRun count { endOfData := done, serverPages := later, rowsets := [] }).2) := by
  rw [fetchRun, fetch_next_page]
  simp only
  rw [fetchRun_pending more count { endOfData := done, serverPages := later, rowsets := [more] }
    (by simp)]
  rfl

theorem fetchRun_stops_at_first_empty_page (pages : List (Page α))
    (lastDone : onlyLastDone pages = true) (count : Nat)
    (enough : (recordsBeforeEmptyPage pages).length < count) :
    fetchRun count (ScanState.init pages) = (recordsBeforeEmptyPage pages, true) := by
  induction pages generalizing count with
  | nil => simp [onlyLastDone] at lastDone
  | cons page later ih =>
      obtain ⟨records, done⟩ := page
      cases records with
      | nil =>
          -- no rowset is added for the empty page, and `FetchDataFromServer` takes that as the end
          obtain ⟨calls, rfl⟩ : ∃ calls, count = calls + 1 := ⟨count - 1, by omega⟩
          simp [recordsBeforeEmptyPage, ScanState.init, fetchRun, fetch_next_page]
      | cons row more =>
          have before : recordsBeforeEmptyPage (⟨row :: more, done⟩ :: later) =
              row :: more ++ recordsBeforeEmptyPage later := by
            simp [recordsBeforeEmptyPage]
          rw [before] at enough ⊢
          simp only [List.cons_append, List.length_cons, List.length_append] at enough
          obtain ⟨calls, rfl⟩ : ∃ calls, count = more.length + calls + 1 :=
            ⟨count - more.length - 1, by omega⟩
          rw [ScanState.init, fetchRun_nonempty_page]
          cases later with
          | nil =>
              simp only [onlyLastDone] at lastDone
              subst lastDone
              obtain ⟨rest, rfl⟩ : ∃ rest, calls = rest + 1 := ⟨calls - 1, by omega⟩
              simp [recordsBeforeEmptyPage, fetchRun, fetch_at_end]
          | cons next rest =>
              simp only [onlyLastDone, Bool.and_eq_true, Bool.not_eq_true'] at lastDone
              obtain ⟨rfl, laterDone⟩ := lastDone
              have laterRun := ih laterDone calls (by omega)
              simp only [ScanState.init] at laterRun
              simp only [laterRun, List.cons_append]

theorem fetchRun_stops_at_first_empty_page_two_rows :
    onlyLastDone [(⟨[], false⟩ : Page Nat), ⟨[1, 2], true⟩] = true ∧
      (recordsBeforeEmptyPage [(⟨[], false⟩ : Page Nat), ⟨[1, 2], true⟩]).length < 3 ∧
      fetchRun 3 (ScanState.init [(⟨[], false⟩ : Page Nat), ⟨[1, 2], true⟩]) =
        (recordsBeforeEmptyPage [(⟨[], false⟩ : Page Nat), ⟨[1, 2], true⟩], true) ∧
      recordsBeforeEmptyPage [(⟨[], false⟩ : Page Nat), ⟨[1, 2], true⟩] = [] :=
  ⟨rfl, by decide,
    fetchRun_stops_at_first_empty_page [⟨[], false⟩, ⟨[1, 2], true⟩] rfl 3 (by decide), rfl⟩

end Fetch

end ChogoriSql
