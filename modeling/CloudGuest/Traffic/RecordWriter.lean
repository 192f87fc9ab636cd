import CloudGuest.Library.Tables
import CloudGuest.Traffic.WindowTotals

/-!
The flow-record writer (`FlowRecordWriter.write_window`) over its two tables: the
stored rows and the day counters of each router. The accounts hold after every
sequence of windows, whatever the windows bring and however the port rule of a
router is switched between them; only the daily cap stays the same.
-/

namespace CloudGuest.Traffic

open Texts Tables

structure Identity where
  routerId : Nat
  organizationId : Option Nat
  locationId : Option Nat
  source : Text
  windowStart : Int
  windowSeconds : Int
  deriving DecidableEq

structure StoredRecord where
  identity : Identity
  record : FlowRecord
  deriving DecidableEq

structure CapRow where
  routerId : Nat
  locationId : Option Nat
  day : Int
  rowsStored : Nat
  rowsNotStored : Nat
  cappedAt : Option Int
  rowsReceived : Nat
  rowsMerged : Nat
  rowsInternal : Nat
  deriving DecidableEq

def capKey (row : CapRow) : Nat × Int := (row.routerId, row.day)

structure Store where
  records : List StoredRecord
  caps : Table capKey

def Store.empty : Store := ⟨[], Table.empty⟩

def dayMicroseconds : Int := 86400000000

def utcDay (moment : Int) : Int := moment / dayMicroseconds

structure CapState where
  rowsStored : Nat
  cappedAt : Option Int
  deriving DecidableEq

def capState (store : Store) (routerId : Nat) (day : Int) : CapState :=
  match store.caps.find (routerId, day) with
  | some row => ⟨row.rowsStored, row.cappedAt⟩
  | none => ⟨0, none⟩

def addCounters (added : CapRow) : Change capKey where
  -- The conflict branch of `record_cap`: counters add up, the first `capped_at` stays.
  apply row :=
    { row with
      rowsStored := row.rowsStored + added.rowsStored
      rowsNotStored := row.rowsNotStored + added.rowsNotStored
      rowsReceived := row.rowsReceived + added.rowsReceived
      rowsMerged := row.rowsMerged + added.rowsMerged
      rowsInternal := row.rowsInternal + added.rowsInternal
      cappedAt := row.cappedAt.or added.cappedAt }
  keeps _ := rfl

def recordCap (store : Store) (added : CapRow) : Store :=
  { store with caps := store.caps.upsert added (addCounters added) }

def insertRecords (store : Store) (identity : Identity) (rows : List FlowRecord) : Store :=
  { store with records := store.records ++ rows.map fun row => ⟨identity, row⟩ }

def summarisedRemotePorts : List Nat := [123]

structure WindowCall where
  recordsEnabled : Bool
  storeInternal : Bool
  mergePorts : Bool
  exportOn : Nat → Bool
  keepsPorts : Nat → Bool
  endpoints : PlatformEndpoints
  identity : Identity
  exporter : Text
  rows : List CollectorRow

def WindowCall.prepared (call : WindowCall) (received : List FlowRecord) :
    List FlowRecord × WindowCounts :=
  let keepPorts := call.keepsPorts call.identity.routerId
  prepareRecords received call.storeInternal (!keepPorts && call.mergePorts)
    (if keepPorts then summarisedRemotePorts else [])

def WindowCall.day (call : WindowCall) : Int := utcDay call.identity.windowStart

def roomFor (dailyCap : Int) (state : CapState) : Nat :=
  let cap := (max 0 dailyCap).toNat
  if state.cappedAt.isSome then 0 else cap - state.rowsStored

def writeWindow (python : Python) (dailyCap : Int) (store : Store) (call : WindowCall) :
    Option (Nat × Store) :=
  if !call.recordsEnabled then some (0, store)
  else if !call.exportOn call.identity.routerId then some (0, store)
  else do
    let received ← flowRecordRows python call.rows call.exporter call.endpoints
    if received = [] then return (0, store)
    let (records, counts) := call.prepared received
    let state := capState store call.identity.routerId call.day
    -- Largest flows first, so what a cut window keeps is its bulk.
    let kept := records.take (roomFor dailyCap state)
    let cut := records.length - kept.length
    let inserted := insertRecords store call.identity kept
    return (kept.length, recordCap inserted
      { routerId := call.identity.routerId
        locationId := call.identity.locationId
        day := call.day
        rowsStored := kept.length
        rowsNotStored := cut
        cappedAt := if cut = 0 then none else some call.identity.windowStart
        rowsReceived := counts.received
        rowsMerged := counts.merged
        rowsInternal := counts.internal })

section Accounts

variable (python : Python) (dailyCap : Int)

def afterWindow (store : Store) (call : WindowCall) : Store :=
  (writeWindow python dailyCap store call).elim store Prod.snd

def afterWindows (store : Store) (calls : List WindowCall) : Store :=
  calls.foldl (afterWindow python dailyCap) store

def receivedRecords (call : WindowCall) : List FlowRecord :=
  -- The records a call is given for its router; none when it stops before or while reading.
  if call.recordsEnabled && call.exportOn call.identity.routerId then
    (flowRecordRows python call.rows call.exporter call.endpoints).getD []
  else []

def keptRows (store : Store) (call : WindowCall) : List FlowRecord :=
  (call.prepared (receivedRecords python call)).1.take
    (roomFor dailyCap (capState store call.identity.routerId call.day))

def cutRows (store : Store) (call : WindowCall) : List FlowRecord :=
  (call.prepared (receivedRecords python call)).1.drop
    (roomFor dailyCap (capState store call.identity.routerId call.day))

def addedRow (store : Store) (call : WindowCall) : CapRow :=
  let counts := (call.prepared (receivedRecords python call)).2
  let cut := (cutRows python dailyCap store call).length
  { routerId := call.identity.routerId
    locationId := call.identity.locationId
    day := call.day
    rowsStored := (keptRows python dailyCap store call).length
    rowsNotStored := cut
    cappedAt := if cut = 0 then none else some call.identity.windowStart
    rowsReceived := counts.received
    rowsMerged := counts.merged
    rowsInternal := counts.internal }

theorem afterWindow_eq (store : Store) (call : WindowCall) :
    afterWindow python dailyCap store call =
      if receivedRecords python call = [] then store
      else recordCap (insertRecords store call.identity (keptRows python dailyCap store call))
        (addedRow python dailyCap store call) := by
  unfold afterWindow writeWindow receivedRecords
  cases enabled : call.recordsEnabled with
  | false => simp
  | true =>
      cases exported : call.exportOn call.identity.routerId with
      | false => simp
      | true =>
          cases read : flowRecordRows python call.rows call.exporter call.endpoints with
          | none => simp
          | some received =>
              by_cases nothing : received = []
              · simp [nothing]
              · have given : receivedRecords python call = received := by
                  simp [receivedRecords, enabled, exported, read]
                have cut : ∀ room, (call.prepared received).1.length -
                    ((call.prepared received).1.take room).length =
                      ((call.prepared received).1.drop room).length := by
                  intro room
                  rw [List.length_take, List.length_drop]
                  omega
                simp [nothing, addedRow, keptRows, cutRows, given, cut, -List.length_take,
                  -List.length_drop]

/-- What the day counters of a router say; all zero before its first window. -/
structure DayCounters where
  rowsStored : Nat
  rowsNotStored : Nat
  cappedAt : Option Int
  rowsReceived : Nat
  rowsMerged : Nat
  rowsInternal : Nat
  deriving DecidableEq

def CapRow.counters (row : CapRow) : DayCounters :=
  { rowsStored := row.rowsStored, rowsNotStored := row.rowsNotStored, cappedAt := row.cappedAt
    rowsReceived := row.rowsReceived, rowsMerged := row.rowsMerged
    rowsInternal := row.rowsInternal }

def countersOf (store : Store) (router : Nat) (day : Int) : DayCounters :=
  (store.caps.find (router, day)).elim ⟨0, 0, none, 0, 0, 0⟩ CapRow.counters

def DayCounters.add (counters : DayCounters) (added : CapRow) : DayCounters :=
  { rowsStored := counters.rowsStored + added.rowsStored
    rowsNotStored := counters.rowsNotStored + added.rowsNotStored
    cappedAt := counters.cappedAt.or added.cappedAt
    rowsReceived := counters.rowsReceived + added.rowsReceived
    rowsMerged := counters.rowsMerged + added.rowsMerged
    rowsInternal := counters.rowsInternal + added.rowsInternal }

theorem capState_counters (store : Store) (router : Nat) (day : Int) :
    capState store router day =
      ⟨(countersOf store router day).rowsStored, (countersOf store router day).cappedAt⟩ := by
  unfold capState countersOf
  cases store.caps.find (router, day) <;> rfl

theorem countersOf_recordCap (store : Store) (added : CapRow) (router : Nat) (day : Int) :
    countersOf (recordCap store added) router day =
      if (router, day) = capKey added then (countersOf store router day).add added
      else countersOf store router day := by
  unfold countersOf recordCap
  rw [find_upsert]
  split
  · rename_i same
    cases store.caps.find (router, day) with
    | none => simp [DayCounters.add, CapRow.counters]
    | some row => rfl
  · rfl

def WindowCall.about (call : WindowCall) (router : Nat) (day : Int) : Bool :=
  call.identity.routerId = router && call.day = day

theorem prepared_nothing (call : WindowCall) : call.prepared [] = ([], ⟨0, 0, 0⟩) := by
  simp [WindowCall.prepared, prepareRecords, Grouping.groups, Sorting.sortOn]

theorem countersOf_afterWindow (store : Store) (call : WindowCall) (router : Nat) (day : Int) :
    countersOf (afterWindow python dailyCap store call) router day =
      if call.about router day then
        (countersOf store router day).add (addedRow python dailyCap store call)
      else countersOf store router day := by
  -- A window without records adds nothing, so every window of the day adds its row.
  rw [afterWindow_eq]
  by_cases nothing : receivedRecords python call = []
  · simp [nothing, DayCounters.add, addedRow, keptRows, cutRows, prepared_nothing]
  · have key : ((router, day) = capKey (addedRow python dailyCap store call)) ↔
        call.about router day = true := by
      simp only [capKey, addedRow, Prod.mk.injEq, WindowCall.about, Bool.and_eq_true,
        decide_eq_true_eq]
      exact and_congr eq_comm eq_comm
    have unchanged : countersOf (insertRecords store call.identity
        (keptRows python dailyCap store call)) router day = countersOf store router day := rfl
    simp only [nothing, ↓reduceIte, countersOf_recordCap, key, unchanged]

def rowsOf (store : Store) (router : Nat) (day : Int) : List StoredRecord :=
  store.records.filter fun row =>
    row.identity.routerId = router && utcDay row.identity.windowStart = day

theorem records_afterWindow (store : Store) (call : WindowCall) :
    (afterWindow python dailyCap store call).records =
      store.records ++ (keptRows python dailyCap store call).map fun row => ⟨call.identity, row⟩ := by
  rw [afterWindow_eq]
  split
  · rename_i nothing
    simp [keptRows, nothing, prepared_nothing]
  · rfl

theorem rowsOf_afterWindow (store : Store) (call : WindowCall) (router : Nat) (day : Int) :
    rowsOf (afterWindow python dailyCap store call) router day =
      rowsOf store router day ++
        if call.about router day then
          (keptRows python dailyCap store call).map fun row => ⟨call.identity, row⟩
        else [] := by
  rw [rowsOf, records_afterWindow, List.filter_append, rowsOf]
  congr 1
  cases about : call.about router day with
  | true =>
      refine List.filter_eq_self.mpr ?_
      intro row added
      obtain ⟨record, -, rfl⟩ := List.mem_map.mp added
      exact about
  | false =>
      refine List.filter_eq_nil_iff.mpr ?_
      intro row added
      obtain ⟨record, -, rfl⟩ := List.mem_map.mp added
      exact Bool.eq_false_iff.mp about

structure Accounted (cap : Nat) (calls : List WindowCall) (store : Store) (router : Nat)
    (day : Int) : Prop where
  balance : let counters := countersOf store router day
    counters.rowsReceived = counters.rowsStored + counters.rowsMerged + counters.rowsInternal +
      counters.rowsNotStored
  received : (countersOf store router day).rowsReceived =
    ((calls.filter (·.about router day)).map fun call => (receivedRecords python call).length).sum
  stored : (countersOf store router day).rowsStored = (rowsOf store router day).length
  capped : (countersOf store router day).rowsStored ≤ cap

theorem kept_and_cut (store : Store) (call : WindowCall) :
    keptRows python dailyCap store call ++ cutRows python dailyCap store call =
      (call.prepared (receivedRecords python call)).1 :=
  List.take_append_drop _ _

theorem addedRow_balance (store : Store) (call : WindowCall) :
    let added := addedRow python dailyCap store call
    added.rowsReceived = (receivedRecords python call).length ∧
      added.rowsReceived = added.rowsStored + added.rowsMerged + added.rowsInternal +
        added.rowsNotStored := by
  intro added
  have counted := prepared_counts (receivedRecords python call) call.storeInternal
    (!call.keepsPorts call.identity.routerId && call.mergePorts)
    (if call.keepsPorts call.identity.routerId then summarisedRemotePorts else [])
  have lengths := congrArg List.length (kept_and_cut python dailyCap store call)
  rw [List.length_append] at lengths
  simp only [added, addedRow, WindowCall.prepared] at counted lengths ⊢
  omega

theorem keptRows_length_le (cap : Nat) (store : Store) (call : WindowCall) :
    (keptRows python cap store call).length ≤
      cap - (countersOf store call.identity.routerId call.day).rowsStored := by
  rw [keptRows, List.length_take, capState_counters]
  simp only [roomFor]
  split <;> omega

theorem accounted_step (cap : Nat) (calls : List WindowCall) (store : Store) (call : WindowCall)
    (router : Nat) (day : Int) (held : Accounted python cap calls store router day) :
    Accounted python cap (calls ++ [call]) (afterWindow python cap store call) router day := by
  obtain ⟨balance, received, stored, capped⟩ := held
  cases about : call.about router day with
  | false =>
      have counters : countersOf (afterWindow python cap store call) router day =
          countersOf store router day := by simp [countersOf_afterWindow, about]
      have rows : rowsOf (afterWindow python cap store call) router day =
          rowsOf store router day := by simp [rowsOf_afterWindow, about]
      refine ⟨counters ▸ balance, ?_, ?_, counters ▸ capped⟩
      · rw [counters, received]
        simp [List.filter_append, about]
      · rw [counters, rows, stored]
  | true =>
      obtain ⟨named, dated⟩ : call.identity.routerId = router ∧ call.day = day := by
        simpa [WindowCall.about] using about
      subst router day
      obtain ⟨given, added⟩ := addedRow_balance python cap store call
      have room := keptRows_length_le python cap store call
      have keeps : (addedRow python cap store call).rowsStored =
          (keptRows python cap store call).length := rfl
      have counters := countersOf_afterWindow python cap store call call.identity.routerId call.day
      rw [about, if_pos rfl] at counters
      refine ⟨?_, ?_, ?_, ?_⟩
      · rw [counters]
        simp only [DayCounters.add] at balance ⊢
        omega
      · rw [counters, List.filter_append, List.map_append, List.sum_append]
        simp only [DayCounters.add, received, given, List.filter_singleton, about]
        simp
      · rw [counters, rowsOf_afterWindow, about]
        simp [DayCounters.add, stored, keeps]
      · rw [counters]
        simp only [DayCounters.add]
        omega

theorem accounted_run (cap : Nat) (calls : List WindowCall) (router : Nat) (day : Int) :
    Accounted python cap calls (afterWindows python cap Store.empty calls) router day := by
  induction calls using List.reverseRecOn with
  | nil => exact ⟨rfl, rfl, rfl, Nat.zero_le cap⟩
  | append_singleton calls call ih =>
      have last : afterWindows python cap Store.empty (calls ++ [call]) =
          afterWindow python cap (afterWindows python cap Store.empty calls) call := by
        simp [afterWindows]
      rw [last]
      exact accounted_step python cap calls _ call router day ih

theorem capped_step (store : Store) (call : WindowCall) (router : Nat) (day moment : Int)
    (capped : (countersOf store router day).cappedAt = some moment) :
    (countersOf (afterWindow python dailyCap store call) router day).cappedAt = some moment ∧
      rowsOf (afterWindow python dailyCap store call) router day = rowsOf store router day := by
  rw [countersOf_afterWindow, rowsOf_afterWindow]
  cases about : call.about router day with
  | false => simp [capped]
  | true =>
      obtain ⟨rfl, rfl⟩ : call.identity.routerId = router ∧ call.day = day := by
        simpa [WindowCall.about] using about
      have nothing : keptRows python dailyCap store call = [] := by
        simp [keptRows, capState_counters, roomFor, capped]
      simp [DayCounters.add, capped, nothing]

theorem capped_run (store : Store) (calls : List WindowCall) (router : Nat) (day moment : Int)
    (capped : (countersOf store router day).cappedAt = some moment) :
    (countersOf (afterWindows python dailyCap store calls) router day).cappedAt = some moment ∧
      rowsOf (afterWindows python dailyCap store calls) router day = rowsOf store router day := by
  induction calls generalizing store with
  | nil => exact ⟨capped, rfl⟩
  | cons call rest ih =>
      obtain ⟨still, unchanged⟩ := capped_step python dailyCap store call router day moment capped
      obtain ⟨later, rows⟩ := ih (afterWindow python dailyCap store call) still
      exact ⟨later, rows.trans unchanged⟩

theorem window_sums (store : Store) (call : WindowCall) (measure : Measure) :
    sumOf measure ((receivedRecords python call).filter fun record =>
        !leftOut call.storeInternal record) =
      sumOf measure (keptRows python dailyCap store call) +
        sumOf measure (cutRows python dailyCap store call) := by
  rw [← sumOf_append, kept_and_cut]
  exact (prepared_rows (receivedRecords python call) call.storeInternal _ _ measure).2.symm

theorem cut_below_kept (store : Store) (call : WindowCall) (small large : FlowRecord)
    (cut : small ∈ cutRows python dailyCap store call)
    (kept : large ∈ keptRows python dailyCap store call) : small.bytes ≤ large.bytes := by
  have sorted := prepared_largest_first (receivedRecords python call) call.storeInternal
    (!call.keepsPorts call.identity.routerId && call.mergePorts)
    (if call.keepsPorts call.identity.routerId then summarisedRemotePorts else [])
  change (call.prepared (receivedRecords python call)).1.Pairwise _ at sorted
  rw [← kept_and_cut python dailyCap store call, List.pairwise_append] at sorted
  exact sorted.2.2 large kept small cut

end Accounts

/-- After every sequence of windows under one daily cap, the day counters of each router balance,
count the records it received and the rows it has, and stay within the cap; a router that was
capped stores nothing more that day. In each window the kept and the cut rows carry what was not
left out, and no cut row is larger than a kept one. -/
theorem flow_records_accounted (python : Python) (cap : Nat) (calls : List WindowCall) :
    let store := afterWindows python cap Store.empty calls
    (∀ router day,
      let counters := countersOf store router day
      counters.rowsReceived = counters.rowsStored + counters.rowsMerged + counters.rowsInternal +
          counters.rowsNotStored ∧
        counters.rowsReceived = ((calls.filter (·.about router day)).map fun call =>
          (receivedRecords python call).length).sum ∧
        counters.rowsStored = (rowsOf store router day).length ∧
        counters.rowsStored ≤ cap ∧
        ∀ moment later, counters.cappedAt = some moment →
          let after := afterWindows python cap store later
          (countersOf after router day).cappedAt = some moment ∧
            rowsOf after router day = rowsOf store router day) ∧
      ∀ call,
        let received := receivedRecords python call
        let kept := keptRows python cap store call
        let cut := cutRows python cap store call
        (afterWindow python cap store call).records =
            store.records ++ kept.map (fun row => ⟨call.identity, row⟩) ∧
          (∀ measure, sumOf measure
              (received.filter fun record => !leftOut call.storeInternal record) =
            sumOf measure kept + sumOf measure cut) ∧
          (call.storeInternal = false → ∀ measure, sumOf measure
              (received.filter fun record => record.direction ≠ .internal) =
            sumOf measure kept + sumOf measure cut) ∧
          ∀ small ∈ cut, ∀ large ∈ kept, small.bytes ≤ large.bytes := by
  intro store
  constructor
  · intro router day counters
    obtain ⟨balance, received, stored, capped⟩ := accounted_run python cap calls router day
    refine ⟨balance, received, stored, capped, ?_⟩
    intro moment later reached
    exact capped_run python cap store later router day moment reached
  · intro call received kept cut
    have sums := window_sums python cap store call
    refine ⟨records_afterWindow python cap store call, sums, ?_, ?_⟩
    · intro outside measure
      have same : (fun record : FlowRecord => !leftOut call.storeInternal record) =
          fun record => decide (record.direction ≠ .internal) := by
        funext record
        simp [leftOut, outside]
      rw [← sums measure, same]
    · intro small isCut large isKept
      exact cut_below_kept python cap store call small large isCut isKept

def samplePython : Python where
  str
    | .text value => value
    | .int value => decimal value.toNat
    | _ => []
  truthy
    | .text value => value ≠ []
    | .int value => value ≠ 0
    | _ => false
  strip text := text
  lower text := text
  isDigit text := text ≠ [] && text.all Char.isDigit
  int
    | .int value => .number value
    | _ => .refused
  isFloat _ := false
  fromTimestamp _ := some none
  fromIso _ := none
  ipAddress text := if text.all (fun char => char.isDigit || char = '.') then some text else none
  isLocalAddress text := "10.".toList.isPrefixOf text

def sampleRow (dst : Text) (bytes : Int) : CollectorRow
  | .peerIpSrc => .text "172.16.0.9".toList
  | .ipSrc => .text "10.0.0.2".toList
  | .ipDst => .text dst
  | .bytes => .int bytes
  | .packets => .int 3
  | _ => .null

def sampleWindow : WindowCall where
  recordsEnabled := true
  storeInternal := false
  mergePorts := true
  exportOn _ := true
  keepsPorts _ := false
  endpoints := []
  identity :=
    { routerId := 7, organizationId := none, locationId := some 2
      source := "mikrotik_ipfix".toList, windowStart := 300000000, windowSeconds := 300 }
  exporter := "172.16.0.9".toList
  rows := [sampleRow "8.8.8.8".toList 120, sampleRow "1.1.1.1".toList 900,
    sampleRow "10.0.0.1".toList 40]

/-- A cap of one row is reached by the sample window and closes the day for good. -/
theorem flow_records_accounted_capped :
    let store := afterWindows samplePython 1 Store.empty [sampleWindow]
    countersOf store 7 0 = ⟨1, 1, some 300000000, 3, 0, 1⟩ ∧
      ∀ later, rowsOf (afterWindows samplePython 1 store later) 7 0 = rowsOf store 7 0 := by
  intro store
  have counted : countersOf store 7 0 = ⟨1, 1, some 300000000, 3, 0, 1⟩ := by decide +kernel
  have accounts := (flow_records_accounted samplePython 1 [sampleWindow]).1 7 0
  refine ⟨counted, fun later => ?_⟩
  exact (accounts.2.2.2.2 300000000 later (congrArg DayCounters.cappedAt counted)).2

end CloudGuest.Traffic
