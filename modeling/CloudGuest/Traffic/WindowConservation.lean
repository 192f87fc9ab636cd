import CloudGuest.Library.Faults
import CloudGuest.Traffic.RecordWriter
import CloudGuest.Traffic.WindowReduction

/-!
What a window says about its rows. The loop of `reduce_window` is compared with a
window written down from all the rows of the exporter at once: sums over their
classes and tallies of the client rows. From there every byte is in one class and in
each breakdown, and the order of the rows moves nothing but the order of entries.
-/

namespace CloudGuest.Traffic

open Faults Texts Sorting Tallies Uuids

structure ClientRow where
  way : Way
  talker : Text
  remote : Text
  row : RowReading
  deriving DecidableEq

def clientOf (row : RowReading) : Option ClientRow :=
  match row.kind with
  | .client way talker remote => some ⟨way, talker, remote, row⟩
  | _ => none

abbrev Serviced := ServiceKey × ClientRow

def serviceOf (client : ClientRow) : Option Serviced :=
  client.row.key.map fun key => (key, client)

def hasPackets (service : Serviced) : Bool := service.2.row.counted.isSome

def bytesOfKind (kind : RowClass) (row : RowReading) : Nat :=
  if row.kind = kind then row.nbytes else 0

def wayBytes (way : Way) (client : ClientRow) : Nat :=
  if client.way = way then client.row.nbytes else 0

def wayPackets (way : Way) (client : ClientRow) : Nat :=
  if client.way = way then client.row.npackets else 0

def isOverhead (row : RowReading) : Bool := row.kind = .overhead .up ∨ row.kind = .overhead .down

section Tables

variable (clients : List ClientRow) (services : List Serviced)

def talkerTable : List (Text × TalkerTotals) :=
  tally ClientRow.talker (fun _ => ⟨0, 0, 0⟩)
    (fun totals client => totals.add client.way client.row.nbytes client.row.nflows) clients

def destinationTable : List (Text × DestinationTotals) :=
  tally ClientRow.remote (fun _ => ⟨0, 0, 0, 0⟩)
    (fun totals client => totals.add client.way client.row.nbytes client.row.nflows) clients

def serviceTable {Key : Type} [DecidableEq Key] (keyOf : Serviced → Key) :
    List (Key × ServiceTotals) :=
  tally keyOf (fun _ => ⟨0, 0, 0⟩)
    (fun totals service => totals.add service.2.way service.2.row.nbytes service.2.row.nflows)
    services

def packetTable {Key : Type} [DecidableEq Key] (keyOf : Serviced → Key) :
    List (Key × PacketTotals) :=
  tally keyOf (fun _ => ⟨0, 0⟩)
    (fun totals service => totals.add service.2.way (service.2.row.counted.getD 0))
    (services.filter hasPackets)

end Tables

def remoteService (service : Serviced) : Text × ServiceKey := (service.2.remote, service.1)

def clientsRead (readings : List (Option RowReading)) : List ClientRow :=
  (readings.filterMap id).filterMap clientOf

def windowOf (exporter : Text) (readings : List (Option RowReading)) : ExporterWindow :=
  let rows := readings.filterMap id
  let clients := clientsRead readings
  let services := clients.filterMap serviceOf
  { exporterAddress := exporter
    talkers := talkerTable clients
    destinations := destinationTable clients
    services := serviceTable services Prod.fst
    destinationServices := serviceTable services remoteService
    servicePackets := packetTable services Prod.fst
    destinationServicePackets := packetTable services remoteService
    rowsWithService := rows.countP (·.key.isSome)
    rowsWithoutService := rows.countP (·.key.isNone)
    serviceRowsWithoutPackets := services.countP (!hasPackets ·)
    bytesTotal := (rows.map (·.nbytes)).sum
    bytesUp := (clients.map (wayBytes .up)).sum
    bytesDown := (clients.map (wayBytes .down)).sum
    packetsTotal := (rows.map (·.npackets)).sum
    flowsTotal := (rows.map (·.nflows)).sum
    bytesInternal := (rows.map (bytesOfKind .internal)).sum
    bytesUnclassified := (rows.map (bytesOfKind .unclassified)).sum
    rowsRejected := readings.countP (·.isNone)
    overheadBytesUp := (rows.map (bytesOfKind (.overhead .up))).sum
    overheadBytesDown := (rows.map (bytesOfKind (.overhead .down))).sum
    overheadRows := rows.countP isOverhead }

theorem windowOf_reject (exporter : Text) (readings : List (Option RowReading)) :
    windowOf exporter (readings ++ [none]) = (windowOf exporter readings).add none := by
  simp [windowOf, clientsRead, ExporterWindow.add]

theorem windowOf_client (exporter : Text) (readings : List (Option RowReading)) (row : RowReading)
    (way : Way) (talker remote : Text) (kind : row.kind = .client way talker remote) :
    windowOf exporter (readings ++ [some row]) = (windowOf exporter readings).add (some row) := by
  -- The key and the packet count decide which of the service tables the row enters.
  cases keyed : row.key with
  | none =>
      cases way <;>
      simp [windowOf, clientsRead, ExporterWindow.add, ExporterWindow.addClient, kind, keyed,
        clientOf, serviceOf, talkerTable, destinationTable, tally_append, bytesOfKind, wayBytes, isOverhead]
  | some key =>
      cases counted : row.counted with
      | none =>
          cases way <;>
          simp [windowOf, clientsRead, ExporterWindow.add, ExporterWindow.addClient, kind, keyed,
            counted, clientOf, serviceOf, talkerTable, destinationTable, serviceTable, packetTable,
            remoteService, hasPackets, tally_append, bytesOfKind, wayBytes, isOverhead]
      | some npackets =>
          cases way <;>
          simp [windowOf, clientsRead, ExporterWindow.add, ExporterWindow.addClient, kind, keyed,
            counted, clientOf, serviceOf, talkerTable, destinationTable, serviceTable, packetTable,
            remoteService, hasPackets, tally_append, bytesOfKind, wayBytes, isOverhead]

theorem windowOf_add (exporter : Text) (readings : List (Option RowReading))
    (reading : Option RowReading) :
    windowOf exporter (readings ++ [reading]) = (windowOf exporter readings).add reading := by
  cases reading with
  | none => exact windowOf_reject exporter readings
  | some row =>
      cases kind : row.kind with
      | client way talker remote =>
          exact windowOf_client exporter readings row way talker remote kind
      | overhead way =>
          cases way <;> cases keyed : row.key <;>
            simp [windowOf, clientsRead, ExporterWindow.add, kind, keyed, clientOf, bytesOfKind,
              isOverhead]
      | internal =>
          cases keyed : row.key <;>
            simp [windowOf, clientsRead, ExporterWindow.add, kind, keyed, clientOf, bytesOfKind,
              isOverhead]
      | unclassified =>
          cases keyed : row.key <;>
            simp [windowOf, clientsRead, ExporterWindow.add, kind, keyed, clientOf, bytesOfKind,
              isOverhead]

theorem foldl_add (exporter : Text) (readings : List (Option RowReading)) :
    readings.foldl ExporterWindow.add (.fresh exporter) = windowOf exporter readings := by
  -- From the back, as the loop adds one reading after the others.
  induction readings using List.reverseRecOn with
  | nil => rfl
  | append_singleton readings reading ih =>
      rw [List.foldl_append, ih, List.foldl_cons, List.foldl_nil, windowOf_add]

/-! ### From the rows to the windows -/

section Rows

variable (python : Python) (endpoints : PlatformEndpoints)

def named (rows : List CollectorRow) : List CollectorRow :=
  rows.filter fun row => exporterOf python row ≠ []

def entryRead (row : CollectorRow) : Option (Text × Option RowReading) :=
  (readRow python endpoints row).map fun reading => (exporterOf python row, reading)

def readingsOf (exporter : Text) (rows : List CollectorRow) : List (Option RowReading) :=
  (rows.filter fun row => exporterOf python row = exporter).filterMap (readRow python endpoints)

theorem reduceWindow_tally (rows : List CollectorRow) :
    reduceWindow python endpoints rows =
      ((named python rows).mapM (entryRead python endpoints)).map
        (tally Prod.fst ExporterWindow.fresh fun window entry => window.add entry.2) := by
  induction rows using List.reverseRecOn with
  | nil => rfl
  | append_singleton rows row ih =>
      have step : reduceWindow python endpoints (rows ++ [row]) =
          (reduceWindow python endpoints rows).bind fun out =>
            reduceRow python endpoints out row := by
        simp [reduceWindow]
      have more : named python (rows ++ [row]) =
          named python rows ++ if exporterOf python row = [] then [] else [row] := by
        by_cases anonymous : exporterOf python row = [] <;> simp [named, anonymous]
      rw [step, ih, more]
      by_cases anonymous : exporterOf python row = []
      -- A row without an exporter is skipped before anything of it is read.
      · simp [reduceRow, anonymous]
      · simp only [reduceRow, anonymous, if_false, List.mapM_append, List.mapM_cons, List.mapM_nil]
        cases (named python rows).mapM (entryRead python endpoints) with
        | none => rfl
        | some entries =>
            cases reads : readRow python endpoints row with
            | none => simp [entryRead, reads]
            | some reading => simp [entryRead, reads, tally_append]

theorem reduceWindow_some (rows : List CollectorRow) (out : List (Text × ExporterWindow)) :
    reduceWindow python endpoints rows = some out ↔
      (∀ row ∈ named python rows, (readRow python endpoints row).isSome) ∧
      out = tally Prod.fst ExporterWindow.fresh (fun window entry => window.add entry.2)
        ((named python rows).filterMap (entryRead python endpoints)) := by
  rw [reduceWindow_tally, Option.map_eq_some_iff]
  simp only [mapM_some, entryRead, Option.isSome_map]
  constructor
  · rintro ⟨entries, ⟨all, rfl⟩, rfl⟩
    exact ⟨all, rfl⟩
  · rintro ⟨all, rfl⟩
    exact ⟨_, ⟨all, rfl⟩, rfl⟩

theorem filter_entries (rows : List CollectorRow) (exporter : Text) (present : exporter ≠ []) :
    (((named python rows).filterMap (entryRead python endpoints)).filter
      fun entry => entry.1 = exporter).map Prod.snd =
        readingsOf python endpoints exporter rows := by
  induction rows with
  | nil => rfl
  | cons row rest ih =>
      simp only [readingsOf] at ih ⊢
      by_cases mine : exporterOf python row = exporter
      · subst mine
        simp only [named, List.filter_cons, present, ne_eq, not_false_eq_true, decide_true,
          if_true, List.filterMap_cons, entryRead] at ih ⊢
        cases readRow python endpoints row with
        | none => exact ih
        | some reading => simpa using ih
      · by_cases anonymous : exporterOf python row = []
        · simpa [named, List.filter_cons, anonymous, mine, present.symm] using ih
        · simp only [named, List.filter_cons, anonymous, mine, ne_eq, not_false_eq_true,
            decide_true, decide_false, if_true, List.filterMap_cons, entryRead] at ih ⊢
          cases readRow python endpoints row with
          | none => exact ih
          | some reading => simpa [mine] using ih

theorem mem_reduceWindow (rows : List CollectorRow) (out : List (Text × ExporterWindow))
    (reduced : reduceWindow python endpoints rows = some out) (exporter : Text)
    (window : ExporterWindow) : (exporter, window) ∈ out ↔
      (exporter ≠ [] ∧ ∃ row ∈ rows, exporterOf python row = exporter) ∧
        window = windowOf exporter (readingsOf python endpoints exporter rows) := by
  obtain ⟨all, rfl⟩ := (reduceWindow_some python endpoints rows out).mp reduced
  have seen : (∃ entry ∈ (named python rows).filterMap (entryRead python endpoints),
      entry.1 = exporter) ↔ exporter ≠ [] ∧ ∃ row ∈ rows, exporterOf python row = exporter := by
    constructor
    · rintro ⟨entry, member, rfl⟩
      obtain ⟨row, inNamed, reads⟩ := List.mem_filterMap.mp member
      obtain ⟨reading, -, rfl⟩ := Option.map_eq_some_iff.mp reads
      have kept : row ∈ rows ∧ exporterOf python row ≠ [] := by simpa [named] using inNamed
      exact ⟨kept.2, row, kept.1, rfl⟩
    · rintro ⟨present, row, member, rfl⟩
      have inNamed : row ∈ named python rows := by simp [named, member, present]
      obtain ⟨reading, reads⟩ := Option.isSome_iff_exists.mp (all row inNamed)
      exact ⟨(exporterOf python row, reading),
        List.mem_filterMap.mpr ⟨row, inNamed, by simp [entryRead, reads]⟩, rfl⟩
  -- An entry of the table is the loop over its own rows, and that is `windowOf`.
  rw [mem_tally, seen, and_comm]
  refine and_congr_right fun present => ?_
  rw [← filter_entries python endpoints rows exporter present.1, ← foldl_add, List.foldl_map]

end Rows

/-! ### What a window adds up to -/

theorem bytes_classes (rows : List RowReading) :
    (rows.map (·.nbytes)).sum =
      ((rows.filterMap clientOf).map (wayBytes .up)).sum +
      ((rows.filterMap clientOf).map (wayBytes .down)).sum +
      (rows.map (bytesOfKind .internal)).sum + (rows.map (bytesOfKind .unclassified)).sum +
      (rows.map (bytesOfKind (.overhead .up))).sum +
      (rows.map (bytesOfKind (.overhead .down))).sum := by
  induction rows with
  | nil => rfl
  | cons row rest ih =>
      cases kind : row.kind with
      | client way talker remote =>
          cases way <;> simp [clientOf, wayBytes, bytesOfKind, kind, ih] <;> omega
      | overhead way => cases way <;> simp [clientOf, bytesOfKind, kind, ih] <;> omega
      | internal => simp [clientOf, bytesOfKind, kind, ih]; omega
      | unclassified => simp [clientOf, bytesOfKind, kind, ih]; omega

section Totals

variable (clients : List ClientRow)

def TalkerTotals.bytes (totals : TalkerTotals) : Way → Nat
  | .up => totals.bytesUp
  | .down => totals.bytesDown

def DestinationTotals.bytesOf (totals : DestinationTotals) : Way → Nat
  | .up => totals.bytesUp
  | .down => totals.bytesDown

def ServiceTotals.bytes (totals : ServiceTotals) : Way → Nat
  | .up => totals.bytesUp
  | .down => totals.bytesDown

def PacketTotals.packets (totals : PacketTotals) : Way → Nat
  | .up => totals.packetsUp
  | .down => totals.packetsDown

theorem talkers_bytes (way : Way) :
    ((talkerTable clients).map fun talker => talker.2.bytes way).sum =
      (clients.map (wayBytes way)).sum := by
  refine sum_tally ClientRow.talker _ _ (fun totals : TalkerTotals => totals.bytes way)
    (wayBytes way) ?_ ?_ clients
  · cases way <;> exact fun _ => rfl
  · intro totals client
    cases way <;> cases sent : client.way <;>
      simp [TalkerTotals.add, TalkerTotals.bytes, wayBytes, sent]

theorem talkers_flows :
    ((talkerTable clients).map fun talker => talker.2.flows).sum =
      (clients.map fun client => client.row.nflows).sum := by
  refine sum_tally ClientRow.talker _ _ TalkerTotals.flows (fun client => client.row.nflows)
    ?_ ?_ clients
  · exact fun _ => rfl
  · intro totals client
    cases client.way <;> rfl

theorem destinations_bytes (way : Way) :
    ((destinationTable clients).map fun destination => destination.2.bytesOf way).sum =
      (clients.map (wayBytes way)).sum := by
  refine sum_tally ClientRow.remote _ _ (fun totals : DestinationTotals => totals.bytesOf way)
    (wayBytes way) ?_ ?_ clients
  · cases way <;> exact fun _ => rfl
  · intro totals client
    cases way <;> cases sent : client.way <;>
      simp [DestinationTotals.add, DestinationTotals.bytesOf, wayBytes, sent]

theorem destinations_total :
    ((destinationTable clients).map fun destination => destination.2.bytes).sum =
      (clients.map fun client => client.row.nbytes).sum := by
  refine sum_tally ClientRow.remote _ _ DestinationTotals.bytes (fun client => client.row.nbytes)
    ?_ ?_ clients
  · exact fun _ => rfl
  · intro totals client
    cases client.way <;> rfl

theorem bytes_ways :
    (clients.map fun client => client.row.nbytes).sum =
      (clients.map (wayBytes .up)).sum + (clients.map (wayBytes .down)).sum := by
  induction clients with
  | nil => rfl
  | cons client rest ih =>
      cases sent : client.way <;> simp [wayBytes, sent, ih] <;> omega

end Totals

section Services

variable (services : List Serviced) {Key : Type} [DecidableEq Key] (keyOf : Serviced → Key)

theorem services_bytes (way : Way) :
    ((serviceTable services keyOf).map fun service => service.2.bytes way).sum =
      (services.map fun service => wayBytes way service.2).sum := by
  refine sum_tally keyOf _ _ (fun totals : ServiceTotals => totals.bytes way)
    (fun service => wayBytes way service.2) ?_ ?_ services
  · cases way <;> exact fun _ => rfl
  · intro totals service
    cases way <;> cases sent : service.2.way <;>
      simp [ServiceTotals.add, ServiceTotals.bytes, wayBytes, sent]

theorem services_flows :
    ((serviceTable services keyOf).map fun service => service.2.flows).sum =
      (services.map fun service => service.2.row.nflows).sum := by
  refine sum_tally keyOf _ _ ServiceTotals.flows (fun service => service.2.row.nflows)
    ?_ ?_ services
  · exact fun _ => rfl
  · intro totals service
    cases service.2.way <;> rfl

theorem services_packets (way : Way) (counted : ∀ service ∈ services, hasPackets service = true) :
    ((serviceTable services keyOf).map fun service =>
      ((valueAt (packetTable services keyOf) service.1).map (·.packets way)).getD 0).sum =
      (services.map fun service =>
        if service.2.way = way then service.2.row.counted.getD 0 else 0).sum := by
  rw [packetTable, List.filter_eq_self.mpr counted]
  refine sum_lookup keyOf _ _ (fun totals : PacketTotals => totals.packets way)
    (fun service => if service.2.way = way then service.2.row.counted.getD 0 else 0)
    ?_ ?_ _ _ 0 services
  · cases way <;> exact fun _ => rfl
  · intro totals service
    cases way <;> cases sent : service.2.way <;>
      simp [PacketTotals.add, PacketTotals.packets]

end Services

/-! ### The stored lists -/

section ServiceRows

variable (window : ExporterWindow)

def topServices (limit : Int) : List (ServiceKey × ServiceTotals) :=
  (rankedServices window).take (cutAt (rankedServices window) limit)

def otherServices (limit : Int) : List (ServiceKey × ServiceTotals) :=
  (rankedServices window).drop (cutAt (rankedServices window) limit)

theorem services_split (limit : Int) :
    (topServices window limit ++ otherServices window limit).Perm window.services := by
  rw [topServices, otherServices, List.take_append_drop]
  exact sortOn_perm _ _

def ownRow (service : ServiceKey × ServiceTotals) : ServiceRow :=
  serviceRow window service.1.1 service.1.2 service.2 (packetsOf window service.1)

def foldedRow (tail : List (ServiceKey × ServiceTotals)) (folded : Nat × ServiceTotals) :
    ServiceRow :=
  serviceRow window folded.1 otherServicePort folded.2
    ((valueAt (foldedPackets window tail) folded.1).getD ⟨0, 0⟩)

theorem foldedPackets_some (tail : List (ServiceKey × ServiceTotals)) (folded : Nat × ServiceTotals)
    (member : folded ∈ foldedTotals tail) :
    (valueAt (foldedPackets window tail) folded.1).isSome := by
  obtain ⟨-, seen⟩ := (mem_tally _ _ _ tail folded.1 folded.2).mp member
  exact valueAt_tally _ _ _ tail folded.1 seen

theorem serviceRows_some (measured : window.servicesMeasured) (limit : Int) :
    serviceRows window limit = some
      ((topServices window limit).map (ownRow window) ++
        (sortOn Prod.fst (foldedTotals (otherServices window limit))).map
          (foldedRow window (otherServices window limit))) := by
  have folds : (sortOn Prod.fst (foldedTotals (otherServices window limit))).mapM (fun folded =>
      (valueAt (foldedPackets window (otherServices window limit)) folded.1).map
        (serviceRow window folded.1 otherServicePort folded.2)) =
      some ((sortOn Prod.fst (foldedTotals (otherServices window limit))).map
        (foldedRow window (otherServices window limit))) := by
    refine (mapM_some _ _ _).mpr ⟨?_, ?_⟩
    · intro folded member
      rw [Option.isSome_map]
      exact foldedPackets_some window _ folded ((mem_sortOn _ _ _).mp member)
    · rw [← List.filterMap_eq_map]
      refine List.filterMap_congr ?_
      intro folded member
      obtain ⟨packets, found⟩ := Option.isSome_iff_exists.mp
        (foldedPackets_some window _ folded ((mem_sortOn _ _ _).mp member))
      simp [foldedRow, found]
  rw [serviceRows, if_pos measured]
  exact congrArg (Option.bind · fun others =>
    some ((topServices window limit).map (ownRow window) ++ others)) folds

/-- A count read from a window's rows that adds up as totals and packets are folded. -/
structure RowCount where
  count : ServiceRow → Nat
  ofTotals : ServiceTotals → Nat
  ofPackets : PacketTotals → Nat
  reads : ∀ protocol port totals packets,
    count (serviceRow window protocol port totals packets) = ofTotals totals + ofPackets packets
  noTotals : ofTotals ⟨0, 0, 0⟩ = 0
  noPackets : ofPackets ⟨0, 0⟩ = 0
  totalsPlus : ∀ rest totals, ofTotals (rest.plus totals) = ofTotals rest + ofTotals totals
  packetsPlus : ∀ rest packets, ofPackets (rest.plus packets) = ofPackets rest + ofPackets packets

variable {window}

def RowCount.ofService (row : RowCount window) (service : ServiceKey × ServiceTotals) : Nat :=
  row.ofTotals service.2 + row.ofPackets (packetsOf window service.1)

theorem foldedRows_sum (row : RowCount window) (tail : List (ServiceKey × ServiceTotals)) :
    (((sortOn Prod.fst (foldedTotals tail)).map (foldedRow window tail)).map row.count).sum =
      (tail.map row.ofService).sum := by
  have totals : ((foldedTotals tail).map fun folded => row.ofTotals folded.2).sum =
      (tail.map fun service => row.ofTotals service.2).sum :=
    sum_tally _ _ _ row.ofTotals (fun service => row.ofTotals service.2) (fun _ => row.noTotals)
      (fun rest service => row.totalsPlus rest service.2) tail
  have packets : ((foldedTotals tail).map fun folded =>
        ((valueAt (foldedPackets window tail) folded.1).map row.ofPackets).getD 0).sum =
      (tail.map fun service => row.ofPackets (packetsOf window service.1)).sum :=
    sum_lookup _ _ _ row.ofPackets (fun service => row.ofPackets (packetsOf window service.1))
      (fun _ => row.noPackets)
      (fun rest service => row.packetsPlus rest (packetsOf window service.1))
      _ _ 0 tail
  rw [List.map_map, ((sortOn_perm _ _).map _).sum_eq]
  calc ((foldedTotals tail).map (row.count ∘ foldedRow window tail)).sum
      = ((foldedTotals tail).map fun folded => row.ofTotals folded.2 +
          ((valueAt (foldedPackets window tail) folded.1).map row.ofPackets).getD 0).sum := by
        refine congrArg List.sum (List.map_congr_left ?_)
        intro folded _
        rw [Function.comp_apply, foldedRow, row.reads]
        cases valueAt (foldedPackets window tail) folded.1 with
        | none => exact congrArg (row.ofTotals folded.2 + ·) row.noPackets
        | some packets => rfl
    _ = (tail.map fun service => row.ofTotals service.2).sum +
          (tail.map fun service => row.ofPackets (packetsOf window service.1)).sum := by
        rw [List.sum_map_add, totals, packets]
    _ = (tail.map row.ofService).sum := (List.sum_map_add).symm

theorem serviceRows_sum (measured : window.servicesMeasured) (row : RowCount window) (limit : Int)
    (rows : List ServiceRow) (listed : serviceRows window limit = some rows) :
    (rows.map row.count).sum = (window.services.map row.ofService).sum := by
  rw [serviceRows_some window measured] at listed
  obtain rfl := Option.some.inj listed
  have own : ((topServices window limit).map (ownRow window)).map row.count =
      (topServices window limit).map row.ofService := by
    rw [List.map_map]
    exact List.map_congr_left fun service _ => row.reads _ _ _ _
  -- What is cut off and what is kept are the services together.
  rw [List.map_append, List.sum_append, own, foldedRows_sum, ← List.sum_append, ← List.map_append]
  exact ((services_split window limit).map _).sum_eq

def bytesCount (way : Way) : RowCount window where
  count row := match way with | .up => row.bytesUp | .down => row.bytesDown
  ofTotals totals := totals.bytes way
  ofPackets _ := 0
  reads _ _ _ _ := by cases way <;> rfl
  noTotals := by cases way <;> rfl
  noPackets := rfl
  totalsPlus _ _ := by cases way <;> rfl
  packetsPlus _ _ := rfl

def flowsCount : RowCount window where
  count row := row.flows
  ofTotals totals := totals.flows
  ofPackets _ := 0
  reads _ _ _ _ := rfl
  noTotals := rfl
  noPackets := rfl
  totalsPlus _ _ := rfl
  packetsPlus _ _ := rfl

def packetsCount (measured : window.packetsMeasured) (way : Way) : RowCount window where
  count row := (match way with | .up => row.packetsUp | .down => row.packetsDown).getD 0
  ofTotals _ := 0
  ofPackets packets := packets.packets way
  reads _ _ _ packets := by
    cases way <;> simp [serviceRow, packetsPair, measured, PacketTotals.packets]
  noTotals := rfl
  noPackets := by cases way <;> rfl
  totalsPlus _ _ := rfl
  packetsPlus _ _ := by cases way <;> rfl

end ServiceRows

theorem topTalkers_sum (window : ExporterWindow)
    (attribution : Text → Option (TalkerMatch × Option Uuid)) (limit : Int) :
    ((topTalkers window attribution limit).1.map fun entry => entry.bytesUp + entry.bytesDown).sum +
      (topTalkers window attribution limit).2 =
      (window.talkers.map fun talker => talker.2.bytesTotal).sum := by
  have entries : ∀ talkers : List (Text × TalkerTotals),
      ((talkers.map (talkerEntry attribution)).map fun entry => entry.bytesUp + entry.bytesDown) =
        talkers.map fun talker => talker.2.bytesTotal := by
    intro talkers
    rw [List.map_map]
    rfl
  have ranked : (rankedTalkers window).Perm window.talkers := sortOn_perm _ _
  rw [topTalkers, entries, ← List.sum_append, ← List.map_append, List.take_append_drop]
  exact (ranked.map _).sum_eq

theorem topDestinations_sum (window : ExporterWindow) (limit : Int) :
    ((topDestinations window limit).1.map fun entry => entry.bytes).sum +
      (topDestinations window limit).2 =
      (window.destinations.map fun destination => destination.2.bytes).sum := by
  have entries : ∀ destinations : List (Text × DestinationTotals),
      ((destinations.map destinationEntry).map fun entry => entry.bytes) =
        destinations.map fun destination => destination.2.bytes := by
    intro destinations
    rw [List.map_map]
    rfl
  have ranked : (rankedDestinations window).Perm window.destinations := sortOn_perm _ _
  rw [topDestinations, entries, ← List.sum_append, ← List.map_append, List.take_append_drop]
  exact (ranked.map _).sum_eq

/-! ### Conservation -/

section Measured

variable {clients : List ClientRow}

theorem services_clients (keyed : ∀ client ∈ clients, client.row.key.isSome) :
    (clients.filterMap serviceOf).map Prod.snd = clients := by
  induction clients with
  | nil => rfl
  | cons client rest ih =>
      obtain ⟨first, others⟩ := List.forall_mem_cons.mp keyed
      obtain ⟨key, known⟩ := Option.isSome_iff_exists.mp first
      simp [serviceOf, known, ih others]

theorem clientOf_row {row : RowReading} {client : ClientRow} (read : clientOf row = some client) :
    client.row = row := by
  unfold clientOf at read
  split at read
  · cases read
    rfl
  · cases read

theorem measured_clients {exporter : Text} {readings : List (Option RowReading)}
    (measured : (windowOf exporter readings).servicesMeasured) :
    ∀ client ∈ clientsRead readings, client.row.key.isSome := by
  have none := List.countP_eq_zero.mp measured.2
  intro client member
  obtain ⟨row, inRows, read⟩ := List.mem_filterMap.mp member
  rw [clientOf_row read]
  have keyed := none row inRows
  cases known : row.key with
  | none => simp [known] at keyed
  | some key => rfl

theorem measured_packets {exporter : Text} {readings : List (Option RowReading)}
    (measured : (windowOf exporter readings).packetsMeasured) :
    ∀ service ∈ (clientsRead readings).filterMap serviceOf, hasPackets service = true := by
  have none := List.countP_eq_zero.mp measured.2
  intro service member
  simpa using none service member

end Measured

theorem countOf_intOf (python : Python) (value : Cell) (npackets count : Nat)
    (read : intOf python value = some npackets)
    (carried : countOf python value = some (some count)) : count = npackets := by
  unfold countOf whole at carried
  unfold intOf at read
  split at carried
  · simp at carried
  · simp at carried
  · cases converted : python.int value with
    | number number =>
        simp only [converted, Option.some.injEq] at read carried
        split at carried
        · exact (Option.some.inj carried).symm.trans read
        · cases carried
    | refused => simp [converted] at carried
    | raised => simp [converted] at carried

theorem readRow_counted (python : Python) (endpoints : PlatformEndpoints) (row : CollectorRow)
    (reading : RowReading) (read : readRow python endpoints row = some (some reading))
    (npackets : Nat) (counted : reading.counted = some npackets) : npackets = reading.npackets := by
  unfold readRow at read
  dsimp only at read
  split at read
  · simp only [Option.bind_eq_bind, Option.bind_eq_some_iff, Option.pure_def,
      Option.some.injEq] at read
    obtain ⟨_, _, _, _, _, _, packets, whole, _, _, carried, count, rfl⟩ := read
    exact countOf_intOf python _ packets npackets whole (count.trans (congrArg some counted))
  · cases read

/-! The client rows of an exporter, and the packets they carry one way. -/

def clientRows (python : Python) (endpoints : PlatformEndpoints) (exporter : Text)
    (rows : List CollectorRow) : List ClientRow :=
  clientsRead (readingsOf python endpoints exporter rows)

def packetsSent (way : Way) (clients : List ClientRow) : Nat := (clients.map (wayPackets way)).sum

theorem clientRows_counted (python : Python) (endpoints : PlatformEndpoints) (exporter : Text)
    (rows : List CollectorRow) :
    ∀ client ∈ clientRows python endpoints exporter rows, ∀ npackets,
      client.row.counted = some npackets → npackets = client.row.npackets := by
  intro client member npackets counted
  obtain ⟨reading, inReadings, isClient⟩ := List.mem_filterMap.mp member
  obtain ⟨_, inRead, rfl⟩ := List.mem_filterMap.mp inReadings
  obtain ⟨row, -, read⟩ := List.mem_filterMap.mp inRead
  rw [clientOf_row isClient] at counted ⊢
  exact readRow_counted python endpoints row reading read npackets counted

theorem packets_services (way : Way) (clients : List ClientRow)
    (keyed : ∀ client ∈ clients, client.row.key.isSome)
    (carried : ∀ service ∈ clients.filterMap serviceOf, hasPackets service = true)
    (exact : ∀ client ∈ clients, ∀ npackets,
      client.row.counted = some npackets → npackets = client.row.npackets) :
    ((clients.filterMap serviceOf).map fun service =>
      if service.2.way = way then service.2.row.counted.getD 0 else 0).sum =
      packetsSent way clients := by
  have same : ∀ service ∈ clients.filterMap serviceOf,
      (if service.2.way = way then service.2.row.counted.getD 0 else 0) =
        wayPackets way service.2 := by
    intro service member
    have listed : service.2 ∈ clients := by
      rw [← services_clients keyed]
      exact List.mem_map_of_mem member
    obtain ⟨npackets, counted⟩ := Option.isSome_iff_exists.mp (carried service member)
    rw [counted, wayPackets, ← exact service.2 listed npackets counted]
    rfl
  rw [List.map_congr_left same, packetsSent]
  conv_rhs => rw [← services_clients keyed, List.map_map]
  rfl

/-- A window in which every byte, flow and packet of its rows is in each breakdown. -/
structure Conserved (clients : List ClientRow) (window : ExporterWindow) : Prop where
  classes : window.bytesTotal = window.bytesUp + window.bytesDown + window.bytesInternal +
    window.bytesUnclassified + window.overheadBytesUp + window.overheadBytesDown
  talkersUp : (window.talkers.map fun talker => talker.2.bytesUp).sum = window.bytesUp
  talkersDown : (window.talkers.map fun talker => talker.2.bytesDown).sum = window.bytesDown
  destinationsUp : (window.destinations.map fun destination => destination.2.bytesUp).sum =
    window.bytesUp
  destinationsDown : (window.destinations.map fun destination => destination.2.bytesDown).sum =
    window.bytesDown
  services : window.servicesMeasured → ∀ limit, ∃ rows, serviceRows window limit = some rows ∧
    (rows.map fun row => row.bytesUp).sum = window.bytesUp ∧
    (rows.map fun row => row.bytesDown).sum = window.bytesDown ∧
    (rows.map fun row => row.flows).sum = (window.talkers.map fun talker => talker.2.flows).sum
  packets : window.packetsMeasured → ∀ limit, ∃ rows, serviceRows window limit = some rows ∧
    (∀ row ∈ rows, row.packetsUp.isSome ∧ row.packetsDown.isSome) ∧
    (rows.map fun row => row.packetsUp.getD 0).sum = packetsSent .up clients ∧
    (rows.map fun row => row.packetsDown.getD 0).sum = packetsSent .down clients
  topTalkers : ∀ attribution limit,
    ((topTalkers window attribution limit).1.map fun entry => entry.bytesUp + entry.bytesDown).sum +
      (topTalkers window attribution limit).2 = window.bytesUp + window.bytesDown
  topDestinations : ∀ limit,
    ((topDestinations window limit).1.map fun entry => entry.bytes).sum +
      (topDestinations window limit).2 = window.bytesUp + window.bytesDown

theorem serviceRows_packets (window : ExporterWindow) (measured : window.packetsMeasured)
    (limit : Int) (rows : List ServiceRow) (listed : serviceRows window limit = some rows) :
    ∀ row ∈ rows, row.packetsUp.isSome ∧ row.packetsDown.isSome := by
  rw [serviceRows_some window measured.1] at listed
  obtain rfl := Option.some.inj listed
  intro row member
  rcases List.mem_append.mp member with own | folded
  · obtain ⟨service, -, rfl⟩ := List.mem_map.mp own
    simp [ownRow, serviceRow, packetsPair, measured]
  · obtain ⟨entry, -, rfl⟩ := List.mem_map.mp folded
    simp [foldedRow, serviceRow, packetsPair, measured]

section Window

variable (exporter : Text) (readings : List (Option RowReading))

theorem windowOf_services (measured : (windowOf exporter readings).servicesMeasured)
    (amount : ClientRow → Nat) :
    (((clientsRead readings).filterMap serviceOf).map fun service => amount service.2).sum =
      ((clientsRead readings).map amount).sum := by
  conv_rhs => rw [← services_clients (measured_clients measured), List.map_map]
  rfl

theorem windowOf_rows (measured : (windowOf exporter readings).servicesMeasured) (limit : Int)
    (rows : List ServiceRow) (listed : serviceRows (windowOf exporter readings) limit = some rows) :
    (rows.map fun row => row.bytesUp).sum = (windowOf exporter readings).bytesUp ∧
    (rows.map fun row => row.bytesDown).sum = (windowOf exporter readings).bytesDown ∧
    (rows.map fun row => row.flows).sum =
      ((windowOf exporter readings).talkers.map fun talker => talker.2.flows).sum := by
  refine ⟨?_, ?_, ?_⟩
  · calc (rows.map fun row => row.bytesUp).sum
        = ((windowOf exporter readings).services.map fun service => service.2.bytes .up).sum :=
          serviceRows_sum measured (bytesCount .up) limit rows listed
      _ = _ := services_bytes _ Prod.fst .up
      _ = (windowOf exporter readings).bytesUp := windowOf_services _ _ measured (wayBytes .up)
  · calc (rows.map fun row => row.bytesDown).sum
        = ((windowOf exporter readings).services.map fun service => service.2.bytes .down).sum :=
          serviceRows_sum measured (bytesCount .down) limit rows listed
      _ = _ := services_bytes _ Prod.fst .down
      _ = (windowOf exporter readings).bytesDown := windowOf_services _ _ measured (wayBytes .down)
  · calc (rows.map fun row => row.flows).sum
        = ((windowOf exporter readings).services.map fun service => service.2.flows).sum :=
          serviceRows_sum measured flowsCount limit rows listed
      _ = _ := services_flows _ Prod.fst
      _ = _ := windowOf_services _ _ measured fun client => client.row.nflows
      _ = _ := (talkers_flows _).symm

theorem windowOf_packets (measured : (windowOf exporter readings).packetsMeasured) (way : Way)
    (exact : ∀ client ∈ clientsRead readings, ∀ npackets,
      client.row.counted = some npackets → npackets = client.row.npackets)
    (limit : Int) (rows : List ServiceRow)
    (listed : serviceRows (windowOf exporter readings) limit = some rows) :
    (rows.map (packetsCount measured way).count).sum = packetsSent way (clientsRead readings) := by
  have looked : ∀ key, (packetsOf (windowOf exporter readings) key).packets way =
      ((valueAt (windowOf exporter readings).servicePackets key).map (·.packets way)).getD 0 := by
    intro key
    rw [packetsOf]
    cases valueAt (windowOf exporter readings).servicePackets key with
    | none => cases way <;> rfl
    | some packets => rfl
  calc (rows.map (packetsCount measured way).count).sum
      = ((windowOf exporter readings).services.map fun service =>
          ((valueAt (windowOf exporter readings).servicePackets service.1).map
            (·.packets way)).getD 0).sum := by
        rw [serviceRows_sum measured.1 (packetsCount measured way) limit rows listed]
        refine congrArg List.sum (List.map_congr_left ?_)
        intro service _
        exact (Nat.zero_add _).trans (looked service.1)
    _ = _ := services_packets _ Prod.fst way (measured_packets measured)
    _ = _ := packets_services way _ (measured_clients measured.1) (measured_packets measured) exact

theorem windowOf_conserved (exact : ∀ client ∈ clientsRead readings, ∀ npackets,
      client.row.counted = some npackets → npackets = client.row.npackets) :
    Conserved (clientsRead readings) (windowOf exporter readings) where
  classes := bytes_classes _
  talkersUp := talkers_bytes _ .up
  talkersDown := talkers_bytes _ .down
  destinationsUp := destinations_bytes _ .up
  destinationsDown := destinations_bytes _ .down
  services measured limit :=
    ⟨_, serviceRows_some _ measured limit,
      windowOf_rows exporter readings measured limit _ (serviceRows_some _ measured limit)⟩
  packets measured limit := by
    have listed := serviceRows_some _ measured.1 limit
    exact ⟨_, listed, serviceRows_packets _ measured limit _ listed,
      windowOf_packets exporter readings measured .up exact limit _ listed,
      windowOf_packets exporter readings measured .down exact limit _ listed⟩
  topTalkers attribution limit := by
    have talkers : ∀ way, ((windowOf exporter readings).talkers.map fun talker =>
        talker.2.bytes way).sum = ((clientsRead readings).map (wayBytes way)).sum :=
      talkers_bytes (clientsRead readings)
    rw [topTalkers_sum]
    exact (List.sum_map_add).trans (congrArg₂ (· + ·) (talkers .up) (talkers .down))
  topDestinations limit := by
    rw [topDestinations_sum]
    exact (destinations_total _).trans (bytes_ways _)

end Window

/-! ### The order of the rows -/

structure SameTotals (left right : ExporterWindow) : Prop where
  counters : left = { right with
    talkers := left.talkers, destinations := left.destinations, services := left.services
    destinationServices := left.destinationServices, servicePackets := left.servicePackets
    destinationServicePackets := left.destinationServicePackets }
  talkers : left.talkers.Perm right.talkers
  destinations : left.destinations.Perm right.destinations
  services : left.services.Perm right.services
  destinationServices : left.destinationServices.Perm right.destinationServices
  servicePackets : left.servicePackets.Perm right.servicePackets
  destinationServicePackets :
    left.destinationServicePackets.Perm right.destinationServicePackets

theorem TalkerTotals.add_comm (totals : TalkerTotals) (way other : Way) (nbytes nflows : Nat)
    (moreBytes moreFlows : Nat) :
    (totals.add way nbytes nflows).add other moreBytes moreFlows =
      (totals.add other moreBytes moreFlows).add way nbytes nflows := by
  cases way <;> cases other <;> simp [TalkerTotals.add, Nat.add_right_comm]

theorem DestinationTotals.add_comm (totals : DestinationTotals) (way other : Way)
    (nbytes nflows moreBytes moreFlows : Nat) :
    (totals.add way nbytes nflows).add other moreBytes moreFlows =
      (totals.add other moreBytes moreFlows).add way nbytes nflows := by
  cases way <;> cases other <;> simp [DestinationTotals.add, Nat.add_right_comm]

theorem ServiceTotals.add_comm (totals : ServiceTotals) (way other : Way)
    (nbytes nflows moreBytes moreFlows : Nat) :
    (totals.add way nbytes nflows).add other moreBytes moreFlows =
      (totals.add other moreBytes moreFlows).add way nbytes nflows := by
  cases way <;> cases other <;> simp [ServiceTotals.add, Nat.add_right_comm]

theorem PacketTotals.add_comm (totals : PacketTotals) (way other : Way) (npackets more : Nat) :
    (totals.add way npackets).add other more = (totals.add other more).add way npackets := by
  cases way <;> cases other <;> simp [PacketTotals.add, Nat.add_right_comm]

theorem talkerTable_perm {clients other : List ClientRow} (same : clients.Perm other) :
    (talkerTable clients).Perm (talkerTable other) := by
  have commutes : RightCommutative fun (totals : TalkerTotals) (client : ClientRow) =>
      totals.add client.way client.row.nbytes client.row.nflows :=
    ⟨fun totals left right => totals.add_comm left.way right.way _ _ _ _⟩
  exact tally_perm _ _ _ same

theorem destinationTable_perm {clients other : List ClientRow} (same : clients.Perm other) :
    (destinationTable clients).Perm (destinationTable other) := by
  have commutes : RightCommutative fun (totals : DestinationTotals) (client : ClientRow) =>
      totals.add client.way client.row.nbytes client.row.nflows :=
    ⟨fun totals left right => totals.add_comm left.way right.way _ _ _ _⟩
  exact tally_perm _ _ _ same

section Services

variable {services other : List Serviced} (same : services.Perm other)
variable {Key : Type} [DecidableEq Key] (keyOf : Serviced → Key)

include same

theorem serviceTable_perm : (serviceTable services keyOf).Perm (serviceTable other keyOf) := by
  have commutes : RightCommutative fun (totals : ServiceTotals) (service : Serviced) =>
      totals.add service.2.way service.2.row.nbytes service.2.row.nflows :=
    ⟨fun totals left right => totals.add_comm left.2.way right.2.way _ _ _ _⟩
  exact tally_perm _ _ _ same

theorem packetTable_perm : (packetTable services keyOf).Perm (packetTable other keyOf) := by
  have commutes : RightCommutative fun (totals : PacketTotals) (service : Serviced) =>
      totals.add service.2.way (service.2.row.counted.getD 0) :=
    ⟨fun totals left right => totals.add_comm left.2.way right.2.way _ _⟩
  exact tally_perm _ _ _ (same.filter hasPackets)

end Services

theorem windowOf_perm (exporter : Text) {readings other : List (Option RowReading)}
    (same : readings.Perm other) :
    SameTotals (windowOf exporter readings) (windowOf exporter other) := by
  have rows : (readings.filterMap id).Perm (other.filterMap id) := same.filterMap id
  have clients : (clientsRead readings).Perm (clientsRead other) := rows.filterMap clientOf
  have services := clients.filterMap serviceOf
  have rowSums : ∀ amount : RowReading → Nat, ((readings.filterMap id).map amount).sum =
      ((other.filterMap id).map amount).sum := fun amount => (rows.map amount).sum_eq
  have clientSums : ∀ amount : ClientRow → Nat, ((clientsRead readings).map amount).sum =
      ((clientsRead other).map amount).sum := fun amount => (clients.map amount).sum_eq
  have rowCounts : ∀ chosen : RowReading → Bool, (readings.filterMap id).countP chosen =
      (other.filterMap id).countP chosen := fun chosen => rows.countP_eq chosen
  have counters : windowOf exporter readings = { windowOf exporter other with
      talkers := (windowOf exporter readings).talkers
      destinations := (windowOf exporter readings).destinations
      services := (windowOf exporter readings).services
      destinationServices := (windowOf exporter readings).destinationServices
      servicePackets := (windowOf exporter readings).servicePackets
      destinationServicePackets := (windowOf exporter readings).destinationServicePackets } := by
    -- Every counter is a sum or a count over the rows, the clients or the services.
    simp only [windowOf, rowSums, clientSums, rowCounts, services.countP_eq, same.countP_eq]
  exact
    { counters
      talkers := talkerTable_perm clients
      destinations := destinationTable_perm clients
      services := serviceTable_perm services Prod.fst
      destinationServices := serviceTable_perm services remoteService
      servicePackets := packetTable_perm services Prod.fst
      destinationServicePackets := packetTable_perm services remoteService }

section Reduced

variable (python : Python) (endpoints : PlatformEndpoints)

theorem reduceWindow_perm {rows permuted : List CollectorRow} (same : permuted.Perm rows)
    {out : List (Text × ExporterWindow)} (reduced : reduceWindow python endpoints rows = some out) :
    ∃ other, reduceWindow python endpoints permuted = some other ∧
      (other.map Prod.fst).Perm (out.map Prod.fst) ∧
      ∀ exporter window, (exporter, window) ∈ out →
        ∃ again, (exporter, again) ∈ other ∧ SameTotals window again := by
  obtain ⟨all, listed⟩ := (reduceWindow_some python endpoints rows out).mp reduced
  have others : ∀ row ∈ named python permuted, (readRow python endpoints row).isSome :=
    fun row member => all row ((same.filter _).mem_iff.mp member)
  obtain ⟨other, again⟩ : ∃ other, reduceWindow python endpoints permuted = some other :=
    ⟨_, (reduceWindow_some python endpoints permuted _).mpr ⟨others, rfl⟩⟩
  have seen : ∀ exporter, (exporter ≠ [] ∧ ∃ row ∈ permuted, exporterOf python row = exporter) ↔
      exporter ≠ [] ∧ ∃ row ∈ rows, exporterOf python row = exporter := by
    intro exporter
    exact and_congr_right fun _ => exists_congr fun row => and_congr_left' same.mem_iff
  have windows := mem_reduceWindow python endpoints rows out reduced
  have reordered := mem_reduceWindow python endpoints permuted other again
  refine ⟨other, again, ?_, ?_⟩
  -- The exporters are the same; no table names one twice.
  · have apart : (out.map Prod.fst).Nodup := by
      rw [listed]
      exact tally_nodup _ _ _ _
    have otherApart : (other.map Prod.fst).Nodup := by
      rw [((reduceWindow_some python endpoints permuted other).mp again).2]
      exact tally_nodup _ _ _ _
    refine (List.perm_ext_iff_of_nodup otherApart apart).mpr fun exporter => ?_
    simp only [List.mem_map, Prod.exists, exists_and_right, exists_eq_right, windows, reordered,
      seen]
  · intro exporter window member
    obtain ⟨present, rfl⟩ := (windows exporter window).mp member
    exact ⟨_, (reordered exporter _).mpr ⟨(seen exporter).mpr present, rfl⟩,
      windowOf_perm exporter ((same.symm.filter _).filterMap _)⟩

/-- Every window conserves the traffic of its rows, whatever their order. -/
theorem reduceWindow_conserves (rows : List CollectorRow) (out : List (Text × ExporterWindow))
    (reduced : reduceWindow python endpoints rows = some out) :
    (∀ exporter window, (exporter, window) ∈ out →
      Conserved (clientRows python endpoints exporter rows) window) ∧
    ∀ permuted, permuted.Perm rows → ∃ other,
      reduceWindow python endpoints permuted = some other ∧
      (other.map Prod.fst).Perm (out.map Prod.fst) ∧
      ∀ exporter window, (exporter, window) ∈ out →
        ∃ again, (exporter, again) ∈ other ∧ SameTotals window again := by
  constructor
  · intro exporter window member
    obtain ⟨-, rfl⟩ :=
      (mem_reduceWindow python endpoints rows out reduced exporter window).mp member
    exact windowOf_conserved exporter _ (clientRows_counted python endpoints exporter rows)
  · intro permuted same
    exact reduceWindow_perm python endpoints same reduced

end Reduced

def sampleFlow (src dst : Text) (bytes : Int) : CollectorRow
  | .peerIpSrc => .text "172.16.0.9".toList
  | .ipSrc => .text src
  | .ipDst => .text dst
  | .ipProto => .int 6
  | .portSrc | .portDst => .int 443
  | .bytes => .int bytes
  | .packets => .int 3
  | .flows => .int 1
  | _ => .null

def sampleFlows : List CollectorRow :=
  [sampleFlow "10.0.0.2".toList "8.8.8.8".toList 120,
    sampleFlow "8.8.8.8".toList "10.0.0.2".toList 900,
    sampleFlow "10.0.0.2".toList "10.0.0.1".toList 40]

theorem reduceWindow_conserves_sample :
    ∃ out, reduceWindow samplePython [] sampleFlows = some out ∧
      (out.map fun entry => (entry.2.bytesUp, entry.2.bytesDown, entry.2.bytesTotal)) =
        [(120, 900, 1060)] ∧
      (∀ entry ∈ out, entry.2.packetsMeasured) ∧
      ∀ exporter window, (exporter, window) ∈ out →
        Conserved (clientRows samplePython [] exporter sampleFlows) window := by
  have reduced : reduceWindow samplePython [] sampleFlows =
      some ((reduceWindow samplePython [] sampleFlows).getD []) := by decide +kernel
  refine ⟨_, reduced, by decide +kernel, by decide +kernel, ?_⟩
  exact (reduceWindow_conserves samplePython [] sampleFlows _ reduced).1

end CloudGuest.Traffic
