import CloudGuest.Guest.Accounting
import CloudGuest.Library.Sorting

/-!
Which session an accounting packet is taken to be about (guest/service.py,
`_get_session_for_nas`, `_session_for_calling_station`). The packet's own session id is
not looked at: the guest's latest session has to be on the packet's router, and then
the newest session there of a device with the packet's MAC is taken, or the latest one.

The guest that a user name finds, and upper-casing, are arguments. Deleted rows are not
in the tables.
-/

namespace CloudGuest.AccountingTarget
open Guest Sorting Texts

structure Router where
  id : Nat
  isNasOnly : Bool
  deriving DecidableEq

structure Guest where
  id : Nat
  isBlocked : Bool
  deriving DecidableEq

structure GuestDevice where
  id : Nat
  guestId : Nat
  macAddress : Text
  deriving DecidableEq

structure Tables where
  sessions : List GuestSession
  devices : List GuestDevice
  deriving DecidableEq

inductive Fault where
  | guestSessionNotFound
  deriving DecidableEq

variable (upper : Text → Text)

def isHexDigit (char : Char) : Bool := char ∈ "0123456789ABCDEF".toList

def canonicalMacKey : Option Text → Option Text
  | none => none
  | some [] => none
  | some raw =>
      let hexOnly := (upper (strip raw)).filter fun char => char ∉ [':', '-', '.']
      if hexOnly.length ≠ 12 then none
      else if hexOnly.any (fun char => !isHexDigit char) then none
      else some hexOnly

def listSessionsForGuest (tables : Tables) (guestId : Nat) : List GuestSession :=
  sortDescending GuestSession.startedAt
    (tables.sessions.filter fun session => session.guestId = guestId)

def getLatestSessionForGuest (tables : Tables) (guestId : Nat) : Option GuestSession :=
  (listSessionsForGuest tables guestId).head?

def stationDevices (tables : Tables) (guestId : Nat) (callingStationId : Option Text) : List Nat :=
  match canonicalMacKey upper callingStationId with
  | none => []
  | some wanted =>
      ((tables.devices.filter fun device => device.guestId = guestId).filter fun device =>
        canonicalMacKey upper (some device.macAddress) = some wanted).map GuestDevice.id

/-- A session on the router whose device the packet names. -/
def isNamed (tables : Tables) (guestId routerId : Nat) (callingStationId : Option Text)
    (session : GuestSession) : Bool :=
  session.routerId = routerId && session.deviceId.any fun device =>
    device ∈ stationDevices upper tables guestId callingStationId

def sessionForCallingStation (tables : Tables) (guestId routerId : Nat)
    (callingStationId : Option Text) : Option GuestSession :=
  ((listSessionsForGuest tables guestId).take RADIUS_ACCOUNTING_DEVICE_MATCH_SCAN_LIMIT).find?
    (isNamed upper tables guestId routerId callingStationId)

def getSessionForNas (tables : Tables) (router : Router) (guest : Option Guest)
    (callingStationId : Option Text) : Except Fault GuestSession :=
  match guest with
  | none => .error .guestSessionNotFound
  | some guest =>
      if !guest.isBlocked || router.isNasOnly then
        match getLatestSessionForGuest tables guest.id with
        | none => .error .guestSessionNotFound
        | some candidate =>
            if candidate.routerId = router.id then
              .ok ((sessionForCallingStation upper tables guest.id router.id
                callingStationId).getD candidate)
            else .error .guestSessionNotFound
      else .error .guestSessionNotFound

/-! ### When a session is found -/

/-- A packet reaches a session: the guest is not blocked, or the router is NAS-only; the guest's
latest session is on the router; and of the guest's newest sessions the packet names this one
first, or it names none of them and this is the latest. -/
structure Reaches (tables : Tables) (router : Router) (guest : Guest)
    (callingStationId : Option Text) (session : GuestSession) : Prop where
  admitted : guest.isBlocked = false ∨ router.isNasOnly = true
  here : ∃ latest, getLatestSessionForGuest tables guest.id = some latest ∧
    latest.routerId = router.id
  first :
    let listed := listSessionsForGuest tables guest.id
    let named := isNamed upper tables guest.id router.id callingStationId
    (named session = true ∧ ∃ place < RADIUS_ACCOUNTING_DEVICE_MATCH_SCAN_LIMIT,
      listed[place]? = some session ∧
        ∀ newer < place, ∀ other, listed[newer]? = some other → named other = false) ∨
    (listed.head? = some session ∧
      ∀ place < RADIUS_ACCOUNTING_DEVICE_MATCH_SCAN_LIMIT, ∀ other,
        listed[place]? = some other → named other = false)

theorem find_take {Item : Type} (kind : Item → Bool) (items : List Item) (bound : Nat)
    (item : Item) :
    (items.take bound).find? kind = some item ↔
      kind item = true ∧ ∃ place < bound, items[place]? = some item ∧
        ∀ earlier < place, ∀ other, items[earlier]? = some other → kind other = false := by
  rw [List.find?_eq_some_iff_getElem]
  refine and_congr_right fun _ => ?_
  constructor
  · rintro ⟨place, within, found, earlier⟩
    have short := List.length_take_le bound items
    have inside : place < bound := by
      rw [List.length_take] at within
      omega
    refine ⟨place, inside, ?_, ?_⟩
    · rw [← List.getElem?_take_of_lt inside, List.getElem?_eq_getElem within, found]
    · intro before less other held
      have insideBefore : before < (items.take bound).length := lt_trans less within
      have kept := earlier before less
      rw [← List.getElem?_take_of_lt (lt_trans less inside),
        List.getElem?_eq_getElem insideBefore] at held
      rw [Option.some.inj held] at kept
      simpa using kept
  · rintro ⟨place, inside, found, earlier⟩
    obtain ⟨within, same⟩ := List.getElem?_eq_some_iff.mp found
    have length : place < (items.take bound).length := by
      rw [List.length_take]
      omega
    refine ⟨place, length, ?_, ?_⟩
    · rw [List.getElem_take]
      exact same
    · intro before less
      rw [List.getElem_take, earlier before less _ (List.getElem?_eq_getElem _)]
      rfl

theorem find_take_none {Item : Type} (kind : Item → Bool) (items : List Item) (bound : Nat) :
    (items.take bound).find? kind = none ↔
      ∀ place < bound, ∀ other, items[place]? = some other → kind other = false := by
  rw [List.find?_eq_none]
  constructor
  · intro never place inside other held
    rw [← List.getElem?_take_of_lt inside] at held
    simpa using never other (List.mem_of_getElem? held)
  · intro never other member
    obtain ⟨place, held⟩ := List.getElem?_of_mem member
    have inside : place < bound := by
      by_contra beyond
      rw [List.getElem?_take_eq_none (Nat.le_of_not_lt beyond)] at held
      cases held
    rw [List.getElem?_take_of_lt inside] at held
    simpa using never place inside other held

theorem getSessionForNas_iff (tables : Tables) (router : Router) (guest : Guest)
    (callingStationId : Option Text) (session : GuestSession) :
    getSessionForNas upper tables router (some guest) callingStationId = .ok session ↔
      Reaches upper tables router guest callingStationId session := by
  have scan := find_take (isNamed upper tables guest.id router.id callingStationId)
    (listSessionsForGuest tables guest.id) RADIUS_ACCOUNTING_DEVICE_MATCH_SCAN_LIMIT session
  have none := find_take_none (isNamed upper tables guest.id router.id callingStationId)
    (listSessionsForGuest tables guest.id) RADIUS_ACCOUNTING_DEVICE_MATCH_SCAN_LIMIT
  constructor
  · intro chosen
    simp only [getSessionForNas] at chosen
    split at chosen
    · rename_i admitted
      split at chosen
      · cases chosen
      · rename_i latest stored
        split at chosen
        · rename_i here
          refine ⟨by simpa using admitted, ⟨latest, stored, here⟩, ?_⟩
          cases found : sessionForCallingStation upper tables guest.id router.id
              callingStationId with
          | none =>
              rw [found, Option.getD_none] at chosen
              obtain rfl := Except.ok.inj chosen
              exact Or.inr ⟨stored, none.mp found⟩
          | some other =>
              rw [found, Option.getD_some] at chosen
              obtain rfl := Except.ok.inj chosen
              exact Or.inl (scan.mp found)
        · cases chosen
    · cases chosen
  · rintro ⟨admitted, ⟨latest, stored, here⟩, first⟩
    have passes : (!guest.isBlocked || router.isNasOnly) = true := by simpa using admitted
    simp only [getSessionForNas, if_pos passes, stored, if_pos here]
    rcases first with named | ⟨head, unnamed⟩
    · have found : sessionForCallingStation upper tables guest.id router.id callingStationId =
          some session := scan.mpr named
      rw [found, Option.getD_some]
    · have missing : sessionForCallingStation upper tables guest.id router.id callingStationId =
          Option.none := none.mpr unnamed
      rw [missing, Option.getD_none]
      exact congrArg Except.ok (Option.some.inj (stored.symm.trans head))

theorem isNamed_spelled (tables : Tables) (guestId routerId : Nat) (callingStationId : Option Text)
    (session : GuestSession) (device : GuestDevice) (stored : device ∈ tables.devices)
    (owned : device.guestId = guestId) (used : session.deviceId = some device.id)
    (here : session.routerId = routerId) (key : Text)
    (told : canonicalMacKey upper callingStationId = some key)
    (spelled : canonicalMacKey upper (some device.macAddress) = some key) :
    isNamed upper tables guestId routerId callingStationId session = true := by
  have among : device.id ∈ stationDevices upper tables guestId callingStationId := by
    simp only [stationDevices, told]
    refine List.mem_map_of_mem ?_
    simp [stored, owned, spelled]
  simp [isNamed, here, used, among]

/-- A packet is taken to be about a session exactly if it reaches it; and it names every session
on its router of a device of the guest's with the address it was sent for. -/
theorem accounting_lands_iff (tables : Tables) (router : Router) (guest : Guest)
    (callingStationId : Option Text) :
    (∀ session, getSessionForNas upper tables router (some guest) callingStationId = .ok session ↔
      Reaches upper tables router guest callingStationId session) ∧
    ∀ session device key, device ∈ tables.devices → device.guestId = guest.id →
      session.deviceId = some device.id → session.routerId = router.id →
      canonicalMacKey upper callingStationId = some key →
      canonicalMacKey upper (some device.macAddress) = some key →
      isNamed upper tables guest.id router.id callingStationId session = true := by
  constructor
  · exact getSessionForNas_iff upper tables router guest callingStationId
  · intro session device key stored owned used here told spelled
    exact isNamed_spelled upper tables guest.id router.id callingStationId session device stored
      owned used here key told spelled

section Executed

def asciiUpper (text : Text) : Text := text.map Char.toUpper

def begun (id routerId deviceId : Nat) (status : GuestTeams.GuestSessionStatus) (startedAt : Int)
    (endedAt : Option Int) : GuestSession :=
  ⟨id, 1, some deviceId, routerId, .otpSms, none, status, startedAt, endedAt, startedAt, none,
    500, 90, none, none, none, none⟩

def devices : List GuestDevice :=
  [⟨1, 1, "26-79-94-b5-24-d9".toList⟩, ⟨2, 1, "2679.94B5.24D9".toList⟩,
    ⟨3, 1, "86:25:FE:F0:D7:D9".toList⟩]

def phone : Option Text := some " 26:79:94:B5:24:D9".toList

def together : Tables :=
  ⟨[begun 1 1 1 .expired 10 (some 15), begun 2 1 2 .active 20 none, begun 3 1 3 .active 30 none],
    devices⟩

/-- The phone's newest session is found, and its older one is named as well. -/
theorem accounting_lands_iff_together :
    Reaches asciiUpper together ⟨1, false⟩ ⟨1, false⟩ phone (begun 2 1 2 .active 20 none) ∧
    isNamed asciiUpper together 1 1 phone (begun 1 1 1 .expired 10 (some 15)) = true := by
  obtain ⟨lands, names⟩ := accounting_lands_iff asciiUpper together ⟨1, false⟩ ⟨1, false⟩ phone
  refine ⟨(lands _).mp (by decide +kernel), ?_⟩
  exact names _ ⟨1, 1, "26-79-94-b5-24-d9".toList⟩ "267994B524D9".toList (by decide +kernel) rfl rfl
    rfl (by decide +kernel) (by decide +kernel)

/-- The laptop is used on router 2 after the phone on router 1. -/
def apart : Tables := ⟨[begun 1 1 1 .active 10 none, begun 2 2 3 .active 20 none], devices⟩

def again : Tables :=
  ⟨[begun 1 1 1 .disconnected 10 (some 15), begun 2 1 1 .active 20 none], devices⟩

/-- The phone's packets find nothing while the laptop is on the other router; and a Stop of the
phone's first session, sent again after it reconnected, ends the second and lowers its counters. -/
theorem accounting_lands_elsewhere :
    getSessionForNas asciiUpper apart ⟨1, false⟩ (some ⟨1, false⟩) phone =
      .error .guestSessionNotFound ∧
    getSessionForNas asciiUpper again ⟨1, false⟩ (some ⟨1, false⟩) phone =
      .ok (begun 2 1 1 .active 20 none) ∧
    (accountingStop false ⟨begun 2 1 1 .active 20 none, fun _ => none⟩
      ⟨some 400, some 80, none, 25⟩).session.status = .disconnected ∧
    (accountingStop false ⟨begun 2 1 1 .active 20 none, fun _ => none⟩
      ⟨some 400, some 80, none, 25⟩).session.bytesUploaded = 400 :=
  ⟨by decide +kernel, by decide +kernel, by decide, by decide⟩

end Executed

end CloudGuest.AccountingTarget
