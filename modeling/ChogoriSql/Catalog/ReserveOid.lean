import ChogoriSql.Common.Status

/-! `SqlCatalogManager::ReservePgOid` as a protocol between concurrent calls.  Each call runs in
its own K23SI transaction: it reads the database record (`GetDatabase`), computes its range from
the stored `NextPgOid`, writes the end back (`UpsertDatabase`) and commits.  SKV commits a
transaction only while the record it read is unchanged (K23SI detects the conflict otherwise),
and may also refuse a commit for its own reasons.  The record carries the number of committed
writes, so that a stale read can be told apart. -/

namespace ChogoriSql

def UINT32_MAX : UInt32 := 4294967295

@[simp] theorem UINT32_MAX_toNat : UINT32_MAX.toNat = 2 ^ 32 - 1 := rfl

structure ReservePgOidsRequest where
  databaseId : String
  nextOid : UInt32
  count : UInt32
  deriving DecidableEq, Repr

structure ReservePgOidsResponse where
  status : Status
  beginOid : UInt32 := 0
  endOid : UInt32 := 0
  deriving DecidableEq, Repr

def reservedRange (stored : UInt32) (request : ReservePgOidsRequest) :
    Except Status (UInt32 × UInt32) :=
  let beginOid := if stored < request.nextOid then request.nextOid else stored
  if beginOid = UINT32_MAX then
    .error { code := .invalidArgument,
             message := "FNo more object identifier is available for " ++ request.databaseId }
  else
    let endOid := beginOid + request.count
    .ok (beginOid, if endOid < beginOid then UINT32_MAX else endOid)

structure OidRecord where
  nextPgOid : UInt32
  version : Nat
  deriving DecidableEq, Repr

inductive ReservePhase where
  | pending
  | upserted (readVersion : Nat) (beginOid endOid : UInt32)
  | finished (response : ReservePgOidsResponse)
  deriving DecidableEq, Repr

structure ReserveCall where
  manager : Nat
  request : ReservePgOidsRequest
  phase : ReservePhase
  deriving DecidableEq, Repr

structure ReserveSystem where
  record : OidRecord
  cachedNextPgOid : Nat → Option UInt32
  calls : List ReserveCall

inductive ReserveEvent where
  | readAndUpsert (call : Nat) (readStatus upsertStatus : Status)
  | commit (call : Nat) (accepted : Bool)
  deriving DecidableEq, Repr

def readAndUpsertPhase (record : OidRecord) (request : ReservePgOidsRequest)
    (readStatus upsertStatus : Status) : ReservePhase :=
  if !readStatus.isOk then .finished { status := readStatus }
  else
    match reservedRange record.nextPgOid request with
    | .error status => .finished { status }
    | .ok (beginOid, endOid) =>
        if !upsertStatus.isOk then .finished { status := upsertStatus }
        else .upserted record.version beginOid endOid

def reserveStep (system : ReserveSystem) : ReserveEvent → Option ReserveSystem
  | .readAndUpsert index readStatus upsertStatus => do
      let call ← system.calls[index]?
      match call.phase with
      | .pending =>
          let phase := readAndUpsertPhase system.record call.request readStatus upsertStatus
          some { system with calls := system.calls.set index { call with phase } }
      | _ => none
  | .commit index accepted => do
      let call ← system.calls[index]?
      match call.phase with
      | .upserted readVersion beginOid endOid =>
          let committed := accepted && readVersion == system.record.version
          let record :=
            if committed then { nextPgOid := endOid, version := system.record.version + 1 }
            else system.record
          -- the status of `CommitTransaction` is dropped: the cache is updated and OK returned
          some { record
                 cachedNextPgOid := Function.update system.cachedNextPgOid call.manager (some endOid)
                 calls := system.calls.set index
                   { call with phase := .finished { status := Status.OK, beginOid, endOid } } }
      | _ => none

def reserveRun (system : ReserveSystem) (events : List ReserveEvent) : Option ReserveSystem :=
  events.foldlM reserveStep system

section ReserveOid

theorem reservedRange_bounds (stored : UInt32) (request : ReservePgOidsRequest)
    (beginOid endOid : UInt32) (computed : reservedRange stored request = .ok (beginOid, endOid)) :
    request.nextOid ≤ beginOid ∧ stored ≤ beginOid ∧ beginOid ≤ endOid ∧
      endOid.toNat = min (beginOid.toNat + request.count.toNat) (2 ^ 32 - 1) := by
  have countBound := request.count.toNat_lt
  have nextBound := request.nextOid.toNat_lt
  have storedBound := stored.toNat_lt
  simp only [reservedRange] at computed
  split_ifs at computed with below atMax wrapped wrapped <;>
    simp only [Except.ok.injEq, Prod.mk.injEq] at computed <;>
    obtain ⟨rfl, rfl⟩ := computed <;>
    simp only [UInt32.le_iff_toNat_le, UInt32.lt_iff_toNat_lt, UInt32.toNat_add,
      UINT32_MAX_toNat, ← UInt32.toNat_inj] at * <;>
    omega

theorem reservedRange_of_le (stored : UInt32) (request : ReservePgOidsRequest)
    (belowMax : stored < UINT32_MAX) (notAbove : request.nextOid ≤ stored)
    (positive : 0 < request.count) :
    ∃ endOid, reservedRange stored request = .ok (stored, endOid) ∧ stored < endOid := by
  have startsAtStored : ¬ stored < request.nextOid := UInt32.not_lt.mpr notAbove
  have notMax : stored ≠ UINT32_MAX := UInt32.ne_of_lt belowMax
  have countBound := request.count.toNat_lt
  refine ⟨if stored + request.count < stored then UINT32_MAX else stored + request.count,
    by simp [reservedRange, startsAtStored, notMax], ?_⟩
  split_ifs with wrapped
  · exact belowMax
  · simp only [UInt32.lt_iff_toNat_lt, UInt32.toNat_add] at wrapped positive ⊢
    simp only [UInt32.toNat_zero] at positive
    omega

/-- Every call waiting to commit read a version no newer than the record's, reserved a range
that does not run backwards, and, while its read is current, starts at or above `NextPgOid`. -/
def ReserveInvariant (system : ReserveSystem) : Prop :=
  ∀ call ∈ system.calls, ∀ readVersion beginOid endOid,
    call.phase = .upserted readVersion beginOid endOid →
      readVersion ≤ system.record.version ∧ beginOid ≤ endOid ∧
        (readVersion = system.record.version → system.record.nextPgOid ≤ beginOid)

theorem readAndUpsertPhase_upserted (record : OidRecord) (request : ReservePgOidsRequest)
    (readStatus upsertStatus : Status) (readVersion : Nat) (beginOid endOid : UInt32)
    (upserted : readAndUpsertPhase record request readStatus upsertStatus =
      .upserted readVersion beginOid endOid) :
    readVersion = record.version ∧ record.nextPgOid ≤ beginOid ∧ beginOid ≤ endOid := by
  unfold readAndUpsertPhase at upserted
  split at upserted
  · cases upserted
  · split at upserted
    · cases upserted
    · rename_i range computed
      split at upserted
      · cases upserted
      · simp only [ReservePhase.upserted.injEq] at upserted
        obtain ⟨rfl, rfl, rfl⟩ := upserted
        have bounds := reservedRange_bounds _ _ _ _ computed
        exact ⟨rfl, bounds.2.1, bounds.2.2.1⟩

theorem ReserveInvariant.set (system : ReserveSystem) (invariant : ReserveInvariant system)
    (index : Nat) (call : ReserveCall)
    (newCall : ∀ readVersion beginOid endOid, call.phase = .upserted readVersion beginOid endOid →
      readVersion ≤ system.record.version ∧ beginOid ≤ endOid ∧
        (readVersion = system.record.version → system.record.nextPgOid ≤ beginOid)) :
    ReserveInvariant { system with calls := system.calls.set index call } := by
  intro other member
  rcases List.mem_or_eq_of_mem_set member with original | rfl
  · exact invariant other original
  · exact newCall

theorem reserveStep_preserves (system next : ReserveSystem) (event : ReserveEvent)
    (invariant : ReserveInvariant system) (stepped : reserveStep system event = some next) :
    ReserveInvariant next ∧ system.record.nextPgOid ≤ next.record.nextPgOid := by
  cases event with
  | readAndUpsert index readStatus upsertStatus =>
      simp only [reserveStep, Option.bind_eq_bind, Option.bind_eq_some_iff] at stepped
      obtain ⟨call, found, stepped⟩ := stepped
      split at stepped
      · cases stepped
        refine ⟨ReserveInvariant.set _ invariant _ _ ?_, UInt32.le_refl _⟩
        intro readVersion beginOid endOid upserted
        obtain ⟨rfl, atOrAbove, ordered⟩ := readAndUpsertPhase_upserted _ _ _ _ _ _ _ upserted
        exact ⟨Nat.le_refl _, ordered, fun _ => atOrAbove⟩
      · cases stepped
  | commit index accepted =>
      simp only [reserveStep, Option.bind_eq_bind, Option.bind_eq_some_iff] at stepped
      obtain ⟨call, found, stepped⟩ := stepped
      split at stepped
      · rename_i readVersion beginOid endOid phase
        cases stepped
        have callBounds := invariant call (List.mem_of_getElem? found) readVersion beginOid endOid
          phase
        by_cases committed : (accepted && readVersion == system.record.version) = true
        · -- the read was current: the new value is the call's end, above the old one
          simp only [Bool.and_eq_true, beq_iff_eq] at committed
          obtain ⟨rfl, current⟩ := committed
          have above := callBounds.2.2 current
          simp only [current, beq_self_eq_true, Bool.and_self, if_true]
          refine ⟨?_, UInt32.le_trans above callBounds.2.1⟩
          intro other member readVersion' beginOid' endOid' otherPhase
          rcases List.mem_or_eq_of_mem_set member with original | rfl
          · have otherBounds := invariant other original readVersion' beginOid' endOid' otherPhase
            exact ⟨Nat.le_succ_of_le otherBounds.1, otherBounds.2.1,
              fun newer => absurd (show readVersion' = system.record.version + 1 from newer)
                (by omega)⟩
          · cases otherPhase
        · simp only [committed, Bool.false_eq_true, if_false]
          refine ⟨?_, UInt32.le_refl _⟩
          intro other member readVersion' beginOid' endOid' otherPhase
          rcases List.mem_or_eq_of_mem_set member with original | rfl
          · exact invariant other original readVersion' beginOid' endOid' otherPhase
          · cases otherPhase
      · cases stepped

/-- Over a whole run the stored `NextPgOid` never decreases. -/
theorem reserveRun_nextPgOid_monotone (events : List ReserveEvent) (system final : ReserveSystem)
    (invariant : ReserveInvariant system) (ran : reserveRun system events = some final) :
    system.record.nextPgOid ≤ final.record.nextPgOid := by
  induction events generalizing system with
  | nil =>
      simp only [reserveRun, List.foldlM_nil, Option.pure_def, Option.some.injEq] at ran
      subst ran
      exact UInt32.le_refl _
  | cons event rest ih =>
      simp only [reserveRun, List.foldlM_cons, Option.bind_eq_bind, Option.bind_eq_some_iff] at ran
      obtain ⟨next, stepped, ran⟩ := ran
      have step := reserveStep_preserves system next event invariant stepped
      exact UInt32.le_trans step.2 (ih next step.1 ran)

def oneReserveCall : ReserveSystem :=
  { record := { nextPgOid := 100, version := 0 }, cachedNextPgOid := fun _ => none,
    calls := [{ manager := 0, request := ⟨"db", 0, 10⟩, phase := .pending }] }

theorem reserveRun_nextPgOid_monotone_one_call :
    ReserveInvariant oneReserveCall ∧
      ∃ final, reserveRun oneReserveCall [.readAndUpsert 0 Status.OK Status.OK, .commit 0 true] =
        some final ∧ oneReserveCall.record.nextPgOid ≤ final.record.nextPgOid := by
  have invariant : ReserveInvariant oneReserveCall := by
    intro call member readVersion beginOid endOid phase
    rw [oneReserveCall, List.mem_singleton] at member
    subst member
    cases phase
  obtain ⟨final, ran⟩ : ∃ final,
      reserveRun oneReserveCall [.readAndUpsert 0 Status.OK Status.OK, .commit 0 true] = some final :=
    ⟨_, rfl⟩
  exact ⟨invariant, final, ran, reserveRun_nextPgOid_monotone _ _ final invariant ran⟩

theorem reservePgOid_overlapping_ok_ranges (stored : UInt32) (version : Nat)
    (cache : Nat → Option UInt32) (first second : ReservePgOidsRequest) (managerA managerB : Nat)
    (belowMax : stored < UINT32_MAX) (firstBelow : first.nextOid ≤ stored)
    (secondBelow : second.nextOid ≤ stored) (firstCount : 0 < first.count)
    (secondCount : 0 < second.count) :
    ∃ final firstEnd secondEnd,
      reserveRun
          { record := { nextPgOid := stored, version }, cachedNextPgOid := cache,
            calls := [{ manager := managerA, request := first, phase := .pending },
                      { manager := managerB, request := second, phase := .pending }] }
          [.readAndUpsert 0 Status.OK Status.OK, .readAndUpsert 1 Status.OK Status.OK,
           .commit 0 true, .commit 1 true] = some final ∧
        final.calls.map ReserveCall.phase =
          [.finished { status := Status.OK, beginOid := stored, endOid := firstEnd },
           .finished { status := Status.OK, beginOid := stored, endOid := secondEnd }] ∧
        stored < firstEnd ∧ stored < secondEnd := by
  obtain ⟨firstEnd, firstRange, firstAbove⟩ :=
    reservedRange_of_le stored first belowMax firstBelow firstCount
  obtain ⟨secondEnd, secondRange, secondAbove⟩ :=
    reservedRange_of_le stored second belowMax secondBelow secondCount
  -- the second commit is refused for the conflict, and still returns OK
  simp only [reserveRun, List.foldlM_cons, List.foldlM_nil]
  simp [reserveStep, readAndUpsertPhase, Status.isOk, Status.OK, firstRange, secondRange]
  exact ⟨firstAbove, secondAbove⟩

theorem reservePgOid_overlapping_ok_ranges_hundred :
    (100 : UInt32) < UINT32_MAX ∧ (0 : UInt32) ≤ 100 ∧ (0 : UInt32) ≤ 100 ∧
      (0 : UInt32) < 10 ∧ (0 : UInt32) < 10 ∧
      ∃ final firstEnd secondEnd,
        reserveRun
            { record := { nextPgOid := 100, version := 0 }, cachedNextPgOid := fun _ => none,
              calls := [{ manager := 0, request := ⟨"db", 0, 10⟩, phase := .pending },
                        { manager := 1, request := ⟨"db", 0, 10⟩, phase := .pending }] }
            [.readAndUpsert 0 Status.OK Status.OK, .readAndUpsert 1 Status.OK Status.OK,
             .commit 0 true, .commit 1 true] = some final ∧
          final.calls.map ReserveCall.phase =
            [.finished { status := Status.OK, beginOid := 100, endOid := firstEnd },
             .finished { status := Status.OK, beginOid := 100, endOid := secondEnd }] ∧
          (100 : UInt32) < firstEnd ∧ (100 : UInt32) < secondEnd :=
  ⟨by decide, by decide, by decide, by decide, by decide,
    reservePgOid_overlapping_ok_ranges 100 0 (fun _ => none) ⟨"db", 0, 10⟩ ⟨"db", 0, 10⟩ 0 1
      (by decide) (by decide) (by decide) (by decide) (by decide)⟩

end ReserveOid

end ChogoriSql
