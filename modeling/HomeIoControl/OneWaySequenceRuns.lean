import HomeIoControl.BlockCounters
import HomeIoControl.MachineRuns
import HomeIoControl.OneWaySequences
import HomeIoControl.SerialRings

/-!
# Runs of the sequence store across reboots

The hub's counters live in memory, their reservations in flash. A run interleaves setup calls,
hand-outs and losses of power. Each address is tracked by an unbounded block counter; the 16-bit
values follow it for as long as no setup call finds a reservation numerically below the
configured start.
-/

namespace HomeIoControl.OneWaySequenceRuns

open BlockCounters MachineRuns OneWaySequences ProtocolFrames SerialRings

/-- The memory of one boot, and the preferences that survive it. -/
structure Hub where
  store : OneWaySequenceStore
  preferences : Preferences

/-- One event of a run. The power may fail before any preference operation of `next`, or just
before it returns; `backgroundSync` is the sync that other components cause. -/
inductive Event where
  | addIdentity (nodeId : NodeId)
  | next (nodeId : NodeId) (saveReply syncReply : Reply) (lostBeforeReturn : Bool)
  | backgroundSync
  | reboot
  deriving DecidableEq

namespace Hub

/-- A hub that was never switched on before. -/
def fresh : Hub := ⟨[], .empty⟩

def reboot (h : Hub) : Hub := ⟨[], h.preferences.reboot⟩

/-- One event, with the sequence it hands out. -/
def step (initialSequence : NodeId → UInt16) (h : Hub) : Event → Hub × List (NodeId × UInt16)
  | .addIdentity nodeId =>
    (⟨h.store.addIdentity h.preferences nodeId (initialSequence nodeId), h.preferences⟩, [])
  | .next nodeId saveReply syncReply lostBeforeReturn =>
    match h.store.next h.preferences saveReply syncReply nodeId with
    | (store, preferences, outcome) =>
      match outcome with
      | .powerLost => (reboot ⟨store, preferences⟩, [])
      | .returned out =>
        if lostBeforeReturn then (reboot ⟨store, preferences⟩, [])
        else (⟨store, preferences⟩, (out.map fun value => (nodeId, value)).toList)
  | .backgroundSync => (⟨h.store, h.preferences.sync⟩, [])
  | .reboot => (h.reboot, [])

end Hub

variable (initialSequence : NodeId → UInt16) (nodeId : NodeId)

/-- The sequence store as a machine: every node has its configured start. -/
def storeMachine : Machine Hub Event (NodeId × UInt16) := ⟨Hub.step initialSequence⟩

/-- The values handed out to one address, in order. -/
def handedTo (outputs : List (NodeId × UInt16)) : List UInt16 :=
  outputs.filterMap fun out => if out.1 = nodeId then some out.2 else none

/-- The sequence positions reserved in flash for one address over a run: one block for every
time its reservation changes. -/
def reservedPositions (h : Hub) : List Event → ℕ
  | [] => 0
  | e :: es =>
    let h' := (Hub.step initialSequence h e).1
    (if h'.preferences.flash (preferenceKey nodeId) = h.preferences.flash (preferenceKey nodeId)
      then 0 else onewaySequenceStride.toNat) + reservedPositions h' es

/-- A setup call for the address finds nothing persisted, or a value that is numerically not
below the configured start. -/
def SetupResumes (h : Hub) (e : Event) : Prop :=
  e = .addIdentity nodeId → h.store.find nodeId = none →
    ∀ persisted ∈ h.preferences.load (preferenceKey nodeId), initialSequence nodeId ≤ persisted

instance (h : Hub) (e : Event) : Decidable (SetupResumes initialSequence nodeId h e) :=
  -- not by trying every 16-bit value
  have := Option.decidableForallMem (p := (initialSequence nodeId ≤ ·))
    (h.preferences.load (preferenceKey nodeId))
  inferInstanceAs (Decidable (_ = _ → _ = none → ∀ _ ∈ _, _))

/-- The 16-bit value at a position counted from the configured start. -/
def sequenceAt (position : ℕ) : UInt16 :=
  ⟨ringValue (initialSequence nodeId).toBitVec position⟩

@[simp] theorem sequenceAt_zero : sequenceAt initialSequence nodeId 0 = initialSequence nodeId := by
  simp [sequenceAt]

theorem sequenceAt_succ (p : ℕ) :
    sequenceAt initialSequence nodeId (p + 1) = sequenceAt initialSequence nodeId p + 1 := by
  apply UInt16.toBitVec_inj.mp
  simp [sequenceAt, ringValue_add]

theorem sequenceAt_stride (p : ℕ) : sequenceAt initialSequence nodeId (p + 8) =
    sequenceAt initialSequence nodeId p + onewaySequenceStride := by
  apply UInt16.toBitVec_inj.mp
  simp [sequenceAt, ringValue_add, onewaySequenceStride]

theorem sequenceAt_add_inj {p n : ℕ} (hn : n ≤ 8) :
    sequenceAt initialSequence nodeId p = sequenceAt initialSequence nodeId (p + n) ↔ n = 0 := by
  rw [← UInt16.toBitVec_inj, eq_comm]
  exact ringValue_add_eq_self (by omega)

/-- The counter that a block of positions stands for. -/
def counterOf (block : ℕ × ℕ) : Counter :=
  ⟨nodeId, sequenceAt initialSequence nodeId block.1, sequenceAt initialSequence nodeId block.2,
    preferenceKey nodeId⟩

/-- Every registered counter writes under the key of its own address. -/
def OwnKeys (store : OneWaySequenceStore) : Prop :=
  ∀ nodeId counter, store.find nodeId = some counter → counter.pref = preferenceKey nodeId

/-- The block counter follows what flash, the staged writes and memory hold for the address. -/
structure Tracks (h : Hub) (c : BlockCounter 8) : Prop where
  flash : h.preferences.flash (preferenceKey nodeId) =
    if c.durable = 0 then none else some (sequenceAt initialSequence nodeId c.durable)
  staged : h.preferences.staged (preferenceKey nodeId) =
    c.staged.map (sequenceAt initialSequence nodeId)
  live : h.store.find nodeId = c.live.map (counterOf initialSequence nodeId)
  ownKeys : OwnKeys h.store

variable {initialSequence nodeId} {h h' : Hub} {c c' : BlockCounter 8}

theorem OwnKeys.write {store : OneWaySequenceStore} (own : OwnKeys store) {other : NodeId}
    {old new : Counter} (hfind : store.find other = some old) (hnew : new.nodeId = other)
    (hpref : new.pref = preferenceKey other) :
    OwnKeys (OneWaySequenceStore.write other new store) := by
  intro x counter hx
  by_cases heq : other = x
  · subst heq
    rw [OneWaySequenceStore.find_write_self hnew hfind, Option.some.injEq] at hx
    rw [← hx, hpref]
  · rw [OneWaySequenceStore.find_write_of_ne hnew heq] at hx
    exact own x counter hx

theorem OwnKeys.append {store : OneWaySequenceStore} (own : OwnKeys store) {new : Counter}
    (hpref : new.pref = preferenceKey new.nodeId) : OwnKeys (store ++ [new]) := by
  intro x counter hx
  rw [OneWaySequenceStore.find_append, Option.or_eq_some_iff] at hx
  rcases hx with hx | ⟨-, hx⟩
  · exact own x counter hx
  · split at hx
    · next heq => rw [← Option.some.inj hx, hpref, heq]
    · cases hx

namespace Tracks

theorem fresh (initialSequence : NodeId → UInt16) (nodeId : NodeId) :
    Tracks initialSequence nodeId .fresh (.fresh 8) where
  flash := rfl
  staged := rfl
  live := rfl
  ownKeys := by simp [OwnKeys, Hub.fresh, OneWaySequenceStore.find]

theorem backgroundSync (t : Tracks initialSequence nodeId h c) :
    Tracks initialSequence nodeId ⟨h.store, h.preferences.sync⟩ c.commit where
  flash := by
    simp only [Preferences.sync, Preferences.load, t.staged, t.flash, BlockCounter.commit_durable]
    rcases Option.eq_none_or_eq_some c.staged with hs | ⟨s, hs⟩
    · simp [hs]
    · obtain ⟨n, -, rfl⟩ := c.staged_end s hs
      simp [hs]
  staged := rfl
  live := t.live
  ownKeys := t.ownKeys

theorem reboot (t : Tracks initialSequence nodeId h c) :
    Tracks initialSequence nodeId h.reboot c.losePower where
  flash := t.flash
  staged := rfl
  live := rfl
  ownKeys := by simp [OwnKeys, Hub.reboot, OneWaySequenceStore.find]

theorem saveOther (t : Tracks initialSequence nodeId h c) {other : NodeId} (hne : other ≠ nodeId)
    (value : UInt16) : Tracks initialSequence nodeId
      ⟨h.store, h.preferences.save (preferenceKey other) value⟩ c where
  flash := t.flash
  staged := by
    have hkey : preferenceKey nodeId ≠ preferenceKey other :=
      fun hk => hne (preferenceKey_injective hk).symm
    simpa [Preferences.save, hkey] using t.staged
  live := t.live
  ownKeys := t.ownKeys

theorem saveSelf (t : Tracks initialSequence nodeId h c) {n : ℕ}
    (exhausted : c.live = some (n, n)) : Tracks initialSequence nodeId
      ⟨h.store, h.preferences.save (preferenceKey nodeId)
        (sequenceAt initialSequence nodeId n + onewaySequenceStride)⟩ (c.stage exhausted) where
  flash := t.flash
  staged := by simp [Preferences.save, BlockCounter.stage, sequenceAt_stride]
  live := t.live
  ownKeys := t.ownKeys

/-- Writing another address's counter is not seen. -/
theorem writeOther (t : Tracks initialSequence nodeId h c) {other : NodeId} (hne : other ≠ nodeId)
    {old new : Counter} (hfind : h.store.find other = some old) (hnew : new.nodeId = other)
    (hpref : new.pref = preferenceKey other) : Tracks initialSequence nodeId
      ⟨OneWaySequenceStore.write other new h.store, h.preferences⟩ c where
  flash := t.flash
  staged := t.staged
  live := by rw [OneWaySequenceStore.find_write_of_ne hnew hne, t.live]
  ownKeys := t.ownKeys.write hfind hnew hpref

/-- Writing the counter of the address itself follows a change of the live block. -/
theorem writeSelf (t : Tracks initialSequence nodeId h c) {old : Counter} {block : ℕ × ℕ}
    (hfind : h.store.find nodeId = some old) (hlive : c'.live = some block)
    (hdurable : c'.durable = c.durable) (hstaged : c'.staged = c.staged) :
    Tracks initialSequence nodeId
      ⟨OneWaySequenceStore.write nodeId (counterOf initialSequence nodeId block) h.store,
        h.preferences⟩ c' where
  flash := by rw [hdurable, t.flash]
  staged := by rw [hstaged, t.staged]
  live := by
    have hself : (counterOf initialSequence nodeId block).nodeId = nodeId := rfl
    rw [OneWaySequenceStore.find_write_self hself hfind, hlive]
    rfl
  ownKeys := t.ownKeys.write hfind rfl rfl

/-- A counter registered for an address that is not the tracked one. -/
theorem registerOther (t : Tracks initialSequence nodeId h c) {other : NodeId}
    (hne : other ≠ nodeId) (next : UInt16) : Tracks initialSequence nodeId
      ⟨h.store ++ [⟨other, next, next, preferenceKey other⟩], h.preferences⟩ c where
  flash := t.flash
  staged := t.staged
  live := by rw [OneWaySequenceStore.find_append, t.live]; simp [hne]
  ownKeys := t.ownKeys.append rfl

/-- The tracked address resumes at the durable end of its reservations. -/
theorem registerSelf (t : Tracks initialSequence nodeId h c) (off : c.live = none) :
    Tracks initialSequence nodeId
      ⟨h.store ++ [counterOf initialSequence nodeId (c.durable, c.durable)], h.preferences⟩
      (c.resume off) where
  flash := t.flash
  staged := t.staged
  live := by
    rw [OneWaySequenceStore.find_append, t.live, off]
    simp [BlockCounter.resume, counterOf]
  ownKeys := t.ownKeys.append rfl

/-- At setup the store loads the durable end of the reservations. -/
theorem load (t : Tracks initialSequence nodeId h c) (off : c.live = none) :
    h.preferences.load (preferenceKey nodeId) =
      if c.durable = 0 then none else some (sequenceAt initialSequence nodeId c.durable) := by
  have hstaged : c.staged = none := by
    rcases Option.eq_none_or_eq_some c.staged with hs | ⟨s, hs⟩
    · exact hs
    · obtain ⟨n, hn, -⟩ := c.staged_end s hs
      simp [off] at hn
  simp [Preferences.load, t.staged, hstaged, t.flash]

end Tracks

/-- What one event does to the tracking counter: it records what was handed out, and reserves at
most one more block. -/
def Follows (initialSequence : NodeId → UInt16) (nodeId : NodeId) (c : BlockCounter 8)
    (out : Hub × List (NodeId × UInt16)) : Prop :=
  ∃ c' : BlockCounter 8, Tracks initialSequence nodeId out.1 c' ∧
    c'.handed.map (sequenceAt initialSequence nodeId) =
      c.handed.map (sequenceAt initialSequence nodeId) ++ handedTo nodeId out.2 ∧
    (c'.durable = c.durable ∨ c'.durable = c.durable + 8)

theorem handedTo_other {other : NodeId} (hne : other ≠ nodeId) (out : Option UInt16) :
    handedTo nodeId (out.map fun value => (other, value)).toList = [] := by
  cases out <;> simp [handedTo, hne]

theorem Tracks.addIdentity (t : Tracks initialSequence nodeId h c) (other : NodeId)
    (ok : SetupResumes initialSequence nodeId h (.addIdentity other)) :
    Follows initialSequence nodeId c (Hub.step initialSequence h (.addIdentity other)) := by
  simp only [Hub.step, OneWaySequenceStore.addIdentity]
  cases hfind : h.store.find other with
  | some counter => exact ⟨c, t, by simp [handedTo], .inl rfl⟩
  | none =>
    by_cases hne : other = nodeId
    · subst hne
      have off : c.live = none := by simpa [hfind] using t.live.symm
      have hload := t.load off
      have hnext : OneWaySequenceStore.resumeFrom (initialSequence other)
          (h.preferences.load (preferenceKey other)) =
            sequenceAt initialSequence other c.durable := by
        have hok := ok rfl hfind
        rw [hload] at hok ⊢
        by_cases hzero : c.durable = 0
        · simp [hzero, OneWaySequenceStore.resumeFrom]
        · simp only [hzero, if_false, Option.mem_def, Option.some.injEq, forall_eq'] at hok ⊢
          exact OneWaySequenceStore.resumeFrom_of_le hok
      refine ⟨c.resume off, ?_, by simp [handedTo, BlockCounter.resume], .inl rfl⟩
      simp only [hnext]
      exact t.registerSelf off
    · exact ⟨c, t.registerOther hne _, by simp [handedTo], .inl rfl⟩

/-- The counter of the tracked address is the image of its live block. -/
theorem Tracks.exists_block (t : Tracks initialSequence nodeId h c) {counter : Counter}
    (hfind : h.store.find nodeId = some counter) :
    ∃ n r, c.live = some (n, r) ∧ counter = counterOf initialSequence nodeId (n, r) := by
  have hlive := t.live
  rw [hfind] at hlive
  obtain ⟨⟨n, r⟩, hblock, rfl⟩ := Option.map_eq_some_iff.mp hlive.symm
  exact ⟨n, r, hblock, rfl⟩

theorem exhausted_iff {n r : ℕ} (hblock : c.live = some (n, r)) :
    (counterOf initialSequence nodeId (n, r)).next =
      (counterOf initialSequence nodeId (n, r)).reserved ↔ n = r := by
  obtain ⟨hle, hstride, -⟩ := c.block n r hblock
  obtain ⟨k, rfl⟩ := Nat.exists_eq_add_of_le hle
  have hk : k ≤ 8 := by omega
  simpa [counterOf] using sequenceAt_add_inj initialSequence nodeId (p := n) hk

/-- Nothing but the reservation of the counter moves. -/
def Reserves (c c₁ : BlockCounter 8) : Prop :=
  c₁.handed = c.handed ∧ c₁.live = c.live ∧ (c₁.durable = c.durable ∨ c₁.durable = c.durable + 8)

theorem Reserves.rfl : Reserves c c := ⟨Eq.refl _, Eq.refl _, .inl (Eq.refl _)⟩

theorem Reserves.stage {n : ℕ} (exhausted : c.live = some (n, n)) :
    Reserves c (c.stage exhausted) := ⟨Eq.refl _, Eq.refl _, .inl (Eq.refl _)⟩

theorem reserves_commit (c : BlockCounter 8) : Reserves c c.commit :=
  ⟨rfl, rfl, c.commit_durable_cases⟩

/-- Persisting a reservation, of the tracked address or of another, keeps the tracking. -/
theorem Tracks.persist (t : Tracks initialSequence nodeId h c) {x : NodeId} {counter : Counter}
    (hfind : h.store.find x = some counter) (hexhausted : counter.next = counter.reserved)
    (saveReply syncReply : Reply) :
    ∃ c₁, Reserves c c₁ ∧ Tracks initialSequence nodeId ⟨h.store, (OneWaySequences.persist saveReply
      syncReply h.preferences counter.pref (counter.next + onewaySequenceStride)).1⟩ c₁ := by
  have hsave : ∃ c₁, Reserves c c₁ ∧ Reserves c c₁.commit ∧ Tracks initialSequence nodeId
      ⟨h.store, h.preferences.save counter.pref (counter.next + onewaySequenceStride)⟩ c₁ := by
    rw [t.ownKeys x counter hfind]
    by_cases hx : x = nodeId
    · subst hx
      obtain ⟨n, r, hblock, rfl⟩ := t.exists_block hfind
      obtain rfl := (exhausted_iff hblock).mp hexhausted
      exact ⟨c.stage hblock, .stage hblock, reserves_commit (c.stage hblock), t.saveSelf hblock⟩
    · exact ⟨c, .rfl, reserves_commit c, t.saveOther hx _⟩
  obtain ⟨c₁, hkeep, hcommit, ht⟩ := hsave
  unfold OneWaySequences.persist
  cases saveReply with
  | powerLost => exact ⟨c, .rfl, t⟩
  | failed => exact ⟨c, .rfl, t⟩
  | ok =>
    cases syncReply with
    | powerLost => exact ⟨c₁, hkeep, ht⟩
    | failed => exact ⟨c₁, hkeep, ht⟩
    | ok => exact ⟨c₁.commit, hcommit, ht.backgroundSync⟩

theorem Tracks.nextPreferences (t : Tracks initialSequence nodeId h c) (x : NodeId)
    (saveReply syncReply : Reply) : ∃ c₁, Reserves c c₁ ∧ Tracks initialSequence nodeId
      ⟨h.store, (h.store.next h.preferences saveReply syncReply x).2.1⟩ c₁ := by
  unfold OneWaySequenceStore.next
  cases hfind : h.store.find x with
  | none => exact ⟨c, .rfl, t⟩
  | some counter =>
    by_cases hexhausted : counter.next = counter.reserved
    · obtain ⟨c₁, hkeep, ht⟩ := t.persist hfind hexhausted saveReply syncReply
      refine ⟨c₁, hkeep, ?_⟩
      simp only [hexhausted, if_true] at ht ⊢
      split <;> next heq => simpa [heq] using ht
    · exact ⟨c, .rfl, by simpa [hexhausted] using t⟩

/-- A power loss at the end of an event leaves only the reservation. -/
theorem Tracks.lost {store store' : OneWaySequenceStore} {p : Preferences} {c₁ : BlockCounter 8}
    (t : Tracks initialSequence nodeId ⟨store, p⟩ c₁) (hkeep : Reserves c c₁) :
    Follows initialSequence nodeId c (Hub.reboot ⟨store', p⟩, []) := by
  obtain ⟨hhanded, -, hdurable⟩ := hkeep
  exact ⟨c₁.losePower, t.reboot, by simp [hhanded, handedTo], by simpa using hdurable⟩

/-- The last step of `next` for the tracked address: the next position of a reserved block. -/
theorem Tracks.handOut (t : Tracks initialSequence nodeId h c) {old : Counter} {n r : ℕ}
    (hfind : h.store.find nodeId = some old) (c₁ : BlockCounter 8)
    (on : c₁.live = some (n, r)) (room : n < r) (hdurable : c₁.durable = c.durable)
    (hstaged : c₁.staged = c.staged) (hhanded : c₁.handed = c.handed) :
    Tracks initialSequence nodeId ⟨OneWaySequenceStore.write nodeId
      (counterOf initialSequence nodeId (n + 1, r)) h.store, h.preferences⟩ (c₁.handOut on room) ∧
    (c₁.handOut on room).handed = c.handed ++ [n] :=
  ⟨t.writeSelf hfind rfl hdurable hstaged, by rw [← hhanded]; rfl⟩

theorem Tracks.nextOther (t : Tracks initialSequence nodeId h c) {x : NodeId} (hx : x ≠ nodeId)
    {saveReply syncReply : Reply} {store : OneWaySequenceStore} {p : Preferences}
    {out : Option UInt16}
    (hnext : h.store.next h.preferences saveReply syncReply x = (store, p, .returned out)) :
    Follows initialSequence nodeId c (⟨store, p⟩, (out.map fun value => (x, value)).toList) := by
  obtain ⟨c₁, ⟨hhanded, -, hdurable⟩, ht⟩ := t.nextPreferences x saveReply syncReply
  rw [hnext] at ht
  refine ⟨c₁, ?_, by simp [handedTo_other hx, hhanded], hdurable⟩
  unfold OneWaySequenceStore.next at hnext
  cases hfind : h.store.find x with
  | none =>
    simp only [hfind] at hnext
    cases hnext
    exact ht
  | some counter =>
    have hself := OneWaySequenceStore.nodeId_of_find hfind
    have hkey := t.ownKeys x counter hfind
    simp only [hfind] at hnext
    split at hnext
    · split at hnext <;> cases hnext
      · exact ht
      · exact ht.writeOther hx hfind hself hkey
    · cases hnext
      exact ht.writeOther hx hfind hself hkey

theorem counterOf_next (n r : ℕ) : counterOf initialSequence nodeId (n + 1, r) =
    { counterOf initialSequence nodeId (n, r) with
      next := (counterOf initialSequence nodeId (n, r)).next + 1 } := by
  simp [counterOf, sequenceAt_succ]

theorem counterOf_reserved (n : ℕ) : counterOf initialSequence nodeId (n + 1, n + 8) =
    { counterOf initialSequence nodeId (n, n) with
      next := (counterOf initialSequence nodeId (n, n)).next + 1
      reserved := (counterOf initialSequence nodeId (n, n)).next + onewaySequenceStride } := by
  simp only [counterOf, sequenceAt_stride, sequenceAt_succ _ _ n]

theorem Tracks.nextSelf (t : Tracks initialSequence nodeId h c)
    {saveReply syncReply : Reply} {store : OneWaySequenceStore} {p : Preferences}
    {out : Option UInt16}
    (hnext : h.store.next h.preferences saveReply syncReply nodeId = (store, p, .returned out)) :
    Follows initialSequence nodeId c
      (⟨store, p⟩, (out.map fun value => (nodeId, value)).toList) := by
  obtain ⟨c₁, ⟨hhanded, -, hdurable⟩, ht⟩ := t.nextPreferences nodeId saveReply syncReply
  rw [hnext] at ht
  have hrefused : store = h.store → out = none → Follows initialSequence nodeId c
      (⟨store, p⟩, (out.map fun value => (nodeId, value)).toList) := by
    rintro rfl rfl
    exact ⟨c₁, ht, by simp [hhanded, handedTo], hdurable⟩
  unfold OneWaySequenceStore.next at hnext
  cases hfind : h.store.find nodeId with
  | none =>
    simp only [hfind] at hnext
    cases hnext
    exact hrefused rfl rfl
  | some counter =>
    obtain ⟨n, r, hblock, rfl⟩ := t.exists_block hfind
    simp only [hfind, exhausted_iff hblock] at hnext
    split at hnext
    · next hnr =>
      subst hnr
      split at hnext <;> cases hnext
      · exact hrefused rfl rfl
      · next hpersist =>
        obtain rfl := persist_true hpersist
        have hreserved := (t.saveSelf hblock).backgroundSync
        have hroom : n < n + 8 := by omega
        obtain ⟨hkept, hnew⟩ := hreserved.handOut hfind
          ((c.stage hblock).commit.extend hblock rfl rfl) rfl hroom rfl rfl rfl
        rw [counterOf_reserved] at hkept
        refine ⟨_, hkept, (congrArg _ hnew).trans ?_, (c.stage hblock).commit_durable_cases⟩
        simp [handedTo, counterOf]
    · next hnr =>
      cases hnext
      have room : n < r := Nat.lt_of_le_of_ne (c.block n r hblock).1 hnr
      obtain ⟨hkept, hnew⟩ := t.handOut hfind c hblock room rfl rfl rfl
      rw [counterOf_next] at hkept
      exact ⟨c.handOut hblock room, hkept, by simp [hnew, handedTo, counterOf], .inl rfl⟩

/-- One event of a run whose setup calls resume keeps the tracking. -/
theorem Tracks.step (t : Tracks initialSequence nodeId h c) (e : Event)
    (ok : SetupResumes initialSequence nodeId h e) :
    Follows initialSequence nodeId c (Hub.step initialSequence h e) := by
  cases e with
  | addIdentity x => exact t.addIdentity x ok
  | backgroundSync => exact ⟨c.commit, t.backgroundSync, by simp [Hub.step, handedTo],
      c.commit_durable_cases⟩
  | reboot => exact t.lost .rfl
  | next x saveReply syncReply lostBeforeReturn =>
    obtain ⟨c₁, hkeep, ht⟩ := t.nextPreferences x saveReply syncReply
    simp only [Hub.step]
    rcases hnext : h.store.next h.preferences saveReply syncReply x with ⟨store, p, outcome⟩
    rw [hnext] at ht
    cases outcome with
    | powerLost => exact ht.lost hkeep
    | returned out =>
      cases lostBeforeReturn with
      | true => exact ht.lost hkeep
      | false =>
        by_cases hx : x = nodeId
        · subst hx
          exact t.nextSelf hnext
        · exact t.nextOther hx hnext

/-- The durable end moves exactly when the flash cell of the address changes. -/
theorem Tracks.reserved_eq (t : Tracks initialSequence nodeId h c)
    (t' : Tracks initialSequence nodeId h' c')
    (hdurable : c'.durable = c.durable ∨ c'.durable = c.durable + 8) :
    c'.durable = c.durable +
      if h'.preferences.flash (preferenceKey nodeId) = h.preferences.flash (preferenceKey nodeId)
      then 0 else onewaySequenceStride.toNat := by
  rw [t.flash, t'.flash]
  rcases hdurable with heq | heq
  · simp [heq]
  · have hne : sequenceAt initialSequence nodeId (c.durable + 8) ≠
        sequenceAt initialSequence nodeId c.durable := by
      intro h
      have := (sequenceAt_add_inj initialSequence nodeId le_rfl).mp h.symm
      omega
    rw [heq]
    by_cases hzero : c.durable = 0
    · simp [hzero, onewaySequenceStride]
    · simp [hzero, hne, onewaySequenceStride]

/-- Over a whole run the tracking counter records every value handed out and counts the
reserved positions. -/
theorem Tracks.run (t : Tracks initialSequence nodeId h c) {es : List Event}
    (ok : (storeMachine initialSequence).Along (SetupResumes initialSequence nodeId) h es) :
    ∃ c' : BlockCounter 8,
      c'.handed.map (sequenceAt initialSequence nodeId) =
        c.handed.map (sequenceAt initialSequence nodeId) ++
          handedTo nodeId ((storeMachine initialSequence).outputs h es) ∧
      c'.durable = c.durable + reservedPositions initialSequence nodeId h es := by
  induction es generalizing h c with
  | nil => exact ⟨c, by simp [handedTo], rfl⟩
  | cons e es ih =>
    obtain ⟨c₁, t₁, hhanded₁, hdurable₁⟩ := t.step e ok.1
    obtain ⟨c₂, hhanded₂, hdurable₂⟩ := ih t₁ ok.2
    have hreserved := t.reserved_eq t₁ hdurable₁
    refine ⟨c₂, ?_, ?_⟩
    · rw [hhanded₂, hhanded₁]
      simp [storeMachine, handedTo]
    · rw [hdurable₂, hreserved]
      simp only [reservedPositions]
      omega

/-- Every value lies ahead of the earlier ones on the ring, seen from the configured start. -/
def RingOrdered (start : UInt16) (values : List UInt16) : Prop :=
  values.Pairwise fun earlier later => AheadFrom start.toBitVec earlier.toBitVec later.toBitVec

/-- Every value lies ahead of the earlier ones by less than half of the ring. -/
def SerialOrdered (values : List UInt16) : Prop :=
  values.Pairwise fun earlier later => SerialLt earlier.toBitVec later.toBitVec

instance (start : UInt16) (values : List UInt16) : Decidable (RingOrdered start values) :=
  inferInstanceAs (Decidable (List.Pairwise _ _))

theorem RingOrdered.nodup {start : UInt16} {values : List UInt16} (h : RingOrdered start values) :
    values.Nodup :=
  h.imp fun ahead heq => ahead.ne (congrArg UInt16.toBitVec heq.symm)

theorem handed_ringOrdered (initialSequence : NodeId → UInt16) (nodeId : NodeId)
    (c : BlockCounter 8) (hbound : c.durable < 2 ^ 16) :
    RingOrdered (initialSequence nodeId) (c.handed.map (sequenceAt initialSequence nodeId)) := by
  refine List.Pairwise.map _ (fun _ _ h => h) ((List.Pairwise.and_mem.mp c.sorted).imp ?_)
  rintro p q ⟨-, hq, hpq⟩
  exact aheadFrom_of_lt hpq ((c.handed_lt_durable q hq).trans hbound)

theorem handed_serialOrdered (c : BlockCounter 8) (hbound : c.durable ≤ 2 ^ 15) :
    SerialOrdered (c.handed.map (sequenceAt initialSequence nodeId)) := by
  refine List.Pairwise.map _ (fun _ _ h => h) ((List.Pairwise.and_mem.mp c.sorted).imp ?_)
  rintro p q ⟨-, hq, hpq⟩
  have := c.handed_lt_durable q hq
  exact serialLt_of_lt hpq (by omega)

variable (initialSequence nodeId)

/-- In every run in which each setup call of the address resumes its reservation, with fewer
than `2 ^ 16` positions reserved, no value is handed out twice and each lies ahead of all
earlier ones. Up to half of the ring this is the serial-number order. -/
theorem next_never_reuses (es : List Event)
    (resumes : (storeMachine initialSequence).Along (SetupResumes initialSequence nodeId)
      .fresh es)
    (bounded : reservedPositions initialSequence nodeId .fresh es < 2 ^ 16) :
    (handedTo nodeId ((storeMachine initialSequence).outputs .fresh es)).Nodup ∧
    RingOrdered (initialSequence nodeId)
      (handedTo nodeId ((storeMachine initialSequence).outputs .fresh es)) ∧
    (reservedPositions initialSequence nodeId .fresh es ≤ 2 ^ 15 →
      SerialOrdered (handedTo nodeId ((storeMachine initialSequence).outputs .fresh es))) := by
  obtain ⟨c, hhanded, hdurable⟩ := (Tracks.fresh initialSequence nodeId).run resumes
  simp only [BlockCounter.fresh, List.map_nil, List.nil_append, Nat.zero_add] at hhanded hdurable
  rw [← hhanded, ← hdurable]
  have hordered := handed_ringOrdered initialSequence nodeId c (by omega)
  exact ⟨hordered.nodup, hordered, handed_serialOrdered c⟩

/-- Three hand-outs across a reboot that forfeits the rest of a block. -/
theorem next_never_reuses_after_reboot :
    handedTo ⟨1, 2, 3⟩ ((storeMachine fun _ => 5).outputs .fresh
      [.addIdentity ⟨1, 2, 3⟩, .next ⟨1, 2, 3⟩ .ok .ok false, .next ⟨1, 2, 3⟩ .ok .ok false,
        .reboot, .addIdentity ⟨1, 2, 3⟩, .next ⟨1, 2, 3⟩ .ok .ok false]) = [5, 6, 13] ∧
    RingOrdered 5 [5, 6, 13] :=
  ⟨by decide, (next_never_reuses (fun _ => 5) ⟨1, 2, 3⟩
      [.addIdentity ⟨1, 2, 3⟩, .next ⟨1, 2, 3⟩ .ok .ok false, .next ⟨1, 2, 3⟩ .ok .ok false,
        .reboot, .addIdentity ⟨1, 2, 3⟩, .next ⟨1, 2, 3⟩ .ok .ok false]
      (by decide) (by decide)).2.1⟩

/-- A setup call that finds a reservation numerically below the configured start, as every
reservation past the wrap can be, hands the configured start out again. -/
theorem setup_below_start_restarts (h : Hub) (off : h.store.find nodeId = none)
    {persisted : UInt16} (hload : h.preferences.load (preferenceKey nodeId) = some persisted)
    (below : persisted < initialSequence nodeId) :
    (storeMachine initialSequence).outputs h
      [.addIdentity nodeId, .next nodeId .ok .ok false] = [(nodeId, initialSequence nodeId)] := by
  have hnext : OneWaySequenceStore.resumeFrom (initialSequence nodeId)
      (h.preferences.load (preferenceKey nodeId)) = initialSequence nodeId := by
    simp [hload, OneWaySequenceStore.resumeFrom, UInt16.not_lt.mpr (UInt16.le_of_lt below)]
  simp [storeMachine, Hub.step, OneWaySequenceStore.addIdentity, off, hnext,
    OneWaySequenceStore.next, OneWaySequenceStore.find_append, persist]

/-- The first reservation of a start close to the wrap already ends below it: after a reboot the
same value is handed out again. -/
theorem next_reuses_across_wrap : ¬ ∀ (initialSequence : NodeId → UInt16) (nodeId : NodeId)
    (es : List Event), reservedPositions initialSequence nodeId .fresh es < 2 ^ 16 →
    (handedTo nodeId ((storeMachine initialSequence).outputs .fresh es)).Nodup ∧
    RingOrdered (initialSequence nodeId)
      (handedTo nodeId ((storeMachine initialSequence).outputs .fresh es)) := by
  intro h
  have hreuse := h (fun _ => 0xFFFC) ⟨1, 2, 3⟩
    [.addIdentity ⟨1, 2, 3⟩, .next ⟨1, 2, 3⟩ .ok .ok false, .reboot, .addIdentity ⟨1, 2, 3⟩,
      .next ⟨1, 2, 3⟩ .ok .ok false] (by decide)
  exact absurd hreuse.1 (by decide)

end HomeIoControl.OneWaySequenceRuns
