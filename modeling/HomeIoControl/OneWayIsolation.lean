import HomeIoControl.OneWaySequenceRuns

/-!
# Identities do not share a counter

Registrations, hand-outs and seedings of any addresses, in any order, with reboots between them.
An address sees its own operations, the reboots and the syncs that other components cause. Other
addresses have their own cells of the flash and their own counters; what they share with it is the
sync, which commits whatever is staged.
-/

namespace HomeIoControl.OneWayIsolation

open MachineRuns OneWaySequences OneWaySequenceRuns ProtocolFrames

/-- One event of a run. A save or a sync may fail; a loss of power inside an operation leaves what
the failed or the finished operation leaves with a reboot behind it. -/
inductive Event where
  | addIdentity (nodeId : NodeId) (initialSequence : UInt16)
  | next (nodeId : NodeId) (saved synced : Bool)
  | seed (nodeId : NodeId) (value : UInt16) (saved synced : Bool)
  | backgroundSync
  | reboot
  deriving DecidableEq

/-- The hub before its first boot, with anything in its flash. -/
def stored (flash : UInt32 → Option UInt16) : Hub := ⟨[], flash, fun _ => none⟩

/-- One event, with what a call of `next` answers: a sequence, or `none` for `false`. -/
def step (h : Hub) : Event → Hub × List (NodeId × Option UInt16)
  | .addIdentity nodeId initialSequence =>
    (⟨h.store.addIdentity h.preferences nodeId initialSequence, h.preferences⟩, [])
  | .next nodeId saved synced =>
    match h.store.next h.preferences (replyOf saved) (replyOf synced) nodeId with
    | (store, preferences, .powerLost) => (Hub.reboot ⟨store, preferences⟩, [])
    | (store, preferences, .returned out) =>
      (⟨store, preferences⟩, [(nodeId, out)])
  | .seed nodeId value saved synced =>
    match h.store.seed h.preferences (replyOf saved) (replyOf synced) nodeId value with
    | (store, preferences, .powerLost) => (Hub.reboot ⟨store, preferences⟩, [])
    | (store, preferences, .returned _) => (⟨store, preferences⟩, [])
  | .backgroundSync => (⟨h.store, h.preferences.sync⟩, [])
  | .reboot => (h.reboot, [])

def hubMachine : Machine Hub Event (NodeId × Option UInt16) := ⟨step⟩

variable (nodeId : NodeId)

/-- What the calls of `next` for the address answer, in order. -/
def answersTo (outputs : List (NodeId × Option UInt16)) : List (Option UInt16) :=
  outputs.filterMap fun out => if out.1 = nodeId then some out.2 else none

/-- The address sees its own operations, the reboots and the syncs of other components. -/
def concerns : Event → Bool
  | .addIdentity other _ => other = nodeId
  | .next other _ _ => other = nodeId
  | .seed other _ _ _ => other = nodeId
  | .backgroundSync => true
  | .reboot => true

/-- None of the address's own writes is left staged by a failed sync. -/
def Settles (h : Hub) (e : Event) : Prop :=
  concerns nodeId e = true → (step h e).1.preferences.staged (preferenceKey nodeId) = none

instance (h : Hub) (e : Event) : Decidable (Settles nodeId h e) :=
  inferInstanceAs (Decidable (_ → _))

/-- Two stores of preferences hold the same under a key. -/
structure Agree (key : UInt32) (p p' : Preferences) : Prop where
  flash : p.flash key = p'.flash key
  staged : p.staged key = p'.staged key

/-- Two hubs are alike for an address. -/
structure Alike (h h' : Hub) : Prop where
  counter : h.store.find nodeId = h'.store.find nodeId
  preferences : Agree (preferenceKey nodeId) h.preferences h'.preferences
  ownKeys : OwnKeys h.store
  ownKeys' : OwnKeys h'.store

/-- Two operations answer alike, and leave the same counter and the same cell of the flash. -/
structure SameAnswer {α : Type} (r r' : OneWaySequenceStore × Preferences × Outcome α) :
    Prop where
  answer : r.2.2 = r'.2.2
  counter : r.1.find nodeId = r'.1.find nodeId
  preferences : Agree (preferenceKey nodeId) r.2.1 r'.2.1

theorem Agree.refl (key : UInt32) (p : Preferences) : Agree key p p := ⟨rfl, rfl⟩

theorem Agree.trans {key : UInt32} {p p' p'' : Preferences} (h : Agree key p p')
    (h' : Agree key p' p'') : Agree key p p'' :=
  ⟨h.flash.trans h'.flash, h.staged.trans h'.staged⟩

theorem Agree.load {key : UInt32} {p p' : Preferences} (h : Agree key p p') :
    p.load key = p'.load key := by
  rw [Preferences.load, Preferences.load, h.flash, h.staged]

/-- A write under the key has the same outcome and the same effect on both. -/
theorem Agree.persist {key : UInt32} {p p' : Preferences} (h : Agree key p p')
    (saveReply syncReply : Reply) (value : UInt16) :
    (OneWaySequences.persist saveReply syncReply p key value).2 =
        (OneWaySequences.persist saveReply syncReply p' key value).2 ∧
      Agree key (OneWaySequences.persist saveReply syncReply p key value).1
        (OneWaySequences.persist saveReply syncReply p' key value).1 := by
  cases saveReply with
  | powerLost => exact ⟨rfl, h⟩
  | failed => exact ⟨rfl, h⟩
  | ok =>
    cases syncReply with
    | powerLost => exact ⟨rfl, ⟨h.flash, by simp [OneWaySequences.persist, Preferences.save]⟩⟩
    | failed => exact ⟨rfl, ⟨h.flash, by simp [OneWaySequences.persist, Preferences.save]⟩⟩
    | ok =>
      refine ⟨rfl, ⟨?_, rfl⟩⟩
      simp [OneWaySequences.persist, Preferences.save, Preferences.sync, Preferences.load]

/-- A write under another key, with its sync, leaves a key that has nothing staged. -/
theorem persist_other {key other : UInt32} (hne : other ≠ key) {p : Preferences}
    (hstaged : p.staged key = none) (saveReply syncReply : Reply) (value : UInt16) :
    Agree key (OneWaySequences.persist saveReply syncReply p other value).1 p := by
  cases saveReply with
  | powerLost => exact .refl key p
  | failed => exact .refl key p
  | ok =>
    cases syncReply with
    | powerLost => exact ⟨rfl, by simp [OneWaySequences.persist, Preferences.save, hne.symm]⟩
    | failed => exact ⟨rfl, by simp [OneWaySequences.persist, Preferences.save, hne.symm]⟩
    | ok =>
      refine ⟨?_, hstaged.symm⟩
      simp [OneWaySequences.persist, Preferences.save, Preferences.sync, Preferences.load,
        hne.symm, hstaged]

section

variable {nodeId : NodeId} {store store' : OneWaySequenceStore} {p p' : Preferences}
  (hfind : store.find nodeId = store'.find nodeId)
include hfind

/-- Writing the counter back is seen alike. -/
theorem write_alike {counter new : Counter} (hcounter : store.find nodeId = some counter)
    (hnew : new.nodeId = nodeId) :
    (OneWaySequenceStore.write nodeId new store).find nodeId =
      (OneWaySequenceStore.write nodeId new store').find nodeId := by
  have hcounter' : store'.find nodeId = some counter := by rw [← hfind, hcounter]
  rw [OneWaySequenceStore.find_write_self hnew hcounter,
    OneWaySequenceStore.find_write_self hnew hcounter']

variable (hagree : Agree (preferenceKey nodeId) p p')
include hagree

/-- Registering an address finds the same counter and the same persisted value. -/
theorem addIdentity_alike (initialSequence : UInt16) :
    (store.addIdentity p nodeId initialSequence).find nodeId =
      (store'.addIdentity p' nodeId initialSequence).find nodeId := by
  unfold OneWaySequenceStore.addIdentity
  rw [← hfind, ← hagree.load]
  cases hcounter : store.find nodeId with
  | none =>
    simp only [OneWaySequenceStore.find_append]
    rw [← hfind]
  | some counter => exact hfind

variable (hkey : ∀ counter, store.find nodeId = some counter → counter.pref = preferenceKey nodeId)
include hkey

theorem next_alike (saveReply syncReply : Reply) :
    SameAnswer nodeId (store.next p saveReply syncReply nodeId)
      (store'.next p' saveReply syncReply nodeId) := by
  cases hcounter : store.find nodeId with
  | none =>
    have hcounter' : store'.find nodeId = none := by rw [← hfind, hcounter]
    rw [OneWaySequenceStore.next, OneWaySequenceStore.next, hcounter, hcounter']
    exact ⟨rfl, hfind, hagree⟩
  | some counter =>
    have hcounter' : store'.find nodeId = some counter := by rw [← hfind, hcounter]
    have hself := OneWaySequenceStore.nodeId_of_find hcounter
    by_cases hexhausted : counter.next = counter.reserved
    · rw [OneWaySequenceStore.next_exhausted hcounter hexhausted,
        OneWaySequenceStore.next_exhausted hcounter' hexhausted, hkey counter hcounter]
      obtain ⟨houtcome, hprefs⟩ := hagree.persist saveReply syncReply
        (counter.next + onewaySequenceStride)
      rcases hpersist : persist saveReply syncReply p (preferenceKey nodeId)
        (counter.next + onewaySequenceStride) with ⟨q, outcome⟩
      rcases hpersist' : persist saveReply syncReply p' (preferenceKey nodeId)
        (counter.next + onewaySequenceStride) with ⟨q', outcome'⟩
      rw [hpersist, hpersist'] at houtcome hprefs
      obtain rfl : outcome = outcome' := houtcome
      cases outcome with
      | powerLost => exact ⟨rfl, hfind, hprefs⟩
      | returned done =>
        cases done with
        | false => exact ⟨rfl, hfind, hprefs⟩
        | true => exact ⟨rfl, write_alike hfind hcounter hself, hprefs⟩
    · rw [OneWaySequenceStore.next_reserved hcounter hexhausted,
        OneWaySequenceStore.next_reserved hcounter' hexhausted]
      exact ⟨rfl, write_alike hfind hcounter hself, hagree⟩

theorem seed_alike (value : UInt16) (saveReply syncReply : Reply) :
    SameAnswer nodeId (store.seed p saveReply syncReply nodeId value)
      (store'.seed p' saveReply syncReply nodeId value) := by
  unfold OneWaySequenceStore.seed
  rw [← hfind]
  cases hcounter : store.find nodeId with
  | none => exact ⟨rfl, hfind, hagree⟩
  | some counter =>
    have hself := OneWaySequenceStore.nodeId_of_find hcounter
    obtain ⟨houtcome, hprefs⟩ := hagree.persist saveReply syncReply value
    simp only [hkey counter hcounter]
    rcases hpersist : persist saveReply syncReply p (preferenceKey nodeId) value
      with ⟨q, outcome⟩
    rcases hpersist' : persist saveReply syncReply p' (preferenceKey nodeId) value
      with ⟨q', outcome'⟩
    rw [hpersist, hpersist'] at houtcome hprefs
    obtain rfl : outcome = outcome' := houtcome
    cases outcome with
    | powerLost => exact ⟨rfl, hfind, hprefs⟩
    | returned done =>
      cases done with
      | false => exact ⟨rfl, hfind, hprefs⟩
      | true => exact ⟨rfl, write_alike hfind hcounter hself, hprefs⟩

end

section

variable {nodeId : NodeId} {store : OneWaySequenceStore} {p : Preferences} {other : NodeId}

/-- An operation of an address returns; it writes no counter but its own, and persists under no
key but its own. -/
structure OwnOnly {α : Type} (store : OneWaySequenceStore) (p : Preferences) (other : NodeId)
    (r : OneWaySequenceStore × Preferences × Outcome α) : Prop where
  returned : ∃ result, r.2.2 = .returned result
  store : r.1 = store ∨ ∃ old new, r.1 = OneWaySequenceStore.write other new store ∧
    store.find other = some old ∧ new.nodeId = other ∧ new.pref = preferenceKey other
  preferences : r.2.1 = p ∨ ∃ saveReply syncReply value,
    r.2.1 = (persist saveReply syncReply p (preferenceKey other) value).1

theorem persist_returned (saved synced : Bool) (p : Preferences) (key : UInt32) (value : UInt16) :
    ∃ done, (persist (replyOf saved) (replyOf synced) p key value).2 = .returned done := by
  cases saved with
  | false => exact ⟨false, rfl⟩
  | true =>
    cases synced with
    | false => exact ⟨false, rfl⟩
    | true => exact ⟨true, rfl⟩

theorem next_ownOnly (own : OwnKeys store) (p : Preferences) (other : NodeId)
    (saved synced : Bool) :
    OwnOnly store p other (store.next p (replyOf saved) (replyOf synced) other) := by
  cases hcounter : store.find other with
  | none =>
    rw [OneWaySequenceStore.next, hcounter]
    exact ⟨⟨_, rfl⟩, .inl rfl, .inl rfl⟩
  | some counter =>
    have hself := OneWaySequenceStore.nodeId_of_find hcounter
    have hkey := own other counter hcounter
    by_cases hexhausted : counter.next = counter.reserved
    · rw [OneWaySequenceStore.next_exhausted hcounter hexhausted, hkey]
      obtain ⟨done, hdone⟩ := persist_returned saved synced p (preferenceKey other)
        (counter.next + onewaySequenceStride)
      have hprefs : ∃ saveReply syncReply value,
          (persist (replyOf saved) (replyOf synced) p (preferenceKey other)
            (counter.next + onewaySequenceStride)).1 =
          (persist saveReply syncReply p (preferenceKey other) value).1 := ⟨_, _, _, rfl⟩
      rcases hpersist : persist (replyOf saved) (replyOf synced) p (preferenceKey other)
        (counter.next + onewaySequenceStride) with ⟨q, outcome⟩
      rw [hpersist] at hdone hprefs
      obtain rfl : outcome = .returned done := hdone
      cases done with
      | false => exact ⟨⟨_, rfl⟩, .inl rfl, .inr hprefs⟩
      | true => exact ⟨⟨_, rfl⟩, .inr ⟨counter, _, rfl, hcounter, hself, rfl⟩, .inr hprefs⟩
    · rw [OneWaySequenceStore.next_reserved hcounter hexhausted]
      exact ⟨⟨_, rfl⟩, .inr ⟨counter, _, rfl, hcounter, hself, hkey⟩, .inl rfl⟩

theorem seed_ownOnly (own : OwnKeys store) (p : Preferences) (other : NodeId) (value : UInt16)
    (saved synced : Bool) :
    OwnOnly store p other (store.seed p (replyOf saved) (replyOf synced) other value) := by
  unfold OneWaySequenceStore.seed
  cases hcounter : store.find other with
  | none => exact ⟨⟨_, rfl⟩, .inl rfl, .inl rfl⟩
  | some counter =>
    have hself := OneWaySequenceStore.nodeId_of_find hcounter
    have hkey := own other counter hcounter
    simp only [hkey]
    obtain ⟨done, hdone⟩ := persist_returned saved synced p (preferenceKey other) value
    have hprefs : ∃ saveReply syncReply value',
        (persist (replyOf saved) (replyOf synced) p (preferenceKey other) value).1 =
        (persist saveReply syncReply p (preferenceKey other) value').1 := ⟨_, _, _, rfl⟩
    rcases hpersist : persist (replyOf saved) (replyOf synced) p (preferenceKey other) value
      with ⟨q, outcome⟩
    rw [hpersist] at hdone hprefs
    obtain rfl : outcome = .returned done := hdone
    cases done with
    | false => exact ⟨⟨_, rfl⟩, .inl rfl, .inr hprefs⟩
    | true => exact ⟨⟨_, rfl⟩, .inr ⟨counter, _, rfl, hcounter, hself, rfl⟩, .inr hprefs⟩

namespace OwnOnly

variable {α : Type} {r : OneWaySequenceStore × Preferences × Outcome α}

theorem ownKeys (o : OwnOnly store p other r) (own : OwnKeys store) : OwnKeys r.1 := by
  rcases o.store with hsame | ⟨old, new, hwrite, hfind, hnew, hpref⟩
  · rw [hsame]
    exact own
  · rw [hwrite]
    exact own.write hfind hnew hpref

/-- The operations of one address leave the counter of another. -/
theorem find (o : OwnOnly store p other r) (hne : other ≠ nodeId) :
    r.1.find nodeId = store.find nodeId := by
  rcases o.store with hsame | ⟨old, new, hwrite, -, hnew, -⟩
  · rw [hsame]
  · rw [hwrite, OneWaySequenceStore.find_write_of_ne hnew hne]

/-- They leave its cell of the flash too, where it has nothing staged. -/
theorem agree (o : OwnOnly store p other r) (hne : other ≠ nodeId)
    (hstaged : p.staged (preferenceKey nodeId) = none) :
    Agree (preferenceKey nodeId) r.2.1 p := by
  rcases o.preferences with hsame | ⟨saveReply, syncReply, value, hpersist⟩
  · rw [hsame]
    exact .refl _ p
  · rw [hpersist]
    exact persist_other (fun hkey => hne (preferenceKey_injective hkey)) hstaged _ _ _

end OwnOnly

end

section

variable {nodeId : NodeId} {h h' : Hub}

theorem ownKeys_addIdentity {store : OneWaySequenceStore} (own : OwnKeys store) (p : Preferences)
    (other : NodeId) (initialSequence : UInt16) :
    OwnKeys (store.addIdentity p other initialSequence) := by
  unfold OneWaySequenceStore.addIdentity
  cases hcounter : store.find other with
  | some counter => exact own
  | none => exact own.append rfl

theorem find_addIdentity_of_ne {store : OneWaySequenceStore} (p : Preferences) {other : NodeId}
    (hne : other ≠ nodeId) (initialSequence : UInt16) :
    (store.addIdentity p other initialSequence).find nodeId = store.find nodeId := by
  unfold OneWaySequenceStore.addIdentity
  cases hcounter : store.find other with
  | some counter => rfl
  | none =>
    simp only [OneWaySequenceStore.find_append]
    rw [if_neg hne, Option.or_none]

theorem step_next (own : OwnKeys h.store) (other : NodeId) (saved synced : Bool) :
    ∃ out, (h.store.next h.preferences (replyOf saved) (replyOf synced) other).2.2 =
        .returned out ∧
      step h (.next other saved synced) =
        (⟨(h.store.next h.preferences (replyOf saved) (replyOf synced) other).1,
          (h.store.next h.preferences (replyOf saved) (replyOf synced) other).2.1⟩,
          [(other, out)]) := by
  obtain ⟨out, hout⟩ := (next_ownOnly own h.preferences other saved synced).returned
  refine ⟨out, hout, ?_⟩
  rcases hnext : h.store.next h.preferences (replyOf saved) (replyOf synced) other with
    ⟨store, preferences, outcome⟩
  rw [hnext] at hout
  obtain rfl : outcome = .returned out := hout
  simp only [step, hnext]

theorem step_seed (own : OwnKeys h.store) (other : NodeId) (value : UInt16)
    (saved synced : Bool) :
    step h (.seed other value saved synced) =
      (⟨(h.store.seed h.preferences (replyOf saved) (replyOf synced) other value).1,
        (h.store.seed h.preferences (replyOf saved) (replyOf synced) other value).2.1⟩, []) := by
  obtain ⟨done, hdone⟩ := (seed_ownOnly own h.preferences other value saved synced).returned
  rcases hseed : h.store.seed h.preferences (replyOf saved) (replyOf synced) other value with
    ⟨store, preferences, outcome⟩
  rw [hseed] at hdone
  obtain rfl : outcome = .returned done := hdone
  simp only [step, hseed]

/-- What the address sees leaves two hubs that are alike for it alike, with the same answers. -/
theorem Alike.own (a : Alike nodeId h h') {e : Event} (hown : concerns nodeId e = true) :
    (step h e).2 = (step h' e).2 ∧ Alike nodeId (step h e).1 (step h' e).1 := by
  cases e with
  | addIdentity other initialSequence =>
    obtain rfl : other = nodeId := by simpa [concerns] using hown
    exact ⟨rfl, addIdentity_alike a.counter a.preferences initialSequence, a.preferences,
      ownKeys_addIdentity a.ownKeys _ _ _, ownKeys_addIdentity a.ownKeys' _ _ _⟩
  | next other saved synced =>
    obtain rfl : other = nodeId := by simpa [concerns] using hown
    have same := next_alike a.counter a.preferences (a.ownKeys other) (replyOf saved)
      (replyOf synced)
    obtain ⟨out, hout, hstep⟩ := step_next a.ownKeys other saved synced
    obtain ⟨out', hout', hstep'⟩ := step_next a.ownKeys' other saved synced
    obtain rfl : out = out' := by
      have hanswer := same.answer
      rw [hout, hout'] at hanswer
      exact Outcome.returned.inj hanswer
    rw [hstep, hstep']
    exact ⟨rfl, same.counter, same.preferences, (next_ownOnly a.ownKeys _ _ _ _).ownKeys a.ownKeys,
      (next_ownOnly a.ownKeys' _ _ _ _).ownKeys a.ownKeys'⟩
  | seed other value saved synced =>
    obtain rfl : other = nodeId := by simpa [concerns] using hown
    have same := seed_alike a.counter a.preferences (a.ownKeys other) value (replyOf saved)
      (replyOf synced)
    rw [step_seed a.ownKeys, step_seed a.ownKeys']
    exact ⟨rfl, same.counter, same.preferences,
      (seed_ownOnly a.ownKeys _ _ _ _ _).ownKeys a.ownKeys,
      (seed_ownOnly a.ownKeys' _ _ _ _ _).ownKeys a.ownKeys'⟩
  | backgroundSync => exact ⟨rfl, a.counter, ⟨a.preferences.load, rfl⟩, a.ownKeys, a.ownKeys'⟩
  | reboot =>
    have off : OwnKeys [] := by simp [OwnKeys, OneWaySequenceStore.find]
    exact ⟨rfl, rfl, ⟨a.preferences.flash, rfl⟩, off, off⟩

/-- Where the address has nothing staged, what does not concern it leaves its hub alike, and
answers nothing to it. -/
theorem Alike.other (a : Alike nodeId h h')
    (hstaged : h.preferences.staged (preferenceKey nodeId) = none) {e : Event}
    (hother : concerns nodeId e = false) :
    answersTo nodeId (step h e).2 = [] ∧ Alike nodeId (step h e).1 h' := by
  cases e with
  | addIdentity other initialSequence =>
    have hne : other ≠ nodeId := by simpa [concerns] using hother
    exact ⟨rfl, (find_addIdentity_of_ne _ hne _).trans a.counter, a.preferences,
      ownKeys_addIdentity a.ownKeys _ _ _, a.ownKeys'⟩
  | next other saved synced =>
    have hne : other ≠ nodeId := by simpa [concerns] using hother
    have only := next_ownOnly a.ownKeys h.preferences other saved synced
    obtain ⟨out, -, hstep⟩ := step_next a.ownKeys other saved synced
    rw [hstep]
    exact ⟨by simp [answersTo, hne], (only.find hne).trans a.counter,
      (only.agree hne hstaged).trans a.preferences, only.ownKeys a.ownKeys, a.ownKeys'⟩
  | seed other value saved synced =>
    have hne : other ≠ nodeId := by simpa [concerns] using hother
    have only := seed_ownOnly a.ownKeys h.preferences other value saved synced
    rw [step_seed a.ownKeys]
    exact ⟨rfl, (only.find hne).trans a.counter,
      (only.agree hne hstaged).trans a.preferences, only.ownKeys a.ownKeys, a.ownKeys'⟩
  | backgroundSync => cases hother
  | reboot => cases hother

end

/-- A hub with nothing of the address staged is seen as another that is alike. -/
def SeenAs (h h' : Hub) : Prop :=
  Alike nodeId h h' ∧ h.preferences.staged (preferenceKey nodeId) = none

variable {nodeId} {h h' : Hub} {e : Event}

theorem SeenAs.own (r : SeenAs nodeId h h') (hown : concerns nodeId e = true)
    (ok : Settles nodeId h e) :
    (step h e).2 = (step h' e).2 ∧ SeenAs nodeId (step h e).1 (step h' e).1 := by
  obtain ⟨hanswers, alike⟩ := r.1.own hown
  exact ⟨hanswers, alike, ok hown⟩

theorem SeenAs.other (r : SeenAs nodeId h h') (hother : concerns nodeId e = false) :
    answersTo nodeId (step h e).2 = [] ∧ SeenAs nodeId (step h e).1 h' := by
  obtain ⟨hsilent, alike⟩ := r.1.other r.2 hother
  have hstaged' : h'.preferences.staged (preferenceKey nodeId) = none := by
    rw [← r.1.preferences.staged, r.2]
  exact ⟨hsilent, alike, alike.preferences.staged.trans hstaged'⟩

/-- Whether the own writes settle is seen alike. -/
theorem SeenAs.settles_iff (r : SeenAs nodeId h h') (hown : concerns nodeId e = true) :
    Settles nodeId h e ↔ Settles nodeId h' e := by
  unfold Settles
  rw [(r.1.own hown).2.preferences.staged]

theorem seenAs_stored (flash : UInt32 → Option UInt16) :
    SeenAs nodeId (stored flash) (stored flash) := by
  have off : OwnKeys (stored flash).store := by simp [OwnKeys, stored, OneWaySequenceStore.find]
  exact ⟨⟨rfl, .refl _ _, off, off⟩, rfl⟩

/-- A run answers an address as the run of what the address sees. -/
theorem answersTo_filter {flash : UInt32 → Option UInt16} {es : List Event}
    (settles : hubMachine.Along (Settles nodeId) (stored flash) es) :
    answersTo nodeId (hubMachine.outputs (stored flash) es) =
      answersTo nodeId (hubMachine.outputs (stored flash) (es.filter (concerns nodeId))) := by
  refine (hubMachine.unwind (R := SeenAs nodeId) ?_ ?_ (seenAs_stored flash) settles).1
  · intro s s' e r hown ok
    obtain ⟨hanswers, rel⟩ := r.own hown ok
    exact ⟨congrArg (answersTo nodeId) hanswers, rel⟩
  · intro s s' e r hother _
    exact r.other hother

theorem settles_filter_iff (flash : UInt32 → Option UInt16) (es : List Event) :
    hubMachine.Along (Settles nodeId) (stored flash) es ↔
      hubMachine.Along (Settles nodeId) (stored flash) (es.filter (concerns nodeId)) := by
  refine hubMachine.along_filter_iff (R := SeenAs nodeId) ?_ ?_ ?_ ?_ (seenAs_stored flash) es
  · intro s s' e r hown ok
    exact (r.own hown ok).2
  · intro s s' e r hother
    exact (r.other hother).2
  · intro s s' e r hown
    exact r.settles_iff hown
  · intro s e hother hown
    rw [hother] at hown
    cases hown

/-- Two runs in which an address sees the same answer it the same, whatever is done to other
addresses and however their writes fail, as long as none of its own writes is left staged by a
failed sync. -/
theorem answers_isolated (flash : UInt32 → Option UInt16) (nodeId : NodeId)
    (es es' : List Event) (same : es.filter (concerns nodeId) = es'.filter (concerns nodeId))
    (settles : hubMachine.Along (Settles nodeId) (stored flash) es) :
    answersTo nodeId (hubMachine.outputs (stored flash) es) =
      answersTo nodeId (hubMachine.outputs (stored flash) es') := by
  have settles' : hubMachine.Along (Settles nodeId) (stored flash) es' := by
    rwa [settles_filter_iff, ← same, ← settles_filter_iff]
  rw [answersTo_filter settles, answersTo_filter settles', same]

/-- Two addresses side by side, across a reboot, with the other's writes failing. -/
theorem neighbour_unseen :
    answersTo ⟨1, 2, 3⟩ (hubMachine.outputs (stored fun _ => none)
      [.addIdentity ⟨1, 2, 3⟩ 5, .addIdentity ⟨1, 2, 4⟩ 5, .next ⟨1, 2, 4⟩ true false,
        .next ⟨1, 2, 3⟩ true true, .seed ⟨1, 2, 4⟩ 900 true true, .next ⟨1, 2, 4⟩ false true,
        .reboot, .addIdentity ⟨1, 2, 3⟩ 5, .next ⟨1, 2, 3⟩ true true]) = [some 5, some 13] :=
  (answers_isolated (fun _ => none) ⟨1, 2, 3⟩
    [.addIdentity ⟨1, 2, 3⟩ 5, .addIdentity ⟨1, 2, 4⟩ 5, .next ⟨1, 2, 4⟩ true false,
      .next ⟨1, 2, 3⟩ true true, .seed ⟨1, 2, 4⟩ 900 true true, .next ⟨1, 2, 4⟩ false true,
      .reboot, .addIdentity ⟨1, 2, 3⟩ 5, .next ⟨1, 2, 3⟩ true true]
    [.addIdentity ⟨1, 2, 3⟩ 5, .next ⟨1, 2, 3⟩ true true, .reboot, .addIdentity ⟨1, 2, 3⟩ 5,
      .next ⟨1, 2, 3⟩ true true]
    (by decide) (by decide)).trans (by decide)

/-- A reservation whose sync failed is committed by the next address that syncs: after a reboot
the first resumes past it, and without the second it would not. -/
theorem neighbour_commits_staged : ¬ ∀ (flash : UInt32 → Option UInt16) (nodeId : NodeId)
    (es es' : List Event), es.filter (concerns nodeId) = es'.filter (concerns nodeId) →
    answersTo nodeId (hubMachine.outputs (stored flash) es) =
      answersTo nodeId (hubMachine.outputs (stored flash) es') := by
  intro isolated
  have h := isolated (fun _ => none) ⟨1, 2, 3⟩
    [.addIdentity ⟨1, 2, 3⟩ 0, .next ⟨1, 2, 3⟩ true false, .addIdentity ⟨1, 2, 4⟩ 0,
      .next ⟨1, 2, 4⟩ true true, .reboot, .addIdentity ⟨1, 2, 3⟩ 0, .next ⟨1, 2, 3⟩ true true]
    [.addIdentity ⟨1, 2, 3⟩ 0, .next ⟨1, 2, 3⟩ true false, .reboot, .addIdentity ⟨1, 2, 3⟩ 0,
      .next ⟨1, 2, 3⟩ true true] (by decide)
  exact absurd h (by decide)

end HomeIoControl.OneWayIsolation
