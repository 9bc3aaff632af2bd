import Mathlib.Logic.Function.Basic
import SchemaQuery.Proofs.LoadedTree

/-!
# Reads that run between the steps of writes

Where a store takes its time, the work on one catalog interleaves.  Taking a snapshot then has
three steps: the cache is checked, the entities are read from the store, and the cache is filled
with them.  A write has two: the store is changed, and the snapshot is dropped.  Between any two
steps of one, others may take theirs, and the clock may move.

No step waits for another, so a snapshot that was read before a write can be filled in after the
write has dropped the cached one.  This file shows that nothing else goes wrong: a read that
starts once a write has returned answers entities that were stored after the write, unless the
cache gives it such a late snapshot.
-/

namespace SchemaQuery
namespace Catalog

/-- How far the taking of a snapshot has come. -/
inductive Reader where
  | idle
  | missed
  | holding (snapshot : List StoredEntity)
  | returned (snapshot : List StoredEntity)
deriving DecidableEq

namespace Reader

def check : Reader → StateM Catalog Reader
  | idle, catalog =>
      match catalog.cache.probe catalog.cacheKey with
      | (some snapshot, cache) => (returned snapshot, { catalog with cache })
      | (none, cache) => (missed, { catalog with cache })
  | other, catalog => (other, catalog)

def read : Reader → StateM Catalog Reader
  | missed, catalog =>
      let (entities, store) := catalog.store.all
      (holding entities, { catalog with store })
  | other, catalog => (other, catalog)

def fill : Reader → StateM Catalog Reader
  | holding snapshot, catalog =>
      (returned snapshot,
        { catalog with cache := catalog.cache.fill catalog.cacheKey snapshot })
  | other, catalog => (other, catalog)

theorem check_cases (reader : Reader) (catalog : Catalog) :
    reader ≠ idle ∧ reader.check catalog = (reader, catalog) ∨
      reader = idle ∧
        ((∃ snapshot, catalog.cache.probe catalog.cacheKey = (some snapshot, catalog.cache) ∧
            reader.check catalog = (returned snapshot, catalog)) ∨
          reader.check catalog =
            (missed, { catalog with cache := catalog.cache.remove catalog.cacheKey })) := by
  cases reader with
  | missed | holding | returned => exact Or.inl ⟨by simp, rfl⟩
  | idle =>
      refine Or.inr ⟨rfl, ?_⟩
      unfold check
      dsimp only
      rcases catalog.cache.probe_cases catalog.cacheKey with ⟨snapshot, found⟩ | absent
      · rw [found]
        exact Or.inl ⟨snapshot, rfl, rfl⟩
      · rw [absent]
        exact Or.inr rfl

theorem read_cases (reader : Reader) (catalog : Catalog) :
    reader.read catalog = (reader, catalog) ∨
      reader = missed ∧
        reader.read catalog =
          (holding catalog.store.toList, { catalog with store := catalog.store.all.2 }) := by
  cases reader with
  | missed => exact Or.inr ⟨rfl, rfl⟩
  | idle | holding | returned => exact Or.inl rfl

theorem fill_cases (reader : Reader) (catalog : Catalog) :
    reader.fill catalog = (reader, catalog) ∨
      ∃ snapshot, reader = holding snapshot ∧
        reader.fill catalog =
          (returned snapshot,
            { catalog with cache := catalog.cache.fill catalog.cacheKey snapshot }) := by
  cases reader with
  | holding snapshot => exact Or.inr ⟨snapshot, rfl, rfl⟩
  | idle | missed | returned => exact Or.inl rfl

/-- Without anything in between, the steps take the snapshot of the catalog. -/
theorem steps_eq_snapshot (catalog : Catalog) :
    (do fill (← read (← check idle)) : StateM Catalog Reader) catalog =
      (returned (snapshot catalog).1, (snapshot catalog).2) := by
  change fill (read (check idle catalog).1 (check idle catalog).2).1
    (read (check idle catalog).1 (check idle catalog).2).2 = _
  unfold snapshot check
  dsimp only
  rcases catalog.cache.probe_cases catalog.cacheKey with ⟨cached, found⟩ | absent
  · rw [found]
    rfl
  · rw [absent]
    rfl

end Reader

inductive Writer where
  | idle
  | written
  | returned
deriving DecidableEq

inductive Change where
  | save (entity : StoredEntity)
  | delete (name : String)

def Change.applied : Change → Store → Store
  | save entity, store => store.save entity
  | delete name, store => (store.delete name).2

namespace Writer

def write (change : Change) : Writer → StateM Catalog Writer
  | idle, catalog => (written, { catalog with store := change.applied catalog.store })
  | other, catalog => (other, catalog)

def drop : Writer → StateM Catalog Writer
  | written, catalog =>
      (returned, { catalog with cache := catalog.cache.remove catalog.cacheKey })
  | other, catalog => (other, catalog)

/-- Without anything in between, the steps delete an entity. -/
theorem steps_eq_delete (name : String) (catalog : Catalog) :
    (do drop (← write (.delete name) idle) : StateM Catalog Writer) catalog =
      (returned, (Catalog.delete name catalog).2) :=
  rfl

/-- Without anything in between, the steps save an entity that has been verified. -/
theorem steps_eq_save {candidate : StoredEntity} {catalog : Catalog}
    (verified : answer (verify candidate.withDefaultAttributes) catalog = .ok ()) :
    (do drop (← write (.save candidate.withDefaultAttributes) idle) : StateM Catalog Writer)
        (after (verify candidate.withDefaultAttributes) catalog) =
      (returned, after (Catalog.save candidate) catalog) := by
  unfold Catalog.save
  dsimp only
  rw [after_bind, verified]
  rfl

end Writer

/-- A step of one of the readers or writers, or of the clock. -/
inductive Action where
  | check (reader : Nat)
  | read (reader : Nat)
  | fill (reader : Nat)
  | write (writer : Nat) (change : Change)
  | drop (writer : Nat)
  | wait (time : Int)

structure System where
  catalog : Catalog
  readers : Nat → Reader := fun _ => .idle
  writers : Nat → Writer := fun _ => .idle

namespace System

def moveReader (system : System) (reader : Nat) (step : Reader → StateM Catalog Reader) :
    System :=
  let moved := step (system.readers reader) system.catalog
  { system with
    catalog := moved.2
    readers := Function.update system.readers reader moved.1 }

def moveWriter (system : System) (writer : Nat) (step : Writer → StateM Catalog Writer) :
    System :=
  let moved := step (system.writers writer) system.catalog
  { system with
    catalog := moved.2
    writers := Function.update system.writers writer moved.1 }

def perform (system : System) : Action → System
  | .check reader => system.moveReader reader Reader.check
  | .read reader => system.moveReader reader Reader.read
  | .fill reader => system.moveReader reader Reader.fill
  | .write writer change => system.moveWriter writer (Writer.write change)
  | .drop writer => system.moveWriter writer Writer.drop
  | .wait time =>
      { system with
        catalog := { system.catalog with cache := system.catalog.cache.advance time } }

/-- Whether the cache has an entry with a snapshot, be it fresh or not. -/
def Caches (system : System) (snapshot : List StoredEntity) : Prop :=
  ∃ entry, system.catalog.cache.entries.get? system.catalog.cacheKey = some entry ∧
    entry.value = snapshot

variable {system : System} {action : Action} {reader writer : Nat}
  {snapshot : List StoredEntity}

theorem readers_moveReader (step : Reader → StateM Catalog Reader) (mover : Nat) :
    (system.moveReader mover step).readers reader =
      if reader = mover then (step (system.readers mover) system.catalog).1
      else system.readers reader := by
  simp [moveReader, Function.update_apply]

/-- An action does nothing to a reader, or it is the step whose turn it is. -/
theorem readers_perform_cases (system : System) (action : Action) (reader : Nat) :
    (system.perform action).readers reader = system.readers reader ∨
      (action = .check reader ∧ system.readers reader = .idle ∧
        ((∃ snapshot, system.Caches snapshot ∧
            (system.perform action).readers reader = .returned snapshot) ∨
          (system.perform action).readers reader = .missed)) ∨
      (action = .read reader ∧ system.readers reader = .missed ∧
        (system.perform action).readers reader = .holding system.catalog.store.toList) ∨
      ∃ snapshot, action = .fill reader ∧ system.readers reader = .holding snapshot ∧
        (system.perform action).readers reader = .returned snapshot := by
  have others (step : Reader → StateM Catalog Reader) {mover : Nat} (differs : reader ≠ mover) :
      (system.moveReader mover step).readers reader = system.readers reader := by
    rw [readers_moveReader, if_neg differs]
  have own (step : Reader → StateM Catalog Reader) :
      (system.moveReader reader step).readers reader =
        (step (system.readers reader) system.catalog).1 := by
    rw [readers_moveReader, if_pos rfl]
  cases action with
  | write | drop | wait => exact Or.inl rfl
  | check mover =>
      by_cases differs : reader = mover
      · subst differs
        simp only [perform, own]
        rcases (system.readers reader).check_cases system.catalog with
          ⟨_, same⟩ | ⟨idle, ⟨snapshot, found, stepped⟩ | stepped⟩
        · exact Or.inl (by rw [same])
        · have caches : system.Caches snapshot := Cache.exists_entry_of_probe found
          exact Or.inr (Or.inl ⟨trivial, idle, Or.inl ⟨snapshot, caches, by rw [stepped]⟩⟩)
        · exact Or.inr (Or.inl ⟨trivial, idle, Or.inr (by rw [stepped])⟩)
      · exact Or.inl (others _ differs)
  | read mover =>
      by_cases differs : reader = mover
      · subst differs
        simp only [perform, own]
        rcases (system.readers reader).read_cases system.catalog with same | ⟨missed, stepped⟩
        · exact Or.inl (by rw [same])
        · exact Or.inr (Or.inr (Or.inl ⟨trivial, missed, by rw [stepped]⟩))
      · exact Or.inl (others _ differs)
  | fill mover =>
      by_cases differs : reader = mover
      · subst differs
        simp only [perform, own]
        rcases (system.readers reader).fill_cases system.catalog with
          same | ⟨snapshot, held, stepped⟩
        · exact Or.inl (by rw [same])
        · exact Or.inr (Or.inr (Or.inr ⟨snapshot, trivial, held, by rw [stepped]⟩))
      · exact Or.inl (others _ differs)

/-- A snapshot that is cached was cached before, or has just been filled in. -/
theorem caches_of_perform (caches : (system.perform action).Caches snapshot) :
    system.Caches snapshot ∨
      ∃ reader, action = .fill reader ∧ system.readers reader = .holding snapshot := by
  have removed {catalog : Catalog} {entry : CacheEntry (List StoredEntity)}
      (found : (catalog.cache.remove catalog.cacheKey).entries.get? catalog.cacheKey =
        some entry) : False := by
    simp [Cache.remove] at found
  obtain ⟨entry, found, valued⟩ := caches
  cases action with
  | write writer change =>
      simp only [perform, moveWriter] at found
      cases stage : system.writers writer <;> rw [stage] at found <;>
        exact Or.inl ⟨entry, found, valued⟩
  | drop writer =>
      simp only [perform, moveWriter] at found
      cases stage : system.writers writer <;> rw [stage] at found
      · exact Or.inl ⟨entry, found, valued⟩
      · exact (removed found).elim
      · exact Or.inl ⟨entry, found, valued⟩
  | wait time => exact Or.inl ⟨entry, found, valued⟩
  | check reader =>
      simp only [perform, moveReader] at found
      rcases (system.readers reader).check_cases system.catalog with
        ⟨_, same⟩ | ⟨_, ⟨_, _, stepped⟩ | stepped⟩
      · rw [same] at found
        exact Or.inl ⟨entry, found, valued⟩
      · rw [stepped] at found
        exact Or.inl ⟨entry, found, valued⟩
      · rw [stepped] at found
        exact (removed found).elim
  | read reader =>
      simp only [perform, moveReader] at found
      rcases (system.readers reader).read_cases system.catalog with same | ⟨_, stepped⟩
      · rw [same] at found
        exact Or.inl ⟨entry, found, valued⟩
      · rw [stepped] at found
        exact Or.inl ⟨entry, found, valued⟩
  | fill reader =>
      simp only [perform, moveReader] at found
      rcases (system.readers reader).fill_cases system.catalog with
        same | ⟨filled, held, stepped⟩
      · rw [same] at found
        exact Or.inl ⟨entry, found, valued⟩
      · rw [stepped] at found
        simp only [Cache.fill, Dictionary.get?_insert, if_true, Option.some.injEq] at found
        refine Or.inr ⟨reader, rfl, ?_⟩
        rw [held, ← valued, ← found]

theorem not_caches_drop (written : system.writers writer = .written) :
    ¬(system.perform (.drop writer)).Caches snapshot := by
  rintro ⟨entry, found, _⟩
  simp [perform, moveWriter, written, Writer.drop, Cache.remove] at found

theorem idle_of_perform (idle : (system.perform action).readers reader = .idle) :
    system.readers reader = .idle := by
  rcases system.readers_perform_cases action reader with
    same | ⟨_, before, _⟩ | ⟨_, _, after⟩ | ⟨_, _, _, after⟩
  · rw [← same, idle]
  · exact before
  · simp [after] at idle
  · simp [after] at idle

theorem not_idle_check : (system.perform (.check reader)).readers reader ≠ .idle := by
  intro idle
  simp only [perform, readers_moveReader, if_true] at idle
  rcases (system.readers reader).check_cases system.catalog with
    ⟨busy, same⟩ | ⟨_, ⟨_, _, stepped⟩ | stepped⟩
  · rw [same] at idle
    exact busy idle
  · simp [stepped] at idle
  · simp [stepped] at idle

theorem holding_of_perform (holding : (system.perform action).readers reader = .holding snapshot) :
    system.readers reader = .holding snapshot ∨
      action = .read reader ∧ snapshot = system.catalog.store.toList := by
  rcases system.readers_perform_cases action reader with
    same | ⟨_, _, ⟨_, _, after⟩ | after⟩ | ⟨reads, _, after⟩ | ⟨_, _, _, after⟩
  · exact Or.inl (by rw [← same, holding])
  · simp [after] at holding
  · simp [after] at holding
  · rw [after] at holding
    exact Or.inr ⟨reads, (Reader.holding.inj holding).symm⟩
  · simp [after] at holding

theorem returned_of_perform
    (returned : (system.perform action).readers reader = .returned snapshot) :
    system.readers reader = .returned snapshot ∨
      (action = .check reader ∧ system.readers reader = .idle ∧ system.Caches snapshot) ∨
      action = .fill reader ∧ system.readers reader = .holding snapshot := by
  rcases system.readers_perform_cases action reader with
    same | ⟨checks, idle, ⟨_, caches, after⟩ | after⟩ | ⟨_, _, after⟩ | ⟨_, fills, held, after⟩
  · exact Or.inl (by rw [← same, returned])
  · rw [after] at returned
    rw [← Reader.returned.inj returned]
    exact Or.inr (Or.inl ⟨checks, idle, caches⟩)
  · simp [after] at returned
  · simp [after] at returned
  · rw [after] at returned
    rw [← Reader.returned.inj returned]
    exact Or.inr (Or.inr ⟨fills, held⟩)

theorem writer_idle_of_perform (idle : (system.perform action).writers writer = .idle) :
    system.writers writer = .idle := by
  cases action with
  | check | read | fill | wait => exact idle
  | write mover change =>
      by_cases differs : writer = mover
      · subst differs
        cases stage : system.writers writer <;>
          simp [perform, moveWriter, stage, Writer.write] at idle ⊢
      · simpa [perform, moveWriter, Function.update_apply, differs] using idle
  | drop mover =>
      by_cases differs : writer = mover
      · subst differs
        cases stage : system.writers writer <;>
          simp [perform, moveWriter, stage, Writer.drop] at idle ⊢
      · simpa [perform, moveWriter, Function.update_apply, differs] using idle

end System

/-- Actions in order; those whose turn it is not do nothing. -/
abbrev Schedule := Nat → Action

namespace Schedule

variable (schedule : Schedule) (catalog : Catalog)

def systemAt : Nat → System
  | 0 => { catalog }
  | time + 1 => (systemAt time).perform (schedule time)

def storedAt (time : Nat) : List StoredEntity :=
  (schedule.systemAt catalog time).catalog.store.toList

/-- Whether a writer makes a change at one time, and has returned after another. -/
structure Writes (writer : Nat) (change : Change) (written dropped : Nat) : Prop where
  starts : (schedule.systemAt catalog written).writers writer = .idle
  writes : schedule written = .write writer change
  continues : (schedule.systemAt catalog dropped).writers writer = .written
  drops : schedule dropped = .drop writer

/-- Whether a reader checks at one time, and has returned a snapshot by another. -/
structure Reads (reader : Nat) (snapshot : List StoredEntity) (checked now : Nat) : Prop where
  starts : (schedule.systemAt catalog checked).readers reader = .idle
  checks : schedule checked = .check reader
  returned : (schedule.systemAt catalog now).readers reader = .returned snapshot

variable {schedule catalog} {reader writer first last time : Nat} {snapshot : List StoredEntity}
  {change : Change} {written dropped checked now : Nat}

theorem exists_onset (holds : Nat → Prop) (notYet : ¬holds first) (ordered : first ≤ last)
    (reached : holds last) :
    ∃ time, first ≤ time ∧ time < last ∧ ¬holds time ∧ holds (time + 1) := by
  induction last, ordered using Nat.le_induction with
  | base => exact absurd reached notYet
  | succ last ordered hypothesis =>
      by_cases before : holds last
      · obtain ⟨time, fromFirst, toLast, onset⟩ := hypothesis before
        exact ⟨time, fromFirst, by omega, onset⟩
      · exact ⟨last, ordered, by omega, before, reached⟩

theorem idle_before (idle : (schedule.systemAt catalog last).readers reader = .idle)
    (ordered : first ≤ last) : (schedule.systemAt catalog first).readers reader = .idle := by
  induction last, ordered using Nat.le_induction with
  | base => exact idle
  | succ last _ hypothesis => exact hypothesis (System.idle_of_perform idle)

theorem writer_idle_before (idle : (schedule.systemAt catalog last).writers writer = .idle)
    (ordered : first ≤ last) : (schedule.systemAt catalog first).writers writer = .idle := by
  induction last, ordered using Nat.le_induction with
  | base => exact idle
  | succ last _ hypothesis => exact hypothesis (System.writer_idle_of_perform idle)

theorem exists_read
    (notYet : (schedule.systemAt catalog first).readers reader ≠ .holding snapshot)
    (ordered : first ≤ last)
    (holding : (schedule.systemAt catalog last).readers reader = .holding snapshot) :
    ∃ time, first ≤ time ∧ time < last ∧ schedule time = .read reader ∧
      schedule.storedAt catalog time = snapshot := by
  obtain ⟨time, fromFirst, toLast, before, after⟩ := exists_onset
    (fun time => (schedule.systemAt catalog time).readers reader = .holding snapshot)
    notYet ordered holding
  obtain ⟨reads, stored⟩ := (System.holding_of_perform after).resolve_left before
  exact ⟨time, fromFirst, toLast, reads, stored.symm⟩

theorem exists_fill (notYet : ¬(schedule.systemAt catalog first).Caches snapshot)
    (ordered : first ≤ last) (caches : (schedule.systemAt catalog last).Caches snapshot) :
    ∃ reader time, first ≤ time ∧ time < last ∧ schedule time = .fill reader ∧
      (schedule.systemAt catalog time).readers reader = .holding snapshot := by
  obtain ⟨time, fromFirst, toLast, before, after⟩ := exists_onset
    (fun time => (schedule.systemAt catalog time).Caches snapshot)
    notYet ordered caches
  obtain ⟨reader, fills, holding⟩ := (System.caches_of_perform after).resolve_left before
  exact ⟨reader, time, fromFirst, toLast, fills, holding⟩

theorem Writes.written_lt_dropped (write : schedule.Writes catalog writer change written dropped) :
    written < dropped := by
  by_contra notBefore
  have idle := writer_idle_before write.starts (Nat.le_of_not_lt notBefore)
  rw [write.continues] at idle
  cases idle

theorem Reads.checked_lt_now (read : schedule.Reads catalog reader snapshot checked now) :
    checked < now := by
  by_contra notBefore
  have idle := idle_before read.starts (Nat.le_of_not_lt notBefore)
  rw [read.returned] at idle
  cases idle

/-- What a reader returns it has read since it started, or it was cached then. -/
theorem Reads.read_or_cached (read : schedule.Reads catalog reader snapshot checked now) :
    (∃ time, checked ≤ time ∧ time < now ∧ schedule.storedAt catalog time = snapshot) ∨
      (schedule.systemAt catalog checked).Caches snapshot := by
  have notReturned : (schedule.systemAt catalog checked).readers reader ≠ .returned snapshot := by
    rw [read.starts]
    exact Reader.noConfusion
  have notHolding : (schedule.systemAt catalog checked).readers reader ≠ .holding snapshot := by
    rw [read.starts]
    exact Reader.noConfusion
  obtain ⟨time, fromChecked, toNow, before, after⟩ := exists_onset
    (fun time => (schedule.systemAt catalog time).readers reader = .returned snapshot)
    notReturned read.checked_lt_now.le read.returned
  rcases (System.returned_of_perform after).resolve_left before with
    ⟨_, idle, caches⟩ | ⟨_, holding⟩
  · -- The reader starts once only, so this is the check that it started with.
    have same : time = checked := by
      by_contra differs
      have afterCheck : checked + 1 ≤ time := by omega
      have stillIdle := idle_before idle afterCheck
      unfold systemAt at stillIdle
      rw [read.checks] at stillIdle
      exact System.not_idle_check stillIdle
    rw [← same]
    exact Or.inr caches
  · obtain ⟨readAt, fromStart, toFill, _, stored⟩ := exists_read notHolding fromChecked holding
    exact Or.inl ⟨readAt, fromStart, by omega, stored⟩

/-- A read that starts once a write has returned answers entities stored after that, unless an older
snapshot was filled into the cache after the write had dropped it. -/
theorem read_after_write (write : schedule.Writes catalog writer change written dropped)
    (read : schedule.Reads catalog reader snapshot checked now) (later : dropped < checked) :
    (∃ time, written < time ∧ time < now ∧ schedule.storedAt catalog time = snapshot) ∨
      ∃ late readAt filledAt, readAt < written ∧ dropped < filledAt ∧ filledAt < checked ∧
        schedule readAt = .read late ∧ schedule.storedAt catalog readAt = snapshot ∧
        schedule filledAt = .fill late ∧
        (schedule.systemAt catalog filledAt).readers late = .holding snapshot := by
  have writtenFirst := write.written_lt_dropped
  have checkedFirst := read.checked_lt_now
  rcases read.read_or_cached with ⟨time, fromChecked, toNow, stored⟩ | caches
  · exact Or.inl ⟨time, by omega, toNow, stored⟩
  · have dropped_cache : ¬(schedule.systemAt catalog (dropped + 1)).Caches snapshot := by
      unfold systemAt
      rw [write.drops]
      exact System.not_caches_drop write.continues
    obtain ⟨late, filledAt, afterDrop, beforeCheck, fills, holding⟩ :=
      exists_fill dropped_cache later caches
    have atFirst : (schedule.systemAt catalog 0).readers late ≠ .holding snapshot :=
      Reader.noConfusion
    obtain ⟨readAt, _, beforeFill, reads, stored⟩ :=
      exists_read atFirst (Nat.zero_le filledAt) holding
    rcases Nat.lt_trichotomy readAt written with early | same | fresh
    · exact Or.inr ⟨late, readAt, filledAt, early, afterDrop, beforeCheck, reads, stored, fills,
        holding⟩
    · rw [same, write.writes] at reads
      cases reads
    · exact Or.inl ⟨readAt, fresh, by omega, stored⟩

def overtaken : Schedule
  | 0 => .check 0
  | 1 => .read 0
  | 2 => .write 0 (.delete "Tag")
  | 3 => .drop 0
  | 4 => .fill 0
  | 5 => .check 1
  | _ => .wait 1

def tags : Catalog where
  store := .ofEntities [tag]

theorem overtaken_writes : overtaken.Writes tags 0 (.delete "Tag") 2 3 :=
  ⟨rfl, rfl, rfl, rfl⟩

theorem overtaken_reads : overtaken.Reads tags 1 [tag] 5 6 :=
  ⟨rfl, rfl, rfl⟩

theorem deleted_tags_come_back :
    overtaken.Writes tags 0 (.delete "Tag") 2 3 ∧ overtaken.Reads tags 1 [tag] 5 6 ∧
      ∀ time ≤ 6, 2 < time → overtaken.storedAt tags time ≠ [tag] := by
  refine ⟨overtaken_writes, overtaken_reads, ?_⟩
  decide +kernel

/-- It is the overtaken reader that brings them back. -/
theorem overtaken_brings_tags_back :
    (∃ time, 2 < time ∧ time < 6 ∧ overtaken.storedAt tags time = [tag]) ∨
      ∃ late readAt filledAt, readAt < 2 ∧ 3 < filledAt ∧ filledAt < 5 ∧
        overtaken readAt = .read late ∧ overtaken.storedAt tags readAt = [tag] ∧
        overtaken filledAt = .fill late ∧
        (overtaken.systemAt tags filledAt).readers late = .holding [tag] :=
  read_after_write overtaken_writes overtaken_reads (by decide)

end Schedule
end Catalog
end SchemaQuery
