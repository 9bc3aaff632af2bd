import SchemaQuery.Failure
import SchemaQuery.Proofs.CatalogDefinitions

/-!
# A cache with a history

A cache forgets by itself: an entry that has outlived its lifetime is removed when it is looked
at, by a membership test as well as by a read.  What it answers can nevertheless be told from
what has happened to it.  This file keeps the history of a cache, in which every operation stands
with its reply and its times, and shows that the entry of a key is the latest fill of the key, as
long as that lasts.  Nothing else in the history makes a difference, except for the time that it
took.
-/

namespace SchemaQuery

def CacheEntry.LastsUntil {α : Type} (entry : CacheEntry α) (lifetime : Option Int)
    (now : Int) : Prop :=
  ∀ limit, lifetime = some limit → now - entry.filledAt ≤ limit

namespace Cache

variable {ε α : Type} {cache : Cache α} {key : String}

theorem isFresh_iff (cache : Cache α) (entry : CacheEntry α) :
    cache.isFresh entry = true ↔ entry.LastsUntil cache.lifetime cache.clock := by
  unfold isFresh CacheEntry.LastsUntil
  cases cache.lifetime <;> simp

theorem isFresh_congr {cache other : Cache α} (lifetime : cache.lifetime = other.lifetime)
    (clock : cache.clock = other.clock) : cache.isFresh = other.isFresh := by
  funext entry
  unfold isFresh
  rw [lifetime, clock]

/-- The entry of a key that is still fresh. -/
def fresh? (cache : Cache α) (key : String) : Option (CacheEntry α) :=
  (cache.entries.get? key).filter cache.isFresh

theorem filter_fresh? (cache : Cache α) (key : String) :
    (cache.fresh? key).filter cache.isFresh = cache.fresh? key := by
  unfold fresh?
  rw [Option.filter_filter]
  simp

theorem fresh?_remove (cache : Cache α) (key other : String) :
    (cache.remove key).fresh? other = if other = key then none else cache.fresh? other := by
  by_cases same : other = key
  · simp [fresh?, remove, same]
  · simp only [fresh?, remove, Dictionary.get?_erase, if_neg same]
    rfl

theorem fresh?_fill (cache : Cache α) (key other : String) (value : α) :
    (cache.fill key value).fresh? other =
      if other = key then (some ⟨cache.clock, value⟩ : Option (CacheEntry α)).filter cache.isFresh
      else cache.fresh? other := by
  by_cases same : other = key
  · simp only [fresh?, fill, Dictionary.get?_insert, if_pos same]
    rfl
  · simp only [fresh?, fill, Dictionary.get?_insert, if_neg same]
    rfl

theorem isFresh_of_advance {time : Int} (forward : 0 ≤ time) {entry : CacheEntry α}
    (fresh : (cache.advance time).isFresh entry = true) : cache.isFresh entry = true := by
  rw [isFresh_iff] at fresh ⊢
  intro limit limited
  have later := fresh limit limited
  simp only [advance] at later
  omega

theorem fresh?_advance {time : Int} (forward : 0 ≤ time) (cache : Cache α) (key : String) :
    (cache.advance time).fresh? key =
      (cache.fresh? key).filter (cache.advance time).isFresh := by
  ext entry
  simp only [fresh?, Option.filter_eq_some_iff]
  constructor
  · rintro ⟨found, fresh⟩
    exact ⟨⟨found, isFresh_of_advance forward fresh⟩, fresh⟩
  · rintro ⟨⟨found, _⟩, fresh⟩
    exact ⟨found, fresh⟩

theorem probe_fst (cache : Cache α) (key : String) :
    (cache.probe key).1 = (cache.fresh? key).map CacheEntry.value := by
  unfold probe fresh?
  cases cache.entries.get? key with
  | none => rfl
  | some entry => cases fresh : cache.isFresh entry <;> simp [Option.filter, fresh]

theorem probe_of_fresh? {entry : CacheEntry α} (found : cache.fresh? key = some entry) :
    cache.probe key = (some entry.value, cache) := by
  have value := probe_fst cache key
  rw [found] at value
  rcases cache.probe_cases key with ⟨other, probed⟩ | probed
  · rw [probed] at value ⊢
    exact Prod.ext value rfl
  · simp [probed] at value

theorem probe_of_noFresh (absent : cache.fresh? key = none) :
    cache.probe key = (none, cache.remove key) := by
  have value := probe_fst cache key
  rw [absent] at value
  rcases cache.probe_cases key with ⟨other, probed⟩ | probed
  · simp [probed] at value
  · exact probed

/-- Looking at a key may remove an entry, but no fresh one. -/
theorem fresh?_probe (cache : Cache α) (key other : String) :
    (cache.probe key).2.fresh? other = cache.fresh? other := by
  cases found : cache.fresh? key with
  | some entry => rw [probe_of_fresh? found]
  | none =>
      rw [probe_of_noFresh found, fresh?_remove]
      split
      · rename_i same
        rw [same, found]
      · rfl

theorem lifetime_probe (cache : Cache α) (key : String) :
    (cache.probe key).2.lifetime = cache.lifetime := by
  rcases cache.probe_cases key with ⟨value, probed⟩ | probed
  · rw [probed]
  · rw [probed]
    rfl

theorem getOrCreate_of_fresh? {entry : CacheEntry α} (found : cache.fresh? key = some entry)
    (factory : Factory ε α) :
    cache.getOrCreate key factory = (.ok entry.value, false, cache) := by
  unfold getOrCreate
  rw [probe_of_fresh? found]

/-- The cache that a factory leaves behind which has been called for a key. -/
def made (cache : Cache α) (key : String) (factory : Factory ε α) : Cache α :=
  let waited := (cache.remove key).advance factory.takes
  match factory.product with
  | .ok value => waited.fill key value
  | .error _ => waited

theorem getOrCreate_of_noFresh (absent : cache.fresh? key = none) (factory : Factory ε α) :
    cache.getOrCreate key factory = (factory.product, true, cache.made key factory) := by
  unfold getOrCreate made
  rw [probe_of_noFresh absent]
  cases product : factory.product <;> rfl

theorem made_spec (cache : Cache α) (key : String) (factory : Factory ε α) :
    (cache.made key factory).lifetime = cache.lifetime ∧
      (cache.made key factory).clock = cache.clock + factory.takes := by
  unfold made
  cases factory.product <;> exact ⟨rfl, rfl⟩

/-- A read either finds a fresh entry, or it is answered by its factory. -/
theorem getOrCreate_spec (cache : Cache α) (key : String) (factory : Factory ε α) :
    let read := cache.getOrCreate key factory
    (read.2.1 = false ↔ ∃ entry, cache.fresh? key = some entry) ∧
      (∀ entry, cache.fresh? key = some entry → read.1 = .ok entry.value) ∧
      (read.2.1 = true → read.1 = factory.product ∧
        ∀ failure, factory.product = .error failure →
          read.2.2.entries.contains key = false) := by
  intro read
  cases found : cache.fresh? key with
  | some entry =>
      have served : read = (.ok entry.value, false, cache) := getOrCreate_of_fresh? found factory
      rw [served]
      simp
  | none =>
      have called : read = (factory.product, true, cache.made key factory) :=
        getOrCreate_of_noFresh found factory
      rw [called]
      refine ⟨by simp, by simp, fun _ => ⟨rfl, fun failure failed => ?_⟩⟩
      simp [made, failed, advance, remove, Dictionary.contains]

theorem contains_fst (cache : Cache α) (key : String) :
    (cache.contains key).1 = (cache.fresh? key).isSome := by
  simp only [contains, probe_fst, Option.isSome_map]

inductive Operation (ε α : Type) where
  | getOrCreate (key : String) (factory : Factory ε α)
  | remove (key : String)
  | contains (key : String)
  | wait (time : Int)

inductive Reply (ε α : Type) where
  | obtained (result : Except ε α) (called : Bool)
  | held (present : Bool)
  | done

structure Event (ε α : Type) where
  operation : Operation ε α
  reply : Reply ε α
  startedAt : Int
  finishedAt : Int

namespace Operation

def perform (operation : Operation ε α) (cache : Cache α) : Reply ε α × Cache α :=
  match operation with
  | getOrCreate key factory =>
      let (result, called, behind) := cache.getOrCreate key factory
      (.obtained result called, behind)
  | remove key => (.done, cache.remove key)
  | contains key =>
      let (present, behind) := cache.contains key
      (.held present, behind)
  | wait time => (.done, cache.advance time)

def record (operation : Operation ε α) : StateM (Cache α) (Event ε α) := fun cache =>
  let (reply, behind) := operation.perform cache
  ({ operation, reply, startedAt := cache.clock, finishedAt := behind.clock }, behind)

/-- Whether no time is taken back by an operation. -/
def GoesForward : Operation ε α → Prop
  | getOrCreate _ factory => 0 ≤ factory.takes
  | wait time => 0 ≤ time
  | _ => True

def IsOn (key : String) : Operation ε α → Prop
  | getOrCreate other _ => other = key
  | remove other => other = key
  | contains other => other = key
  | wait _ => False

end Operation

namespace Event

/-- Whether a factory has made an entry of a key in an event. -/
def Fills (event : Event ε α) (key : String) (entry : CacheEntry α) : Prop :=
  (∃ factory, event.operation = .getOrCreate key factory) ∧
    event.reply = .obtained (.ok entry.value) true ∧ event.finishedAt = entry.filledAt

/-- Whether an event neither fills a key nor removes it. -/
def Spares (event : Event ε α) (key : String) : Prop :=
  event.operation ≠ .remove key ∧ ∀ entry, ¬event.Fills key entry

end Event

/-- Whether an entry is what was last made for a key since its removal. -/
def IsLatestFill (key : String) (history : List (Event ε α)) (entry : CacheEntry α) : Prop :=
  ∃ before event since, history = before ++ event :: since ∧ event.Fills key entry ∧
    ∀ later ∈ since, later.Spares key

theorem isLatestFill_concat (history : List (Event ε α)) (event : Event ε α)
    (entry : CacheEntry α) :
    IsLatestFill key (history ++ [event]) entry ↔
      event.Fills key entry ∨ event.Spares key ∧ IsLatestFill key history entry := by
  constructor
  · rintro ⟨before, filling, since, same, fills, spares⟩
    rcases List.eq_nil_or_concat since with rfl | ⟨others, last, rfl⟩
    · obtain ⟨_, isLast⟩ := List.append_inj' same rfl
      obtain rfl := List.singleton_inj.1 isLast
      exact Or.inl fills
    · rw [List.concat_eq_append] at same spares
      rw [← List.cons_append, ← List.append_assoc] at same
      obtain ⟨rfl, isLast⟩ := List.append_inj' same rfl
      obtain rfl := List.singleton_inj.1 isLast
      refine Or.inr ⟨spares _ (by simp), before, filling, others, rfl, fills, ?_⟩
      intro later isLater
      exact spares later (List.mem_append_left _ isLater)
  · rintro (fills | ⟨spared, before, filling, since, rfl, fills, spares⟩)
    · exact ⟨history, event, [], rfl, fills, by simp⟩
    · refine ⟨before, filling, since ++ [event], by simp, fills, ?_⟩
      intro later isLater
      rcases List.mem_append.1 isLater with earlier | isLast
      · exact spares later earlier
      · rw [List.mem_singleton.1 isLast]
        exact spared

namespace Operation

theorem record_of_fresh? {entry : CacheEntry α} (found : cache.fresh? key = some entry)
    (factory : Factory ε α) :
    (getOrCreate key factory).record cache =
      (⟨.getOrCreate key factory, .obtained (.ok entry.value) false, cache.clock, cache.clock⟩,
        cache) := by
  simp only [record, perform, getOrCreate_of_fresh? found]

theorem record_of_noFresh (absent : cache.fresh? key = none) (factory : Factory ε α) :
    (getOrCreate key factory).record cache =
      (⟨.getOrCreate key factory, .obtained factory.product true, cache.clock,
        cache.clock + factory.takes⟩, cache.made key factory) := by
  simp only [record, perform, getOrCreate_of_noFresh absent, (made_spec cache key factory).2]

theorem record_contains (cache : Cache α) (key : String) :
    (contains key : Operation ε α).record cache =
      (⟨.contains key, .held (cache.fresh? key).isSome, cache.clock, cache.clock⟩,
        (cache.probe key).2) := by
  simp only [record, perform, contains_fst]
  simp only [Cache.contains, clock_probe]

theorem lifetime_record (operation : Operation ε α) (cache : Cache α) :
    (operation.record cache).2.lifetime = cache.lifetime := by
  cases operation with
  | getOrCreate key factory =>
      cases found : cache.fresh? key with
      | some entry => rw [record_of_fresh? found]
      | none => rw [record_of_noFresh found, (made_spec cache key factory).1]
  | contains key => rw [record_contains, lifetime_probe]
  | remove key => rfl
  | wait time => rfl

theorem clock_le_record {operation : Operation ε α} (forward : operation.GoesForward)
    (cache : Cache α) : cache.clock ≤ (operation.record cache).2.clock := by
  cases operation with
  | getOrCreate key factory =>
      have takes : 0 ≤ factory.takes := forward
      cases found : cache.fresh? key with
      | some entry => simp [record_of_fresh? found]
      | none =>
          rw [record_of_noFresh found, (made_spec cache key factory).2]
          omega
  | contains key => simp [record_contains]
  | remove key => exact Int.le_refl _
  | wait time => exact Int.le_add_of_nonneg_right forward

/-- What is fresh behind an operation has been fresh before. -/
theorem isFresh_of_record {operation : Operation ε α} (forward : operation.GoesForward)
    {cache : Cache α} {entry : CacheEntry α}
    (fresh : (operation.record cache).2.isFresh entry = true) : cache.isFresh entry = true := by
  rw [isFresh_iff, lifetime_record] at fresh
  rw [isFresh_iff]
  intro limit limited
  have later := fresh limit limited
  have clock := clock_le_record forward cache
  omega

end Operation

namespace Event

/-- Each event fills a key, removes it or spares it. -/
theorem cases_on (event : Event ε α) (key : String) :
    (∃ entry, event.Fills key entry) ∨ event.operation = .remove key ∨ event.Spares key := by
  by_cases filled : ∃ entry, event.Fills key entry
  · exact Or.inl filled
  · by_cases removed : event.operation = .remove key
    · exact Or.inr (Or.inl removed)
    · exact Or.inr (Or.inr ⟨removed, not_exists.1 filled⟩)

theorem Fills.eq {event : Event ε α} {entry other : CacheEntry α} (fills : event.Fills key entry)
    (fillsOther : event.Fills key other) : entry = other := by
  obtain ⟨_, replied, finished⟩ := fills
  obtain ⟨_, repliedOther, finishedOther⟩ := fillsOther
  obtain ⟨filledAt, value⟩ := entry
  obtain ⟨otherFilledAt, otherValue⟩ := other
  simp_all

end Event

namespace Operation

variable {operation : Operation ε α}

/-- The entry that has been filled in is the fresh one, if it lasts. -/
theorem fresh?_of_fills {entry : CacheEntry α}
    (fills : (operation.record cache).1.Fills key entry) :
    (operation.record cache).2.fresh? key =
      (some entry).filter (operation.record cache).2.isFresh := by
  obtain ⟨⟨factory, performed⟩, replied, finished⟩ := fills
  obtain rfl : operation = .getOrCreate key factory := performed
  cases found : cache.fresh? key with
  | some present => simp [record_of_fresh? found] at replied
  | none =>
      rw [record_of_noFresh found] at replied finished ⊢
      obtain ⟨product, _⟩ := Reply.obtained.inj replied
      unfold made
      rw [product]
      dsimp only at finished ⊢
      rw [fresh?_fill, if_pos rfl]
      obtain ⟨filledAt, value⟩ := entry
      obtain rfl := finished
      rfl

theorem fresh?_of_removes (removes : (operation.record cache).1.operation = .remove key) :
    (operation.record cache).2.fresh? key = none := by
  obtain rfl : operation = .remove key := removes
  change (cache.remove key).fresh? key = none
  rw [fresh?_remove, if_pos rfl]

/-- An operation that spares a key leaves its fresh entry alone. -/
theorem fresh?_of_spares (forward : operation.GoesForward)
    (spares : (operation.record cache).1.Spares key) :
    (operation.record cache).2.fresh? key =
      (cache.fresh? key).filter (operation.record cache).2.isFresh := by
  cases operation with
  | getOrCreate other factory =>
      cases found : cache.fresh? other with
      | some entry =>
          rw [record_of_fresh? found]
          exact (filter_fresh? cache key).symm
      | none =>
          have unchanged := fresh?_probe cache other key
          rw [probe_of_noFresh found] at unchanged
          rw [record_of_noFresh found] at spares ⊢
          unfold made
          cases product : factory.product with
          | error failure =>
              dsimp only
              rw [fresh?_advance forward, unchanged]
          | ok value =>
              have differs : key ≠ other := by
                rintro rfl
                exact spares.2 ⟨cache.clock + factory.takes, value⟩
                  ⟨⟨factory, rfl⟩, by rw [product], rfl⟩
              dsimp only
              rw [fresh?_fill, if_neg differs, fresh?_advance forward, unchanged]
              rfl
  | remove other =>
      have differs : key ≠ other := by
        rintro rfl
        exact spares.1 rfl
      change (cache.remove other).fresh? key =
        (cache.fresh? key).filter (cache.remove other).isFresh
      rw [fresh?_remove, if_neg differs]
      exact (filter_fresh? cache key).symm
  | contains other =>
      rw [record_contains, ← fresh?_probe cache other key]
      exact (filter_fresh? _ key).symm
  | wait time => exact fresh?_advance forward cache key

end Operation

/-- Whether the fresh entry of every key is its latest fill. -/
def Recalls (cache : Cache α) (history : List (Event ε α)) : Prop :=
  ∀ key entry, cache.fresh? key = some entry ↔
    IsLatestFill key history entry ∧ cache.isFresh entry = true

theorem Recalls.record {history : List (Event ε α)} (recalls : cache.Recalls history)
    {operation : Operation ε α} (forward : operation.GoesForward) :
    (operation.record cache).2.Recalls (history ++ [(operation.record cache).1]) := by
  intro key entry
  rw [isLatestFill_concat]
  rcases (operation.record cache).1.cases_on key with ⟨filled, fills⟩ | removes | spares
  · rw [Operation.fresh?_of_fills fills, Option.filter_eq_some_iff, Option.some.injEq]
    have onlyFilled : (operation.record cache).1.Fills key entry ↔ filled = entry := by
      constructor
      · exact fills.eq
      · rintro rfl
        exact fills
    have notSpares : ¬(operation.record cache).1.Spares key := fun spares => spares.2 filled fills
    simp [onlyFilled, notSpares]
  · have notFills : ¬(operation.record cache).1.Fills key entry := by
      rintro ⟨⟨factory, performed⟩, _⟩
      simp [removes] at performed
    have notSpares : ¬(operation.record cache).1.Spares key := fun spares => spares.1 removes
    simp [Operation.fresh?_of_removes removes, notFills, notSpares]
  · rw [Operation.fresh?_of_spares forward spares, Option.filter_eq_some_iff, recalls key entry]
    constructor
    · rintro ⟨⟨latest, _⟩, fresh⟩
      exact ⟨Or.inr ⟨spares, latest⟩, fresh⟩
    · rintro ⟨fills | ⟨_, latest⟩, fresh⟩
      · exact absurd fills (spares.2 entry)
      · exact ⟨⟨latest, Operation.isFresh_of_record forward fresh⟩, fresh⟩

theorem Recalls.mapM_record {history : List (Event ε α)} (recalls : cache.Recalls history)
    {operations : List (Operation ε α)}
    (forward : ∀ operation ∈ operations, operation.GoesForward) :
    (operations.mapM Operation.record cache).2.Recalls
      (history ++ (operations.mapM Operation.record cache).1) := by
  induction operations generalizing cache history with
  | nil =>
      change cache.Recalls (history ++ [])
      rwa [List.append_nil]
  | cons first rest hypothesis =>
      obtain ⟨here, later⟩ := List.forall_mem_cons.1 forward
      have recallsRest := hypothesis (recalls.record here) later
      rw [Success.mapM_cons_apply]
      rwa [List.append_assoc, List.singleton_append] at recallsRest

theorem lifetime_mapM_record (operations : List (Operation ε α)) (cache : Cache α) :
    (operations.mapM Operation.record cache).2.lifetime = cache.lifetime := by
  induction operations generalizing cache with
  | nil => rfl
  | cons first rest hypothesis =>
      rw [Success.mapM_cons_apply, hypothesis, Operation.lifetime_record]

theorem recalls_empty (lifetime : Option Int) (clock : Int) :
    Recalls ({ lifetime, clock } : Cache α) ([] : List (Event ε α)) := by
  intro key entry
  simp [fresh?, Dictionary.get?, IsLatestFill]

/-- Whether an operation can take the place of an event unnoticed at a key: it is the same, or the
event has spared the key. -/
def Event.Permits (event : Event ε α) (key : String) (operation : Operation ε α) : Prop :=
  operation = event.operation ∧ operation.IsOn key ∨
    event.Spares key ∧ operation = .wait (event.finishedAt - event.startedAt)

/-- Whether two caches are the same for all that is done to a key. -/
structure AlikeAt (key : String) (cache other : Cache α) : Prop where
  lifetime : cache.lifetime = other.lifetime
  clock : cache.clock = other.clock
  fresh : cache.fresh? key = other.fresh? key

namespace AlikeAt

variable {other : Cache α} {operation : Operation ε α}

theorem event_eq (alike : AlikeAt key cache other) (isOn : operation.IsOn key) :
    (operation.record other).1 = (operation.record cache).1 := by
  cases operation with
  | getOrCreate asked factory =>
      obtain rfl : asked = key := isOn
      cases found : cache.fresh? asked with
      | some entry =>
          rw [Operation.record_of_fresh? found,
            Operation.record_of_fresh? (alike.fresh.symm.trans found), alike.clock]
      | none =>
          rw [Operation.record_of_noFresh found,
            Operation.record_of_noFresh (alike.fresh.symm.trans found), alike.clock]
  | remove asked =>
      change (⟨_, _, other.clock, other.clock⟩ : Event ε α) = ⟨_, _, cache.clock, cache.clock⟩
      rw [alike.clock]
  | contains asked =>
      obtain rfl : asked = key := isOn
      rw [Operation.record_contains, Operation.record_contains, alike.fresh, alike.clock]
  | wait time => exact absurd isOn id

/-- Caches in which the same has happened stay alike. -/
theorem record (alike : AlikeAt key cache other) (forward : operation.GoesForward)
    (same : (operation.record other).1 = (operation.record cache).1) :
    AlikeAt key (operation.record cache).2 (operation.record other).2 := by
  have lifetime : (operation.record cache).2.lifetime = (operation.record other).2.lifetime := by
    rw [Operation.lifetime_record, Operation.lifetime_record, alike.lifetime]
  have clock : (operation.record cache).2.clock = (operation.record other).2.clock :=
    congrArg Event.finishedAt same.symm
  have isFresh := isFresh_congr lifetime clock
  refine ⟨lifetime, clock, ?_⟩
  rcases (operation.record cache).1.cases_on key with ⟨entry, fills⟩ | removes | spares
  · rw [Operation.fresh?_of_fills fills, Operation.fresh?_of_fills (same.symm ▸ fills), isFresh]
  · rw [Operation.fresh?_of_removes removes, Operation.fresh?_of_removes (same.symm ▸ removes)]
  · rw [Operation.fresh?_of_spares forward spares,
      Operation.fresh?_of_spares forward (same.symm ▸ spares), isFresh, alike.fresh]

/-- Caches stay alike when one spares the key, and the other waits. -/
theorem wait (alike : AlikeAt key cache other) (forward : operation.GoesForward)
    (spares : (operation.record cache).1.Spares key) :
    AlikeAt key (operation.record cache).2
      (other.advance ((operation.record cache).2.clock - cache.clock)) := by
  have clock : (operation.record cache).2.clock =
      other.clock + ((operation.record cache).2.clock - cache.clock) := by
    rw [← alike.clock]
    omega
  have lifetime : (operation.record cache).2.lifetime = other.lifetime := by
    rw [Operation.lifetime_record, alike.lifetime]
  have passes : 0 ≤ (operation.record cache).2.clock - cache.clock :=
    Int.sub_nonneg_of_le (Operation.clock_le_record forward cache)
  have isFresh : (operation.record cache).2.isFresh =
      (other.advance ((operation.record cache).2.clock - cache.clock)).isFresh :=
    isFresh_congr lifetime clock
  refine ⟨lifetime, clock, ?_⟩
  rw [Operation.fresh?_of_spares forward spares, fresh?_advance passes, isFresh, alike.fresh]

/-- What is done to a key comes out the same if other events give way to waiting. -/
theorem mapM_record (alike : AlikeAt key cache other) {operations thinned : List (Operation ε α)}
    (forward : ∀ operation ∈ operations, operation.GoesForward)
    (permits : List.Forall₂ (fun event operation => event.Permits key operation)
      (operations.mapM Operation.record cache).1 thinned) :
    List.Forall₂ (fun event event' => event'.operation = event.operation → event' = event)
      (operations.mapM Operation.record cache).1 (thinned.mapM Operation.record other).1 := by
  induction operations generalizing cache other thinned with
  | nil =>
      obtain rfl := List.forall₂_nil_left_iff.1 permits
      exact .nil
  | cons first rest hypothesis =>
      obtain ⟨here, later⟩ := List.forall_mem_cons.1 forward
      rw [Success.mapM_cons_apply] at permits ⊢
      obtain ⟨replacement, others, permitted, othersPermitted, rfl⟩ :=
        List.forall₂_cons_left_iff.1 permits
      rw [Success.mapM_cons_apply]
      rcases permitted with ⟨rfl, isOn⟩ | ⟨spares, rfl⟩
      · have same := alike.event_eq isOn
        exact .cons (fun _ => same) (hypothesis (alike.record here same) later othersPermitted)
      · refine .cons ?_ (hypothesis (alike.wait here spares) later othersPermitted)
        intro waits
        cases first with
        | wait time =>
            have elapsed : cache.clock + time - cache.clock = time := by omega
            change (⟨.wait (cache.clock + time - cache.clock), _, other.clock,
              other.clock + (cache.clock + time - cache.clock)⟩ : Event ε α) =
                ⟨.wait time, _, cache.clock, cache.clock + time⟩
            rw [elapsed, alike.clock]
        | getOrCreate asked factory => exact nomatch waits
        | remove asked => exact nomatch waits
        | contains asked => exact nomatch waits

end AlikeAt

/-- Through any history, a read is answered by the latest fill of its key while that lasts, and by
its own factory otherwise. What spares a key may be left out of a history. -/
theorem history_serves_latest_fill (lifetime : Option Int) (clock : Int)
    (operations : List (Operation ε α))
    (forward : ∀ operation ∈ operations, operation.GoesForward) :
    let opened : Cache α := { lifetime, clock }
    let history := (operations.mapM Operation.record opened).1
    let cache := (operations.mapM Operation.record opened).2
    (∀ key (factory : Factory ε α),
      let read := cache.getOrCreate key factory
      (read.2.1 = false ↔ ∃ entry, IsLatestFill key history entry ∧
        entry.LastsUntil lifetime cache.clock) ∧
      (∀ entry, IsLatestFill key history entry → entry.LastsUntil lifetime cache.clock →
        read.1 = .ok entry.value) ∧
      (read.2.1 = true → read.1 = factory.product ∧
        ∀ failure, factory.product = .error failure →
          read.2.2.entries.contains key = false)) ∧
    (∀ key, (cache.contains key).1 = true ↔ ∃ entry, IsLatestFill key history entry ∧
      entry.LastsUntil lifetime cache.clock) ∧
    ∀ key thinned,
      List.Forall₂ (fun event operation => event.Permits key operation) history thinned →
        List.Forall₂ (fun event event' => event'.operation = event.operation → event' = event)
          history (thinned.mapM Operation.record opened).1 := by
  intro opened history cache
  have recalls : cache.Recalls history := (recalls_empty lifetime clock).mapM_record forward
  have lasts : ∀ entry, cache.isFresh entry = true ↔ entry.LastsUntil lifetime cache.clock := by
    intro entry
    rw [isFresh_iff, lifetime_mapM_record]
  have freshEntry : ∀ key entry, cache.fresh? key = some entry ↔
      IsLatestFill key history entry ∧ entry.LastsUntil lifetime cache.clock := by
    intro key entry
    rw [recalls key entry, lasts]
  refine ⟨?_, ?_, ?_⟩
  · intro key factory read
    simp only [← and_imp, ← freshEntry]
    exact cache.getOrCreate_spec key factory
  · intro key
    simp only [← freshEntry]
    rw [contains_fst, Option.isSome_iff_exists]
  · intro key thinned permits
    exact AlikeAt.mapM_record ⟨rfl, rfl, rfl⟩ forward permits

def searched : List (Operation Fault String) :=
  [.getOrCreate "users" ⟨2, .ok "Ada"⟩, .contains "posts",
    .getOrCreate "posts" ⟨3, .error .factoryFailed⟩, .remove "posts", .wait 6]

theorem goesForward_searched : ∀ operation ∈ searched, operation.GoesForward := by
  simp [searched, Operation.GoesForward]

/-- Nine seconds later users are served as they were read. -/
theorem searched_serves_users :
    (∀ operation ∈ searched, operation.GoesForward) ∧
      (let opened : Cache String := { lifetime := some 10 }
      let history := (searched.mapM Operation.record opened).1
      let cache := (searched.mapM Operation.record opened).2
      let read := cache.getOrCreate "users" (⟨1, .ok "Bob"⟩ : Factory Fault String)
      IsLatestFill "users" history ⟨2, "Ada"⟩ ∧
        (CacheEntry.mk 2 "Ada").LastsUntil (some 10) cache.clock ∧
        read.1 = .ok "Ada" ∧ read.2.1 = false ∧ (cache.contains "users").1 = true) := by
  refine ⟨goesForward_searched, ?_⟩
  intro opened history cache read
  obtain ⟨reads, members, _⟩ := history_serves_latest_fill (some 10) 0 searched goesForward_searched
  have latest : IsLatestFill "users" history ⟨2, "Ada"⟩ := by
    refine ⟨[], _, _, rfl, ⟨⟨_, rfl⟩, rfl, rfl⟩, ?_⟩
    simp [Event.Spares, Event.Fills]
  have lasts : (CacheEntry.mk 2 "Ada").LastsUntil (some 10) cache.clock := by
    intro limit limited
    obtain rfl := Option.some.inj limited
    decide
  obtain ⟨skips, serves, _⟩ := reads "users" ⟨1, .ok "Bob"⟩
  refine ⟨latest, lasts, serves _ latest lasts, skips.2 ⟨_, latest, lasts⟩,
    (members "users").2 ⟨_, latest, lasts⟩⟩

end Cache
end SchemaQuery
