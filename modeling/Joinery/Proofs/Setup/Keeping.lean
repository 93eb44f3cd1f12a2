import Joinery.Proofs.Outcome
import Joinery.Setup.Sharing
import Mathlib.Logic.Relation

/-!
What a process shares is kept until everything is closed, and the service is made of what is shared.

A request is a sequence of changes, each of which fills one empty place or changes a database. So whatever holds of
changes holds of requests, and of all runs of a process.
-/

namespace Joinery

/-- A request to a process. -/
inductive SharingRequest where
  /-- The registry is asked for. -/
  | registry (settings : Option Settings)
  /-- The provider is asked for. -/
  | provider (settings : Option Settings)
  /-- The service is asked for. -/
  | service
  /-- The process starts up. -/
  | startUp (settings : Option Settings)
  /-- Everything is given up. -/
  | close

/-- What a process shares after a request, whatever the answer is. -/
def Sharing.after (sharing : Sharing) (around : Surroundings) : SharingRequest → Sharing
  | .registry settings => (sharing.requireRegistry settings around).1
  | .provider settings => (sharing.requireProvider settings around).1
  | .service => (sharing.requireService around).1
  | .startUp settings => (sharing.startUp settings around).1
  | .close => sharing.close

/-- What a process shares after several requests, each with what is around at its time. -/
def Sharing.run (sharing : Sharing) (requests : List (SharingRequest × Surroundings)) : Sharing :=
  requests.foldl (fun sharing (request, around) => sharing.after around request) sharing

/-- One change of what a process shares: an empty place is filled under the next number, or a database changes. -/
inductive Sharing.Changes : Sharing → Sharing → Prop
  /-- A registry is made. -/
  | registry {sharing : Sharing} (registry : Registry) (missing : sharing.registry = none) :
    Changes sharing
      { sharing with registry := some ⟨sharing.next, registry⟩, next := sharing.next + 1 }
  /-- A provider is made. -/
  | provider {sharing : Sharing} (dialect : Dialect) (address : DatabaseAddress)
    (missing : sharing.provider = none) :
    Changes sharing
      { sharing with
        provider := some ⟨sharing.next, dialect, address⟩, next := sharing.next + 1, memory := .empty }
  /-- A service is made of the shared registry and the shared provider. -/
  | service {sharing : Sharing} {registry : SharedRegistry} {provider : SharedProvider}
    (found : sharing.registry = some registry) (chosen : sharing.provider = some provider)
    (missing : sharing.service = none) :
    Changes sharing
      { sharing with service := some ⟨sharing.next, registry, provider⟩, next := sharing.next + 1 }
  /-- A database has other contents. -/
  | database (sharing : Sharing) (database : Database) (address : DatabaseAddress) :
    Changes sharing (sharing.setDatabase database address)

/-- What a process may come to share without giving anything up. -/
abbrev Sharing.GrowsTo : Sharing → Sharing → Prop := Relation.ReflTransGen Sharing.Changes

variable {sharing before after later : Sharing} {settings : Option Settings} {around : Surroundings}

/-- A request for the registry finds it, or fails to make it, or makes it. -/
theorem Sharing.requireRegistry_cases (sharing : Sharing) (settings : Option Settings)
    (around : Surroundings) :
    (∃ shared, sharing.registry = some shared ∧
      sharing.requireRegistry settings around = (sharing, .ok shared)) ∨
    (sharing.registry = none ∧ ∃ fault, around.settings settings >>= (·.loadRegistry around) = .error fault ∧
      sharing.requireRegistry settings around = (sharing, .error fault)) ∨
    (sharing.registry = none ∧ ∃ registry, around.settings settings >>= (·.loadRegistry around) = .ok registry ∧
      sharing.requireRegistry settings around =
        ({ sharing with registry := some ⟨sharing.next, registry⟩, next := sharing.next + 1 },
          .ok ⟨sharing.next, registry⟩)) := by
  -- The place is looked at first, and filled only when the settings can be read and the document loads.
  rw [requireRegistry]
  cases sharing.registry with
  | some shared => exact .inl ⟨shared, rfl, rfl⟩
  | none =>
    cases around.settings settings >>= (·.loadRegistry around) with
    | error fault => exact .inr (.inl ⟨rfl, fault, rfl, rfl⟩)
    | ok registry => exact .inr (.inr ⟨rfl, registry, rfl, rfl⟩)

/-- A request for the provider finds it, or fails to make it, or makes it. -/
theorem Sharing.requireProvider_cases (sharing : Sharing) (settings : Option Settings)
    (around : Surroundings) :
    (∃ shared, sharing.provider = some shared ∧
      sharing.requireProvider settings around = (sharing, .ok shared)) ∨
    (sharing.provider = none ∧ ∃ fault, around.settings settings >>= (·.chooseDatabase) = .error fault ∧
      sharing.requireProvider settings around = (sharing, .error fault)) ∨
    (sharing.provider = none ∧ ∃ dialect address,
      around.settings settings >>= (·.chooseDatabase) = .ok (dialect, address) ∧
      sharing.requireProvider settings around =
        ({ sharing with
            provider := some ⟨sharing.next, dialect, address⟩, next := sharing.next + 1, memory := .empty },
          .ok ⟨sharing.next, dialect, address⟩)) := by
  -- The place is looked at first, as for the registry.
  rw [requireProvider]
  cases sharing.provider with
  | some shared => exact .inl ⟨shared, rfl, rfl⟩
  | none =>
    rcases around.settings settings >>= (·.chooseDatabase) with fault | ⟨dialect, address⟩
    · exact .inr (.inl ⟨rfl, fault, rfl, rfl⟩)
    · exact .inr (.inr ⟨rfl, dialect, address, rfl, rfl⟩)

/-- A registry that is given out is the shared one, and nothing else has changed. -/
theorem Sharing.requireRegistry_ok {shared : SharedRegistry}
    (given : sharing.requireRegistry settings around = (later, .ok shared)) :
    later.registry = some shared ∧ later.provider = sharing.provider ∧ later.service = sharing.service := by
  obtain ⟨_, found, same⟩ | ⟨_, _, _, same⟩ | ⟨_, _, _, same⟩ :=
    sharing.requireRegistry_cases settings around
  -- Only the first and the last case give anything out.
  all_goals cases same.symm.trans given
  · exact ⟨found, rfl, rfl⟩
  · exact ⟨rfl, rfl, rfl⟩

/-- A provider that is given out is the shared one, and nothing else has changed. -/
theorem Sharing.requireProvider_ok {shared : SharedProvider}
    (given : sharing.requireProvider settings around = (later, .ok shared)) :
    later.provider = some shared ∧ later.registry = sharing.registry ∧ later.service = sharing.service := by
  obtain ⟨_, found, same⟩ | ⟨_, _, _, same⟩ | ⟨_, _, _, _, same⟩ :=
    sharing.requireProvider_cases settings around
  -- The case of a fault is gone here as well.
  all_goals cases same.symm.trans given
  · exact ⟨found, rfl, rfl⟩
  · exact ⟨rfl, rfl, rfl⟩

/-- A request for the registry gives nothing up. -/
theorem Sharing.growsTo_requireRegistry (sharing : Sharing) (settings : Option Settings)
    (around : Surroundings) : sharing.GrowsTo (sharing.requireRegistry settings around).1 := by
  obtain ⟨_, _, same⟩ | ⟨_, _, _, same⟩ | ⟨missing, registry, _, same⟩ :=
    sharing.requireRegistry_cases settings around
  -- Two cases leave everything as it is, and the third fills an empty place.
  all_goals rw [same]
  exact .single (.registry registry missing)

/-- A request for the provider gives nothing up. -/
theorem Sharing.growsTo_requireProvider (sharing : Sharing) (settings : Option Settings)
    (around : Surroundings) : sharing.GrowsTo (sharing.requireProvider settings around).1 := by
  obtain ⟨_, _, same⟩ | ⟨_, _, _, same⟩ | ⟨missing, dialect, address, _, same⟩ :=
    sharing.requireProvider_cases settings around
  -- Only an empty place is filled.
  all_goals rw [same]
  exact .single (.provider dialect address missing)

/-- A request for the service finds it, or fails to make what it is made of, or makes it of what is shared. -/
theorem Sharing.requireService_cases (sharing : Sharing) (around : Surroundings) :
    (∃ shared, sharing.service = some shared ∧
      sharing.requireService around = (sharing, .ok shared)) ∨
    (sharing.service = none ∧ ∃ later fault, sharing.GrowsTo later ∧
      sharing.requireService around = (later, .error fault)) ∨
    (sharing.service = none ∧ ∃ later registry provider, sharing.GrowsTo later ∧
      later.registry = some registry ∧ later.provider = some provider ∧ later.service = none ∧
      sharing.requireService around =
        ({ later with service := some ⟨later.next, registry, provider⟩, next := later.next + 1 },
          .ok ⟨later.next, registry, provider⟩)) := by
  rw [requireService]
  cases present : sharing.service with
  | some shared => exact .inl ⟨shared, rfl, rfl⟩
  | none =>
    refine .inr ?_
    -- The registry is asked for first, and the provider of what is shared then.
    have first := sharing.growsTo_requireRegistry none around
    rcases read : sharing.requireRegistry none around with ⟨between, fault | registry⟩
    all_goals rw [read] at first
    · exact .inl ⟨rfl, between, fault, first, rfl⟩
    · obtain ⟨found, -, still⟩ := requireRegistry_ok read
      have second := between.growsTo_requireProvider none around
      rcases chosen : between.requireProvider none around with ⟨later, fault | provider⟩
      all_goals rw [chosen] at second
      · exact .inl ⟨rfl, later, fault, first.trans second, by dsimp only; rw [chosen]⟩
      · obtain ⟨chosen_, kept, still'⟩ := requireProvider_ok chosen
        exact .inr ⟨rfl, later, registry, provider, first.trans second, kept.trans found, chosen_,
          still'.trans (still.trans present), by dsimp only; rw [chosen]⟩

/-- A request for the service gives nothing up. -/
theorem Sharing.growsTo_requireService (sharing : Sharing) (around : Surroundings) :
    sharing.GrowsTo (sharing.requireService around).1 := by
  obtain ⟨_, _, same⟩ | ⟨_, later, _, grown, same⟩ | ⟨_, later, _, _, grown, found, chosen, missing, same⟩ :=
    sharing.requireService_cases around
  -- The cases before the service is made have grown already.
  all_goals rw [same]
  · exact grown
  · exact grown.tail (.service found chosen missing)

/-- Setting up a database leaves everything that is shared where it is. -/
theorem Sharing.growsTo_setUp (sharing : Sharing) (address : DatabaseAddress) (seeding : Bool)
    (around : Surroundings) : sharing.GrowsTo (sharing.setUp address seeding around).1 := by
  -- A database that is out of reach is not set up.
  rw [setUp]
  split
  · exact .refl
  · split
    · exact .refl
    · exact .single (.database sharing _ address)

/-- A start is prepared in three steps, and ends with the first one that fails. -/
theorem Sharing.prepare_cases (sharing : Sharing) (settings : Settings) (around : Surroundings) :
    (∃ later fault, sharing.requireRegistry (some settings) around = (later, .error fault) ∧
      sharing.prepare settings around = (later, .error fault)) ∨
    ∃ between registry, sharing.requireRegistry (some settings) around = (between, .ok registry) ∧
      ((∃ later fault, between.requireProvider (some settings) around = (later, .error fault) ∧
        sharing.prepare settings around = (later, .error fault)) ∨
      ∃ later provider, between.requireProvider (some settings) around = (later, .ok provider) ∧
        sharing.prepare settings around = later.setUp provider.address settings.seeding around) := by
  rw [prepare]
  -- The registry comes before the provider, and the provider before the database.
  rcases sharing.requireRegistry (some settings) around with ⟨between, fault | registry⟩
  · exact .inl ⟨between, fault, rfl, rfl⟩
  · refine .inr ⟨between, registry, rfl, ?_⟩
    dsimp only
    rcases between.requireProvider (some settings) around with ⟨later, fault | provider⟩
    · exact .inl ⟨later, fault, rfl, rfl⟩
    · exact .inr ⟨later, provider, rfl, rfl⟩

/-- Preparing the start gives nothing up. -/
theorem Sharing.growsTo_prepare (sharing : Sharing) (settings : Settings) (around : Surroundings) :
    sharing.GrowsTo (sharing.prepare settings around).1 := by
  -- Each of the steps gives nothing up, as far as they come.
  have first := sharing.growsTo_requireRegistry (some settings) around
  obtain ⟨later, fault, read, same⟩ | ⟨between, registry, read, rest⟩ :=
    sharing.prepare_cases settings around
  all_goals rw [read] at first
  · rw [same]
    exact first
  · have second := between.growsTo_requireProvider (some settings) around
    obtain ⟨later, fault, chosen, same⟩ | ⟨later, provider, chosen, same⟩ := rest
    all_goals rw [chosen] at second; rw [same]
    · exact first.trans second
    · exact (first.trans second).trans (later.growsTo_setUp _ _ _)

/-- A start reads its settings, is prepared, and makes the service, unless one of these fails. -/
theorem Sharing.startUp_cases (sharing : Sharing) (settings : Option Settings) (around : Surroundings) :
    (∃ fault, around.settings settings = .error fault ∧
      sharing.startUp settings around = (sharing, .error fault)) ∨
    ∃ given, around.settings settings = .ok given ∧
      ((∃ later fault, sharing.prepare given around = (later, .error fault) ∧
        sharing.startUp settings around = (later, .error fault)) ∨
      ∃ later, sharing.prepare given around = (later, .ok ()) ∧
        sharing.startUp settings around = later.requireService around) := by
  rw [startUp]
  -- The settings are read before anything is shared.
  cases around.settings settings with
  | error fault => exact .inl ⟨fault, rfl, rfl⟩
  | ok given =>
    refine .inr ⟨given, rfl, ?_⟩
    dsimp only
    rcases sharing.prepare given around with ⟨later, fault | _⟩
    · exact .inl ⟨later, fault, rfl, rfl⟩
    · exact .inr ⟨later, rfl, rfl⟩

/-- Starting up gives nothing up. -/
theorem Sharing.growsTo_startUp (sharing : Sharing) (settings : Option Settings)
    (around : Surroundings) : sharing.GrowsTo (sharing.startUp settings around).1 := by
  obtain ⟨fault, -, same⟩ | ⟨given, -, rest⟩ := sharing.startUp_cases settings around
  · rw [same]
  -- Preparing gives nothing up, and neither does the request for the service.
  · have first := sharing.growsTo_prepare given around
    obtain ⟨later, fault, prepared, same⟩ | ⟨later, prepared, same⟩ := rest
    all_goals rw [prepared] at first; rw [same]
    · exact first
    · exact first.trans (later.growsTo_requireService around)

/-- Only closing gives something up. -/
theorem Sharing.growsTo_after {request : SharingRequest} (sharing : Sharing) (around : Surroundings)
    (open_ : request ≠ .close) : sharing.GrowsTo (sharing.after around request) := by
  -- Each request but closing is one of those above.
  cases request with
  | registry settings => exact sharing.growsTo_requireRegistry settings around
  | provider settings => exact sharing.growsTo_requireProvider settings around
  | service => exact sharing.growsTo_requireService around
  | startUp settings => exact sharing.growsTo_startUp settings around
  | close => contradiction

/-- Nothing is given up by any requests but closing. -/
theorem Sharing.growsTo_run {requests : List (SharingRequest × Surroundings)} (sharing : Sharing)
    (open_ : ∀ request ∈ requests, request.1 ≠ .close) : sharing.GrowsTo (sharing.run requests) := by
  -- The induction is on the requests, from the first one on.
  induction requests generalizing sharing with
  | nil => exact .refl
  | cons request rest ih =>
    obtain ⟨first, others⟩ := List.forall_mem_cons.mp open_
    exact (sharing.growsTo_after request.2 first).trans (ih (sharing.after request.2 request.1) others)

/-- What is shared at one time is still shared at a later one. -/
structure Sharing.Keeps (before after : Sharing) : Prop where
  /-- The registry is. -/
  registry : ∀ shared, before.registry = some shared → after.registry = some shared
  /-- The provider is. -/
  provider : ∀ shared, before.provider = some shared → after.provider = some shared
  /-- The service is. -/
  service : ∀ shared, before.service = some shared → after.service = some shared

/-- Changes keep what is shared: they fill empty places only. -/
theorem Sharing.GrowsTo.keeps (grown : before.GrowsTo after) : before.Keeps after := by
  induction grown with
  | refl => exact ⟨fun _ => id, fun _ => id, fun _ => id⟩
  | tail _ changed ih =>
    obtain ⟨registry, provider, service⟩ := ih
    cases changed with
    | registry _ missing =>
      -- A place that is filled now was empty, so nothing that was shared stood there.
      refine ⟨fun shared found => ?_, provider, service⟩
      rw [registry shared found] at missing
      contradiction
    | provider _ _ missing =>
      refine ⟨registry, fun shared found => ?_, service⟩
      rw [provider shared found] at missing
      contradiction
    | service _ _ missing =>
      refine ⟨registry, provider, fun shared found => ?_⟩
      rw [service shared found] at missing
      contradiction
    | database _ address => cases address <;> exact ⟨registry, provider, service⟩

/-- What stands in a place stood there before, or has one of the numbers that were given since. -/
def Follows {α : Type} (number : α → Nat) (first next : Nat) (former present : Option α) : Prop :=
  ∀ shared, present = some shared → former = some shared ∨ first ≤ number shared ∧ number shared < next

variable {α : Type} {number : α → Nat} {first next last : Nat} {former between present : Option α}

/-- What stood in a place stands there while nothing happens. -/
theorem Follows.refl : Follows number first next former former :=
  fun _ => .inl

/-- An empty place follows any other. -/
theorem Follows.none : Follows number first next former none :=
  nofun

/-- What gets the next number is new. -/
theorem Follows.made {shared : α} (given : number shared = first) :
    Follows number first (first + 1) former (some shared) := by
  rintro _ ⟨⟩
  -- Its number lies between the two.
  exact .inr (by omega)

/-- What follows something that follows the first follows the first. -/
theorem Follows.trans (earlier : Follows number first next former between)
    (later : Follows number next last between present) (up : first ≤ next) (up' : next ≤ last) :
    Follows number first last former present := by
  -- It stood in the middle, or it is new there; in the middle it stood before, or was new.
  intro shared found
  obtain stood | new := later shared found
  · exact (earlier shared stood).imp id fun _ => by omega
  · exact .inr (by omega)

/-- Numbers go up, and what was not shared before has one of the new numbers. -/
structure Sharing.Succeeds (before after : Sharing) : Prop where
  /-- Numbers go up. -/
  next : before.next ≤ after.next
  /-- The registry was there or is new. -/
  registry : Follows (·.number) before.next after.next before.registry after.registry
  /-- The provider was there or is new. -/
  provider : Follows (·.number) before.next after.next before.provider after.provider
  /-- The service was there or is new. -/
  service : Follows (·.number) before.next after.next before.service after.service

/-- A change succeeds what was before. -/
theorem Sharing.Changes.succeeds (changed : before.Changes after) : before.Succeeds after := by
  -- Every change fills one place with the next number, or has to do with a database only.
  cases changed with
  | registry => exact ⟨Nat.le_succ _, .made rfl, .refl, .refl⟩
  | provider => exact ⟨Nat.le_succ _, .refl, .made rfl, .refl⟩
  | service => exact ⟨Nat.le_succ _, .refl, .refl, .made rfl⟩
  | database _ address => cases address <;> exact ⟨Nat.le_refl _, .refl, .refl, .refl⟩

/-- What succeeds a successor succeeds the first. -/
theorem Sharing.Succeeds.trans (first : before.Succeeds later) (second : later.Succeeds after) :
    before.Succeeds after :=
  ⟨Nat.le_trans first.next second.next, first.registry.trans second.registry first.next second.next,
    first.provider.trans second.provider first.next second.next,
    first.service.trans second.service first.next second.next⟩

/-- Changes succeed what was before. -/
theorem Sharing.GrowsTo.succeeds (grown : before.GrowsTo after) : before.Succeeds after := by
  -- The induction is on the changes, the last one apart.
  induction grown with
  | refl => exact ⟨Nat.le_refl _, .refl, .refl, .refl⟩
  | tail _ changed ih => exact ih.trans changed.succeeds

/-- Any requests succeed what was before. -/
theorem Sharing.succeeds_run (sharing : Sharing) (requests : List (SharingRequest × Surroundings)) :
    sharing.Succeeds (sharing.run requests) := by
  induction requests generalizing sharing with
  | nil => exact GrowsTo.succeeds .refl
  | cons request rest ih =>
    have first : sharing.Succeeds (sharing.after request.2 request.1) := by
      by_cases closing : request.1 = .close
      · -- Closing empties all places, and numbers stay where they are.
        rw [closing]
        exact ⟨Nat.le_refl _, .none, .none, .none⟩
      · exact (sharing.growsTo_after request.2 closing).succeeds
    exact first.trans (ih (sharing.after request.2 request.1))

/-- What a process shares fits together, and numbers that are not given yet are larger than all that are. -/
structure Sharing.Sound (sharing : Sharing) : Prop where
  /-- The service is made of the registry and the provider that are shared. -/
  built : ∀ service, sharing.service = some service →
    sharing.registry = some service.registry ∧ sharing.provider = some service.provider
  /-- The number of the registry has been given. -/
  registry : ∀ shared, sharing.registry = some shared → shared.number < sharing.next
  /-- The number of the provider has been given. -/
  provider : ∀ shared, sharing.provider = some shared → shared.number < sharing.next
  /-- The number of the service has been given. -/
  service : ∀ shared, sharing.service = some shared → shared.number < sharing.next

/-- A process that has given everything up is sound. -/
theorem Sharing.sound_of_closed (sharing : Sharing) : sharing.close.Sound :=
  ⟨nofun, nofun, nofun, nofun⟩

/-- A process that shares nothing yet is sound. -/
theorem Sharing.sound_start (files : Entries Database) : (Sharing.start files).Sound :=
  ⟨nofun, nofun, nofun, nofun⟩

/-- The service of a changed process is made of what it shares. -/
theorem Sharing.Changes.built (changed : before.Changes after)
    (built : ∀ service, before.service = some service →
      before.registry = some service.registry ∧ before.provider = some service.provider)
    (service : SharedService) (found : after.service = some service) :
    after.registry = some service.registry ∧ after.provider = some service.provider := by
  have kept := GrowsTo.keeps (.single changed)
  -- Any service but a new one was made of a registry and a provider that are kept.
  have old (stood : before.service = some service) :
      after.registry = some service.registry ∧ after.provider = some service.provider :=
    ⟨kept.registry _ (built service stood).1, kept.provider _ (built service stood).2⟩
  cases changed with
  | registry => exact old found
  | provider => exact old found
  | service registry provider =>
    cases found
    exact ⟨registry, provider⟩
  | database _ address => cases address <;> exact old found

/-- What is given follows numbers that have been given. -/
theorem Follows.given (follows : Follows number first next former present) (up : first ≤ next)
    (given : ∀ shared, former = some shared → number shared < first) (shared : α)
    (found : present = some shared) : number shared < next := by
  -- What stood before had been given, and what is new has its number below the next.
  obtain stood | new := follows shared found
  · exact Nat.lt_of_lt_of_le (given shared stood) up
  · exact new.2

/-- What is shared stays sound when it changes. -/
theorem Sharing.Sound.changes (sound : before.Sound) (changed : before.Changes after) : after.Sound :=
  have succeeds := changed.succeeds
  ⟨changed.built sound.built, succeeds.registry.given succeeds.next sound.registry,
    succeeds.provider.given succeeds.next sound.provider,
    succeeds.service.given succeeds.next sound.service⟩

/-- What is shared stays sound while nothing is given up. -/
theorem Sharing.Sound.growsTo (sound : before.Sound) (grown : before.GrowsTo after) : after.Sound := by
  -- Every change keeps it sound.
  induction grown with
  | refl => exact sound
  | tail _ changed ih => exact ih.changes changed

/-- What is shared stays sound whatever is requested. -/
theorem Sharing.Sound.run (sound : sharing.Sound) (requests : List (SharingRequest × Surroundings)) :
    (sharing.run requests).Sound := by
  induction requests generalizing sharing with
  | nil => exact sound
  | cons request rest ih =>
    have first : (sharing.after request.2 request.1).Sound := by
      by_cases closing : request.1 = .close
      · -- Nothing is shared then, and there is nothing to fit together.
        rw [closing]
        exact sharing.sound_of_closed
      · exact sound.growsTo (sharing.growsTo_after request.2 closing)
    exact ih first

/-- A service that is given out is the shared one. -/
theorem Sharing.requireService_ok {shared : SharedService}
    (given : sharing.requireService around = (later, .ok shared)) : later.service = some shared := by
  obtain ⟨_, found, same⟩ | ⟨_, _, _, _, same⟩ | ⟨_, _, _, _, _, _, _, _, same⟩ :=
    sharing.requireService_cases around
  -- The case of a fault is gone.
  all_goals cases same.symm.trans given
  · exact found
  · rfl

/-- A start gives out the shared service. -/
theorem Sharing.startUp_ok {shared : SharedService}
    (given : sharing.startUp settings around = (later, .ok shared)) : later.service = some shared := by
  obtain ⟨_, _, same⟩ | ⟨_, _, ⟨_, _, _, same⟩ | ⟨_, _, same⟩⟩ := sharing.startUp_cases settings around
  -- A start ends with the request for the service.
  all_goals rw [same] at given
  · cases given
  · cases given
  · exact requireService_ok given

/-- The shared registry is given out. -/
theorem Sharing.requireRegistry_of_shared {shared : SharedRegistry}
    (found : sharing.registry = some shared) (settings : Option Settings) (around : Surroundings) :
    sharing.requireRegistry settings around = (sharing, .ok shared) := by
  -- The place is filled.
  rw [requireRegistry, found]

/-- The shared provider is given out. -/
theorem Sharing.requireProvider_of_shared {shared : SharedProvider}
    (found : sharing.provider = some shared) (settings : Option Settings) (around : Surroundings) :
    sharing.requireProvider settings around = (sharing, .ok shared) := by
  -- It is looked at before the settings.
  rw [requireProvider, found]

/-- The shared service is given out. -/
theorem Sharing.requireService_of_shared {shared : SharedService}
    (found : sharing.service = some shared) (around : Surroundings) :
    sharing.requireService around = (sharing, .ok shared) := by
  -- Neither the registry nor the provider is asked for.
  rw [requireService, found]

/--
What a process shares is kept until everything is closed.

After any requests, failed ones included, a service that exists was made of the very registry and provider that are
shared. What has been given out once is given out by every later request, with any settings, until everything is
closed; what is made after that has another number.
-/
theorem Sharing.shared_until_closed (files : Entries Database)
    (requests : List (SharingRequest × Surroundings)) :
    let sharing := (Sharing.start files).run requests
    (∀ service, sharing.service = some service →
      sharing.registry = some service.registry ∧ sharing.provider = some service.provider) ∧
    (∀ settings around later shared, sharing.requireRegistry settings around = (later, .ok shared) →
      ∀ more, (∀ request ∈ more, request.1 ≠ .close) → ∀ settings around,
        (later.run more).requireRegistry settings around = (later.run more, .ok shared)) ∧
    (∀ settings around later shared, sharing.requireProvider settings around = (later, .ok shared) →
      ∀ more, (∀ request ∈ more, request.1 ≠ .close) → ∀ settings around,
        (later.run more).requireProvider settings around = (later.run more, .ok shared)) ∧
    (∀ settings around later shared, sharing.requireService around = (later, .ok shared) ∨
        sharing.startUp settings around = (later, .ok shared) →
      ∀ more, (∀ request ∈ more, request.1 ≠ .close) →
        (∀ around, (later.run more).requireService around = (later.run more, .ok shared)) ∧
        ∀ settings around last again, (later.run more).startUp settings around = (last, .ok again) →
          again = shared) ∧
    ∀ more,
      (∀ former shared, sharing.registry = some former → (sharing.close.run more).registry = some shared →
        former.number < shared.number) ∧
      (∀ former shared, sharing.provider = some former → (sharing.close.run more).provider = some shared →
        former.number < shared.number) ∧
      ∀ former shared, sharing.service = some former → (sharing.close.run more).service = some shared →
        former.number < shared.number := by
  intro sharing
  have sound : sharing.Sound := (sound_start files).run requests
  refine ⟨sound.built, ?_, ?_, ?_, fun more => ?_⟩
  · intro settings around later shared given more open_ settings' around'
    have kept := (later.growsTo_run open_).keeps
    exact requireRegistry_of_shared (kept.registry _ (requireRegistry_ok given).1) settings' around'
  · intro settings around later shared given more open_ settings' around'
    have kept := (later.growsTo_run open_).keeps
    exact requireProvider_of_shared (kept.provider _ (requireProvider_ok given).1) settings' around'
  · intro settings around later shared given more open_
    have kept := (later.growsTo_run open_).keeps
    have found := kept.service _ (given.elim requireService_ok startUp_ok)
    refine ⟨requireService_of_shared found, fun settings' around' last again started => ?_⟩
    -- A start that succeeds gives out the shared service, and that is still the one found before.
    have still := ((later.run more).growsTo_startUp settings' around').keeps.service _ found
    rw [started] at still
    exact Option.some.inj ((startUp_ok started).symm.trans still)
  · -- Nothing is shared when everything has been closed, so what is found later has been made since.
    have renewed := sharing.close.succeeds_run more
    refine ⟨fun former shared stood found => ?_, fun former shared stood found => ?_,
      fun former shared stood found => ?_⟩
    · obtain none | ⟨new, -⟩ := renewed.registry shared found
      · contradiction
      · exact Nat.lt_of_lt_of_le (sound.registry former stood) new
    · obtain none | ⟨new, -⟩ := renewed.provider shared found
      · contradiction
      · exact Nat.lt_of_lt_of_le (sound.provider former stood) new
    · obtain none | ⟨new, -⟩ := renewed.service shared found
      · contradiction
      · exact Nat.lt_of_lt_of_le (sound.service former stood) new

/-- Settings with the built-in schema and a database in memory. -/
def plainSettings : Settings := ⟨"sqlite", "sqlite://", none, false, "INFO"⟩

/-- The database in memory is chosen. -/
theorem plainSettings_chosen : plainSettings.chooseDatabase = .ok (.sqlite, .memory) :=
  eq_ok_of_toOption (by decide +kernel)

/-- A place with no variables, no documents and no servers. -/
def bareSurroundings : Surroundings := ⟨[], [], ⟨⟨⟨⟨2025, 6, 1⟩, rfl⟩, .midnight⟩, .smallest⟩, []⟩

/-- The service with the built-in schema and a database in memory, made first of all. -/
def plainService : SharedService := ⟨2, ⟨0, customerRegistry⟩, ⟨1, .sqlite, .memory⟩⟩

/-- A start gives out the plain service. -/
theorem Sharing.plainService_started :
    ((Sharing.start []).startUp (some plainSettings) bareSurroundings).2 = .ok plainService := by
  -- Both the registry and the provider can be made of the settings.
  have read : bareSurroundings.settings (some plainSettings) >>= (·.loadRegistry bareSurroundings) =
      .ok customerRegistry := rfl
  have chosen : bareSurroundings.settings (some plainSettings) >>= (·.chooseDatabase) =
      .ok (.sqlite, .memory) := plainSettings_chosen
  rw [startUp, Surroundings.settings]
  dsimp only
  rw [prepare, requireRegistry, read]
  dsimp only [Sharing.start]
  rw [requireProvider, chosen]
  rfl

/-- The plain service is made of what is shared, and is given out again. -/
theorem Sharing.plainService_kept :
    ∃ later, (Sharing.start []).startUp (some plainSettings) bareSurroundings = (later, .ok plainService) ∧
      later.registry = some plainService.registry ∧ later.provider = some plainService.provider ∧
      later.requireService bareSurroundings = (later, .ok plainService) := by
  -- The start is taken as one request among others.
  have started : (Sharing.start []).startUp (some plainSettings) bareSurroundings =
      (((Sharing.start []).startUp (some plainSettings) bareSurroundings).1, .ok plainService) :=
    Prod.ext rfl plainService_started
  obtain ⟨built, -⟩ :=
    shared_until_closed [] [(.startUp (some plainSettings), bareSurroundings)]
  obtain ⟨-, -, -, kept, -⟩ := shared_until_closed [] []
  obtain ⟨registry, provider⟩ := built plainService (startUp_ok started)
  exact ⟨_, started, registry, provider,
    (kept (some plainSettings) bareSurroundings _ _ (.inr started) [] (List.forall_mem_nil _)).1 bareSurroundings⟩

end Joinery
