import Joinery.Proofs.Outcome
import Joinery.Proofs.Service.Running
import Joinery.Proofs.Setup.Keeping

/-!
What a start leaves behind when it fails, and what it gives out when it succeeds.

A start fills the places that are empty, one after the other, and never empties one. When it fails, what it has made
before stays; a later start begins with that.
-/

namespace Joinery

variable {sharing before after later : Sharing} {settings : Option Settings} {given : Settings}
  {around : Surroundings} {registry : Registry} {dialect : Dialect} {address : DatabaseAddress}
  {service : SharedService}

/-- The registry that settings lead to, when it can be read. -/
def Surroundings.loaded? (around : Surroundings) (settings : Option Settings) : Option Registry :=
  (around.settings settings >>= (·.loadRegistry around)).toOption

/-- The dialect and the address that settings lead to, when they can be read. -/
def Surroundings.chosen? (around : Surroundings) (settings : Option Settings) :
    Option (Dialect × DatabaseAddress) :=
  (around.settings settings >>= (·.chooseDatabase)).toOption

/-- A registry is made in an empty place alone. -/
theorem Sharing.registry_requireRegistry (sharing : Sharing) (settings : Option Settings)
    (around : Surroundings) : (sharing.requireRegistry settings around).1.registry =
      sharing.registry.or ((around.loaded? settings).map (⟨sharing.next, ·⟩)) := by
  obtain ⟨shared, found, same⟩ | ⟨missing, fault, failed, same⟩ | ⟨missing, registry, read, same⟩ :=
    sharing.requireRegistry_cases settings around
  -- What is there stays.
  · rw [same, found, Option.some_or]
  · rw [same, missing, Surroundings.loaded?, failed]
    rfl
  · rw [same, missing, Surroundings.loaded?, read]
    rfl

/-- A provider is made in an empty place alone. -/
theorem Sharing.provider_requireProvider (sharing : Sharing) (settings : Option Settings)
    (around : Surroundings) : (sharing.requireProvider settings around).1.provider =
      sharing.provider.or ((around.chosen? settings).map fun (dialect, address) =>
        ⟨sharing.next, dialect, address⟩) := by
  obtain ⟨shared, found, same⟩ | ⟨missing, fault, failed, same⟩ | ⟨missing, dialect, address, read, same⟩ :=
    sharing.requireProvider_cases settings around
  -- The three cases are those of the registry.
  · rw [same, found, Option.some_or]
  · rw [same, missing, Surroundings.chosen?, failed]
    rfl
  · rw [same, missing, Surroundings.chosen?, read]
    rfl

/-- A request for the registry concerns neither the provider nor the service. -/
theorem Sharing.others_requireRegistry (sharing : Sharing) (settings : Option Settings)
    (around : Surroundings) :
    (sharing.requireRegistry settings around).1.provider = sharing.provider ∧
      (sharing.requireRegistry settings around).1.service = sharing.service := by
  -- Every case changes the place of the registry at most.
  obtain ⟨_, _, same⟩ | ⟨_, _, _, same⟩ | ⟨_, _, _, same⟩ := sharing.requireRegistry_cases settings around
  all_goals rw [same]; exact ⟨rfl, rfl⟩

/-- A request for the provider concerns neither the registry nor the service. -/
theorem Sharing.others_requireProvider (sharing : Sharing) (settings : Option Settings)
    (around : Surroundings) :
    (sharing.requireProvider settings around).1.registry = sharing.registry ∧
      (sharing.requireProvider settings around).1.service = sharing.service := by
  obtain ⟨_, _, same⟩ | ⟨_, _, _, same⟩ | ⟨_, _, _, _, same⟩ :=
    sharing.requireProvider_cases settings around
  -- Every case changes the place of the provider at most.
  all_goals rw [same]; exact ⟨rfl, rfl⟩

/-- Without a registry that can be read, a request for it changes nothing. -/
theorem Sharing.requireRegistry_error {fault : SharingFault}
    (failed : sharing.requireRegistry settings around = (later, .error fault)) :
    later = sharing ∧ sharing.registry = none := by
  obtain ⟨_, _, same⟩ | ⟨missing, _, _, same⟩ | ⟨_, _, _, same⟩ :=
    sharing.requireRegistry_cases settings around
  -- Only the case of a fault is left.
  all_goals cases same.symm.trans failed
  exact ⟨rfl, missing⟩

/-- Setting up a database concerns nothing that is shared. -/
theorem Sharing.shared_setUp (sharing : Sharing) (address : DatabaseAddress) (seeding : Bool)
    (around : Surroundings) :
    (sharing.setUp address seeding around).1.registry = sharing.registry ∧
      (sharing.setUp address seeding around).1.provider = sharing.provider ∧
      (sharing.setUp address seeding around).1.service = sharing.service := by
  -- The tables are entered into the database only.
  rw [setUp]
  split
  · exact ⟨rfl, rfl, rfl⟩
  · split
    · exact ⟨rfl, rfl, rfl⟩
    · cases address <;> exact ⟨rfl, rfl, rfl⟩

/--
What is shared after a start has been prepared, whether that succeeds or not.

The registry is looked for first, and the provider only where there is a registry.
-/
theorem Sharing.shared_prepare (sharing : Sharing) (settings : Settings) (around : Surroundings) :
    (sharing.prepare settings around).1.service = sharing.service ∧
    (sharing.prepare settings around).1.registry =
      sharing.registry.or ((around.loaded? (some settings)).map (⟨sharing.next, ·⟩)) ∧
    ∃ number, sharing.next ≤ number ∧
      (sharing.prepare settings around).1.provider = sharing.provider.or
        (if (sharing.prepare settings around).1.registry.isSome then
          (around.chosen? (some settings)).map fun (dialect, address) => ⟨number, dialect, address⟩
        else none) := by
  have read := sharing.registry_requireRegistry (some settings) around
  have others := sharing.others_requireRegistry (some settings) around
  have up := (sharing.growsTo_requireRegistry (some settings) around).succeeds.next
  obtain ⟨between, fault, first, same⟩ | ⟨between, shared, first, rest⟩ :=
    sharing.prepare_cases settings around
  all_goals rw [first] at read others up
  · -- Without a registry nothing has changed.
    obtain ⟨rfl, missing⟩ := requireRegistry_error first
    rw [same]
    refine ⟨rfl, read, between.next, Nat.le_refl _, ?_⟩
    rw [missing, Option.isSome_none, if_neg Bool.false_ne_true, Option.or_none]
  · obtain ⟨found, -, -⟩ := requireRegistry_ok first
    have chosen := between.provider_requireProvider (some settings) around
    have others' := between.others_requireProvider (some settings) around
    rw [others.1] at chosen
    -- Setting up the database comes last, and concerns nothing that is shared.
    have ended : (sharing.prepare settings around).1.registry = between.registry ∧
        (sharing.prepare settings around).1.provider =
          (between.requireProvider (some settings) around).1.provider ∧
        (sharing.prepare settings around).1.service = between.service := by
      obtain ⟨after, fault, second, same⟩ | ⟨after, provider, second, same⟩ := rest
      all_goals rw [second] at others' ⊢; rw [same]
      · exact ⟨others'.1, rfl, others'.2⟩
      · obtain ⟨registry, kept, service⟩ := after.shared_setUp provider.address settings.seeding around
        exact ⟨registry.trans others'.1, kept, service.trans others'.2⟩
    obtain ⟨registry, provider, service⟩ := ended
    refine ⟨service.trans others.2, registry.trans read, between.next, up, ?_⟩
    rw [registry, found, Option.isSome_some, if_pos rfl, provider, chosen]

/-- A registry and a provider are shared when a start has been prepared. -/
theorem Sharing.parts_of_prepared (prepared : sharing.prepare given around = (later, .ok ())) :
    ∃ registry provider, later.registry = some registry ∧ later.provider = some provider := by
  -- The first two steps have succeeded, and the last one leaves both where they are.
  obtain ⟨_, _, _, same⟩ | ⟨between, registry, first, rest⟩ := sharing.prepare_cases given around
  · cases same.symm.trans prepared
  · obtain ⟨_, _, _, same⟩ | ⟨after, provider, second, same⟩ := rest
    · cases same.symm.trans prepared
    · obtain ⟨chosen, kept, -⟩ := requireProvider_ok second
      have ended := after.shared_setUp provider.address given.seeding around
      rw [← same, prepared] at ended
      exact ⟨registry, provider, ended.1.trans (kept.trans (requireRegistry_ok first).1),
        ended.2.1.trans chosen⟩

/-- The service can be made of a registry and a provider that are shared. -/
theorem Sharing.exists_requireService {found : SharedRegistry} {chosen : SharedProvider}
    (read : sharing.registry = some found) (reached : sharing.provider = some chosen)
    (around : Surroundings) :
    ∃ later service, sharing.requireService around = (later, .ok service) := by
  -- A service is given out, or made of the two.
  rw [requireService]
  cases sharing.service with
  | some shared => exact ⟨sharing, shared, rfl⟩
  | none =>
    rw [requireRegistry_of_shared read]
    dsimp only
    rw [requireProvider_of_shared reached]
    exact ⟨_, _, rfl⟩

/-- A start that has been prepared succeeds. -/
theorem Sharing.exists_startUp (read : around.settings settings = .ok given)
    (prepared : (sharing.prepare given around).2 = .ok ()) :
    ∃ later service, sharing.startUp settings around = (later, .ok service) := by
  -- The settings are read, and nothing fails while the start is prepared.
  obtain ⟨_, unread, -⟩ | ⟨_, same, rest⟩ := sharing.startUp_cases settings around
  · rw [read] at unread
    contradiction
  · cases read.symm.trans same
    obtain ⟨_, _, failed, -⟩ | ⟨between, ready, same⟩ := rest
    · rw [failed] at prepared
      contradiction
    · obtain ⟨_, _, found, chosen⟩ := parts_of_prepared ready
      rw [same]
      exact exists_requireService found chosen around

/--
What is shared after a start that fails.

The service is what it was. The registry and the provider are what they were, where they were there; else they are
what the settings lead to, as far as the start came.
-/
theorem Sharing.shared_of_failed {fault : SharingFault}
    (failed : sharing.startUp settings around = (after, .error fault)) :
    after.service = sharing.service ∧
    after.registry = sharing.registry.or ((around.loaded? settings).map (⟨sharing.next, ·⟩)) ∧
    ∃ number, sharing.next ≤ number ∧
      after.provider = sharing.provider.or
        (if after.registry.isSome then
          (around.chosen? settings).map fun (dialect, address) => ⟨number, dialect, address⟩
        else none) := by
  obtain ⟨_, unread, same⟩ | ⟨given, read, rest⟩ := sharing.startUp_cases settings around
  · -- Settings that cannot be read lead nowhere.
    cases same.symm.trans failed
    have nowhere : around.loaded? settings = none ∧ around.chosen? settings = none := by
      rw [Surroundings.loaded?, Surroundings.chosen?, unread]
      exact ⟨rfl, rfl⟩
    rw [nowhere.1, nowhere.2]
    refine ⟨rfl, (Option.or_none).symm, sharing.next, Nat.le_refl _, ?_⟩
    rw [Option.map_none, ite_self, Option.or_none]
  · have known : around.loaded? settings = around.loaded? (some given) ∧
        around.chosen? settings = around.chosen? (some given) := by
      rw [Surroundings.loaded?, Surroundings.chosen?, read]
      exact ⟨rfl, rfl⟩
    have shared := sharing.shared_prepare given around
    obtain ⟨later, _, prepared, same⟩ | ⟨later, prepared, same⟩ := rest
    · cases same.symm.trans failed
      rw [prepared] at shared
      rw [known.1, known.2]
      exact shared
    · -- Where the start has been prepared, it does not fail any more.
      obtain ⟨_, _, done⟩ := sharing.exists_startUp read (by rw [prepared])
      cases done.symm.trans failed

/--
The service that a start gives out.

It is made of the registry and the provider that were shared before, where they were; else of those that the settings
lead to.
-/
theorem Sharing.Sound.service_of_started (sound : sharing.Sound)
    (started : sharing.startUp settings around = (later, .ok service)) :
    some service.registry = sharing.registry.or ((around.loaded? settings).map (⟨sharing.next, ·⟩)) ∧
    ∃ number, some service.provider = sharing.provider.or
      ((around.chosen? settings).map fun (dialect, address) => ⟨number, dialect, address⟩) := by
  obtain ⟨_, _, same⟩ | ⟨given, read, ⟨_, _, _, same⟩ | ⟨between, prepared, same⟩⟩ :=
    sharing.startUp_cases settings around
  · cases same.symm.trans started
  · cases same.symm.trans started
  · -- The service fits what is shared in the end, and nothing was given up on the way there.
    have grown := sharing.growsTo_startUp settings around
    have kept := (between.growsTo_requireService around).keeps
    rw [started] at grown
    rw [same.symm.trans started] at kept
    have built := (sound.growsTo grown).built service (startUp_ok started)
    obtain ⟨registry, provider, found, chosen⟩ := parts_of_prepared prepared
    have first : registry = service.registry :=
      Option.some.inj ((kept.registry _ found).symm.trans built.1)
    have second : provider = service.provider :=
      Option.some.inj ((kept.provider _ chosen).symm.trans built.2)
    obtain ⟨-, made, number, -, made'⟩ := sharing.shared_prepare given around
    rw [prepared] at made made'
    dsimp only at made made'
    rw [found, Option.isSome_some, if_pos rfl, chosen, second] at made'
    rw [found, first] at made
    rw [Surroundings.loaded?, Surroundings.chosen?, read]
    exact ⟨made, number, made'⟩

/-- Setting up a database comes to the same for processes that see the same database. -/
theorem Sharing.setUp_congr (same : sharing.database address = before.database address) (seeding : Bool) :
    (sharing.setUp address seeding around).2 = (before.setUp address seeding around).2 := by
  -- Whether the database is reached turns on its address, and the rest on what is in it.
  rw [setUp, setUp, same]
  cases address.outcomeAmong? around.servers with
  | some outcome => rfl
  | none =>
    dsimp only
    cases before.database address <;> rfl

/-- After everything was closed, a start has been prepared when the database of its settings is set up. -/
theorem Sharing.prepare_closed (sharing : Sharing) (loads : given.loadRegistry around = .ok registry)
    (chooses : given.chooseDatabase = .ok (dialect, address)) :
    (sharing.close.prepare given around).2 = (sharing.close.setUp address given.seeding around).2 := by
  -- After closing, both places are empty, so both are filled from the settings.
  have read : around.settings (some given) >>= (·.loadRegistry around) = .ok registry := loads
  have chosen : around.settings (some given) >>= (·.chooseDatabase) = .ok (dialect, address) := chooses
  rw [prepare, requireRegistry, read]
  dsimp only [close]
  rw [requireProvider, chosen]
  dsimp only
  exact setUp_congr (by cases address <;> rfl) given.seeding

/--
What a failed start leaves, and what a later one makes of it.

After any requests, a start that fails leaves the service as it was. It leaves the registry and the provider as they
were, too, where they were there; where they were not, it leaves what the settings lead to, as far as it came. After
everything is closed, a start with other settings gives out a service on their schema and their database; without
that, the service is on what was left, and on theirs for the rest.
-/
theorem Sharing.failed_start_leaves {files : Entries Database}
    {requests : List (SharingRequest × Surroundings)} {fault : SharingFault}
    (failed : ((Sharing.start files).run requests).startUp settings around = (after, .error fault)) :
    let sharing := (Sharing.start files).run requests
    after.service = sharing.service ∧
    after.registry = sharing.registry.or ((around.loaded? settings).map (⟨sharing.next, ·⟩)) ∧
    (∃ number, sharing.next ≤ number ∧
      after.provider = sharing.provider.or
        (if after.registry.isSome then
          (around.chosen? settings).map fun (dialect, address) => ⟨number, dialect, address⟩
        else none)) ∧
    ∀ (corrected : Settings) (around : Surroundings) (registry : Registry) (dialect : Dialect)
      (address : DatabaseAddress), corrected.loadRegistry around = .ok registry →
      corrected.chooseDatabase = .ok (dialect, address) →
      ((after.close.setUp address corrected.seeding around).2 = .ok () →
        ∃ later service, after.close.startUp (some corrected) around = (later, .ok service) ∧
          service.registry.registry = registry ∧ service.provider.dialect = dialect ∧
          service.provider.address = address) ∧
      ∀ later service, after.startUp (some corrected) around = (later, .ok service) →
        some service.registry = after.registry.or (some ⟨after.next, registry⟩) ∧
        ∃ number, some service.provider = after.provider.or (some ⟨number, dialect, address⟩) := by
  intro sharing
  obtain ⟨service, registry, provider⟩ := shared_of_failed failed
  have sound : after.Sound := by
    have grown := sharing.growsTo_startUp settings around
    rw [failed] at grown
    exact ((sound_start files).run requests).growsTo grown
  refine ⟨service, registry, provider, fun corrected around registry dialect address loads chooses => ?_⟩
  have loaded : around.loaded? (some corrected) = some registry := congrArg Except.toOption loads
  have chosen : around.chosen? (some corrected) = some (dialect, address) :=
    congrArg Except.toOption chooses
  constructor
  · -- Closing empties all places, so everything is made of the corrected settings.
    intro ready
    have read : around.settings (some corrected) = .ok corrected := rfl
    obtain ⟨later, service, started⟩ :=
      exists_startUp read ((after.prepare_closed loads chooses).trans ready)
    obtain ⟨made, number, made'⟩ := after.sound_of_closed.service_of_started started
    rw [loaded] at made
    rw [chosen] at made'
    refine ⟨later, service, started, ?_⟩
    rw [Option.some.inj made, Option.some.inj made']
    exact ⟨rfl, rfl, rfl⟩
  · -- Otherwise what was left comes first.
    intro later service started
    obtain ⟨made, number, made'⟩ := sound.service_of_started started
    rw [loaded] at made
    rw [chosen] at made'
    exact ⟨made, number, made'⟩

/-- A place with the document of owners and their pets, and no server within reach. -/
def petSurroundings : Surroundings :=
  { bareSurroundings with documents := [("pets.json", petDocument)] }

/-- Settings with a database on a server. -/
def distantSettings : Settings := ⟨"postgres", "postgresql://far/pets", some "pets.json", false, "INFO"⟩

/-- Settings with a dialect that there is not. -/
def strangeSettings : Settings := ⟨"oracle", "sqlite://", some "pets.json", false, "INFO"⟩

/-- The document of owners and their pets is found and can be read. -/
theorem petSurroundings_read (given : Settings) (named : given.schemaPath = some "pets.json") :
    given.loadRegistry petSurroundings = .ok petRegistry := by
  -- The document lies in the surroundings, under its path.
  have found : petSurroundings.documents.get? "pets.json" = some petDocument := by decide +kernel
  have read : Registry.ofDocument petDocument = .ok petRegistry := petService_read
  rw [Settings.loadRegistry, named]
  dsimp only
  rw [found]
  dsimp only
  rw [read]
  rfl

/-- The server is chosen. -/
theorem distantSettings_chosen :
    distantSettings.chooseDatabase = .ok (.postgres, .server "postgresql://far/pets") :=
  eq_ok_of_toOption (by decide +kernel)

/-- What is left when the server is out of reach: the registry, and the provider of the server. -/
def distantSharing : Sharing where
  registry := some ⟨0, petRegistry⟩
  provider := some ⟨1, .postgres, .server "postgresql://far/pets"⟩
  service := none
  next := 2
  memory := .empty
  files := []

/-- What is left when the dialect is unknown: the registry. -/
def strangeSharing : Sharing := { Sharing.start [] with registry := some ⟨0, petRegistry⟩, next := 1 }

/-- The start fails when the server is out of reach. -/
theorem distantSettings_fail : (Sharing.start []).startUp (some distantSettings) petSurroundings =
    (distantSharing, .error (.unreachable "postgresql://far/pets")) := by
  -- The registry is read and the provider is chosen before the server is reached.
  have read : petSurroundings.settings (some distantSettings) >>= (·.loadRegistry petSurroundings) =
      .ok petRegistry := petSurroundings_read distantSettings rfl
  have chosen : petSurroundings.settings (some distantSettings) >>= (·.chooseDatabase) =
      .ok (.postgres, .server "postgresql://far/pets") := distantSettings_chosen
  rw [Sharing.startUp, Surroundings.settings]
  dsimp only
  rw [Sharing.prepare, Sharing.requireRegistry, read]
  dsimp only [Sharing.start]
  rw [Sharing.requireProvider, chosen]
  rfl

/-- The start fails when the dialect is unknown. -/
theorem strangeSettings_fail : (Sharing.start []).startUp (some strangeSettings) petSurroundings =
    (strangeSharing, .error (.dialect "oracle")) := by
  have read : petSurroundings.settings (some strangeSettings) >>= (·.loadRegistry petSurroundings) =
      .ok petRegistry := petSurroundings_read strangeSettings rfl
  -- The registry is read, and then the dialect is not known.
  have unknown : petSurroundings.settings (some strangeSettings) >>= (·.chooseDatabase) =
      .error (.dialect "oracle") := by
    have none_ : Dialect.ofText? strangeSettings.provider = none := by decide +kernel
    show strangeSettings.chooseDatabase = _
    rw [Settings.chooseDatabase, if_neg (by decide), none_]
    rfl
  rw [Sharing.startUp, Surroundings.settings]
  dsimp only
  rw [Sharing.prepare, Sharing.requireRegistry, read]
  dsimp only [Sharing.start]
  rw [Sharing.requireProvider, unknown]
  rfl

/-- A server out of reach leaves the registry and the provider; after closing, a start follows its own settings. -/
theorem Sharing.distant_start_leaves :
    (Sharing.start []).startUp (some distantSettings) petSurroundings =
      (distantSharing, .error (.unreachable "postgresql://far/pets")) ∧
    ∃ later service, distantSharing.close.startUp (some plainSettings) petSurroundings = (later, .ok service) ∧
      service.registry.registry = customerRegistry ∧ service.provider.dialect = .sqlite ∧
      service.provider.address = .memory := by
  have failed : ((Sharing.start []).run []).startUp (some distantSettings) petSurroundings =
      (distantSharing, .error (.unreachable "postgresql://far/pets")) := distantSettings_fail
  -- The general theorem is about a start after any requests, here after none.
  obtain ⟨-, -, -, leaves⟩ := failed_start_leaves failed
  exact ⟨failed,
    (leaves plainSettings petSurroundings customerRegistry .sqlite .memory rfl plainSettings_chosen).1 rfl⟩

/-- The registry of a failed start is what a later start with other settings serves. -/
theorem Sharing.strange_start_traced :
    (Sharing.start []).startUp (some strangeSettings) petSurroundings =
      (strangeSharing, .error (.dialect "oracle")) ∧
    strangeSharing.registry ≠ (Sharing.start []).registry ∧
    plainSettings.loadRegistry petSurroundings = .ok customerRegistry ∧
    ∃ later service, strangeSharing.startUp (some plainSettings) petSurroundings = (later, .ok service) ∧
      service.registry.registry ≠ customerRegistry := by
  -- What the failed start leaves is sound.
  have sound : strangeSharing.Sound := by
    have grown := (Sharing.start []).growsTo_startUp (some strangeSettings) petSurroundings
    rw [strangeSettings_fail] at grown
    exact (sound_start []).growsTo grown
  -- So the next start is prepared, and serves the registry that is there.
  have prepared : (strangeSharing.prepare plainSettings petSurroundings).2 = .ok () := by
    have chosen : petSurroundings.settings (some plainSettings) >>= (·.chooseDatabase) =
        .ok (.sqlite, .memory) := plainSettings_chosen
    rw [prepare, requireRegistry_of_shared rfl]
    dsimp only [strangeSharing, Sharing.start]
    rw [requireProvider, chosen]
    rfl
  have read : petSurroundings.settings (some plainSettings) = .ok plainSettings := rfl
  refine ⟨strangeSettings_fail, Option.some_ne_none _, rfl, ?_⟩
  obtain ⟨later, service, started⟩ := exists_startUp read prepared
  obtain ⟨made, -⟩ := sound.service_of_started started
  refine ⟨later, service, started, ?_⟩
  rw [Option.some.inj made]
  -- The two registries have other names in them.
  have names : petRegistry.names ≠ customerRegistry.names := by decide +kernel
  exact fun same => names (congrArg Registry.names same)

end Joinery
