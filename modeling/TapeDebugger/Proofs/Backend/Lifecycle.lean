import Mathlib.Data.List.Chain
import TapeDebugger.Proofs.Backend.Operations

/-!
# The life of a backend

A registry is driven by commands, between which backends may change in what they would do. What
happens to backends on the way is written down as a trace: they are registered and removed, and
their starts and stops are called, with success or without. `Standing` is a protocol for what may
happen next under one name. Every command follows it (`follow?_conduct`), and what a sequence of
commands does to a backend is read off the protocol alone.
-/

namespace TapeDebugger

/-- Something that happens to the backend of a name. -/
inductive Happening where
  | registered
  | removed
  | started
  | startFailed (reason : String)
  /-- It was told to stop, and has perhaps failed in doing so. -/
  | stopped (fault : Option String)
deriving DecidableEq

/-- What happened, to the backends of which names. -/
abbrev Trace := List (String × Happening)

/-- What happened to the backends of one name. -/
def Trace.of (trace : Trace) (name : String) : List Happening :=
  (trace.filter (·.1 == name)).map (·.2)

/-- What happened to a name in two traces is what happened to it in one after the other. -/
theorem Trace.of_append (trace later : Trace) (name : String) :
    Trace.of (trace ++ later) name = trace.of name ++ later.of name := by
  rw [of, of, of, List.filter_append, List.map_append]

/-- A happening is told of the name it befell and of no other. -/
theorem Trace.of_singleton (other name : String) (happening : Happening) :
    Trace.of [(other, happening)] name = if other = name then [happening] else [] := by
  by_cases same : other = name <;> simp [of, same]

/-- A successful start, or a stop. -/
inductive Turn where
  | start
  | stop
deriving DecidableEq

/-- The successful starts and the stops, in order. -/
def turns : List Happening → List Turn
  | [] => []
  | .started :: rest => .start :: turns rest
  | .stopped _ :: rest => .stop :: turns rest
  | _ :: rest => turns rest

/-- How things stand with a name. -/
inductive Standing where
  /-- No backend is registered under it. -/
  | absent
  | idle
  | running
deriving DecidableEq

namespace Standing

/-- How things stand after something has happened that may happen. -/
def next? : Standing → Happening → Option Standing
  | absent, .registered => some idle
  | idle, .started => some running
  | idle, .startFailed _ => some idle
  | running, .stopped _ => some idle
  | idle, .removed => some absent
  | _, _ => none

/-- How things stand after a number of happenings. -/
def follow? (standing : Standing) (happenings : List Happening) : Option Standing :=
  happenings.foldlM next? standing

/-- The turn that comes before another start or stop. -/
def turn : Standing → Turn
  | running => .start
  | absent | idle => .stop

end Standing

section Protocol

open Standing

variable {standing final : Standing} {happenings before after : List Happening}

/-- A name whose happenings follow the protocol has done so at every point. -/
theorem follow?_append :
    standing.follow? (before ++ after) = some final ↔
      ∃ between, standing.follow? before = some between ∧ between.follow? after = some final := by
  rw [follow?, List.foldlM_append, Option.bind_eq_bind, Option.bind_eq_some_iff]
  rfl

/-- The protocol is followed one happening at a time. -/
theorem follow?_cons {happening : Happening} :
    standing.follow? (happening :: after) = some final ↔
      ∃ between, standing.next? happening = some between ∧ between.follow? after = some final := by
  rw [follow?, List.foldlM_cons, Option.bind_eq_bind, Option.bind_eq_some_iff]
  rfl

/-- Under the protocol starts and stops take turns, and the last one says whether the backend
runs. -/
theorem turns_of_follow? (followed : standing.follow? happenings = some final) :
    (standing.turn :: turns happenings).IsChain (· ≠ ·) ∧
      (standing.turn :: turns happenings).getLast? = some final.turn := by
  induction happenings generalizing standing with
  | nil =>
      cases followed
      simp [turns]
  | cons happening rest inductionHypothesis =>
      obtain ⟨between, stepped, followed⟩ := follow?_cons.mp followed
      have later := inductionHypothesis followed
      match standing, happening, stepped with
      | .absent, .registered, rfl | .idle, .startFailed _, rfl | .idle, .removed, rfl =>
          exact later
      | .idle, .started, rfl | .running, .stopped _, rfl =>
          exact ⟨List.isChain_cons_cons.mpr ⟨nofun, later.1⟩,
            List.getLast?_cons_cons.trans later.2⟩

/-- After a registration starts and stops take turns, beginning with a start. -/
theorem turns_of_registered
    (followed : standing.follow? (before ++ .registered :: after) = some final) :
    (Turn.stop :: turns after).IsChain (· ≠ ·) ∧
      (Turn.stop :: turns after).getLast? = some final.turn := by
  obtain ⟨between, _, followed⟩ := follow?_append.mp followed
  obtain ⟨registered, stepped, followed⟩ := follow?_cons.mp followed
  match between, stepped with
  | .absent, rfl => exact turns_of_follow? followed

/-- The starts and stops behind a registration take turns, and nothing is stopped before it was
started. -/
theorem alternate_of_registered
    (followed : standing.follow? (before ++ .registered :: after) = some final) :
    (turns after).IsChain (· ≠ ·) ∧ (turns after).head? ≠ some .stop := by
  have chain := (turns_of_registered followed).1
  refine ⟨chain.tail, ?_⟩
  cases taken : turns after with
  | nil => nofun
  | cons first rest =>
      rw [taken] at chain
      rintro ⟨⟩
      exact (List.isChain_cons_cons.mp chain).1 rfl

/-- A backend runs if the last turn since its registration was a start. -/
theorem running_iff_of_registered
    (followed : standing.follow? (before ++ .registered :: after) = some final) :
    final = .running ↔ (turns after).getLast? = some .start := by
  have last := (turns_of_registered followed).2
  cases taken : turns after with
  | nil =>
      rw [taken, List.getLast?_singleton] at last
      cases final <;> simp [turn] at last ⊢
  | cons first rest =>
      rw [taken, List.getLast?_cons_cons] at last
      rw [last]
      cases final <;> simp [turn]

/-- What is stopped was started before. -/
theorem turns_of_stopped {fault : Option String}
    (followed : Standing.absent.follow? (before ++ .stopped fault :: after) = some final) :
    (turns before).getLast? = some .start := by
  obtain ⟨between, followed, stops⟩ := follow?_append.mp followed
  obtain ⟨stopped, stepped, _⟩ := follow?_cons.mp stops
  match between, stepped with
  | .running, rfl =>
      have last := (turns_of_follow? followed).2
      cases taken : turns before with
      | nil => simp [taken, turn] at last
      | cons first rest =>
          rw [taken, List.getLast?_cons_cons] at last
          exact last

/-- What a name ends with says how things stand. -/
theorem standing_of_follow? {happening : Happening}
    (followed : standing.follow? (before ++ [happening]) = some final) :
    ∃ between : Standing, between.next? happening = some final := by
  obtain ⟨between, _, followed⟩ := follow?_append.mp followed
  obtain ⟨reached, stepped, same⟩ := follow?_cons.mp followed
  cases same
  exact ⟨between, stepped⟩

/-- A start that fails leaves a backend that does not run. -/
theorem ne_running_of_startFailed {reason : String}
    (followed : standing.follow? (before ++ [.startFailed reason]) = some final) :
    final ≠ .running := by
  obtain ⟨between, stepped⟩ := standing_of_follow? followed
  match between, stepped with
  | .idle, rfl => nofun

/-- Where no backend is registered, nothing happens but a registration. -/
theorem eq_registered_of_absent {happening : Happening}
    (followed : Standing.absent.follow? (happening :: after) = some final) :
    happening = .registered := by
  obtain ⟨between, stepped, _⟩ := follow?_cons.mp followed
  match happening, stepped with
  | .registered, rfl => rfl

/-- A name without backend is quiet until one is registered. -/
theorem absent_of_follow? (followed : Standing.absent.follow? (before ++ after) = some final)
    (quiet : before = [] ∨ before.getLast? = some .removed) :
    Standing.absent.follow? after = some final := by
  obtain ⟨between, reached, followed⟩ := follow?_append.mp followed
  obtain rfl | removed := quiet
  · cases reached
    exact followed
  · obtain ⟨earlier, rfl⟩ := List.getLast?_eq_some_iff.mp removed
    obtain ⟨removable, stepped⟩ := standing_of_follow? reached
    match removable, stepped with
    | .idle, rfl => exact followed

end Protocol

/-- What a backend would do at some time. -/
structure Condition where
  enabled : Bool
  startFault : Option String
  stopFault : Option String

/-- The backend in another condition. -/
def Backend.inCondition {σ : Type} (backend : Backend σ) (condition : Condition) : Backend σ :=
  { backend with
    enabled := condition.enabled
    startFault := condition.startFault
    stopFault := condition.stopFault }

namespace Registry

variable {σ : Type} {registry : Registry σ}

/-- What a registry is told to do, one command after another. -/
inductive Command (σ : Type) where
  | register (backend : Option (Backend σ))
  | unregister (name : String)
  | startAll
  | stopAll
  /-- Nothing; meanwhile every backend gets into some condition. -/
  | pass (conditions : String → Condition)

/-- How things stand with a name in a registry. -/
def standing (registry : Registry σ) (name : String) : Standing :=
  match registry.registrations.get? name with
  | none => .absent
  | some registration => if registration.started then .running else .idle

/-- What a call means for the backend it is made on, and how it ends there. -/
def happening (registry : Registry σ) : LifecycleCall → Happening
  | .start name =>
    match (registry.get? name).bind (·.startFault) with
    | none => .started
    | some reason => .startFailed reason
  | .stop name => .stopped ((registry.get? name).bind (·.stopFault))

/-- The trace of some calls. -/
def traceOf (registry : Registry σ) (calls : List LifecycleCall) : Trace :=
  calls.map fun call => (call.name, registry.happening call)

/-- Carry out a command, and write down what happens to backends. -/
def conduct (registry : Registry σ) : Command σ → Registry σ × Trace
  | .register backend =>
    match backend, registry.register backend with
    | some registered, .ok next => (next, [(registered.name, .registered)])
    | _, _ => (registry, [])
  | .unregister name =>
    let removal := if registry.registrations.contains name then [(name, .removed)] else []
    let (next, calls, _) := registry.unregister name
    (next, registry.traceOf calls ++ removal)
  | .startAll =>
    let (next, calls, _) := registry.startAll
    (next, registry.traceOf calls)
  | .stopAll =>
    let (next, calls, _) := registry.stopAll
    (next, registry.traceOf calls)
  | .pass conditions =>
    ({ registrations := registry.registrations.mapValues fun name registration =>
        { registration with backend := registration.backend.inCondition (conditions name) } }, [])

/-- Carry out commands one after another, from an empty registry on. -/
def conductAll (commands : List (Command σ)) : Registry σ × Trace :=
  commands.foldl (fun (registry, trace) command =>
    let (next, happened) := registry.conduct command
    (next, trace ++ happened)) (.empty, [])

/-- The trace of some calls shows, under one name, the calls that were made there. -/
theorem of_traceOf (calls : List LifecycleCall) (name : String) :
    (registry.traceOf calls).of name = (callsTo name calls).map registry.happening := by
  rw [Trace.of, traceOf, List.filter_map, List.map_map]
  rfl

section Standing

variable {name : String}

/-- A registered backend stands as its registration says. -/
theorem standing_of_registered {registration : Registration σ}
    (registered : registry.registrations.get? name = some registration) :
    registry.standing name = if registration.started = true then .running else .idle := by
  rw [standing, registered]

/-- How things stand with a name depends on its registration alone. -/
theorem standing_congr {other : Registry σ}
    (same : other.registrations.get? name = registry.registrations.get? name) :
    other.standing name = registry.standing name := by
  rw [standing, standing, same]

/-- A name is absent while nothing is registered under it. -/
theorem standing_eq_absent_iff :
    registry.standing name = .absent ↔ registry.registrations.get? name = none := by
  rw [standing]
  cases registry.registrations.get? name with
  | none => simp
  | some registration => cases running : registration.started <;> simp [running]

/-- The registry reports a backend as started exactly while it runs. -/
theorem isStarted_iff_standing :
    registry.isStarted name = true ↔ registry.standing name = .running := by
  rw [isStarted, standing]
  cases registry.registrations.get? name with
  | none => simp
  | some registration => cases running : registration.started <;> simp [running]

end Standing

section Follow

variable (name : String)

/-- A registration follows the protocol, and is refused for a name that is taken. -/
theorem follow?_register (backend : Option (Backend σ)) :
    (registry.standing name).follow? ((registry.conduct (.register backend)).2.of name) =
      some ((registry.conduct (.register backend)).1.standing name) := by
  cases backend with
  | none => rfl
  | some backend =>
      cases registers : registry.register (some backend) with
      | error fault => simp [conduct, registers, Trace.of, Standing.follow?]
      | ok next =>
          obtain ⟨_, free, inserted⟩ := register_cases registers
          have found := NameMap.get?_insert registry.registrations backend.name name
            { backend, started := false }
          rw [← inserted] at found
          simp only [conduct, registers, Trace.of_singleton]
          by_cases same : backend.name = name
          · subst same
            rw [if_pos rfl] at found
            rw [if_pos rfl, standing_eq_absent_iff.mpr free, standing_of_registered found]
            rfl
          · rw [if_neg same] at found
            rw [if_neg same, standing_congr found]
            rfl

/-- A removal follows the protocol: what runs is stopped before it is removed. -/
theorem follow?_unregister (other : String) :
    (registry.standing name).follow? ((registry.conduct (.unregister other)).2.of name) =
      some ((registry.conduct (.unregister other)).1.standing name) := by
  obtain ⟨called, erased⟩ := unregister_eq registry other
  have found := NameMap.get?_erase registry.registrations other name
  rw [← erased] at found
  have removal : (registry.conduct (.unregister other)).1 = (registry.unregister other).1 := rfl
  have happened : (registry.conduct (.unregister other)).2 =
      registry.traceOf (registry.unregister other).2.1 ++
        if registry.registrations.contains other then [(other, .removed)] else [] := rfl
  rw [removal, happened, Trace.of_append, of_traceOf, called]
  by_cases same : other = name
  · subst same
    rw [if_pos rfl] at found
    rw [standing_eq_absent_iff.mpr found]
    cases registered : registry.registrations.get? other with
    | none =>
        rw [standing_eq_absent_iff.mpr registered]
        simp [isStarted, NameMap.contains, registered, Trace.of, callsTo, Standing.follow?]
    | some registration =>
        rw [standing_of_registered registered]
        cases running : registration.started <;>
          simp [isStarted, NameMap.contains, registered, running, callsTo_cons, callsTo_nil,
            LifecycleCall.name, happening, Trace.of_singleton, Standing.follow?, Standing.next?]
  · rw [if_neg same] at found
    rw [standing_congr found]
    have uncalled : callsTo name (if registry.isStarted other = true then [.stop other] else []) =
        [] := by
      split <;> simp [callsTo, LifecycleCall.name, same]
    have kept : Trace.of (if registry.registrations.contains other = true then
        [(other, Happening.removed)] else []) name = [] := by
      split <;> simp [Trace.of, same]
    rw [uncalled, kept]
    rfl

/-- Starting all backends follows the protocol at every name, also when it ends with a failure. -/
theorem follow?_startAll :
    (registry.standing name).follow? ((registry.conduct .startAll).2.of name) =
      some ((registry.conduct .startAll).1.standing name) := by
  have started : (registry.conduct .startAll).1 = registry.startAll.1 := rfl
  have happened : (registry.conduct .startAll).2 = registry.traceOf registry.startAll.2.1 := rfl
  have one := startsOne_startAll registry name
  rw [started, happened, of_traceOf]
  generalize callsTo name registry.startAll.2.1 = calls at one
  cases one with
  | left same =>
      rw [standing_congr same]
      rfl
  | @called registration registered idle enabled result =>
      rw [standing_of_registered registered, standing_of_registered result, idle]
      have found : registry.get? name = some registration.backend := by
        rw [get?, registered, Option.map_some]
      cases failed : registration.backend.startFault with
      | none => simp [happening, found, failed, Standing.follow?, Standing.next?]
      | some reason => simp [happening, found, failed, Standing.follow?, Standing.next?]

/-- Stopping all backends follows the protocol at every name. -/
theorem follow?_stopAll :
    (registry.standing name).follow? ((registry.conduct .stopAll).2.of name) =
      some ((registry.conduct .stopAll).1.standing name) := by
  obtain ⟨called, result⟩ := stopAll_eq registry name
  have stopped : (registry.conduct .stopAll).1 = registry.stopAll.1 := rfl
  have happened : (registry.conduct .stopAll).2 = registry.traceOf registry.stopAll.2.1 := rfl
  rw [stopped, happened, of_traceOf, called]
  cases registered : registry.registrations.get? name with
  | none =>
      rw [registered, Option.map_none] at result
      rw [standing_eq_absent_iff.mpr registered, standing_eq_absent_iff.mpr result]
      simp [isStarted, registered, Standing.follow?]
  | some registration =>
      rw [registered, Option.map_some] at result
      rw [standing_of_registered registered, standing_of_registered result]
      cases running : registration.started <;>
        simp [isStarted, registered, running, happening, Standing.follow?, Standing.next?]

end Follow

/-- Every command follows the protocol under every name. -/
theorem follow?_conduct (command : Command σ) (name : String) :
    (registry.standing name).follow? ((registry.conduct command).2.of name) =
      some ((registry.conduct command).1.standing name) := by
  cases command with
  | register backend => exact follow?_register name backend
  | unregister other => exact follow?_unregister name other
  | startAll => exact follow?_startAll name
  | stopAll => exact follow?_stopAll name
  | pass conditions =>
      have result := NameMap.get?_mapValues registry.registrations (fun name registration =>
        { registration with backend := registration.backend.inCondition (conditions name) }) name
      have same : (registry.conduct (.pass conditions)).1.standing name =
          registry.standing name := by
        rw [standing, standing, conduct, result]
        cases registry.registrations.get? name <;> rfl
      rw [same]
      rfl

/-- One command more. -/
theorem conductAll_concat (commands : List (Command σ)) (command : Command σ) :
    conductAll (commands ++ [command]) =
      (((conductAll commands).1.conduct command).1,
        (conductAll commands).2 ++ ((conductAll commands).1.conduct command).2) := by
  rw [conductAll, List.foldl_append]
  rfl

/-- Commands follow the protocol one after another, under every name. -/
theorem follow?_conductAll (commands : List (Command σ)) (name : String) :
    Standing.absent.follow? ((conductAll commands).2.of name) =
      some ((conductAll commands).1.standing name) := by
  induction commands using List.reverseRecOn with
  | nil => rfl
  | append_singleton commands command followed =>
      rw [conductAll_concat, Trace.of_append]
      exact follow?_append.mpr ⟨_, followed, follow?_conduct command name⟩

/-- A registry with a past in which every backend was led in an orderly way. -/
structure Orderly (registry : Registry σ) (trace : Trace) : Prop where
  /-- From a registration on, successful starts and stops take turns, a start coming first. -/
  alternates : ∀ name before during after,
    trace.of name = before ++ .registered :: (during ++ after) →
      (turns during).IsChain (· ≠ ·) ∧ (turns during).head? ≠ some .stop
  /-- A backend runs just if the last turn since its registration was a start. -/
  isStarted_iff : ∀ name before during, trace.of name = before ++ .registered :: during →
    (registry.isStarted name = true ↔ (turns during).getLast? = some .start)
  /-- A start that has failed leaves a backend that does not run. -/
  startFailed : ∀ name before reason, trace.of name = before ++ [.startFailed reason] →
    registry.isStarted name = false
  /-- Nothing is stopped but what was started and not yet stopped. -/
  stopped : ∀ name before fault after, trace.of name = before ++ .stopped fault :: after →
    (turns before).getLast? = some .start
  /-- Before a registration and after a removal, a name knows no backend, and the next thing to
  happen under it is a registration. -/
  quiet : ∀ name before after, trace.of name = before ++ after →
    before = [] ∨ before.getLast? = some .removed →
      (∀ next ∈ after.head?, next = .registered) ∧
        (after = [] → registry.get? name = none ∧ registry.isStarted name = false)
  /-- Stopping all backends calls each one that runs once, and no other, and leaves none
  running, no matter what fails and what is enabled. -/
  stopAll : ∀ name, registry.stopAll.1.isStarted name = false ∧
    callsTo name registry.stopAll.2.1 =
      if registry.isStarted name = true then [.stop name] else []
  /-- Unregistering a backend calls it once if it runs, calls no other, and removes it. -/
  unregister : ∀ name, (registry.unregister name).1.get? name = none ∧
    (registry.unregister name).2.1 = if registry.isStarted name = true then [.stop name] else []

/-- Whatever a registry is told to do, it leads its backends in an orderly way. -/
theorem orderly_conductAll (commands : List (Command σ)) :
    Orderly (conductAll commands).1 (conductAll commands).2 := by
  have followed := follow?_conductAll commands
  revert followed
  generalize (conductAll commands).1 = registry
  generalize (conductAll commands).2 = trace
  intro followed
  have stands : ∀ {name happenings}, trace.of name = happenings →
      Standing.absent.follow? happenings = some (registry.standing name) := by
    rintro name _ rfl
    exact followed name
  constructor
  case alternates =>
    intro name before during after happened
    have split : before ++ Happening.registered :: (during ++ after) =
        (before ++ .registered :: during) ++ after := by simp
    obtain ⟨between, followed, _⟩ := follow?_append.mp (split ▸ stands happened)
    exact alternate_of_registered followed
  case isStarted_iff =>
    intro name before during happened
    rw [isStarted_iff_standing]
    exact running_iff_of_registered (stands happened)
  case startFailed =>
    intro name before reason happened
    rw [Bool.eq_false_iff, Ne, isStarted_iff_standing]
    exact ne_running_of_startFailed (stands happened)
  case stopped =>
    intro name before fault after happened
    exact turns_of_stopped (stands happened)
  case quiet =>
    intro name before after happened absent
    have followed := absent_of_follow? (stands happened) absent
    cases after with
    | nil =>
        refine ⟨by simp, fun _ => ?_⟩
        have unregistered := standing_eq_absent_iff.mp (Option.some.inj followed).symm
        simp [get?, isStarted, unregistered]
    | cons next rest =>
        refine ⟨?_, by simp⟩
        rintro _ ⟨⟩
        exact eq_registered_of_absent followed
  case stopAll =>
    intro name
    obtain ⟨called, result⟩ := stopAll_eq registry name
    refine ⟨?_, called⟩
    rw [isStarted, result]
    cases registry.registrations.get? name <;> rfl
  case unregister =>
    intro name
    obtain ⟨called, erased⟩ := unregister_eq registry name
    refine ⟨?_, called⟩
    rw [get?, erased, NameMap.get?_erase, if_pos rfl, Option.map_none]

/-- A backend whose start has failed is started at the next attempt, and stopped when it is removed,
although it has been disabled meanwhile and fails in stopping. Registered anew it is started again,
and stopping all backends calls it once. -/
theorem orderly_conductAll_registered_anew :
    let backend : Backend Unit :=
      { kind := "", name := "tape", enabled := true, tools := .ok [],
        execute := fun _ _ _ _ _ => none, startFault := none, stopFault := none }
    let commands : List (Command Unit) := [
      .register (some backend), .pass fun _ => ⟨true, some "port in use", none⟩, .startAll,
      .pass fun _ => ⟨true, none, none⟩, .startAll, .pass fun _ => ⟨false, none, some "busy"⟩,
      .startAll, .unregister "tape", .stopAll, .register (some backend), .startAll]
    (conductAll commands).2.of "tape" =
        [.registered, .startFailed "port in use", .started, .stopped (some "busy"), .removed,
          .registered, .started] ∧
      Orderly (conductAll commands).1 (conductAll commands).2 ∧
      (conductAll commands).1.isStarted "tape" = true ∧
      callsTo "tape" (conductAll commands).1.stopAll.2.1 = [.stop "tape"] := by
  intro backend commands
  have happened : (conductAll commands).2.of "tape" =
      [.registered, .startFailed "port in use", .started, .stopped (some "busy"), .removed] ++
        .registered :: [.started] := by
    decide +kernel
  have orderly := orderly_conductAll commands
  have runs := (orderly.isStarted_iff "tape" _ _ happened).mpr rfl
  refine ⟨happened, orderly, runs, ?_⟩
  rw [(orderly.stopAll "tape").2, if_pos runs]

end Registry

end TapeDebugger
