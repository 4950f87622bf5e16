import TapeDebugger.Backend.Registry
import TapeDebugger.Proofs.NameMap

/-!
# What registry operations do to a backend

Seen from a single name, an operation makes at most one call and changes at most one registration.
Starting makes the call where a backend takes calls and does not run (`startsOne_startAll`),
stopping where it runs, whether it takes calls or not (`stopAll_eq`).
-/

namespace TapeDebugger

/-- The backend that a call is made on. -/
def LifecycleCall.name : LifecycleCall → String
  | start name | stop name => name

/-- The calls that are made on the backend of a name, in order. -/
def callsTo (name : String) (calls : List LifecycleCall) : List LifecycleCall :=
  calls.filter (·.name == name)

section Calls

variable {name : String}

/-- Where nothing is called, no backend is. -/
@[simp] theorem callsTo_nil : callsTo name [] = [] :=
  rfl

/-- A call counts for the backend that it is made on. -/
theorem callsTo_cons (call : LifecycleCall) (calls : List LifecycleCall) :
    callsTo name (call :: calls) =
      if call.name = name then call :: callsTo name calls else callsTo name calls := by
  by_cases same : call.name = name <;> simp [callsTo, same]

end Calls

namespace Registry

variable {σ : Type} {registry : Registry σ} {name : String} {names : List String}

/-- The names that are listed are those of the registered backends. -/
theorem mem_names_iff :
    name ∈ registry.names ↔
      ∃ registration, registry.registrations.get? name = some registration :=
  NameMap.mem_names_iff

/-- No name is listed twice. -/
theorem nodup_names (registry : Registry σ) : registry.names.Nodup :=
  registry.registrations.nodup_names

/-- What is written down of a backend is seen under its name and under no other. -/
theorem get?_mark (registration : Registration σ) (started : Bool) (other : String) :
    (registry.mark name registration started).registrations.get? other =
      if name = other then some { registration with started }
      else registry.registrations.get? other :=
  NameMap.get?_insert ..

/-- A backend runs afterwards as was written down. -/
theorem isStarted_mark (registration : Registration σ) (started : Bool) (other : String) :
    (registry.mark name registration started).isStarted other =
      if name = other then started else registry.isStarted other := by
  rw [isStarted, get?_mark]
  split <;> rfl

section Register

variable {backend : Backend σ} {next : Registry σ}

/-- A backend is registered under a valid name that was free, and does not run. -/
theorem register_cases (registers : registry.register (some backend) = .ok next) :
    isValidName backend.name = true ∧ registry.registrations.get? backend.name = none ∧
      next.registrations = registry.registrations.insert backend.name
        { backend, started := false } := by
  rw [register] at registers
  split at registers
  · cases registers
  · split at registers
    · cases registers
    · rename_i valid free
      cases registers
      exact ⟨by simpa using valid, by simpa [NameMap.contains] using free, rfl⟩

end Register

section Start

/-- A backend waits to be started if it takes calls and does not run. -/
theorem pending?_eq_some_iff {registration : Registration σ} :
    registry.pending? name = some registration ↔
      registry.registrations.get? name = some registration ∧
        registration.started = false ∧ registration.backend.enabled = true := by
  simp [pending?, Option.filter_eq_some_iff]

/-- What starting means for the backend of a name: nothing, or one call where it takes calls and
does not run, after which it runs unless the call has failed. -/
inductive StartsOne (name : String) (before after : Option (Registration σ)) :
    List LifecycleCall → Prop where
  | left (same : after = before) : StartsOne name before after []
  | called {registration} (registered : before = some registration)
      (idle : registration.started = false) (enabled : registration.backend.enabled = true)
      (result : after = some { registration with
        started := registration.backend.startFault.isNone }) :
      StartsOne name before after [.start name]

/-- Starting the backends of some names means at most one call for each of them: a backend that has
been started does not wait for it any more. -/
theorem startsOne_startNames (names : List String) (registry : Registry σ) (name : String) :
    StartsOne name (registry.registrations.get? name)
      ((startNames names registry).1.registrations.get? name)
      (callsTo name (startNames names registry).2.1) := by
  fun_induction startNames names registry with
  | case1 => exact .left rfl
  | case2 _ _ _ _ inductionHypothesis => exact inductionHypothesis
  | case3 present rest registry registration pending reason failed =>
      obtain ⟨registered, idle, enabled⟩ := pending?_eq_some_iff.mp pending
      rw [callsTo_cons, LifecycleCall.name]
      by_cases same : present = name
      · subst same
        rw [if_pos rfl]
        refine .called registered idle enabled ?_
        rw [failed, Option.isNone_some, ← idle, registered]
      · rw [if_neg same]
        exact .left rfl
  | case4 present rest registry registration pending succeeds after calls fault started later =>
      obtain ⟨registered, idle, enabled⟩ := pending?_eq_some_iff.mp pending
      rw [started, get?_mark] at later
      rw [callsTo_cons, LifecycleCall.name]
      by_cases same : present = name
      · subst same
        rw [if_pos rfl] at later
        rw [if_pos rfl]
        generalize callsTo present calls = calls at later
        cases later with
        | left unchanged =>
            refine .called registered idle enabled ?_
            rw [unchanged, succeeds, Option.isNone_none]
        | called running idle =>
            -- It is marked as running by now, so what comes behind does not call it again.
            cases running
            cases idle
      · rw [if_neg same] at later
        rw [if_neg same]
        exact later

/-- Starting all backends means at most one call for each of them. -/
theorem startsOne_startAll (registry : Registry σ) (name : String) :
    StartsOne name (registry.registrations.get? name)
      (registry.startAll.1.registrations.get? name)
      (callsTo name registry.startAll.2.1) :=
  startsOne_startNames ..

/-- Starting exchanges no backend for another. -/
theorem get?_startAll (registry : Registry σ) (name : String) :
    registry.startAll.1.get? name = registry.get? name := by
  have one := startsOne_startAll registry name
  rw [get?, get?]
  generalize callsTo name registry.startAll.2.1 = calls at one
  cases one with
  | left same => rw [same]
  | called registered _ _ result =>
      rw [registered, result]
      rfl

end Start

section Stop

/-- A backend that is found running is registered and runs. -/
theorem running?_eq_some_iff {registration : Registration σ} :
    registry.running? name = some registration ↔
      registry.registrations.get? name = some registration ∧ registration.started = true := by
  simp [running?, Option.filter_eq_some_iff]

/-- A backend that is not found running does not run, and stopping it would change nothing. -/
theorem idle_of_running?_eq_none (idle : registry.running? name = none) :
    registry.isStarted name = false ∧
      (registry.registrations.get? name).map ({ · with started := false }) =
        registry.registrations.get? name := by
  rw [running?] at idle
  rw [isStarted]
  cases registered : registry.registrations.get? name with
  | none => exact ⟨rfl, rfl⟩
  | some registration =>
      have stopped : registration.started = false := by simpa [registered] using idle
      exact ⟨stopped, congrArg some (by rw [← stopped])⟩

/-- Stopping the backends of some names calls those that run, each once, and afterwards none of them
does. -/
theorem stopNames_eq (names : List String) (registry : Registry σ) (name : String) :
    callsTo name (stopNames names registry).2.1 =
        (if name ∈ names ∧ registry.isStarted name = true then [.stop name] else []) ∧
      (stopNames names registry).1.registrations.get? name =
        if name ∈ names then (registry.registrations.get? name).map ({ · with started := false })
        else registry.registrations.get? name := by
  fun_induction stopNames names registry with
  | case1 => simp
  | case2 present rest registry idle later =>
      rw [later.1, later.2]
      by_cases same : present = name
      · subst same
        obtain ⟨stopped, unchanged⟩ := idle_of_running?_eq_none idle
        simp [stopped, unchanged]
      · simp [Ne.symm same]
  | case3 present rest registry registration running after calls failures stopped failed later =>
      obtain ⟨registered, started⟩ := running?_eq_some_iff.mp running
      rw [stopped, get?_mark, isStarted_mark] at later
      rw [callsTo_cons, LifecycleCall.name, later.1, later.2]
      by_cases same : present = name
      · subst same
        simp [isStarted, registered, started]
      · simp [same, Ne.symm same]

/-- Stopping all backends calls those that run, and afterwards none does. -/
theorem stopAll_eq (registry : Registry σ) (name : String) :
    callsTo name registry.stopAll.2.1 =
        (if registry.isStarted name = true then [.stop name] else []) ∧
      registry.stopAll.1.registrations.get? name =
        (registry.registrations.get? name).map ({ · with started := false }) := by
  have stopped := stopNames_eq registry.names registry name
  by_cases listed : name ∈ registry.names
  · simp only [listed, true_and, if_true] at stopped
    exact stopped
  · have absent := NameMap.get?_eq_none_of_not_mem listed
    simp only [listed, false_and, if_false, absent] at stopped
    rw [isStarted, absent]
    exact stopped

/-- Stopping exchanges no backend for another. -/
theorem get?_stopAll (registry : Registry σ) (name : String) :
    registry.stopAll.1.get? name = registry.get? name := by
  rw [get?, get?, (stopAll_eq registry name).2, Option.map_map]
  rfl

/-- Unregistering a backend calls it if it runs, and removes it in any case. -/
theorem unregister_eq (registry : Registry σ) (name : String) :
    (registry.unregister name).2.1 =
        (if registry.isStarted name = true then [.stop name] else []) ∧
      (registry.unregister name).1.registrations = registry.registrations.erase name := by
  rw [unregister, isStarted]
  cases registry.registrations.get? name with
  | none => exact ⟨rfl, rfl⟩
  | some registration => cases running : registration.started <;> simp [running]

end Stop

end Registry

end TapeDebugger
