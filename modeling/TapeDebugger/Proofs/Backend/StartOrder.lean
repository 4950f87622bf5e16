import TapeDebugger.Proofs.Backend.Operations
import TapeDebugger.Proofs.Text.ByteOrder

/-!
# The order of starts

The registered names are listed once each, in the order of their bytes (`pairwise_names`), and
`startAll` goes through that list: it starts the backends that wait for it, up to the first that
fails. The names alone therefore say what it does, whatever else the registry has been through:
either no backend that waits would fail, and all of them are started (`StartsEvery`), or there is a
least name among those that would, and everything in front of it is started, and nothing from there
on (`StopsAt`).
-/

namespace TapeDebugger

namespace Registry

variable {σ : Type} {registry : Registry σ}

/-- A backend waits to be started: it takes calls and does not run. -/
def IsPending (registry : Registry σ) (name : String) : Prop :=
  registry.isStarted name = false ∧
    ∃ backend, registry.get? name = some backend ∧ backend.enabled = true

/-- A backend waits to be started and would fail, for a reason. -/
def FailsToStart (registry : Registry σ) (name reason : String) : Prop :=
  registry.isStarted name = false ∧
    ∃ backend, registry.get? name = some backend ∧ backend.enabled = true ∧
      backend.startFault = some reason

/-- Of the backends that wait to be started and would fail, the one with the least name. -/
def FirstToFail (registry : Registry σ) (name reason : String) : Prop :=
  registry.FailsToStart name reason ∧
    ∀ other otherReason, registry.FailsToStart other otherReason →
      other = name ∨ Text.Precedes name other

/-- The names in a list whose backends wait to be started. -/
def pendingNames (registry : Registry σ) (names : List String) : List String :=
  names.filter fun name => (registry.pending? name).isSome

section Walk

variable {name reason : String} {names rest before after : List String}

/-- A backend waits to be started if it is found waiting. -/
theorem isPending_iff :
    registry.IsPending name ↔ ∃ registration, registry.pending? name = some registration := by
  rw [IsPending, isStarted, get?, pending?]
  cases registry.registrations.get? name <;> simp [Option.filter_some]

/-- It would fail if it is found waiting and has a reason to fail. -/
theorem failsToStart_iff :
    registry.FailsToStart name reason ↔ ∃ registration,
      registry.pending? name = some registration ∧
        registration.backend.startFault = some reason := by
  rw [FailsToStart, isStarted, get?]
  simp only [pending?_eq_some_iff]
  cases registry.registrations.get? name <;> simp [and_assoc]

/-- A backend that has been started does not wait for it any more. -/
theorem pending?_mark (registration : Registration σ) (other : String) :
    (registry.mark name registration true).pending? other =
      if name = other then none else registry.pending? other := by
  rw [pending?, get?_mark]
  split <;> rfl

/-- The names that wait are those in the list whose backends do. -/
theorem mem_pendingNames :
    name ∈ registry.pendingNames names ↔ name ∈ names ∧ registry.IsPending name := by
  rw [pendingNames, List.mem_filter, isPending_iff, Option.isSome_iff_exists]

/-- Of the names in a list, the first comes first. -/
theorem pendingNames_cons (name : String) (rest : List String) :
    registry.pendingNames (name :: rest) =
      registry.pendingNames [name] ++ registry.pendingNames rest :=
  List.filter_append [name] rest

/-- What is done depends on the backends that wait to be started, and on nothing else. -/
theorem startNames_congr {left right : Registry σ}
    (alike : ∀ name ∈ names, left.pending? name = right.pending? name) :
    (startNames names left).2 = (startNames names right).2 := by
  induction names generalizing left right with
  | nil => rfl
  | cons name rest inductionHypothesis =>
      obtain ⟨first, later⟩ := List.forall_mem_cons.mp alike
      rw [startNames, startNames, first]
      cases right.pending? name with
      | none => exact inductionHypothesis later
      | some registration =>
          cases failed : registration.backend.startFault with
          | some reason => simp only [failed]
          | none =>
              have same : (startNames rest (left.mark name registration true)).2 =
                  (startNames rest (right.mark name registration true)).2 := by
                refine inductionHypothesis fun other member => ?_
                rw [pending?_mark, pending?_mark, later other member]
              simp only [failed, same]

/-- Starting goes on behind a backend that does not fail to start. -/
theorem startNames_cons (alone : name ∉ rest)
    (starts : ∀ reason, ¬ registry.FailsToStart name reason) :
    (startNames (name :: rest) registry).2 =
      ((registry.pendingNames [name]).map .start ++ (startNames rest registry).2.1,
        (startNames rest registry).2.2) := by
  rw [startNames, pendingNames]
  cases pending : registry.pending? name with
  | none => simp [pending]
  | some registration =>
      have succeeds : registration.backend.startFault = none := by
        refine Option.eq_none_iff_forall_ne_some.mpr fun reason failed => ?_
        exact starts reason (failsToStart_iff.mpr ⟨registration, pending, failed⟩)
      -- The name does not come up again, so marking it does not show in what follows.
      have same : (startNames rest (registry.mark name registration true)).2 =
          (startNames rest registry).2 := by
        refine startNames_congr fun other member => ?_
        rw [pending?_mark, if_neg]
        rintro rfl
        exact alone member
      simp [pending, succeeds, same]

/-- Starting ends at a backend that fails to start. -/
theorem startNames_of_fails (fails : registry.FailsToStart name reason) :
    (startNames (name :: rest) registry).2 =
      ([.start name], some (.startFailed name reason)) := by
  obtain ⟨registration, pending, failed⟩ := failsToStart_iff.mp fails
  simp only [startNames, pending, failed]

/-- Starting calls all backends of a list that wait for it, or those up to the first that fails. -/
theorem startNames_cases (distinct : names.Nodup) :
    ((∀ name ∈ names, ∀ reason, ¬ registry.FailsToStart name reason) ∧
      (startNames names registry).2 = ((registry.pendingNames names).map .start, none)) ∨
    ∃ before name after reason, names = before ++ name :: after ∧
      (∀ other ∈ before, ∀ reason, ¬ registry.FailsToStart other reason) ∧
      registry.FailsToStart name reason ∧
      (startNames names registry).2 =
        ((registry.pendingNames before ++ [name]).map .start,
          some (.startFailed name reason)) := by
  induction names with
  | nil => exact .inl ⟨nofun, rfl⟩
  | cons first rest inductionHypothesis =>
      obtain ⟨alone, distinct⟩ := List.nodup_cons.mp distinct
      by_cases fails : ∃ reason, registry.FailsToStart first reason
      · obtain ⟨reason, fails⟩ := fails
        exact .inr ⟨[], first, rest, reason, rfl, nofun, fails, startNames_of_fails fails⟩
      have starts : ∀ reason, ¬ registry.FailsToStart first reason := not_exists.mp fails
      rw [startNames_cons alone starts]
      rcases inductionHypothesis distinct with
        ⟨others, result⟩ | ⟨before, name, after, reason, rfl, others, failed, result⟩
      · refine .inl ⟨List.forall_mem_cons.mpr ⟨starts, others⟩, ?_⟩
        rw [result, pendingNames_cons first rest, List.map_append]
      · refine .inr ⟨first :: before, name, after, reason, rfl,
          List.forall_mem_cons.mpr ⟨starts, others⟩, failed, ?_⟩
        rw [result, pendingNames_cons first before, List.append_assoc, ← List.map_append]

/-- Where no backend waits to be started, nothing is done. -/
theorem startNames_of_idle (idle : ∀ name ∈ names, ¬ registry.IsPending name) :
    startNames names registry = (registry, [], none) := by
  induction names with
  | nil => rfl
  | cons name rest inductionHypothesis =>
      obtain ⟨first, later⟩ := List.forall_mem_cons.mp idle
      have passed : registry.pending? name = none := by
        rw [← Option.not_isSome_iff_eq_none, Option.isSome_iff_exists, ← isPending_iff]
        exact first
      simp only [startNames, passed, inductionHypothesis later]

/-- In a list in order, the names in front of one are those that are smaller. -/
theorem mem_before_iff (sorted : (before ++ name :: after).Pairwise (· < ·)) {other : String} :
    other ∈ before ↔ other ∈ before ++ name :: after ∧ other < name := by
  obtain ⟨_, behind, smaller⟩ := List.pairwise_append.mp sorted
  constructor
  · intro member
    exact ⟨List.mem_append_left _ member, smaller other member name List.mem_cons_self⟩
  · rintro ⟨member, less⟩
    rcases List.mem_append.mp member with front | member
    · exact front
    rcases List.mem_cons.mp member with rfl | later
    · exact absurd less (String.lt_irrefl _)
    · exact absurd less (String.lt_asymm ((List.pairwise_cons.mp behind).1 other later))

end Walk

section Names

variable {name reason : String}

/-- The registered names are listed in the order of their bytes, so none is listed twice. -/
theorem pairwise_names (registry : Registry σ) : registry.names.Pairwise Text.Precedes :=
  registry.registrations.pairwise_names.imp Text.precedes_iff.mpr

/-- A backend that waits to be started is registered. -/
theorem IsPending.mem_names (pending : registry.IsPending name) : name ∈ registry.names := by
  obtain ⟨registration, found⟩ := isPending_iff.mp pending
  exact mem_names_iff.mpr ⟨registration, (pending?_eq_some_iff.mp found).1⟩

/-- A backend that would fail waits to be started. -/
theorem FailsToStart.isPending (fails : registry.FailsToStart name reason) :
    registry.IsPending name := by
  obtain ⟨idle, backend, registered, enabled, _⟩ := fails
  exact ⟨idle, backend, registered, enabled⟩

/-- The calls that `startAll` makes, and how it ends: it follows the list of the names. -/
theorem startAll_calls (registry : Registry σ) :
    ((∀ name reason, ¬ registry.FailsToStart name reason) ∧
      ∃ names : List String, registry.startAll.2 = (names.map .start, none) ∧
        names.Sublist registry.names ∧ ∀ name, name ∈ names ↔ registry.IsPending name) ∨
    ∃ name reason, registry.FirstToFail name reason ∧
      ∃ names : List String,
        registry.startAll.2 = ((names ++ [name]).map .start, some (.startFailed name reason)) ∧
        (names ++ [name]).Sublist registry.names ∧
        ∀ other, other ∈ names ↔ registry.IsPending other ∧ Text.Precedes other name := by
  have result : registry.startAll.2 = (startNames registry.names registry).2 := rfl
  have sorted : registry.names.Pairwise (· < ·) := registry.registrations.pairwise_names
  rw [result]
  rcases startNames_cases registry.nodup_names with
    ⟨starts, calls⟩ | ⟨before, name, after, reason, split, starts, fails, calls⟩
  · refine .inl ⟨fun name reason fails => starts name fails.isPending.mem_names reason fails, ?_⟩
    refine ⟨registry.pendingNames registry.names, calls, List.filter_sublist, fun name => ?_⟩
    rw [mem_pendingNames]
    exact and_iff_right_of_imp IsPending.mem_names
  · have front {other : String} : other ∈ before ↔ other ∈ registry.names ∧ other < name := by
      rw [split] at sorted ⊢
      exact mem_before_iff sorted
    refine .inr ⟨name, reason, ⟨fails, ?_⟩, registry.pendingNames before, calls, ?_, ?_⟩
    · intro other otherReason failsToo
      by_cases less : other < name
      · have member := front.mpr ⟨failsToo.isPending.mem_names, less⟩
        exact absurd failsToo (starts other member otherReason)
      by_cases same : other = name
      · exact .inl same
      · exact .inr (Text.precedes_of_not_precedes (mt Text.precedes_iff.mp less) same)
    · rw [split]
      exact List.filter_sublist.append (List.singleton_sublist.mpr List.mem_cons_self)
    · intro other
      rw [mem_pendingNames, front, Text.precedes_iff]
      constructor
      · rintro ⟨⟨_, less⟩, pending⟩
        exact ⟨pending, less⟩
      · rintro ⟨pending, less⟩
        exact ⟨⟨pending.mem_names, less⟩, pending⟩

/-- What `startAll` does to a backend: nothing, or a call where it waits for one. -/
theorem startAll_cases (registry : Registry σ) (name : String) :
    (.start name ∉ registry.startAll.2.1 ∧
      registry.startAll.1.registrations.get? name = registry.registrations.get? name) ∨
    (.start name ∈ registry.startAll.2.1 ∧
      ∃ registration, registry.pending? name = some registration ∧
        registry.startAll.1.registrations.get? name = some { registration with
          started := registration.backend.startFault.isNone }) := by
  have called : .start name ∈ registry.startAll.2.1 ↔
      .start name ∈ callsTo name registry.startAll.2.1 := by
    simp [callsTo, LifecycleCall.name]
  have one := startsOne_startAll registry name
  rw [called]
  generalize callsTo name registry.startAll.2.1 = calls at one
  cases one with
  | left same => exact .inl ⟨List.not_mem_nil, same⟩
  | called registered idle enabled result =>
      exact .inr ⟨List.mem_singleton_self _, _,
        pending?_eq_some_iff.mpr ⟨registered, idle, enabled⟩, result⟩

/-- Only a backend that waits for it is started. -/
theorem isPending_of_called (called : .start name ∈ registry.startAll.2.1) :
    registry.IsPending name := by
  rcases startAll_cases registry name with ⟨uncalled, _⟩ | ⟨_, registration, pending, _⟩
  · exact absurd called uncalled
  · exact isPending_iff.mpr ⟨registration, pending⟩

/-- A backend runs afterwards if it ran before, or was called and did not fail. -/
theorem isStarted_startAll_iff :
    registry.startAll.1.isStarted name = true ↔
      registry.isStarted name = true ∨
        .start name ∈ registry.startAll.2.1 ∧ ∀ reason, ¬ registry.FailsToStart name reason := by
  rcases startAll_cases registry name with
    ⟨uncalled, same⟩ | ⟨called, registration, pending, result⟩
  · simp [isStarted, same, uncalled]
  · obtain ⟨registered, idle, _⟩ := pending?_eq_some_iff.mp pending
    simp [isStarted, registered, result, idle, failsToStart_iff, pending, called,
      Option.eq_none_iff_forall_ne_some]

/-- The backends that run only afterwards are those that were called and did not fail. -/
theorem newlyStarted_iff :
    registry.isStarted name = false ∧ registry.startAll.1.isStarted name = true ↔
      .start name ∈ registry.startAll.2.1 ∧ ∀ reason, ¬ registry.FailsToStart name reason := by
  rw [isStarted_startAll_iff]
  constructor
  · rintro ⟨idle, running | started⟩
    · exact absurd running (Bool.eq_false_iff.mp idle)
    · exact started
  · intro started
    exact ⟨(isPending_of_called started.1).1, .inr started⟩

/-- A backend that is not called, or fails, runs afterwards just if it ran before. -/
theorem isStarted_startAll_eq (unstarted : .start name ∈ registry.startAll.2.1 →
      ∃ reason, registry.FailsToStart name reason) :
    registry.startAll.1.isStarted name = registry.isStarted name := by
  rw [Bool.eq_iff_iff, isStarted_startAll_iff]
  constructor
  · rintro (running | ⟨called, starts⟩)
    · exact running
    · obtain ⟨reason, fails⟩ := unstarted called
      exact absurd fails (starts reason)
  · exact .inl

/-- A backend that takes calls runs afterwards, if it is called where it waits for that, and does
not fail. -/
theorem isStarted_of_enabled {backend : Backend σ}
    (registered : registry.get? name = some backend) (enabled : backend.enabled = true)
    (starts : ∀ reason, ¬ registry.FailsToStart name reason)
    (called : registry.IsPending name → .start name ∈ registry.startAll.2.1) :
    registry.startAll.1.isStarted name = true := by
  rw [isStarted_startAll_iff]
  cases running : registry.isStarted name with
  | true => exact .inl rfl
  | false => exact .inr ⟨called ⟨running, backend, registered, enabled⟩, starts⟩

end Names

/-- Nothing is called but backends that wait to be started, and none is exchanged for another. -/
structure StartsOnlyPending (registry : Registry σ) : Prop where
  isPending : ∀ call ∈ registry.startAll.2.1, ∃ name, call = .start name ∧ registry.IsPending name
  get?_eq : ∀ name, registry.startAll.1.get? name = registry.get? name

/-- All backends that wait to be started are. -/
structure StartsEvery (registry : Registry σ) : Prop where
  fault_eq : registry.startAll.2.2 = none
  isStarted : ∀ name backend, registry.get? name = some backend → backend.enabled = true →
    registry.startAll.1.isStarted name = true
  /-- The backends that did not run before are called in the order of their names, each once. -/
  calls : ∃ names : List String, registry.startAll.2.1 = names.map .start ∧
    names.Pairwise Text.Precedes ∧
    ∀ name, name ∈ names ↔
      registry.isStarted name = false ∧ registry.startAll.1.isStarted name = true
  /-- Nothing is left to start. -/
  again : registry.startAll.1.startAll = (registry.startAll.1, [], none)

/-- Starting ends with the failure of a backend. -/
structure StopsAt (registry : Registry σ) (name reason : String) : Prop where
  fault_eq : registry.startAll.2.2 = some (.startFailed name reason)
  isStarted : ∀ other backend, registry.get? other = some backend → backend.enabled = true →
    Text.Precedes other name → registry.startAll.1.isStarted other = true
  kept : ∀ other, other = name ∨ Text.Precedes name other →
    registry.startAll.1.isStarted other = registry.isStarted other
  uncalled : ∀ other, Text.Precedes name other → .start other ∉ registry.startAll.2.1
  /-- The backends that were started are called in the order of their names, each once, and at
  last the one that failed. -/
  calls : ∃ names : List String, registry.startAll.2.1 = (names ++ [name]).map .start ∧
    (names ++ [name]).Pairwise Text.Precedes ∧
    ∀ other, other ∈ names ↔
      registry.isStarted other = false ∧ registry.startAll.1.isStarted other = true

section Outcome

variable {names : List String} {name reason : String}

/-- When starts are all that is called, they are called on pending backends and nothing is
exchanged. -/
theorem startsOnlyPending (calls : registry.startAll.2.1 = names.map .start) :
    registry.StartsOnlyPending where
  isPending := by
    intro call made
    obtain ⟨name, _, rfl⟩ := List.mem_map.mp (calls ▸ made)
    exact ⟨name, rfl, isPending_of_called made⟩
  get?_eq := get?_startAll registry

/-- Where no start fails and the pending backends are called as they are listed, all of them are
started. -/
theorem startsEvery (starts : ∀ name reason, ¬ registry.FailsToStart name reason)
    (result : registry.startAll.2 = (names.map .start, none))
    (listed : names.Sublist registry.names)
    (waiting : ∀ name, name ∈ names ↔ registry.IsPending name) : registry.StartsEvery := by
  have called : ∀ {name}, .start name ∈ registry.startAll.2.1 ↔ name ∈ names := by
    simp [result]
  have isStarted : ∀ name backend, registry.get? name = some backend → backend.enabled = true →
      registry.startAll.1.isStarted name = true := by
    intro name backend registered enabled
    refine isStarted_of_enabled registered enabled (starts name) fun pending => ?_
    exact called.mpr ((waiting name).mpr pending)
  constructor
  case fault_eq => rw [result]
  case isStarted => exact isStarted
  case calls =>
    refine ⟨names, by rw [result], registry.pairwise_names.sublist listed, fun name => ?_⟩
    rw [newlyStarted_iff, called]
    exact (and_iff_left (starts name)).symm
  case again =>
    refine startNames_of_idle fun name _ pending => ?_
    obtain ⟨idle, backend, registered, enabled⟩ := pending
    rw [get?_startAll] at registered
    exact Bool.eq_false_iff.mp idle (isStarted name backend registered enabled)

/-- Where the call on one backend fails and the pending ones before it have been called, starting
stops there. -/
theorem stopsAt (first : registry.FirstToFail name reason)
    (result : registry.startAll.2 =
      ((names ++ [name]).map .start, some (.startFailed name reason)))
    (listed : (names ++ [name]).Sublist registry.names)
    (waiting : ∀ other, other ∈ names ↔ registry.IsPending other ∧ Text.Precedes other name) :
    registry.StopsAt name reason := by
  obtain ⟨fails, least⟩ := first
  have called : ∀ {other}, .start other ∈ registry.startAll.2.1 ↔ other ∈ names ∨ other = name := by
    simp [result]
  have starts : ∀ {other}, Text.Precedes other name →
      ∀ otherReason, ¬ registry.FailsToStart other otherReason := by
    intro other smaller otherReason failsToo
    rcases least other otherReason failsToo with rfl | greater
    · exact Text.not_precedes_self _ smaller
    · exact greater.asymm smaller
  have uncalled : ∀ other, Text.Precedes name other → .start other ∉ registry.startAll.2.1 := by
    intro other greater made
    rcases called.mp made with member | rfl
    · exact greater.asymm ((waiting other).mp member).2
    · exact Text.not_precedes_self _ greater
  constructor
  case fault_eq => rw [result]
  case isStarted =>
    intro other backend registered enabled smaller
    refine isStarted_of_enabled registered enabled (starts smaller) fun pending => ?_
    exact called.mpr (.inl ((waiting other).mpr ⟨pending, smaller⟩))
  case kept =>
    rintro other (rfl | greater)
    · exact isStarted_startAll_eq fun _ => ⟨reason, fails⟩
    · exact isStarted_startAll_eq fun made => absurd made (uncalled other greater)
  case uncalled => exact uncalled
  case calls =>
    refine ⟨names, by rw [result], registry.pairwise_names.sublist listed, fun other => ?_⟩
    rw [newlyStarted_iff, called]
    constructor
    · intro member
      exact ⟨.inl member, starts ((waiting other).mp member).2⟩
    · rintro ⟨member | rfl, startsToo⟩
      · exact member
      · exact absurd fails (startsToo reason)

end Outcome

/-- What `startAll` does is told by the names of the backends: it starts all that wait for it, or,
where some of these would fail, those in front of the least name among them. -/
theorem startAll_goes_by_names (registry : Registry σ) :
    registry.StartsOnlyPending ∧
      ((∀ name reason, ¬ registry.FailsToStart name reason) ∧ registry.StartsEvery ∨
        ∃ name reason, registry.FirstToFail name reason ∧ registry.StopsAt name reason) := by
  rcases startAll_calls registry with
    ⟨starts, names, result, listed, waiting⟩ |
    ⟨name, reason, first, names, result, listed, waiting⟩
  · refine ⟨startsOnlyPending (congrArg (·.1) result), .inl ⟨starts, ?_⟩⟩
    exact startsEvery starts result listed waiting
  · refine ⟨startsOnlyPending (congrArg (·.1) result), .inr ⟨name, reason, first, ?_⟩⟩
    exact stopsAt first result listed waiting

/-- Of two backends that would fail, the one is reached whose name has the smaller bytes, although
it was registered later. A backend in front of it is started, one that takes no calls or runs
already is not. -/
theorem startAll_goes_by_names_bytes :
    let backend (name : String) (enabled : Bool) (startFault : Option String) : Backend Unit :=
      { kind := "", name, enabled, tools := .ok [], execute := fun _ _ _ _ _ => none,
        startFault, stopFault := none }
    let registry : Registry Unit := ⟨.ofList [
      ("😀", ⟨backend "😀" true (some "broken"), false⟩),
      ("running", ⟨backend "running" true (some "port in use"), true⟩),
      ("～", ⟨backend "～" true (some "busy"), false⟩),
      ("tape", ⟨backend "tape" true none, false⟩),
      ("disabled", ⟨backend "disabled" false (some "absent"), false⟩)]⟩
    registry.names = ["disabled", "running", "tape", "～", "😀"] ∧
      registry.FirstToFail "～" "busy" ∧ registry.StopsAt "～" "busy" ∧
      registry.StartsOnlyPending := by
  intro backend registry
  have fails : registry.FailsToStart "～" "busy" := ⟨rfl, _, rfl, rfl, rfl⟩
  have result : registry.startAll.2.2 = some (.startFailed "～" "busy") := by
    decide +kernel
  obtain ⟨only, ⟨starts, _⟩ | ⟨name, reason, first, stops⟩⟩ := startAll_goes_by_names registry
  · exact absurd fails (starts _ _)
  · cases stops.fault_eq.symm.trans result
    exact ⟨rfl, first, stops, only⟩

end Registry

end TapeDebugger
