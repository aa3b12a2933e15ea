import Mathlib.Algebra.BigOperators.Ring.List
import Mathlib.Algebra.Ring.Nat
import SendspinConformance.Base.Numbering
import SendspinConformance.Base.Runs
import SendspinConformance.Harness.Matrix

set_option autoImplicit false

namespace Conformance.Matrix

open Base Python

-- The scenario, server and client of a case.
abbrev Pairing := String × String × String

def caseOf (slotIndex : Nat) (pairing : Pairing) : ListedCase :=
  ⟨slotIndex, pairing.1, pairing.2.1, pairing.2.2⟩

def nameOf (environmentId : String) (pairing : Pairing) : String :=
  environmentId ++ "__" ++ pairing.1 ++ "__" ++ pairing.2.1 ++ "__to__" ++ pairing.2.2

-- How many cases the selected servers and clients give.
def scheduledCount [UnicodeData] (registry : Registry) (serverNames clientNames : List String) : Nat :=
  (registry.scenarios.map fun scenario =>
    (implementationsForScenario registry .server scenario serverNames).length).sum *
    (implementationsWithRole registry .client clientNames).length

-- Every server and client that meet in a case were selected once.
def MeetOnce [UnicodeData] (registry : Registry) (serverNames clientNames : List String) : Prop :=
  ∀ scenario ∈ registry.scenarios, ∀ server ∈ serverNames, ∀ client ∈ clientNames,
    roleSupportsScenario registry server .server scenario = true → hasRole registry .client client = true →
      serverNames.count server = 1 ∧ clientNames.count client = 1

section pairings

variable [UnicodeData] (registry : Registry) (serverNames clientNames : List String)

def scenarioPairings (scenario : ScenarioSpec) : List Pairing :=
  (implementationsForScenario registry .server scenario serverNames ×ˢ
    implementationsWithRole registry .client clientNames).map (Prod.mk scenario.id)

def pairings : List Pairing := registry.scenarios.flatMap (scenarioPairings registry serverNames clientNames)

omit [UnicodeData] in
theorem add_server_numbers (scenarioId : String) (clientImpls : List String) (state : List ListedCase × Nat)
    (serverImpl : String) :
    addServer clientImpls scenarioId state serverImpl =
      ((clientImpls.map (Prod.mk serverImpl)).map (Prod.mk scenarioId)).foldl (numberNext caseOf) state := by
  rw [List.foldl_map, List.foldl_map]
  rfl

theorem add_scenario_numbers (state : List ListedCase × Nat) (scenario : ScenarioSpec) :
    addScenario registry serverNames (implementationsWithRole registry .client clientNames) state scenario =
      (scenarioPairings registry serverNames clientNames scenario).foldl (numberNext caseOf) state := by
  have each : addServer (implementationsWithRole registry .client clientNames) scenario.id =
      fun state server => (((implementationsWithRole registry .client clientNames).map (Prod.mk server)).map
        (Prod.mk scenario.id)).foldl (numberNext caseOf) state := by
    funext state server
    exact add_server_numbers scenario.id _ state server
  rw [addScenario, each, ← List.foldl_flatMap, ← List.map_flatMap]
  rfl

theorem scenarios_numbered :
    (registry.scenarios.foldl
      (addScenario registry serverNames (implementationsWithRole registry .client clientNames)) ([], 0)).1 =
      ((pairings registry serverNames clientNames).zipIdx).map fun entry => caseOf entry.2 entry.1 := by
  have each : addScenario registry serverNames (implementationsWithRole registry .client clientNames) =
      fun state scenario => (scenarioPairings registry serverNames clientNames scenario).foldl
        (numberNext caseOf) state := by
    funext state scenario
    exact add_scenario_numbers registry serverNames clientNames state scenario
  rw [each, ← List.foldl_flatMap, fold_numbered]
  rfl

theorem pairings_length : (pairings registry serverNames clientNames).length =
    scheduledCount registry serverNames clientNames := by
  rw [pairings, List.length_flatMap, scheduledCount, ← List.sum_map_mul_right]
  refine congrArg List.sum (List.map_congr_left fun scenario _ => ?_)
  rw [scenarioPairings, List.length_map, List.length_product]

omit [UnicodeData] in
theorem filter_once_iff (names : List String) (keeps : String → Bool) :
    (names.filter keeps).Nodup ↔ ∀ name ∈ names, keeps name = true → names.count name = 1 := by
  rw [List.nodup_iff_count_eq_one]
  simp only [List.mem_filter, and_imp]
  refine forall_congr' fun name => forall_congr' fun _ => forall_congr' fun kept => ?_
  rw [List.count_filter kept]

theorem nodup_pairings_iff : (pairings registry serverNames clientNames).Nodup ↔
    MeetOnce registry serverNames clientNames := by
  have scenariosApart : registry.scenarios.Pairwise
      (Function.onFun List.Disjoint (scenarioPairings registry serverNames clientNames)) := by
    refine (List.pairwise_map.mp registry.idsDistinct).imp fun {first second} different => ?_
    intro pairing inFirst inSecond
    obtain ⟨_, _, fromFirst⟩ := List.mem_map.mp inFirst
    obtain ⟨_, _, fromSecond⟩ := List.mem_map.mp inSecond
    exact different ((congrArg Prod.fst fromFirst).trans (congrArg Prod.fst fromSecond).symm)
  rw [pairings, List.nodup_flatMap, and_iff_left scenariosApart, MeetOnce]
  refine forall_congr' fun scenario => forall_congr' fun _ => ?_
  rw [scenarioPairings, List.nodup_map_iff (fun _ _ same => congrArg Prod.snd same), nodup_product_iff,
    implementationsForScenario, implementationsWithRole, filter_once_iff, filter_once_iff,
    List.filter_eq_nil_iff, List.filter_eq_nil_iff]
  apply Iff.intro
  · intro ⟨serversOnce, clientsOnce⟩ server isServer client isClient supports plays
    apply And.intro
    · cases serversOnce with
      | inl absent => exact absurd plays (absent client isClient)
      | inr once => exact once server isServer supports
    · cases clientsOnce with
      | inl absent => exact absurd supports (absent server isServer)
      | inr once => exact once client isClient plays
  · intro once
    apply And.intro
    · by_cases absent : ∀ client ∈ clientNames, ¬hasRole registry .client client = true
      · exact Or.inl absent
      · push Not at absent
        obtain ⟨client, isClient, plays⟩ := absent
        exact Or.inr fun server isServer supports => (once server isServer client isClient supports plays).1
    · by_cases absent : ∀ server ∈ serverNames, ¬roleSupportsScenario registry server .server scenario = true
      · exact Or.inl absent
      · push Not at absent
        obtain ⟨server, isServer, supports⟩ := absent
        exact Or.inr fun client isClient plays => (once server isServer client isClient supports plays).2

end pairings

section names

theorem split_last (front other back rest : List Char) (plainBack : '_' ∉ back) (plainRest : '_' ∉ rest)
    (same : front ++ '_' :: back = other ++ '_' :: rest) : front = other ∧ back = rest := by
  rcases List.append_eq_append_iff.mp same with ⟨gap, isOther, isBack⟩ | ⟨gap, isFront, isRest⟩
  · cases gap with
    | nil => simp_all
    | cons char gap =>
        obtain ⟨_, isBack⟩ := List.cons.inj isBack
        exact absurd (isBack ▸ List.mem_append_right gap List.mem_cons_self) plainBack
  · cases gap with
    | nil => simp_all
    | cons char gap =>
        obtain ⟨_, isRest⟩ := List.cons.inj isRest
        exact absurd (isRest ▸ List.mem_append_right gap List.mem_cons_self) plainRest

theorem name_characters (environmentId : String) (pairing : Pairing) :
    (nameOf environmentId pairing).toList =
      ((environmentId.toList ++ ['_', '_'] ++ pairing.1.toList ++ ['_']) ++ '_' :: pairing.2.1.toList ++
        ['_', '_', 't', 'o', '_']) ++ '_' :: pairing.2.2.toList := by
  have separator : "__".toList = ['_', '_'] := rfl
  have toSeparator : "__to__".toList = ['_', '_', 't', 'o', '_', '_'] := rfl
  simp [nameOf, separator, toSeparator]

-- Names without the separator's underscore can be read back from a case name.
theorem name_of_injective (environmentId : String) (first second : Pairing)
    (plainFirst : '_' ∉ first.2.1.toList ∧ '_' ∉ first.2.2.toList)
    (plainSecond : '_' ∉ second.2.1.toList ∧ '_' ∉ second.2.2.toList)
    (same : nameOf environmentId first = nameOf environmentId second) : first = second := by
  have characters := congrArg String.toList same
  rw [name_characters, name_characters] at characters
  obtain ⟨front, sameClient⟩ := split_last _ _ _ _ plainFirst.2 plainSecond.2 characters
  obtain ⟨start, sameServer⟩ := split_last _ _ _ _ plainFirst.1 plainSecond.1 (List.append_cancel_right front)
  have sameScenario := List.append_cancel_left (List.append_cancel_right start)
  exact Prod.ext (String.toList_injective sameScenario)
    (Prod.ext (String.toList_injective sameServer) (String.toList_injective sameClient))

end names

section scheduled

variable [UnicodeData] (registry : Registry)

omit [UnicodeData] in
theorem found_plain (name : String) (spec : ImplementationSpec) (found : registry.find name = some spec) :
    '_' ∉ name.toList := by
  have same : spec.name = name := by simpa using List.find?_some found
  rw [← same]
  exact registry.namesPlain spec (List.mem_of_find?_eq_some found)

omit [UnicodeData] in
theorem role_plain (role : RoleName) (name : String) (plays : hasRole registry role name = true) :
    '_' ∉ name.toList := by
  rw [hasRole] at plays
  cases found : registry.find name with
  | none => simp [found] at plays
  | some spec => exact found_plain registry name spec found

theorem supporting_plain (role : RoleName) (name : String) (scenario : ScenarioSpec)
    (supports : roleSupportsScenario registry name role scenario = true) : '_' ∉ name.toList := by
  rw [roleSupportsScenario] at supports
  cases found : registry.find name with
  | none => simp [found] at supports
  | some spec => exact found_plain registry name spec found

theorem pairings_plain (serverNames clientNames : List String) (pairing : Pairing)
    (listed : pairing ∈ pairings registry serverNames clientNames) :
    '_' ∉ pairing.2.1.toList ∧ '_' ∉ pairing.2.2.toList := by
  obtain ⟨scenario, _, inScenario⟩ := List.mem_flatMap.mp listed
  obtain ⟨⟨server, client⟩, met, isPairing⟩ := List.mem_map.mp inScenario
  obtain ⟨serves, plays⟩ := List.mem_product.mp met
  rw [← isPairing]
  exact ⟨supporting_plain registry .server server scenario (List.mem_filter.mp serves).2,
    role_plain registry .client client (List.mem_filter.mp plays).2⟩

omit [UnicodeData] in
theorem context_keeps (resultsDir : List String) (environmentId : String) (listed : ListedCase) (context : CaseContext)
    (made : caseContext registry resultsDir environmentId listed = .ok context) :
    context.caseDir = resultsDir ++ [nameOf environmentId (listed.scenarioId, listed.serverImpl, listed.clientImpl)] ∧
      context.slotIndex = listed.slotIndex := by
  rw [caseContext, requireScenario] at made
  cases found : registry.scenarios.find? fun scenario => scenario.id == listed.scenarioId with
  | none => simp [found, Except.map] at made
  | some scenario =>
      have same : scenario.id = listed.scenarioId := by simpa using List.find?_some found
      simp only [found, Except.map, Except.ok.injEq] at made
      rw [← made, ← same]
      exact ⟨rfl, rfl⟩

theorem listed_cases_ok (fromFilter toFilter : Option String) (serverNames clientNames : List String)
    (parsedFrom : parseImplementationFilter registry fromFilter = .ok serverNames)
    (parsedTo : parseImplementationFilter registry toFilter = .ok clientNames) :
    listedCases registry fromFilter toFilter =
      .ok (((pairings registry serverNames clientNames).zipIdx).map fun entry => caseOf entry.2 entry.1) := by
  rw [listedCases, parsedFrom, parsedTo, ← scenarios_numbered registry serverNames clientNames]
  rfl

-- What the gathered cases read of the list: their directories in order, and slots counted from 0.
theorem matrix_read (resultsDir : List String) (environmentId : String) (fromFilter toFilter : Option String)
    (jobs : Int) (serverNames clientNames : List String) (cases : List CaseContext)
    (parsedFrom : parseImplementationFilter registry fromFilter = .ok serverNames)
    (parsedTo : parseImplementationFilter registry toFilter = .ok clientNames)
    (ran : runMatrix registry resultsDir environmentId fromFilter toFilter jobs = .ok cases) :
    cases.map CaseContext.caseDir =
        (pairings registry serverNames clientNames).map
          (fun pairing => resultsDir ++ ["data"] ++ [nameOf environmentId pairing]) ∧
      cases.map CaseContext.slotIndex = List.range (scheduledCount registry serverNames clientNames) := by
  rw [runMatrix] at ran
  by_cases stopped : jobs ≤ 0
  · simp [stopped] at ran
  · rw [if_neg stopped, listed_cases_ok registry fromFilter toFilter serverNames clientNames parsedFrom parsedTo] at ran
    have dirs := map_steps_view _ CaseContext.caseDir _
      (fun listed context made => (context_keeps registry _ environmentId listed context made).1) _ _ ran
    have slots := map_steps_view _ CaseContext.slotIndex _
      (fun listed context made => (context_keeps registry _ environmentId listed context made).2) _ _ ran
    apply And.intro
    · rw [dirs]
      exact numbered_view caseOf _ _ (fun _ _ => rfl) _ 0
    · rw [slots, numbered_numbers caseOf _ (fun _ _ => rfl), pairings_length, List.range_eq_range']

theorem dirs_apart_iff (resultsDir : List String) (environmentId : String) (serverNames clientNames : List String) :
    ((pairings registry serverNames clientNames).map
      fun pairing => resultsDir ++ [nameOf environmentId pairing]).Nodup ↔
      MeetOnce registry serverNames clientNames := by
  rw [← nodup_pairings_iff]
  apply Iff.intro
  · exact List.Nodup.of_map _
  · intro once
    refine (List.nodup_map_iff_inj_on once).mpr ?_
    intro first isFirst second isSecond same
    have sameName : nameOf environmentId first = nameOf environmentId second := by
      simpa using List.append_cancel_left same
    exact name_of_injective environmentId first second (pairings_plain registry serverNames clientNames first isFirst)
      (pairings_plain registry serverNames clientNames second isSecond) sameName

omit [UnicodeData] in
theorem ports_apart_iff (cases : List CaseContext) (count : Nat)
    (slots : cases.map CaseContext.slotIndex = List.range count) :
    (cases.map CaseContext.serverPort ++ cases.map CaseContext.clientPort).Nodup ↔
      count ≤ clientPortBase - serverPortBase := by
  have serverPorts : cases.map CaseContext.serverPort = (List.range count).map (serverPortBase + ·) := by
    rw [← slots, List.map_map]
    rfl
  have clientPorts : cases.map CaseContext.clientPort =
      (List.range count).map (serverPortBase + (clientPortBase - serverPortBase) + ·) := by
    rw [← slots, List.map_map]
    rfl
  rw [serverPorts, clientPorts, blocks_apart]

-- A positive `jobs` and two accepted filters always give cases.
theorem matrix_runs (resultsDir : List String) (environmentId : String) (fromFilter toFilter : Option String)
    (jobs : Int) (positive : 0 < jobs) (serverNames clientNames : List String)
    (parsedFrom : parseImplementationFilter registry fromFilter = .ok serverNames)
    (parsedTo : parseImplementationFilter registry toFilter = .ok clientNames) :
    ∃ cases, runMatrix registry resultsDir environmentId fromFilter toFilter jobs = .ok cases := by
  rw [runMatrix, if_neg (by omega),
    listed_cases_ok registry fromFilter toFilter serverNames clientNames parsedFrom parsedTo]
  refine (map_steps_total _ _).mpr ?_
  intro listed isListed
  obtain ⟨⟨pairing, slotIndex⟩, numbered, isCase⟩ := List.mem_map.mp isListed
  obtain ⟨scenario, isScenario, inScenario⟩ := List.mem_flatMap.mp (List.fst_mem_of_mem_zipIdx numbered)
  obtain ⟨_, _, isPairing⟩ := List.mem_map.mp inScenario
  have known : (registry.scenarios.find? fun other => other.id == listed.scenarioId).isSome = true := by
    rw [List.find?_isSome]
    refine ⟨scenario, isScenario, ?_⟩
    rw [← isCase, caseOf, ← isPairing]
    exact beq_self_eq_true _
  obtain ⟨found, isFound⟩ := Option.isSome_iff_exists.mp known
  exact ⟨_, by rw [caseContext, requireScenario, isFound]; rfl⟩

-- Scheduled cases share no directory and no port exactly when the servers and clients that
-- meet were each selected once and the cases fit between the two port bases.
theorem cases_apart_iff (resultsDir : List String) (environmentId : String) (fromFilter toFilter : Option String)
    (jobs : Int) (serverNames clientNames : List String) (cases : List CaseContext)
    (parsedFrom : parseImplementationFilter registry fromFilter = .ok serverNames)
    (parsedTo : parseImplementationFilter registry toFilter = .ok clientNames)
    (ran : runMatrix registry resultsDir environmentId fromFilter toFilter jobs = .ok cases) :
    ((cases.map CaseContext.caseDir).Nodup ∧
      (cases.map CaseContext.serverPort ++ cases.map CaseContext.clientPort).Nodup) ↔
    (MeetOnce registry serverNames clientNames ∧ scheduledCount registry serverNames clientNames ≤ 1000) := by
  obtain ⟨dirs, slots⟩ := matrix_read registry resultsDir environmentId fromFilter toFilter jobs serverNames
    clientNames cases parsedFrom parsedTo ran
  rw [dirs, dirs_apart_iff, ports_apart_iff cases _ slots]
  rfl

end scheduled

-- One server named twice: its cases are scheduled twice under one name.
theorem repeated_server_collides :
    ∃ cases, @runMatrix noUnicode registry ["results"] "linux" (some "aiosendspin,aiosendspin")
        (some "sendspin-js") 8 = .ok cases ∧ ¬ (cases.map CaseContext.caseDir).Nodup := by
  have parsedFrom : parseImplementationFilter registry (some "aiosendspin,aiosendspin") =
      .ok ["aiosendspin", "aiosendspin"] := rfl
  have parsedTo : parseImplementationFilter registry (some "sendspin-js") = .ok ["sendspin-js"] := rfl
  obtain ⟨cases, ran⟩ := @matrix_runs noUnicode registry ["results"] "linux" _ _ 8 (by decide) _ _ parsedFrom parsedTo
  refine ⟨cases, ran, ?_⟩
  rw [(@matrix_read noUnicode registry ["results"] "linux" _ _ 8 _ _ cases parsedFrom parsedTo ran).1,
    @dirs_apart_iff noUnicode]
  intro once
  have scheduled : (⟨"client-initiated-pcm", .client, "pcm", [.player], false⟩ : ScenarioSpec) ∈ SCENARIO_LIST :=
    List.mem_cons_self
  have named := (once _ scheduled "aiosendspin" (by decide) "sendspin-js" (by decide)
    (by decide) (by decide)).1
  exact absurd named (by decide)

theorem single_selection_apart : ∃ cases, @runMatrix noUnicode registry ["results"] "linux" (some "aiosendspin")
    (some "sendspin-js") 8 = .ok cases ∧
    ((cases.map CaseContext.caseDir).Nodup ∧
      (cases.map CaseContext.serverPort ++ cases.map CaseContext.clientPort).Nodup) := by
  have parsedFrom : parseImplementationFilter registry (some "aiosendspin") = .ok ["aiosendspin"] := rfl
  have parsedTo : parseImplementationFilter registry (some "sendspin-js") = .ok ["sendspin-js"] := rfl
  obtain ⟨cases, ran⟩ := @matrix_runs noUnicode registry ["results"] "linux" _ _ 8 (by decide) _ _ parsedFrom parsedTo
  refine ⟨cases, ran, (@cases_apart_iff noUnicode registry ["results"] "linux" _ _ 8 _ _ cases
    parsedFrom parsedTo ran).mpr ⟨?_, by decide⟩⟩
  intro scenario _ server isServer client isClient _ _
  rw [List.mem_singleton.mp isServer, List.mem_singleton.mp isClient]
  exact ⟨by decide, by decide⟩

end Conformance.Matrix
