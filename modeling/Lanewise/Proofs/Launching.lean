import Mathlib.Data.List.Induction
import Mathlib.Data.List.Nodup
import Mathlib.Data.List.Perm.Subperm
import Mathlib.Logic.Relation
import Lanewise.Region.Launchers

/-!
# Launchers and chains of calls

The launchers of a program are found in rounds over its call graph. In which order a round visits the callers, and in
which order it looks at what they call, makes no difference: a `Schedule` gives every round an order of its own, and
`Ends` is the loop over these rounds. A round only ever adds names of the graph, so there is no room for more rounds
than the graph has entries (`exists_ends`), and the last one finds nothing new: what was found is closed under calls
(`Ends.closed`). The loop of a program takes the graph as it is in every round (`Program.launchers_ends`).

The graph has the calls of the last function under a name. If no name is declared twice, every function is in the
graph with all its calls, so a function is found as soon as some chain of calls leads from it to a go-for
(`Program.mem_launchers_of_reaches`).
-/

set_option autoImplicit false

namespace Lanewise

namespace Launchers

variable {graph : List (String × List String)} {found : List String}

/-! ### One caller -/

/-- A visit loses no name. -/
theorem subset_visit (entry : String × List String) : found ⊆ visit found entry := by
  intro name hname
  unfold visit
  split
  · exact List.mem_insert_of_mem hname
  · exact hname

/-- A visit adds no name twice. -/
theorem nodup_visit (entry : String × List String) (h : found.Nodup) : (visit found entry).Nodup := by
  unfold visit
  split
  · exact h.insert
  · exact h

/-- A visit adds the caller at most. -/
theorem mem_visit {entry : String × List String} {name : String} (h : name ∈ visit found entry) :
    name = entry.1 ∨ name ∈ found := by
  unfold visit at h
  split at h
  · exact List.mem_insert_iff.1 h
  · exact Or.inr h

/-- A visit does not shorten the list. -/
theorem length_le_visit (entry : String × List String) :
    found.length ≤ (visit found entry).length := by
  unfold visit
  split
  · exact List.length_le_length_insert
  · exact Nat.le_refl _

/-- A visit that adds nothing leaves what was found. -/
theorem visit_eq_of_length {entry : String × List String}
    (h : (visit found entry).length = found.length) : visit found entry = found := by
  by_cases hany : entry.2.any found.contains = true
  · rw [visit, if_pos hany] at h ⊢
    by_cases hmem : entry.1 ∈ found
    · exact List.insert_of_mem hmem
    · rw [List.length_insert_of_not_mem hmem] at h
      omega
  · rw [visit, if_neg hany]

/-- A visit adds the caller of a name that was found. -/
theorem mem_visit_of_call {entry : String × List String} {callee : String} (hcall : callee ∈ entry.2)
    (hcallee : callee ∈ found) : entry.1 ∈ visit found entry := by
  have hany : entry.2.any found.contains = true :=
    List.any_eq_true.2 ⟨callee, hcall, List.contains_iff_mem.2 hcallee⟩
  rw [visit, if_pos hany]
  exact List.mem_insert_self

/-! ### One round -/

/-- A round does not shorten the list. -/
theorem length_le_round : found.length ≤ (round graph found).length := by
  induction graph generalizing found with
  | nil => exact Nat.le_refl _
  | cons entry rest ih => exact Nat.le_trans (length_le_visit entry) ih

/-- A round loses no name. -/
theorem subset_round : found ⊆ round graph found := by
  induction graph generalizing found with
  | nil => exact fun _ h => h
  | cons entry rest ih => exact fun _ h => ih (subset_visit entry h)

/-- A round adds no name twice. -/
theorem nodup_round (h : found.Nodup) : (round graph found).Nodup := by
  induction graph generalizing found with
  | nil => exact h
  | cons entry rest ih => exact ih (nodup_visit entry h)

/-- A round adds callers of the graph at most. -/
theorem mem_round {name : String} (h : name ∈ round graph found) :
    name ∈ graph.map Prod.fst ∨ name ∈ found := by
  induction graph generalizing found with
  | nil => exact Or.inr h
  | cons entry rest ih =>
    rcases ih h with h | h
    · exact Or.inl (List.mem_cons_of_mem _ h)
    · rcases mem_visit h with rfl | h
      · exact Or.inl List.mem_cons_self
      · exact Or.inr h

/-- Whether every caller of what was found was found, too. -/
def Closed (graph : List (String × List String)) (found : List String) : Prop :=
  ∀ entry ∈ graph, ∀ callee ∈ entry.2, callee ∈ found → entry.1 ∈ found

/-- A round that finds nothing new shows that nothing is missing. -/
theorem closed_of_round_length (h : (round graph found).length = found.length) :
    Closed graph found := by
  induction graph generalizing found with
  | nil => exact fun entry hentry => by cases hentry
  | cons first rest ih =>
    have hround : (round rest (visit found first)).length = found.length := h
    have hrest : (visit found first).length ≤ (round rest (visit found first)).length := length_le_round
    have hfirst : found.length ≤ (visit found first).length := length_le_visit first
    have hsame : visit found first = found := visit_eq_of_length (by omega)
    rw [hsame] at hround
    intro entry hentry callee hcall hcallee
    rcases List.mem_cons.1 hentry with rfl | hentry
    · exact hsame ▸ mem_visit_of_call hcall hcallee
    · exact ih hround entry hentry callee hcall hcallee

section Induction

variable {P : String → Prop}

/-- What is true of the names before a visit, and of the caller if of a callee, is true after it. -/
theorem visit_induction {entry : String × List String} (start : ∀ name ∈ found, P name)
    (step : ∀ callee ∈ entry.2, P callee → P entry.1) : ∀ name ∈ visit found entry, P name := by
  intro name hname
  unfold visit at hname
  split at hname
  · rename_i hany
    rcases List.mem_insert_iff.1 hname with rfl | hname
    · obtain ⟨callee, hcallee, hfound⟩ := List.any_eq_true.1 hany
      exact step callee hcallee (start callee (List.contains_iff_mem.1 hfound))
    · exact start name hname
  · exact start name hname

/-- What is true of the names before a round, and of each caller if of a callee, is true after it. -/
theorem round_induction (start : ∀ name ∈ found, P name)
    (step : ∀ entry ∈ graph, ∀ callee ∈ entry.2, P callee → P entry.1) :
    ∀ name ∈ round graph found, P name := by
  induction graph generalizing found with
  | nil => exact start
  | cons entry rest ih =>
    rw [List.forall_mem_cons] at step
    exact ih (visit_induction start step.1) step.2

end Induction

/-! ### Orders of the graph -/

/-- Whether a list shows a call graph in some order: the same callers, each as often, with the same calls. Neither the
entries nor the names in an entry keep their order. -/
structure Lists (graph order : List (String × List String)) : Prop where
  callers : (order.map Prod.fst).Perm (graph.map Prod.fst)
  calls : ∀ caller callee, (∃ entry ∈ order, entry.1 = caller ∧ callee ∈ entry.2) ↔
    ∃ entry ∈ graph, entry.1 = caller ∧ callee ∈ entry.2

namespace Lists

variable {order : List (String × List String)} (h : Lists graph order)

include h

/-- What goes from callees to callers does so whatever the order. -/
theorem step_iff {P : String → Prop} :
    (∀ entry ∈ order, ∀ callee ∈ entry.2, P callee → P entry.1) ↔
      ∀ entry ∈ graph, ∀ callee ∈ entry.2, P callee → P entry.1 := by
  constructor
  · intro hstep entry hentry callee hcallee hP
    obtain ⟨listed, hlisted, hcaller, hcall⟩ := (h.calls entry.1 callee).2 ⟨entry, hentry, rfl, hcallee⟩
    rw [← hcaller]
    exact hstep listed hlisted callee hcall hP
  · intro hstep entry hentry callee hcallee hP
    obtain ⟨listed, hlisted, hcaller, hcall⟩ := (h.calls entry.1 callee).1 ⟨entry, hentry, rfl, hcallee⟩
    rw [← hcaller]
    exact hstep listed hlisted callee hcall hP

/-- A round in any order stays among the callers of the graph. -/
theorem round_subset (hnames : found ⊆ graph.map Prod.fst) : round order found ⊆ graph.map Prod.fst := by
  intro name hname
  rcases mem_round hname with hcaller | hfound
  · exact h.callers.subset hcaller
  · exact hnames hfound

end Lists

/-- No more names are found than the graph has entries, if they are callers and none is listed twice. -/
theorem length_le_graph (hnodup : found.Nodup) (hnames : found ⊆ graph.map Prod.fst) :
    found.length ≤ graph.length := by
  have hlength := (hnodup.subperm hnames).length_le
  rwa [List.length_map] at hlength

/-! ### The loop -/

/-- An order of the call graph for every round. -/
structure Schedule (graph : List (String × List String)) where
  order : Nat → List (String × List String)
  lists : ∀ k, Lists graph (order k)

/-- The schedule that takes the graph as it is in every round. -/
def Schedule.steady (graph : List (String × List String)) : Schedule graph where
  order := fun _ => graph
  lists := fun _ => ⟨.refl _, fun _ _ => Iff.rfl⟩

/-- The loop over the rounds of a schedule: from round `k` with the names `found`, it ends in round `n` with the names
`result`. A round that finds nothing new is the last one. -/
inductive Ends (schedule : Schedule graph) : Nat → List String → Nat → List String → Prop
  | last {k : Nat} {found : List String}
      (stops : (round (schedule.order k) found).length = found.length) : Ends schedule k found k found
  | next {k n : Nat} {found result : List String}
      (finds : (round (schedule.order k) found).length ≠ found.length)
      (rest : Ends schedule (k + 1) (round (schedule.order k) found) n result) : Ends schedule k found n result

/-- The loop ends, whatever the orders: each round before the last one finds a name of the graph that was not found
before, and there are no more names than entries. -/
theorem exists_ends (schedule : Schedule graph) (k : Nat) {found : List String} (hnodup : found.Nodup)
    (hnames : found ⊆ graph.map Prod.fst) :
    ∃ n result, n + found.length ≤ k + graph.length ∧ Ends schedule k found n result := by
  have hroom : found.length ≤ graph.length := length_le_graph hnodup hnames
  by_cases hstops : (round (schedule.order k) found).length = found.length
  · exact ⟨k, found, by omega, .last hstops⟩
  · have hgrows : found.length ≤ (round (schedule.order k) found).length := length_le_round
    have hnodup' : (round (schedule.order k) found).Nodup := nodup_round hnodup
    have hnames' := (schedule.lists k).round_subset hnames
    have hroom' := length_le_graph hnodup' hnames'
    obtain ⟨n, result, hn, hends⟩ := exists_ends schedule (k + 1) hnodup' hnames'
    exact ⟨n, result, by omega, .next hstops hends⟩
termination_by graph.length - found.length
decreasing_by omega

namespace Ends

variable {schedule : Schedule graph} {k n : Nat} {result : List String}

/-- The loop does not end before the round in which it starts. -/
theorem le (h : Ends schedule k found n result) : k ≤ n := by
  induction h with
  | last => exact Nat.le_refl _
  | next _ _ ih => omega

/-- The loop keeps the names that it starts with. -/
theorem subset (h : Ends schedule k found n result) : found ⊆ result := by
  induction h with
  | last => exact fun _ hname => hname
  | next _ _ ih => exact fun _ hname => ih (subset_round hname)

/-- The loop ends with a set that is closed under callers. -/
theorem closed (h : Ends schedule k found n result) : Closed graph result := by
  induction h with
  | last hstops => exact (schedule.lists _).step_iff.1 (closed_of_round_length hstops)
  | next _ _ ih => exact ih

/-- What is true of the names at the start, and of a caller if it is true of what it calls, is true of all names
that are found. -/
theorem forall_result {P : String → Prop} (h : Ends schedule k found n result) (start : ∀ name ∈ found, P name)
    (step : ∀ entry ∈ graph, ∀ callee ∈ entry.2, P callee → P entry.1) : ∀ name ∈ result, P name := by
  induction h with
  | last => exact start
  | next _ _ ih => exact ih (round_induction start ((schedule.lists _).step_iff.2 step))

/-- With fuel for all rounds, saturation gives what the loop ends with. -/
theorem saturate_eq (h : Ends (.steady graph) k found n result) {fuel : Nat} (hfuel : n ≤ k + fuel) :
    saturate graph fuel found = result := by
  induction h generalizing fuel with
  | last hstops =>
    cases fuel with
    | zero => rfl
    | succ fuel =>
      rw [saturate]
      exact if_pos hstops
  | next hfinds hrest ih =>
    have hle := hrest.le
    cases fuel with
    | zero => omega
    | succ fuel =>
      rw [saturate]
      exact (if_neg hfinds).trans (ih (by omega))

end Ends

end Launchers

/-! ### The call graph of a program -/

section Entries

variable {κ α : Type} [DecidableEq κ]

/-- An insertion replaces the entries of its key and keeps all others. -/
theorem Assoc.mem_insert_entries {m : Assoc κ α} {key other : κ} {value found : α} :
    (other, found) ∈ (m.insert key value).entries ↔
      if key = other then value = found else (other, found) ∈ m.entries := by
  by_cases hkey : key = other
  · subst hkey
    simp [Assoc.insert, eq_comm]
  · have hother : other ≠ key := fun h => hkey h.symm
    simp [Assoc.insert, hkey, hother]

/-- The map of some entries has the last entry of each key. -/
theorem Assoc.mem_entries_ofList {list : List (κ × α)} {key : κ} {value : α} :
    (key, value) ∈ (Assoc.ofList list).entries ↔
      list.reverse.find? (fun entry => entry.1 = key) = some (key, value) := by
  induction list using List.reverseRecOn with
  | nil => simp [Assoc.ofList, Assoc.empty]
  | append_singleton list entry ih =>
    have hofList : Assoc.ofList (list ++ [entry]) = (Assoc.ofList list).insert entry.1 entry.2 := by
      simp [Assoc.ofList]
    rw [hofList, Assoc.mem_insert_entries, List.reverse_concat, List.find?_cons]
    by_cases hkey : entry.1 = key
    · subst hkey
      simp [Prod.ext_iff]
    · simp [hkey, ih]

end Entries

/-- The last function that is declared under a name. -/
def Program.lastDeclared? (p : Program) (name : String) : Option Function :=
  p.functions.reverse.find? fun f => f.name.text = name

section Graph

variable {p : Program}

/-- The last function under a name is a function of the program with that name. -/
theorem Program.of_lastDeclared? {name : String} {f : Function} (h : p.lastDeclared? name = some f) :
    f ∈ p.functions ∧ f.name.text = name := by
  constructor
  · exact List.mem_reverse.1 (List.mem_of_find?_eq_some h)
  · simpa using List.find?_some h

/-- A name that is declared has a last declaration. -/
theorem Program.exists_lastDeclared {f : Function} (hf : f ∈ p.functions) :
    ∃ last, p.lastDeclared? f.name.text = some last := by
  apply Option.isSome_iff_exists.1
  rw [Program.lastDeclared?, List.find?_isSome]
  exact ⟨f, List.mem_reverse.2 hf, by simp⟩

/-- The call graph has the calls of the last function under each name. -/
theorem Program.mem_callGraph_iff {name : String} {callees : List String} :
    (name, callees) ∈ p.callGraph.entries ↔ ∃ f, p.lastDeclared? name = some f ∧ f.callees = callees := by
  rw [Program.callGraph, Assoc.mem_entries_ofList, ← List.map_reverse, List.find?_map, Option.map_eq_some_iff]
  refine exists_congr fun f => and_congr_right fun hfind => ?_
  have hname : f.name.text = name := (Program.of_lastDeclared? hfind).2
  simp [hname]

/-- If no name is declared twice, every function is in the call graph with all its calls. -/
theorem Program.mem_callGraph (hnames : (p.functions.map fun f => f.name.text).Nodup) {f : Function}
    (hf : f ∈ p.functions) : (f.name.text, f.callees) ∈ p.callGraph.entries := by
  obtain ⟨last, hlast⟩ := Program.exists_lastDeclared hf
  obtain ⟨hmem, hname⟩ := Program.of_lastDeclared? hlast
  have hsame : last = f := List.inj_on_of_nodup_map hnames hmem hf hname
  exact Program.mem_callGraph_iff.2 ⟨last, hlast, by rw [hsame]⟩

/-- An entry of the call graph is the name of a function with its callees. -/
theorem Program.function_of_mem_callGraph {entry : String × List String} (h : entry ∈ p.callGraph.entries) :
    ∃ f ∈ p.functions, entry = (f.name.text, f.callees) := by
  obtain ⟨f, hlast, hcallees⟩ := Program.mem_callGraph_iff.1 h
  obtain ⟨hf, hname⟩ := Program.of_lastDeclared? hlast
  exact ⟨f, hf, by rw [hname, hcallees]⟩

/-- Every name that is declared is a caller of the graph. -/
theorem Program.mem_callers {f : Function} (hf : f ∈ p.functions) :
    f.name.text ∈ p.callGraph.entries.map Prod.fst := by
  obtain ⟨last, hlast⟩ := Program.exists_lastDeclared hf
  exact List.mem_map.2 ⟨_, Program.mem_callGraph_iff.2 ⟨last, hlast, rfl⟩, rfl⟩

end Graph

section Names

variable {fs : List Function} {names : List String}

/-- Collecting the names of functions lists none of them twice. -/
theorem nodup_foldl_insert_name (h : names.Nodup) :
    (fs.foldl (fun names f => names.insert f.name.text) names).Nodup := by
  induction fs generalizing names with
  | nil => exact h
  | cons f rest ih => exact ih h.insert

/-- The collected names are those at the start and those of the functions. -/
theorem mem_foldl_insert_name {name : String} :
    name ∈ fs.foldl (fun names f => names.insert f.name.text) names ↔
      name ∈ names ∨ ∃ f ∈ fs, f.name.text = name := by
  induction fs generalizing names with
  | nil => simp
  | cons f rest ih =>
    rw [List.foldl_cons, ih, List.mem_insert_iff]
    grind

end Names

/-- The names at the start are those of the functions with a go-for. -/
theorem Program.mem_goForNames {p : Program} {name : String} :
    name ∈ p.goForNames ↔ ∃ f ∈ p.functions, f.hasGoFor = true ∧ f.name.text = name := by
  rw [Program.goForNames, mem_foldl_insert_name]
  simp only [List.not_mem_nil, false_or, List.mem_filter, and_assoc]

/-- One function of a program calls another somewhere in its body. -/
def Program.Calls (p : Program) (f g : Function) : Prop :=
  f ∈ p.functions ∧ g ∈ p.functions ∧ g.name.text ∈ f.callees

section Loop

variable {p : Program}

/-- No name is listed twice at the start. -/
theorem Program.nodup_goForNames : p.goForNames.Nodup :=
  nodup_foldl_insert_name List.nodup_nil

/-- The names at the start are callers of the graph. -/
theorem Program.goForNames_subset : p.goForNames ⊆ p.callGraph.entries.map Prod.fst := by
  intro name hname
  obtain ⟨f, hf, -, rfl⟩ := Program.mem_goForNames.1 hname
  exact Program.mem_callers hf

/-- The launchers are what the loop over the call graph ends with. -/
theorem Program.launchers_ends (p : Program) :
    ∃ n, Launchers.Ends (.steady p.callGraph.entries) 0 p.goForNames n p.launchers := by
  obtain ⟨n, result, hn, hends⟩ := Launchers.exists_ends (.steady p.callGraph.entries) 0
    p.nodup_goForNames p.goForNames_subset
  have hlaunchers : p.launchers = result := hends.saturate_eq (by omega)
  rw [hlaunchers]
  exact ⟨n, hends⟩

/-- Whoever calls a launcher is a launcher. -/
theorem Program.launchers_closed (p : Program) : Launchers.Closed p.callGraph.entries p.launchers := by
  obtain ⟨n, hends⟩ := p.launchers_ends
  exact hends.closed

/-- A function with a go-for is a launcher. -/
theorem Program.mem_launchers_of_goFor {f : Function} (hf : f ∈ p.functions) (hgoFor : f.hasGoFor = true) :
    f.name.text ∈ p.launchers := by
  obtain ⟨n, hends⟩ := p.launchers_ends
  exact hends.subset (Program.mem_goForNames.2 ⟨f, hf, hgoFor, rfl⟩)

end Loop

section Reaching

variable {p : Program} (hnames : (p.functions.map fun f => f.name.text).Nodup)

include hnames

/-- A function from which some chain of calls leads to a go-for is a launcher. -/
theorem Program.mem_launchers_of_reaches {f last : Function} (hf : f ∈ p.functions)
    (hchain : Relation.ReflTransGen p.Calls f last) (hgoFor : last.hasGoFor = true) :
    f.name.text ∈ p.launchers := by
  -- from the end of the chain backwards, as the rounds find the launchers
  induction hchain using Relation.ReflTransGen.head_induction_on with
  | refl => exact Program.mem_launchers_of_goFor hf hgoFor
  | head hcall _ ih =>
    obtain ⟨hcaller, hcallee, hcalls⟩ := hcall
    exact p.launchers_closed _ (Program.mem_callGraph hnames hcaller) _ hcalls (ih hcallee)

/-- The launchers of a program are launchers of every program that has its functions. -/
theorem Program.launchers_subset {q : Program} (h : ∀ f ∈ q.functions, f ∈ p.functions) :
    q.launchers ⊆ p.launchers := by
  obtain ⟨n, hends⟩ := q.launchers_ends
  refine hends.forall_result ?_ ?_
  · intro name hname
    obtain ⟨f, hf, hgoFor, rfl⟩ := Program.mem_goForNames.1 hname
    exact Program.mem_launchers_of_goFor (h f hf) hgoFor
  · -- every call of the smaller program is one of the larger program, whose launchers are closed under calls
    intro entry hentry callee hcallee hlauncher
    obtain ⟨f, hf, rfl⟩ := Program.function_of_mem_callGraph hentry
    exact p.launchers_closed _ (Program.mem_callGraph hnames (h f hf)) callee hcallee hlauncher

end Reaching

end Lanewise
