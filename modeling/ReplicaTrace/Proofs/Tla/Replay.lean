import ReplicaTrace.Proofs.Tla.Columns
import ReplicaTrace.Proofs.Tla.Definitions
import ReplicaTrace.Proofs.Tla.Lines

/-!
# The trace module tells the history

A trace module writes down only what the acting server has after each step.  Following its steps
from its initial predicate nevertheless gives the columns of every snapshot of the history, because
nothing else changes from one snapshot to the next.

* `Definition.IsConjunction` : a definition that holds no text beside its conjuncts.
* `Tells` : what the definitions of a module have to say to tell a history.
* `TraceModule.tells_definitionList` : the definitions of the module of a history do.
* `exists_run_tells` : so does the text, for the history of a replay.
-/

namespace ReplicaTrace

namespace Tla

open Text

/-- The definition is made of its conjuncts: nothing stands after the sign on its first line, and
each line below is one of them. -/
structure Definition.IsConjunction (d : Definition) : Prop where
  first_eq : d.first = ""
  body_eq : d.body = d.conjuncts.map ("    /\\ " ++ ·)

/-- The definition says how the trace starts in a cluster of the given size: with the initial
predicate, one function for each of the four variables, and no steps taken.  It says no more. -/
def Definition.IsStart (d : Definition) (t : TraceSettings) (size : ℕ) : Prop :=
  d.IsConjunction ∧
  ∃ functions count, d.conjuncts = t.initPredicate.toList ++ functions ++ [count] ∧
    equal? traceIndex count = some 0 ∧ functions.length = 4 ∧
    ∀ c, ∃ f ∈ functions, ∃ values, constant? (t.names.name c) f = some values ∧
      values.length = size

/-- The definition says what the step after `k` steps is: the count is `k` before and `k + 1` after
it, it is a step of the next-state action, and each of the four variables is assigned a value at the
same server of the cluster.  It says no more. -/
def Definition.IsStep (d : Definition) (t : TraceSettings) (size k : ℕ) : Prop :=
  d.IsConjunction ∧
  ∃ before assignments after,
    d.conjuncts = before :: t.nextAction.toList ++ assignments ++ [after] ∧
    equal? traceIndex before = some k ∧ next? traceIndex after = some (k + 1) ∧
    assignments.length = 4 ∧ ∃ server < size, ∀ c, ∃ a ∈ assignments, ∃ v,
      update? (t.names.name c) a = some (server, v)

/-- The definitions tell the history of a cluster of the given size. -/
structure Tells (defs : List Definition) (t : TraceSettings) (size : ℕ)
    (history : List Snapshot) : Prop where
  /-- There is one step for each snapshot, and nothing but the frame besides. -/
  defined : defs.map Definition.name = ["traceVars", "TraceLength", "TraceInit"] ++
    (List.range history.length).map (fun k => stepName (k + 1)) ++
    ["TraceNext", traceSpec, traceMatched]
  /-- Nothing is defined twice. -/
  nodup : (defs.map Definition.name).Nodup
  /-- The length is the number of steps. -/
  length : ∃ d, definition? defs "TraceLength" = some d ∧
    (after? " " d.first).bind number? = some history.length ∧ d.body = []
  /-- The alternatives are exactly the steps. -/
  next : ∃ d, definition? defs "TraceNext" = some d ∧ d.first = "" ∧
    d.body = if history.length = 0 then ["    FALSE"]
      else (List.range history.length).map fun k => "    \\/ " ++ stepName (k + 1)
  /-- The start has one value of each variable for each server. -/
  start : ∃ d, definition? defs "TraceInit" = some d ∧ d.IsStart t size
  /-- The steps count up. -/
  step : ∀ k < history.length, ∃ d, definition? defs (stepName (k + 1)) = some d ∧
    d.IsStep t size k
  /-- After `k` steps each variable has the values of the `k`-th snapshot. -/
  values : ∀ (k : ℕ) (s : Snapshot), (Snapshot.initial size :: history)[k]? = some s →
    ∀ c, valuesAfter defs (t.names.name c) k = some ((s.column c).map Value.render)

theorem definition?_of_mem {defs : List Definition} (h : (defs.map Definition.name).Nodup)
    {d : Definition} (hd : d ∈ defs) : definition? defs d.name = some d := by
  induction defs with
  | nil => cases hd
  | cons d' defs ih =>
    rw [List.map_cons, List.nodup_cons] at h
    rcases List.mem_cons.1 hd with rfl | hd
    · simp [definition?]
    · have hne : d'.name ≠ d.name := fun he => h.1 (he ▸ List.mem_map_of_mem hd)
      simpa [definition?, hne] using ih h.2 hd

@[simp] theorem conjuncts_map_conjunct (name first : String) (conjuncts : List String) :
    (Definition.mk name first (conjuncts.map TraceModule.conjunct)).conjuncts = conjuncts := by
  simp [Definition.conjuncts, List.filterMap_map, Function.comp_def, TraceModule.conjunct]

/-- What is written as a list of conjuncts is read as nothing else. -/
theorem isConjunction_map_conjunct (name : String) (conjuncts : List String) :
    (Definition.mk name "" (conjuncts.map TraceModule.conjunct)).IsConjunction := by
  refine ⟨rfl, ?_⟩
  rw [conjuncts_map_conjunct]
  rfl

namespace TraceModule

/-- The step that leads to a snapshot in which a server acts. -/
def stepAt (index : ℕ) (s : Snapshot) : Step :=
  ⟨index + 1, s.action, s.location, s.actor.getD 0, .ofServer s (s.actor.getD 0)⟩

variable {history : List Snapshot} {servers : List ServerId} {specModule : String}
  {t : TraceSettings} {size : ℕ}

/-- In a history in which always a server acts, every snapshot has its step. -/
theorem steps_ofHistory (h : Grows history size) :
    (ofHistory history servers specModule t).steps = history.mapIdx stepAt := by
  have hsteps : history.mapIdx stepOf = (history.mapIdx stepAt).map some := by
    apply List.ext_getElem?
    intro i
    rw [List.getElem?_mapIdx, List.getElem?_map, List.getElem?_mapIdx]
    cases hi : history[i]? with
    | none => rfl
    | some s =>
      obtain ⟨before, actor, -, hs⟩ := h i s hi
      simp [stepOf, stepAt, hs.acts]
  simp only [ofHistory, hsteps, List.filterMap_map]
  simp

variable (servers specModule t) in
theorem map_stepName_steps (h : Grows history size) :
    (ofHistory history servers specModule t).steps.map (fun step => stepName step.number) =
      (List.range history.length).map fun k => stepName (k + 1) := by
  rw [steps_ofHistory h]
  apply List.ext_getElem?
  intro i
  rw [List.getElem?_map, List.getElem?_mapIdx, List.getElem?_map]
  by_cases hi : i < history.length
  · simp [hi, stepAt]
  · simp [hi]

theorem stepName_injective {j k : ℕ} (h : stepName j = stepName k) : j = k := by
  refine toString_injective ?_
  have hlist := congrArg String.toList h
  simp only [stepName, String.toList_append, List.append_cancel_left_eq] at hlist
  exact String.toList_inj.1 hlist

variable (servers specModule t) in
theorem defined_definitionList (h : Grows history size) :
    (ofHistory history servers specModule t).definitionList.map Definition.name =
      ["traceVars", "TraceLength", "TraceInit"] ++
        (List.range history.length).map (fun k => stepName (k + 1)) ++
        ["TraceNext", traceSpec, traceMatched] := by
  rw [← map_stepName_steps servers specModule t h]
  simp [definitionList, stepDefinition]

variable (servers specModule t) in
theorem nodup_definitionList (h : Grows history size) :
    ((ofHistory history servers specModule t).definitionList.map Definition.name).Nodup := by
  -- the steps are told from the frame by their first letter
  have hhead : ∀ w ∈ (List.range history.length).map (fun k => stepName (k + 1)),
      w.toList.head? = some 'S' := by
    intro w hw
    obtain ⟨k, -, rfl⟩ := List.mem_map.1 hw
    simp [stepName]
  have habove : ∀ w ∈ ["traceVars", "TraceLength", "TraceInit"], w.toList.head? ≠ some 'S' := by
    decide
  have hbelow : ∀ w ∈ ["TraceNext", traceSpec, traceMatched], w.toList.head? ≠ some 'S' ∧
      w ∉ ["traceVars", "TraceLength", "TraceInit"] := by
    decide
  have hsteps : ((List.range history.length).map fun k => stepName (k + 1)).Nodup :=
    List.nodup_range.map fun j k hjk => Nat.succ_injective (stepName_injective hjk)
  rw [defined_definitionList servers specModule t h]
  refine List.nodup_append.2 ⟨List.nodup_append.2 ⟨by decide, hsteps, ?_⟩, by decide, ?_⟩
  · rintro a ha b hb rfl
    exact habove a ha (hhead a hb)
  · rintro a ha b hb rfl
    rcases List.mem_append.1 ha with ha | ha
    · exact (hbelow a hb).2 ha
    · exact (hbelow a hb).1 (hhead a ha)

/-! ### The start -/

section

variable (ht : t.Sound) (hindex : traceIndex ∉ t.names.toList)

theorem before?_render_initial (c : Column) :
    before? "[i + 1]" (Value.initial c).render = none := by
  cases c <;> decide +kernel

/-- What a conjunct of another variable starts with is no part of a name. -/
theorem stopsAt_equal (text : String) : StopsAt isIdentifierRest (" = " ++ text) :=
  stopsAt_append (by decide) (by decide) _

theorem stopsAt_next (text : String) : StopsAt isIdentifierRest ("' = " ++ text) :=
  stopsAt_append (by decide) (by decide) _

/-- The function that is written for a column at the start. -/
theorem start_ofHistory_mem (c : Column) :
    (t.names.name c, Value.function (List.replicate servers.length (Value.initial c))) ∈
      (ofHistory history servers specModule t).start.named t.names := by
  have hmem := (Values.ofSnapshot (.initial servers.length)).get_mem_named t.names c
  rw [Values.get_ofSnapshot, Snapshot.column_initial] at hmem
  exact hmem

theorem constant?_start (hservers : 0 < servers.length) (c : Column) :
    constant? (t.names.name c) (t.names.name c ++ " = " ++
      (Value.function (List.replicate servers.length (Value.initial c))).render) =
        some (List.replicate servers.length (Value.initial c).render) := by
  obtain ⟨n, hn⟩ : ∃ n, servers.length = n + 1 := ⟨servers.length - 1, by omega⟩
  rw [hn]
  exact constant?_replicate _ n (before?_render_initial c)

theorem isStart_startConjuncts (hservers : 0 < servers.length) :
    (Definition.mk "TraceInit" "" ((ofHistory history servers specModule t).startConjuncts.map
      conjunct)).IsStart t servers.length := by
  refine ⟨isConjunction_map_conjunct _ _,
    ((ofHistory history servers specModule t).start.named t.names).map
      fun p => p.1 ++ " = " ++ p.2.render,
    traceIndex ++ " = " ++ toString 0, ?_, equal?_eq _ 0, rfl,
    fun c => ⟨_, List.mem_map_of_mem (start_ofHistory_mem c), _, constant?_start hservers c, ?_⟩⟩
  · rw [conjuncts_map_conjunct]
    rfl
  · rw [List.length_replicate]

include ht hindex in
theorem last?_startConjuncts (hservers : 0 < servers.length) (c : Column) :
    (Definition.mk "TraceInit" "" ((ofHistory history servers specModule t).startConjuncts.map
      conjunct)).last? (constant? (t.names.name c)) =
        some (List.replicate servers.length (Value.initial c).render) := by
  have hx := ht.isIdentifier_name c
  have hne := traceIndex_ne_name hindex c
  rw [Definition.last?, conjuncts_map_conjunct, startConjuncts]
  refine findSome?_reverse_named (x := t.names.name c) (fun p => p.1 ++ " = " ++ p.2.render)
    (start_ofHistory_mem c) ht.distinct (constant?_start hservers c) ?_ ?_
  · intro p hp hpx
    have hy : isIdentifier p.1 = true := ht.variableNames _ (List.mem_map_of_mem hp)
    rw [String.append_assoc]
    exact constant?_of_ne hx hy hpx (stopsAt_equal _)
  · intro conj hconj
    rw [List.mem_singleton.1 hconj, String.append_assoc]
    exact constant?_of_ne hx (by decide) hne (stopsAt_equal _)

/-! ### The steps -/

theorem isStep_stepDefinition {k actor : ℕ} {s : Snapshot} (hactor : s.actor = some actor)
    (hlt : actor < size) :
    ((ofHistory history servers specModule t).stepDefinition (stepAt k s)).IsStep t size k := by
  have hserver : (stepAt k s).server = actor := by simp [stepAt, hactor]
  refine ⟨isConjunction_map_conjunct _ _, traceIndex ++ " = " ++ toString k,
    ((stepAt k s).values.named t.names).map fun p => assignment (stepAt k s).server p.1 p.2,
    traceIndex ++ "' = " ++ toString (k + 1), ?_, equal?_eq _ k, next?_eq _ (k + 1), rfl,
    actor, hlt, fun c => ⟨_, List.mem_map_of_mem ((stepAt k s).values.get_mem_named t.names c),
      ((stepAt k s).values.get c).render, ?_⟩⟩
  · rw [stepDefinition, conjuncts_map_conjunct]
    rfl
  · rw [← hserver]
    exact update?_assignment _ _ _

include ht hindex in
theorem last?_stepDefinition {k actor : ℕ} {s : Snapshot} (hactor : s.actor = some actor)
    (c : Column) :
    ((ofHistory history servers specModule t).stepDefinition (stepAt k s)).last?
      (update? (t.names.name c)) = some (actor, ((Values.ofServer s actor).get c).render) := by
  have hx := ht.isIdentifier_name c
  have hne := traceIndex_ne_name hindex c
  have hstep : stepAt k s = ⟨k + 1, s.action, s.location, actor, .ofServer s actor⟩ := by
    simp [stepAt, hactor]
  rw [Definition.last?, hstep, stepDefinition, conjuncts_map_conjunct, stepConjuncts]
  refine findSome?_reverse_named (x := t.names.name c) (fun p => assignment actor p.1 p.2)
    (Values.get_mem_named _ t.names c) ht.distinct (update?_assignment _ _ _) ?_ ?_
  · intro p hp hpx
    have hy : isIdentifier p.1 = true := ht.variableNames _ (List.mem_map_of_mem hp)
    rw [assignment_eq]
    exact update?_of_ne hx hy hpx (stopsAt_append (by decide) (by decide) _)
  · intro conj hconj
    rw [List.mem_singleton.1 hconj, String.append_assoc]
    exact update?_of_ne hx (by decide) hne (stopsAt_next _)

end

/-! ### The whole history -/

variable (servers specModule t) in
theorem stepAt_mem_steps (h : Grows history size) {k : ℕ} {s : Snapshot}
    (hs : history[k]? = some s) :
    stepAt k s ∈ (ofHistory history servers specModule t).steps := by
  rw [steps_ofHistory h, List.mem_iff_getElem?]
  exact ⟨k, by simp [List.getElem?_mapIdx, hs]⟩

theorem mem_definitionList_of_getElem? (h : Grows history size) {k : ℕ} {s : Snapshot}
    (hs : history[k]? = some s) :
    (ofHistory history servers specModule t).stepDefinition (stepAt k s) ∈
      (ofHistory history servers specModule t).definitionList := by
  have hmem := stepAt_mem_steps servers specModule t h hs
  simp only [definitionList, List.mem_append]
  exact .inl (.inr (List.mem_map_of_mem hmem))

/-- **The definitions of the module of a history tell the history.** -/
theorem tells_definitionList (ht : t.Sound) (hindex : traceIndex ∉ t.names.toList)
    (hservers : 0 < servers.length) (h : Grows history servers.length) :
    Tells (ofHistory history servers specModule t).definitionList t servers.length history := by
  have hnodup := nodup_definitionList servers specModule t h
  have hstart : definition? (ofHistory history servers specModule t).definitionList "TraceInit" =
      some ⟨"TraceInit", "",
        (ofHistory history servers specModule t).startConjuncts.map conjunct⟩ :=
    definition?_of_mem (d := ⟨"TraceInit", "", _⟩) hnodup (by simp [definitionList])
  have hstep : ∀ (k : ℕ) (s : Snapshot), history[k]? = some s →
      definition? (ofHistory history servers specModule t).definitionList (stepName (k + 1)) =
        some ((ofHistory history servers specModule t).stepDefinition (stepAt k s)) :=
    fun k s hs => definition?_of_mem hnodup (mem_definitionList_of_getElem? h hs)
  constructor
  case defined => exact defined_definitionList servers specModule t h
  case nodup => exact hnodup
  case length =>
    refine ⟨⟨"TraceLength", " " ++ toString history.length, []⟩,
      definition?_of_mem (d := ⟨"TraceLength", _, []⟩) hnodup
        (by simp [definitionList, ofHistory]), ?_, rfl⟩
    rw [after?_append, Option.bind_some, number?_toString]
  case next =>
    exact ⟨⟨"TraceNext", "", (ofHistory history servers specModule t).alternatives⟩,
      definition?_of_mem (d := ⟨"TraceNext", "", _⟩) hnodup (by simp [definitionList]), rfl, rfl⟩
  case start => exact ⟨_, hstart, isStart_startConjuncts hservers⟩
  case step =>
    intro k hk
    have hs : history[k]? = some history[k] := List.getElem?_eq_getElem hk
    obtain ⟨before, actor, -, hfollows⟩ := h k _ hs
    exact ⟨_, hstep k _ hs, isStep_stepDefinition hfollows.acts hfollows.lt⟩
  case values =>
    -- by induction on the number of steps: what a step assigns is all that changes
    intro k
    induction k with
    | zero =>
      intro s hs c
      obtain rfl : Snapshot.initial servers.length = s := by simpa using hs
      rw [valuesAfter, hstart, Snapshot.column_initial, List.map_replicate]
      exact last?_startConjuncts ht hindex hservers c
    | succ k ih =>
      intro s hs c
      have hs : history[k]? = some s := hs
      -- the snapshot before is the one that `k` steps lead to
      obtain ⟨before, actor, hbefore, hfollows⟩ := h k s hs
      have hvalues := ih before hbefore c
      rw [hfollows.column_eq_set, List.map_set]
      simp only [valuesAfter, hvalues, hstep k s hs, Option.bind_eq_bind, Option.bind_some,
        last?_stepDefinition ht hindex hfollows.acts c]
      rfl

end TraceModule

/-- **The trace module tells the reconstructed history.**  The events are those of known servers
with places on one line; the settings have no fault, give no variable the name of the count of
steps, and keep the texts that they add to one line, as does the name of the specification.  Then
the text of the trace module, read back, defines exactly one step for each event, whose conjuncts
are all that it says; and following the steps from the start gives the roles, slots, logs and
ballots of each snapshot. -/
theorem exists_run_tells {r : Registry} {events : List Event} {t : TraceSettings}
    {specModule : String} (h : ∀ e ∈ events, r.knows e = true) (ht : t.fault? = none)
    (hindex : traceIndex ∉ t.names.toList) (hinit : ∀ p ∈ t.initPredicate, OneLine p)
    (hnext : ∀ p ∈ t.nextAction, OneLine p) (hspec : OneLine specModule)
    (hlocation : ∀ e ∈ events, OneLine e.location) :
    ∃ p, Replay.run r events = .ok p ∧ p.snapshots.length = events.length ∧
      Tells (definitions (linesOf (TraceModule.ofHistory p.snapshots r.ids specModule t).text)) t
        r.size p.snapshots := by
  have hsound := TraceSettings.fault?_eq_none_iff.1 ht
  have hplaces : ∀ s ∈ (Replay.ofEvents r events).snapshots, ∀ l ∈ s.location, OneLine l := by
    intro s hs l hl
    obtain ⟨i, hi⟩ := List.mem_iff_getElem?.1 hs
    obtain ⟨e, he, rfl⟩ := Replay.exists_location_snapshots_ofEvents hi hl
    exact hlocation e he
  have hlines := (TraceModule.unbroken_ofHistory r.ids hsound hspec hinit hnext
    hplaces).linesOf_text
  refine ⟨.ofEvents r events, Replay.run_eq_ofEvents h, Replay.length_snapshots_ofEvents, ?_⟩
  rw [hlines, TraceModule.definitions_lines]
  exact TraceModule.tells_definitionList hsound hindex (List.length_pos_of_ne_nil r.nonempty)
    (Replay.grows_snapshots_ofEvents h)

theorem exists_run_tells_falling :
    (∀ e ∈ fallingEvents, twoServers.knows e = true) ∧
      ({} : TraceSettings).fault? = none ∧ traceIndex ∉ ({} : TraceSettings).names.toList ∧
      (∀ p ∈ ({} : TraceSettings).initPredicate, OneLine p) ∧
      (∀ p ∈ ({} : TraceSettings).nextAction, OneLine p) ∧ OneLine "Paxos" ∧
      (∀ e ∈ fallingEvents, OneLine e.location) ∧
      ∃ p, Replay.run twoServers fallingEvents = .ok p ∧
        p.snapshots.length = fallingEvents.length ∧
        Tells (definitions (linesOf
          (TraceModule.ofHistory p.snapshots twoServers.ids "Paxos" {}).text)) {}
          twoServers.size p.snapshots :=
  have hknows : ∀ e ∈ fallingEvents, twoServers.knows e = true := by decide
  have hfault : ({} : TraceSettings).fault? = none := by decide
  have hindex : traceIndex ∉ ({} : TraceSettings).names.toList := by decide
  have hinit : ∀ p ∈ ({} : TraceSettings).initPredicate, OneLine p := by decide
  have hnext : ∀ p ∈ ({} : TraceSettings).nextAction, OneLine p := by decide
  have hspec : OneLine "Paxos" := by decide
  have hlocation : ∀ e ∈ fallingEvents, OneLine e.location := by decide
  ⟨hknows, hfault, hindex, hinit, hnext, hspec, hlocation,
    exists_run_tells hknows hfault hindex hinit hnext hspec hlocation⟩

end Tla

end ReplicaTrace
