import Mathlib.Data.List.Flatten
import ReplicaTrace.Proofs.History.Snapshots
import ReplicaTrace.Proofs.Tla.Configuration
import ReplicaTrace.Proofs.Tla.Definitions
import ReplicaTrace.Proofs.Tla.Lines

/-!
# Names that clash

A trace module has names of its own besides those that it is given for the protocol's variables, and
its configuration has two constants for the servers.  The rules for settings look at the four
variables among themselves and at each constant by itself, so that settings without a fault may
still give a variable a name of the module, or both constants one name.  In the first case one name
stands for two things, and in the second the set of the servers takes the place of their number.

* `moduleNames` : the names that a module has of its own.
* `ClashFree` : a module and a configuration in which no two things have the same name.
* `clashFree_iff` : the rules that are missing.
-/

namespace ReplicaTrace

namespace Tla

open Text

/-! ### What is declared -/

/-- The names that a module with `n` steps has of its own. -/
def moduleNames (n : ℕ) : List String :=
  [traceIndex, "traceVars", "TraceLength", "TraceInit", "TraceNext", traceSpec, traceMatched] ++
    (List.range n).map fun k => stepName (k + 1)

/-- The names in a tuple. -/
def tupleNames? (text : String) : Option (List String) := do
  let names ← before? ">>" (← after? " <<" text)
  return ((names.toList.filter (· ≠ ' ')).splitOn ',').map String.ofList

/-- The variables that a module lists. -/
def listedVariables? (lines : List String) : Option (List String) := do
  tupleNames? (← definition? (definitions (lines ++ [""])) "traceVars").first

/-- The configuration gives the constant the value, and says so in its text. -/
def ModelConfig.Declares (c : ModelConfig) (name : String) (v : Value) : Prop :=
  c.constants.get? name = some v.render ∧
    ["CONSTANTS", "  " ++ name ++ " = " ++ v.render, "SPECIFICATION " ++ c.specification].Sublist
      (linesOf c.text)

/-- No two things in a module and its configuration have the same name. -/
structure ClashFree (m : TraceModule) (c : ModelConfig) : Prop where
  /-- The five variables that the module lists have different names. -/
  listed : ∃ names, listedVariables? m.lines = some names ∧ names.length = 5 ∧ names.Nodup
  /-- No variable of the protocol has a name of the module. -/
  apart : ∀ x ∈ m.settings.names.toList, x ∉ moduleNames m.length
  /-- No variable of the protocol is defined by the module. -/
  undefined : ∀ x ∈ m.settings.names.toList, definition? (definitions (m.lines ++ [""])) x = none
  /-- Both constants for the servers are declared, unless they are left out or given elsewhere. -/
  declared : m.settings.serverCount ≠ "" → m.settings.serverSet ≠ "" →
    m.settings.serverCount ∉ m.settings.constants.names →
    m.settings.serverSet ∉ m.settings.constants.names →
    c.Declares m.settings.serverCount (.nat m.servers.length) ∧
      c.Declares m.settings.serverSet (.indexSet m.servers.length)

/-! ### The variables -/

theorem filter_intercalate {α : Type} (keep : α → Bool) (sep : List α) (pieces : List (List α)) :
    (sep.intercalate pieces).filter keep =
      (sep.filter keep).intercalate (pieces.map (List.filter keep)) := by
  induction pieces with
  | nil => rfl
  | cons piece pieces ih =>
    cases pieces with
    | nil => simp
    | cons next pieces =>
      rw [List.intercalate_cons_cons, List.filter_append, List.filter_append, ih]
      simp only [List.map_cons, List.intercalate_cons_cons]

/-- A tuple of identifiers is read back. -/
theorem tupleNames?_intercalate {names : List String} (hne : names ≠ [])
    (h : ∀ name ∈ names, isIdentifier name = true) :
    tupleNames? (" <<" ++ ", ".intercalate names ++ ">>") = some names := by
  have hnotMem : ∀ c, isIdentifierRest c = false → ∀ piece ∈ names.map String.toList, c ∉ piece := by
    intro c hc piece hpiece hmem
    obtain ⟨name, hname, rfl⟩ := List.mem_map.1 hpiece
    rw [isIdentifierRest_of_mem (h name hname) c hmem] at hc
    cases hc
  have hkeep : (names.map String.toList).map (List.filter (· ≠ ' ')) = names.map String.toList := by
    refine (List.map_congr_left fun piece hpiece => List.filter_eq_self.2 fun c hc => ?_).trans
      (List.map_id _)
    have hblank : c ≠ ' ' := fun hblank => hnotMem ' ' (by decide) piece hpiece (hblank ▸ hc)
    simpa using hblank
  have hfilter : ((", ".intercalate names).toList.filter (· ≠ ' ')) =
      [','].intercalate (names.map String.toList) := by
    rw [String.toList_intercalate, filter_intercalate, hkeep]
    rfl
  rw [tupleNames?, String.append_assoc, after?_append]
  simp only [Option.bind_eq_bind, Option.bind_some, before?_append, hfilter]
  rw [List.splitOn_intercalate ',' (hnotMem ',' (by decide)) (by simpa using hne)]
  simp [Function.comp_def]

namespace TraceModule

variable {m : TraceModule}

theorem listedVariables?_lines (h : ∀ name ∈ m.settings.names.toList, isIdentifier name = true) :
    listedVariables? m.lines = some (m.settings.names.toList ++ [traceIndex]) := by
  have hdefinition : definition? m.definitionList "traceVars" = some ⟨"traceVars",
      " <<" ++ ", ".intercalate (m.settings.names.toList ++ [traceIndex]) ++ ">>", []⟩ := by
    simp [definition?, definitionList]
  rw [listedVariables?, definitions_lines, hdefinition, Option.bind_eq_bind, Option.bind_some]
  refine tupleNames?_intercalate (by simp) fun name hname => ?_
  rcases List.mem_append.1 hname with hname | hname
  · exact h name hname
  · rw [List.mem_singleton.1 hname]
    decide

/-- All that the module of a history defines has a name of the module. -/
theorem name_mem_moduleNames {history : List Snapshot} {servers : List ServerId}
    {specModule : String} {t : TraceSettings} {d : Definition}
    (h : d ∈ definitions ((ofHistory history servers specModule t).lines ++ [""])) :
    d.name ∈ moduleNames history.length := by
  rw [definitions_lines, definitionList, List.mem_append, List.mem_append] at h
  rcases h with (h | h) | h
  · simp only [List.mem_cons, List.not_mem_nil, or_false] at h
    rcases h with rfl | rfl | rfl <;> simp [moduleNames]
  · obtain ⟨step, hstep, rfl⟩ := List.mem_map.1 h
    obtain ⟨k, s, server, hs, rfl⟩ := exists_snapshot_of_mem_steps hstep
    have hk : k < history.length := (List.getElem?_eq_some_iff.1 hs).1
    exact List.mem_append_right _ (List.mem_map.2 ⟨k, List.mem_range.2 hk, rfl⟩)
  · simp only [List.mem_cons, List.not_mem_nil, or_false] at h
    rcases h with rfl | rfl | rfl <;> simp [moduleNames]

end TraceModule

/-! ### The constants -/

section

variable {c : ModelConfig} {t : TraceSettings} {servers : ℕ} {name : String} {v : Value}

namespace ModelConfig

/-- The constant for the number of servers has its value unless its name is used once more. -/
theorem get?_serverCount (hcount : t.serverCount ≠ "") (hother : t.serverCount ∉ t.constants.names)
    (hset : t.serverCount ≠ t.serverSet) :
    (constantsFor servers t).get? t.serverCount = some (Value.nat servers).render := by
  rw [get?_constantsFor, Constants.get?_eq_none_iff.2 hother, serverConstant?, if_neg hcount,
    if_neg hset, if_pos rfl]
  rfl

/-- The constant for the servers has its value, whatever the one for their number is called. -/
theorem get?_serverSet (hset : t.serverSet ≠ "") (hother : t.serverSet ∉ t.constants.names) :
    (constantsFor servers t).get? t.serverSet = some (Value.indexSet servers).render := by
  rw [get?_constantsFor, Constants.get?_eq_none_iff.2 hother, serverConstant?, if_neg hset,
    if_pos rfl]
  rfl

/-- Lines without a line feed in them stand in the text as they are, whatever the others hold. -/
theorem sublist_linesOf_text {ls : List String} (hsub : ls.Sublist c.lines)
    (hone : ∀ l ∈ ls, OneLine l) : ls.Sublist (linesOf c.text) := by
  have hlines := (hsub.flatMap linesOf).trans (List.sublist_append_left _ [""])
  rwa [flatMap_linesOf hone, ← linesOf_join_eq_flatMap] at hlines

/-- A constant has its line between the heading and the specification. -/
theorem sublist_lines_of_mem {value : String} (h : (name, value) ∈ c.constants.entries) :
    ["CONSTANTS", "  " ++ name ++ " = " ++ value, "SPECIFICATION " ++ c.specification].Sublist
      c.lines := by
  have hentry : assignmentLine (name, value) ∈ c.constants.entries.map assignmentLine :=
    List.mem_map_of_mem h
  have hconstants : ["CONSTANTS", assignmentLine (name, value)].Sublist
      (block ["CONSTANTS"] (c.constants.entries.map assignmentLine)) := by
    rw [block, if_neg (List.ne_nil_of_mem hentry)]
    exact ((List.singleton_sublist.2 hentry).cons_cons "CONSTANTS").trans
      (List.sublist_append_left _ [""])
  have hspecification : ["SPECIFICATION " ++ c.specification].Sublist
      ["SPECIFICATION " ++ c.specification, ""] :=
    List.singleton_sublist.2 List.mem_cons_self
  rw [lines_eq]
  -- nothing is said here of what comes after the specification
  refine List.Sublist.trans ?_ (List.sublist_append_left _ _)
  refine List.Sublist.trans ?_ (List.sublist_append_left _ _)
  exact (hconstants.trans (List.sublist_append_right _ _)).append hspecification

/-- A value on one line is declared if the constant has it. -/
theorem declares_of_get? (hvalue : c.constants.get? name = some v.render)
    (hspec : OneLine c.specification) (hname : OneLine name) (hline : v.OnOneLine) :
    c.Declares name v := by
  obtain ⟨before, after, hentries, -⟩ := List.lookup_eq_some_iff.1 hvalue
  have hmem : (name, v.render) ∈ c.constants.entries := by
    rw [hentries]
    simp
  refine ⟨hvalue, sublist_linesOf_text (sublist_lines_of_mem hmem) ?_⟩
  simp +decide [hname, hspec, show OneLine v.render from hline]

end ModelConfig

end

/-! ### The rules that are missing -/

/-- The text of a number is not that of a set. -/
theorem render_nat_ne_indexSet (m n : ℕ) : (Value.nat m).render ≠ (Value.indexSet n).render := by
  intro h
  have hbrace : '\x7b' ∈ (toString m).toList := by
    rw [show toString m = (Value.nat m).render from rfl, h]
    simp [Value.indexSet, Value.render]
  exact absurd (isDigit_of_mem_toString hbrace) (by decide)

/-- **The rules that are missing.**  Settings without a fault give a module and a configuration
without clashes exactly if no variable has a name of the module, and the two constants for the
servers have different names unless they are left out or given elsewhere. -/
theorem clashFree_iff {t : TraceSettings} (ht : t.fault? = none) (r : Registry)
    (history : List Snapshot) (specModule : String) :
    ClashFree (.ofHistory history r.ids specModule t) (.forTrace r.size t) ↔
      (∀ x ∈ t.names.toList, x ∉ moduleNames history.length) ∧
      (t.serverCount = t.serverSet → t.serverCount = "" ∨ t.serverCount ∈ t.constants.names) := by
  have hsound : t.Sound := TraceSettings.fault?_eq_none_iff.1 ht
  constructor
  · intro h
    refine ⟨h.apart, fun hsame => Classical.byContradiction fun hgiven => ?_⟩
    obtain ⟨hempty, hother⟩ := not_or.1 hgiven
    -- one constant would have both values
    obtain ⟨hcount, hset⟩ := h.declared hempty (hsame ▸ hempty) hother (hsame ▸ hother)
    have hvalues := hcount.1.symm.trans ((congrArg _ hsame).trans hset.1)
    exact render_nat_ne_indexSet _ _ (Option.some.inj hvalues)
  · rintro ⟨hapart, hconstants⟩
    constructor
    case listed =>
      refine ⟨_, TraceModule.listedVariables?_lines hsound.variableNames, rfl, ?_⟩
      refine List.nodup_append.2 ⟨hsound.distinct, List.pairwise_singleton _ _, fun x hx y hy => ?_⟩
      rintro rfl
      exact hapart x hx (List.mem_append_left _ (List.mem_singleton.1 hy ▸ List.mem_cons_self))
    case apart => exact hapart
    case undefined =>
      intro x hx
      refine List.find?_eq_none.2 fun d hd hname => hapart x hx ?_
      rw [← of_decide_eq_true hname]
      exact TraceModule.name_mem_moduleNames hd
    case declared =>
      intro hcount hset hcountOther hsetOther
      have hcountLine : OneLine t.serverCount :=
        newline_not_mem_of_isIdentifier (hsound.serverConstants _ (by simp) hcount)
      have hsetLine : OneLine t.serverSet :=
        newline_not_mem_of_isIdentifier (hsound.serverConstants _ (by simp) hset)
      have hdifferent : t.serverCount ≠ t.serverSet := fun hsame =>
        (hconstants hsame).elim hcount hcountOther
      have hspec : OneLine traceSpec := by decide
      constructor
      · exact ModelConfig.declares_of_get?
          (ModelConfig.get?_serverCount hcount hcountOther hdifferent) hspec hcountLine
          (Value.onOneLine_int _)
      · exact ModelConfig.declares_of_get? (ModelConfig.get?_serverSet hset hsetOther) hspec hsetLine
          (Value.onOneLine_indexSet _)

theorem clashFree_default :
    TraceSettings.fault? {} = none ∧
      ClashFree (.ofHistory [.initial 2] twoServers.ids "Paxos" {}) (.forTrace twoServers.size {}) :=
  have h : TraceSettings.fault? {} = none := by decide +kernel
  ⟨h, (clashFree_iff h twoServers [.initial 2] "Paxos").2 ⟨by decide, by decide⟩⟩

/-- A variable is called like the one that counts the steps. -/
def indexVariable : TraceSettings where
  names := { role := "traceIndex" }

/-- A variable is called like the start of the trace. -/
def startVariable : TraceSettings where
  names := { slot := "TraceInit" }

/-- Both constants for the servers have one name. -/
def oneConstant : TraceSettings where
  serverCount := "N"
  serverSet := "N"

/-- The artifacts of an empty trace of two servers have clashes. -/
def Clashes (t : TraceSettings) : Prop :=
  ¬ ClashFree (.ofHistory [] twoServers.ids "Paxos" t) (.forTrace twoServers.size t)

/-- Settings without a fault that bring clashes: a variable is listed twice, a variable is defined by
the module, and the number of servers is lost. -/
theorem exists_clashes :
    (indexVariable.fault? = none ∧ Clashes indexVariable ∧
      listedVariables? (TraceModule.ofHistory [] twoServers.ids "Paxos" indexVariable).lines =
        some ["traceIndex", "slot", "log", "ballot", "traceIndex"]) ∧
    (startVariable.fault? = none ∧ Clashes startVariable ∧
      "TraceInit" ∈ startVariable.names.toList ∧ "TraceInit" ∈ moduleNames 0) ∧
    (oneConstant.fault? = none ∧ Clashes oneConstant ∧
      (ModelConfig.forTrace twoServers.size oneConstant).constants.entries =
        [("N", "\x7b0, 1\x7d")] ∧
      "  N = 2" ∉ linesOf (ModelConfig.forTrace twoServers.size oneConstant).text) := by
  have hlisted : listedVariables? (TraceModule.ofHistory [] twoServers.ids "Paxos"
      indexVariable).lines = some ["traceIndex", "slot", "log", "ballot", "traceIndex"] :=
    TraceModule.listedVariables?_lines (by decide +kernel)
  have hcount : (ModelConfig.forTrace twoServers.size oneConstant).constants.get? "N" ≠
      some (Value.nat twoServers.size).render := by
    decide +kernel
  have hstart : "TraceInit" ∈ startVariable.names.toList ∧ "TraceInit" ∈ moduleNames 0 := by
    decide +kernel
  have haccepted : indexVariable.fault? = none ∧ startVariable.fault? = none ∧
      oneConstant.fault? = none := by
    decide +kernel
  refine ⟨⟨haccepted.1, fun h => ?_, hlisted⟩, ⟨haccepted.2.1, fun h => ?_, hstart⟩,
    haccepted.2.2, fun h => hcount ?_, ?_⟩
  · obtain ⟨names, hnames, -, hnodup⟩ := h.listed
    obtain rfl := Option.some.inj (hlisted.symm.trans hnames)
    exact absurd hnodup (by decide +kernel)
  · exact h.apart "TraceInit" hstart.1 hstart.2
  · have hother : "N" ∉ oneConstant.constants.names := List.not_mem_nil
    exact (h.declared (by decide) (by decide) hother hother).1.1
  · decide +kernel

end Tla

end ReplicaTrace
