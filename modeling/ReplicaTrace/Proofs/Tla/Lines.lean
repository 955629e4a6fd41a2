import ReplicaTrace.Proofs.Settings.Rules
import ReplicaTrace.Proofs.Text.Pieces
import ReplicaTrace.Tla.TraceModule

/-!
# The lines of a trace module

Line feeds stand in the text of a trace module only where a line ends, provided that the texts it is
given have none: values escape them, and the labels of actions are put on one line.

* `Value.onOneLine_ofLog` : the values of the history, whatever the ids of the servers are.
* `TraceModule.Unbroken` : the texts that a module is given have no line feed in them.
* `TraceModule.linesOf_text` : the lines of the text are the lines of the module.
-/

namespace ReplicaTrace

namespace Tla

open Text

namespace Value

/-- The text of the value has no line feed in it. -/
def OnOneLine (v : Value) : Prop := OneLine v.render

theorem onOneLine_int (n : Int) : (int n).OnOneLine := by
  cases n with
  | ofNat n => exact oneLine_repr n
  | negSucc n => exact oneLine_append.2 ⟨by decide, oneLine_repr _⟩

theorem onOneLine_str (s : String) : (str s).OnOneLine := by
  simp only [OnOneLine, render, renderStr, OneLine, String.toList_ofList]
  intro h
  simp only [List.mem_cons, List.mem_append, List.mem_flatMap, List.not_mem_nil, or_false] at h
  rcases h with h | ⟨c, -, hc⟩ | h
  · cases h
  · -- a line feed is escaped, and no escape has one
    unfold escape at hc
    split at hc <;> simp_all [eq_comm]
  · cases h

theorem onOneLine_bool (b : Bool) : (bool b).OnOneLine := by
  cases b <;> simp +decide [OnOneLine]

theorem oneLine_renderAll {items : List Value} (h : ∀ v ∈ items, v.OnOneLine) :
    OneLine (", ".intercalate (renderAll items)) := by
  rw [renderAll_eq_map]
  refine oneLine_intercalate (by decide) fun t ht => ?_
  obtain ⟨v, hv, rfl⟩ := List.mem_map.1 ht
  exact h v hv

theorem onOneLine_seq {items : List Value} (h : ∀ v ∈ items, v.OnOneLine) :
    (seq items).OnOneLine := by
  rw [OnOneLine, render, oneLine_append, oneLine_append]
  exact ⟨⟨by decide, oneLine_renderAll h⟩, by decide⟩

theorem onOneLine_set {items : List Value} (h : ∀ v ∈ items, v.OnOneLine) :
    (set items).OnOneLine := by
  rw [OnOneLine, render, oneLine_append, oneLine_append]
  exact ⟨⟨by decide, oneLine_renderAll h⟩, by decide⟩

theorem renderFields_eq_map (fields : List (String × Value)) :
    renderFields fields = fields.map fun f => f.1 ++ " |-> " ++ f.2.render := by
  induction fields with
  | nil => rfl
  | cons f fields ih => rw [renderFields, ih, List.map_cons]

theorem onOneLine_record {fields : List (String × Value)}
    (h : ∀ f ∈ fields, OneLine f.1 ∧ f.2.OnOneLine) : (record fields).OnOneLine := by
  rw [OnOneLine, render, renderFields_eq_map, oneLine_append, oneLine_append]
  refine ⟨⟨by decide, oneLine_intercalate (by decide) fun t ht => ?_⟩, by decide⟩
  obtain ⟨f, hf, rfl⟩ := List.mem_map.1 ht
  rw [oneLine_append, oneLine_append]
  exact ⟨⟨(h f hf).1, by decide⟩, (h f hf).2⟩

theorem oneLine_renderFunction {n : ℕ} {body : String} (h : OneLine body) :
    OneLine (renderFunction n body) := by
  simp +decide [renderFunction, toString, h]

theorem onOneLine_function {values : List Value} (h : ∀ v ∈ values, v.OnOneLine) :
    (function values).OnOneLine := by
  cases values with
  | nil => simp +decide [OnOneLine]
  | cons v vs =>
    rw [OnOneLine, render]
    split
    · exact oneLine_renderFunction (h v List.mem_cons_self)
    · refine oneLine_renderFunction ?_
      rw [← renderAll, oneLine_append, oneLine_append]
      exact ⟨⟨by decide, oneLine_renderAll h⟩, by decide⟩

theorem onOneLine_ofEntry (e : Entry) : (ofEntry e).OnOneLine := by
  refine onOneLine_record fun f hf => ?_
  simp only [List.mem_cons, List.not_mem_nil, or_false] at hf
  rcases hf with rfl | rfl | rfl | rfl
  · exact ⟨show OneLine "id" by decide, onOneLine_str _⟩
  · exact ⟨show OneLine "active" by decide, onOneLine_bool _⟩
  · exact ⟨show OneLine "slot" by decide, onOneLine_int _⟩
  · exact ⟨show OneLine "ballot" by decide, onOneLine_int _⟩

theorem onOneLine_indexSet (n : ℕ) : (indexSet n).OnOneLine := by
  refine onOneLine_set fun v hv => ?_
  obtain ⟨i, -, rfl⟩ := List.mem_map.1 hv
  exact onOneLine_int i

theorem onOneLine_ofLog (log : List Entry) : (ofLog log).OnOneLine := by
  refine onOneLine_seq fun v hv => ?_
  obtain ⟨e, -, rfl⟩ := List.mem_map.1 hv
  exact onOneLine_ofEntry e

end Value

/-- None of the values has a line feed in its text. -/
def Values.OnOneLine (vs : Values) : Prop :=
  vs.role.OnOneLine ∧ vs.slot.OnOneLine ∧ vs.log.OnOneLine ∧ vs.ballot.OnOneLine

theorem Values.onOneLine_ofServer (s : Snapshot) (server : ℕ) : (ofServer s server).OnOneLine :=
  ⟨Value.onOneLine_str _, Value.onOneLine_int _, Value.onOneLine_ofLog _, Value.onOneLine_int _⟩

theorem Values.onOneLine_ofSnapshot (s : Snapshot) : (ofSnapshot s).OnOneLine := by
  have hfunction : ∀ {α : Type} (f : α → Value) (column : List α), (∀ a, (f a).OnOneLine) →
      (Value.function (column.map f)).OnOneLine := fun f column hf => by
    refine Value.onOneLine_function fun v hv => ?_
    obtain ⟨a, -, rfl⟩ := List.mem_map.1 hv
    exact hf a
  exact ⟨hfunction _ _ fun _ => Value.onOneLine_str _, hfunction _ _ fun _ => Value.onOneLine_int _,
    hfunction _ _ Value.onOneLine_ofLog, hfunction _ _ fun _ => Value.onOneLine_int _⟩

theorem Values.onOneLine_of_mem_named {vs : Values} {names : VariableNames} (h : vs.OnOneLine)
    {p : String × Value} (hp : p ∈ vs.named names) : p.1 ∈ names.toList ∧ OneLine p.2.render := by
  obtain ⟨hrole, hslot, hlog, hballot⟩ := h
  simp only [named, List.mem_cons, List.not_mem_nil, or_false] at hp
  rcases hp with rfl | rfl | rfl | rfl
  · exact ⟨by simp [VariableNames.toList], hrole⟩
  · exact ⟨by simp [VariableNames.toList], hslot⟩
  · exact ⟨by simp [VariableNames.toList], hlog⟩
  · exact ⟨by simp [VariableNames.toList], hballot⟩

namespace TraceModule

/-- The texts that the module is given have no line feed in them. -/
structure Unbroken (m : TraceModule) : Prop where
  /-- The name of the module. -/
  moduleName : OneLine m.settings.moduleName
  /-- The name of the specification. -/
  specModule : OneLine m.specModule
  /-- The names of the variables. -/
  names : ∀ name ∈ m.settings.names.toList, OneLine name
  /-- The initial predicate. -/
  initPredicate : ∀ p ∈ m.settings.initPredicate, OneLine p
  /-- The next-state action. -/
  nextAction : ∀ p ∈ m.settings.nextAction, OneLine p
  /-- The values at the start. -/
  start : m.start.OnOneLine
  /-- Where the steps are reported. -/
  location : ∀ step ∈ m.steps, ∀ l ∈ step.location, OneLine l
  /-- The values after the steps. -/
  values : ∀ step ∈ m.steps, step.values.OnOneLine

/-- A step of the module of a history comes from a snapshot in which a server acts. -/
theorem exists_snapshot_of_mem_steps {history : List Snapshot} {servers : List ServerId}
    {specModule : String} {t : TraceSettings} {step : Step}
    (h : step ∈ (ofHistory history servers specModule t).steps) :
    ∃ k s server, history[k]? = some s ∧
      step = ⟨k + 1, s.action, s.location, server, .ofServer s server⟩ := by
  obtain ⟨o, ho, hid⟩ := List.mem_filterMap.1 h
  obtain ⟨k, hk, rfl⟩ := List.mem_mapIdx.1 ho
  obtain ⟨server, -, rfl⟩ := Option.map_eq_some_iff.1 hid
  exact ⟨k, history[k], server, List.getElem?_eq_getElem hk, rfl⟩

/-- The module of a history has all its texts from the settings, the specification and the places
of the events. -/
theorem unbroken_ofHistory {history : List Snapshot} (servers : List ServerId)
    {specModule : String} {t : TraceSettings} (ht : t.Sound) (hspec : OneLine specModule)
    (hinit : ∀ p ∈ t.initPredicate, OneLine p) (hnext : ∀ p ∈ t.nextAction, OneLine p)
    (hlocation : ∀ s ∈ history, ∀ l ∈ s.location, OneLine l) :
    (ofHistory history servers specModule t).Unbroken := by
  constructor
  case moduleName => exact newline_not_mem_of_isIdentifier ht.moduleName
  case specModule => exact hspec
  case names =>
    exact fun name hname => newline_not_mem_of_isIdentifier (ht.variableNames name hname)
  case initPredicate => exact hinit
  case nextAction => exact hnext
  case start => exact Values.onOneLine_ofSnapshot _
  case location =>
    intro step hmem l hl
    obtain ⟨k, s, server, hs, rfl⟩ := exists_snapshot_of_mem_steps hmem
    exact hlocation s (List.mem_of_getElem? hs) l hl
  case values =>
    intro step hmem
    obtain ⟨k, s, server, -, rfl⟩ := exists_snapshot_of_mem_steps hmem
    exact Values.onOneLine_ofServer s server

theorem oneLine_onOneLine (text : String) : OneLine (onOneLine text) := by
  simp only [OneLine, onOneLine, String.toList_ofList, List.mem_map]
  rintro ⟨c, -, hc⟩
  split at hc
  · cases hc
  · next hc' => exact hc' (.inl hc)

theorem oneLine_conjunct {text : String} (h : OneLine text) : OneLine (conjunct text) :=
  oneLine_append.2 ⟨by decide, h⟩

theorem oneLine_replicate (n : ℕ) {c : Char} (hc : '\n' ≠ c) :
    OneLine (String.ofList (List.replicate n c)) := by
  simp [OneLine, hc]

theorem oneLine_centered {width : ℕ} {text : String} (h : OneLine text) :
    OneLine (centered width text) := by
  rw [centered, oneLine_append, oneLine_append]
  exact ⟨⟨oneLine_replicate _ (by decide), h⟩, oneLine_replicate _ (by decide)⟩

variable {m : TraceModule}

theorem oneLine_of_mem_header (h : m.Unbroken) : ∀ l ∈ m.header, OneLine l := by
  have htitle : OneLine (centered width (" MODULE " ++ m.settings.moduleName ++ " ")) :=
    oneLine_centered (by simp +decide [h.moduleName])
  have hnames : OneLine (", ".intercalate (m.settings.names.toList ++ [traceIndex])) := by
    refine oneLine_intercalate (by decide) fun t ht => ?_
    rcases List.mem_append.1 ht with ht | ht
    · exact h.names t ht
    · rw [List.mem_singleton.1 ht]
      decide
  have hspec := h.specModule
  simp +decide [header, toString, htitle, hnames, hspec]

theorem oneLine_of_mem_serverLines : ∀ l ∈ m.serverLines, OneLine l := by
  have hid : ∀ id : ServerId, OneLine (Value.str id.text).render := fun id =>
    Value.onOneLine_str id.text
  intro l hl
  rcases List.mem_append.1 hl with hl | hl
  · obtain ⟨i, hi, rfl⟩ := List.mem_mapIdx.1 hl
    simp +decide [toString, hid]
  · rw [List.mem_singleton.1 hl]
    decide

theorem oneLine_of_mem_initLines (h : m.Unbroken) : ∀ l ∈ m.initLines, OneLine l := by
  intro l hl
  simp only [initLines, List.cons_append, List.mem_cons, List.mem_append, List.mem_map,
    Option.mem_toList, List.not_mem_nil, or_false] at hl
  rcases hl with rfl | (⟨p, hp, rfl⟩ | ⟨p, hp, rfl⟩) | rfl | rfl
  · decide
  · exact oneLine_conjunct (h.initPredicate p hp)
  · obtain ⟨hname, hvalue⟩ := Values.onOneLine_of_mem_named h.start hp
    exact oneLine_conjunct (by simp +decide [toString, h.names _ hname, hvalue])
  · decide
  · decide

theorem oneLine_of_mem_stepLines (h : m.Unbroken) {step : Step} (hstep : step ∈ m.steps) :
    ∀ l ∈ m.stepLines step, OneLine l := by
  have hlocation : OneLine ((step.location.map fun l => s!" ({l})").getD "") := by
    cases hl : step.location with
    | none => exact (by decide : OneLine "")
    | some l => simp +decide [toString, h.location step hstep l hl]
  have hnote : OneLine (stepNote step) := by
    rw [stepNote, oneLine_append]
    exact ⟨by simp +decide [toString, oneLine_onOneLine], hlocation⟩
  intro l hl
  simp only [stepLines, List.cons_append, List.nil_append, List.mem_cons, List.mem_append,
    List.mem_map, Option.mem_toList, List.not_mem_nil, or_false] at hl
  rcases hl with rfl | rfl | rfl | (⟨p, hp, rfl⟩ | ⟨p, hp, rfl⟩) | rfl | rfl
  · exact hnote
  · simp +decide [toString]
  · exact oneLine_conjunct (by simp +decide [toString])
  · exact oneLine_conjunct (h.nextAction p hp)
  · obtain ⟨hname, hvalue⟩ := Values.onOneLine_of_mem_named (h.values step hstep) hp
    exact oneLine_conjunct (by simp +decide [assignment, toString, h.names _ hname, hvalue])
  · exact oneLine_conjunct (by simp +decide [toString])
  · decide

theorem oneLine_of_mem_nextLines : ∀ l ∈ m.nextLines, OneLine l := by
  intro l hl
  simp only [nextLines, List.mem_cons, List.mem_append, List.not_mem_nil, or_false] at hl
  rcases hl with (rfl | hl) | rfl
  · decide
  · split at hl
    · rw [List.mem_singleton.1 hl]
      decide
    · obtain ⟨k, -, rfl⟩ := List.mem_map.1 hl
      simp +decide [toString]
  · decide

theorem oneLine_of_mem_footer : ∀ l ∈ footer, OneLine l := by
  intro l hl
  simp only [footer, List.mem_cons, List.not_mem_nil, or_false] at hl
  rcases hl with rfl | rfl | rfl | rfl
  · decide
  · decide
  · decide
  · exact oneLine_replicate _ (by decide)

/-- **No line is broken**, if no text that the module is given is. -/
theorem Unbroken.oneLine_of_mem_lines (h : m.Unbroken) : ∀ l ∈ m.lines, OneLine l := by
  intro l hl
  simp only [lines, List.mem_append, List.mem_flatMap] at hl
  rcases hl with ((((hl | hl) | hl) | ⟨step, hstep, hl⟩) | hl) | hl
  · exact oneLine_of_mem_header h l hl
  · exact oneLine_of_mem_serverLines l hl
  · exact oneLine_of_mem_initLines h l hl
  · exact oneLine_of_mem_stepLines h hstep l hl
  · exact oneLine_of_mem_nextLines l hl
  · exact oneLine_of_mem_footer l hl

/-- The lines of the text are the lines of the module. -/
theorem Unbroken.linesOf_text (h : m.Unbroken) : linesOf m.text = m.lines ++ [""] :=
  linesOf_join h.oneLine_of_mem_lines

end TraceModule

end Tla

end ReplicaTrace
