import ReplicaTrace.Proofs.Tla.Replay
import ReplicaTrace.Proofs.Tla.Zones

/-!
# What a trace module keeps in its comments and strings

The labels of actions, the names of log files and the ids of servers are texts from outside.  In a
trace module they stand in comments and strings only, unless a line feed in the name of a log file
ends the comment that it stands in: labels are put on one line and ids are escaped, but places are
written as they are.

* `TraceModule.anonymous` : the module of a history without these texts.
* `TraceModule.SameTrace.visible_eq` : line by line, it says the same as the module with them.
* `TraceModule.SameTrace.oneLine_of_visible_eq` : a broken line can be told from what is said.
* `TraceModule.countP_isNote_lines` : the comments.
* `exists_run_contained_iff` : the module of a replay keeps all such texts in its comments and
  strings exactly if no event is from a file with a line feed in its name.
-/

namespace ReplicaTrace

open Text

/-- The record without the id of its server. -/
def Entry.anonymous (e : Entry) : Entry :=
  { e with server := ⟨""⟩ }

/-- The snapshot without label, place and ids. -/
def Snapshot.anonymous (s : Snapshot) : Snapshot :=
  { s with action := "", location := none, logs := s.logs.map fun log => log.map Entry.anonymous }

theorem Snapshot.logOf_anonymous (s : Snapshot) (server : ℕ) :
    s.anonymous.logOf server = (s.logOf server).map Entry.anonymous := by
  simp only [logOf, anonymous, List.getElem?_map]
  cases s.logs[server]? <;> rfl

theorem Event.oneLine_location_iff {e : Event} : OneLine e.location ↔ OneLine e.source.location := by
  simp +decide [Event.location, toString]

namespace Tla

namespace TraceModule

variable {m : TraceModule} {history : List Snapshot} {servers : List ServerId}
  {specModule : String} {t : TraceSettings} {size : ℕ}

variable (history servers specModule t) in
/-- The module of a history without the labels, places and ids in it. -/
def anonymous : TraceModule :=
  ofHistory (history.map Snapshot.anonymous) (servers.map fun _ => ⟨""⟩) specModule t

/-! ### Steps that differ in their texts only -/

/-- The second step is the first one without its texts. -/
structure SameStep (step step' : Step) : Prop where
  /-- They have one number. -/
  number : step.number = step'.number
  /-- The same server acts. -/
  server : step.server = step'.server
  /-- It has the same role. -/
  role : Alike step.values.role.render step'.values.role.render
  /-- It has the same slot. -/
  slot : Alike step.values.slot.render step'.values.slot.render
  /-- Its log is the same up to the ids. -/
  log : Alike step.values.log.render step'.values.log.render
  /-- It has the same ballot. -/
  ballot : Alike step.values.ballot.render step'.values.ballot.render
  /-- The second step has no place. -/
  location : step'.location = none

/-- Plain lines say what they are. -/
theorem sameLine_of_plain {line : String} (h : Plain line) : SameLine line line :=
  h.settled.closed.sameLine

theorem sameLine_conjunct {text text' : String} (h : Alike text text') :
    SameLine (conjunct text) (conjunct text') :=
  ((show Settled "    /\\ " by decide).alike.append h).sameLine

theorem closed_conjunct {text : String} (h : Closed text) : Closed (conjunct text) :=
  closed_append (by decide) h

theorem alike_assignment {name : String} (hname : Plain name) (server : ℕ) {v v' : Value}
    (h : Alike v.render v'.render) :
    Alike (assignment server name v) (assignment server name v') := by
  have hplain : ∀ {text : String}, Plain text → Alike text text := fun htext =>
    htext.settled.alike
  rw [assignment_eq, assignment_eq]
  refine (hplain hname).append ((hplain (by decide)).append ?_)
  refine (hplain hname).append ((hplain (by decide)).append ?_)
  refine (hplain (plain_repr server)).append ((hplain (by decide)).append ?_)
  exact h.append (hplain (by decide))

theorem isNote_stepNote (step : Step) : isNote (stepNote step) = true := by
  simp [isNote, stepNote, toString]

theorem oneLine_stepNote_iff {step : Step} :
    OneLine (stepNote step) ↔ ∀ l ∈ step.location, OneLine l := by
  cases hl : step.location with
  | none => simp +decide [stepNote, hl, toString, oneLine_onOneLine]
  | some l => simp +decide [stepNote, hl, toString, oneLine_onOneLine]

/-- **One step.**  Steps that differ in their texts only are written in lines that say the same. -/
theorem forall₂_stepLines {step step' : Step} (h : SameStep step step')
    (hlocation : ∀ l ∈ step.location, OneLine l) (hsound : m.settings.Sound)
    (hnext : ∀ p ∈ m.settings.nextAction, Closed p) :
    List.Forall₂ SameLine (m.stepLines step) (m.stepLines step') := by
  have hnames : ∀ name ∈ m.settings.names.toList, Plain name := fun name hname =>
    plain_of_isIdentifier (hsound.variableNames name hname)
  have hnote : SameLine (stepNote step) (stepNote step') :=
    sameLine_of_isNote (isNote_stepNote step) (isNote_stepNote step')
      (oneLine_stepNote_iff.2 hlocation) (oneLine_stepNote_iff.2 (by simp [h.location]))
  have hassign : ∀ {name : String} {v v' : Value}, name ∈ m.settings.names.toList →
      Alike v.render v'.render → SameLine (conjunct (assignment step.server name v))
        (conjunct (assignment step.server name v')) := fun hname hvalue =>
    sameLine_conjunct (alike_assignment (hnames _ hname) _ hvalue)
  rw [stepLines, stepLines, ← h.number, ← h.server]
  refine List.rel_append (List.rel_append (List.rel_append ?_ ?_) ?_) ?_
  · refine .cons hnote (.cons (sameLine_of_plain ?_) (.cons (sameLine_conjunct ?_) .nil))
    · simp +decide [toString]
    · exact (Plain.settled (by simp +decide [toString])).alike
  · refine List.forall₂_same.2 fun line hline => ?_
    obtain ⟨p, hp, rfl⟩ := List.mem_map.1 hline
    exact (closed_conjunct (hnext p (Option.mem_toList.1 hp))).sameLine
  · refine .cons (hassign ?_ h.role) (.cons (hassign ?_ h.slot) (.cons (hassign ?_ h.log)
      (.cons (hassign ?_ h.ballot) .nil)))
    all_goals simp [VariableNames.toList]
  · refine .cons (sameLine_conjunct ?_) (.cons (sameLine_of_plain (by decide)) .nil)
    exact (Plain.settled (by simp +decide [toString])).alike

/-- Without its texts, a step of a history says the same. -/
theorem rel_stepOf (index : ℕ) (s : Snapshot) :
    Option.Rel SameStep (stepOf index s) (stepOf index s.anonymous) := by
  unfold stepOf
  cases hactor : s.actor with
  | none =>
    have hactor' : s.anonymous.actor = none := hactor
    rw [hactor']
    exact .none
  | some server =>
    have hactor' : s.anonymous.actor = some server := hactor
    rw [hactor']
    refine .some ⟨rfl, rfl, (Value.settled_str _).alike, (Value.settled_int _).alike, ?_,
      (Value.settled_int _).alike, rfl⟩
    change Alike (Value.ofLog (s.logOf server)).render
      (Value.ofLog (s.anonymous.logOf server)).render
    rw [Snapshot.logOf_anonymous]
    exact Value.alike_ofLog _ _

variable (history servers specModule t) in
theorem forall₂_steps :
    List.Forall₂ SameStep (ofHistory history servers specModule t).steps
      (anonymous history servers specModule t).steps := by
  have hsteps : List.Forall₂ (Option.Rel SameStep) (history.mapIdx stepOf)
      ((history.map Snapshot.anonymous).mapIdx stepOf) := by
    refine List.forall₂_iff_get.2 ⟨by simp, fun i hi hi' => ?_⟩
    simp only [List.get_eq_getElem, List.getElem_mapIdx, List.getElem_map]
    exact rel_stepOf i _
  exact List.rel_filterMap (fun _ _ ho => ho) hsteps

/-! ### All lines -/

theorem closed_of_mem_header (h : m.Unbroken) (hsound : m.settings.Sound)
    (hspec : Closed m.specModule) : ∀ l ∈ m.header, Closed l := by
  have hdashes : ∀ n, Plain (String.ofList (List.replicate n '-')) := fun n c hc => by
    rw [String.toList_ofList] at hc
    rw [List.eq_of_mem_replicate hc]
    decide
  have htitle : Plain (centered width s!" MODULE {m.settings.moduleName} ") := by
    have hname := plain_of_isIdentifier hsound.moduleName
    simp +decide [centered, toString, hdashes, hname]
  have hextends : Closed s!"EXTENDS {m.specModule}, Naturals, Sequences, TLC" :=
    closed_append_plain (closed_append (by decide) hspec) (by decide)
  have hnames : Plain (", ".intercalate (m.settings.names.toList ++ [traceIndex])) := by
    refine plain_intercalate (by decide) fun name hname => ?_
    rcases List.mem_append.1 hname with hname | hname
    · exact plain_of_isIdentifier (hsound.variableNames name hname)
    · rw [List.mem_singleton.1 hname]
      decide
  have hplain : ∀ {l : String}, Plain l → Closed l := fun hl => hl.settled.closed
  intro l hl
  have hline : OneLine l := oneLine_of_mem_header h l hl
  simp only [header, List.mem_cons, List.not_mem_nil, or_false] at hl
  rcases hl with rfl | rfl | rfl | rfl | rfl | rfl | rfl | rfl | rfl
  · exact hplain htitle
  · exact (visible_of_isNote (by simp [isNote, toString]) hline).2
  · exact hextends
  · decide
  · decide
  · decide
  · exact hplain (by simp +decide [hnames])
  · exact hplain (by simp +decide [toString])
  · decide

/-- The lines that tell which server has which index say the same for all ids. -/
theorem forall₂_serverLines {m' : TraceModule} (h : m.servers.length = m'.servers.length) :
    List.Forall₂ SameLine m.serverLines m'.serverLines := by
  refine List.rel_append (List.forall₂_iff_get.2 ⟨by simp [h], fun i hi hi' => ?_⟩)
    (.cons (sameLine_of_plain (by decide)) .nil)
  simp only [List.get_eq_getElem, List.getElem_mapIdx]
  have hline : ∀ id : ServerId, OneLine s!"\\* server {i} = {(Value.str id.text).render}" :=
    fun id => by
      have hid : OneLine (Value.str id.text).render := Value.onOneLine_str id.text
      simp +decide [toString, hid]
  exact sameLine_of_isNote (by simp [isNote, toString]) (by simp [isNote, toString]) (hline _)
    (hline _)

theorem settled_of_mem_named {s : Snapshot} {names : VariableNames} {p : String × Value}
    (hp : p ∈ (Values.ofSnapshot s).named names) : p.1 ∈ names.toList ∧ Settled p.2.render := by
  have hfunction : ∀ {α : Type} (f : α → Value) (column : List α), (∀ a, Settled (f a).render) →
      Settled (Value.function (column.map f)).render := fun f column hf => by
    refine Value.settled_function fun v hv => ?_
    obtain ⟨a, -, rfl⟩ := List.mem_map.1 hv
    exact hf a
  refine ⟨(Values.onOneLine_of_mem_named (Values.onOneLine_ofSnapshot s) hp).1, ?_⟩
  simp only [Values.named, Values.ofSnapshot, List.mem_cons, List.not_mem_nil, or_false] at hp
  rcases hp with rfl | rfl | rfl | rfl
  · exact hfunction _ _ fun _ => Value.settled_str _
  · exact hfunction _ _ fun _ => Value.settled_int _
  · exact hfunction _ _ fun log => (Value.alike_ofLog log ⟨""⟩).left
  · exact hfunction _ _ fun _ => Value.settled_int _

theorem closed_of_mem_initLines {s : Snapshot} (hsound : m.settings.Sound)
    (hinit : ∀ p ∈ m.settings.initPredicate, Closed p) (hstart : m.start = .ofSnapshot s) :
    ∀ l ∈ m.initLines, Closed l := by
  intro l hl
  simp only [initLines, List.cons_append, List.mem_cons, List.mem_append, List.mem_map,
    Option.mem_toList, List.not_mem_nil, or_false, hstart] at hl
  rcases hl with rfl | (⟨p, hp, rfl⟩ | ⟨p, hp, rfl⟩) | rfl | rfl
  · decide
  · exact closed_conjunct (hinit p hp)
  · obtain ⟨hmem, hvalue⟩ := settled_of_mem_named hp
    have hname : Plain p.1 := plain_of_isIdentifier (hsound.variableNames _ hmem)
    exact closed_conjunct (settled_append (settled_append hname.settled (by decide)) hvalue).closed
  · decide
  · decide

variable (m) in
/-- The lines up to the last step, and the lines below. -/
theorem lines_eq : m.lines =
    (m.header ++ m.serverLines ++ m.initLines ++ m.steps.flatMap m.stepLines) ++
      (m.nextLines ++ footer) := by
  rw [lines, List.append_assoc _ m.nextLines]

/-- The modules differ in the texts of their steps and in the ids of their servers only. -/
structure SameTrace (m m' : TraceModule) : Prop where
  /-- The settings are the same. -/
  settings : m'.settings = m.settings
  /-- The specification is the same. -/
  specModule : m'.specModule = m.specModule
  /-- There are as many servers. -/
  servers : m'.servers.length = m.servers.length
  /-- There are as many steps to be taken. -/
  length : m'.length = m.length
  /-- The servers start with the same. -/
  start : m'.start = m.start
  /-- The steps say the same. -/
  steps : List.Forall₂ SameStep m.steps m'.steps

/-- Modules that differ in their texts only say the same. -/
theorem SameTrace.visible_eq {m' : TraceModule} {s : Snapshot} (h : SameTrace m m')
    (hunbroken : m.Unbroken) (hsound : m.settings.Sound) (hstart : m.start = .ofSnapshot s)
    (hspec : Closed m.specModule) (hinit : ∀ p ∈ m.settings.initPredicate, Closed p)
    (hnext : ∀ p ∈ m.settings.nextAction, Closed p) : visible m.text = visible m'.text := by
  have hheader : m'.header = m.header := by
    simp only [header, h.settings, h.specModule, h.servers, h.length]
  have hinitLines : m'.initLines = m.initLines := by
    simp only [initLines, h.settings, h.start]
  have hnextLines : m'.nextLines = m.nextLines := by
    simp only [nextLines, h.length]
  have hstepLines : m'.stepLines = m.stepLines := by
    funext step
    simp only [stepLines, h.settings]
  have hsame : ∀ {ls : List String}, (∀ l ∈ ls, Closed l) → List.Forall₂ SameLine ls ls :=
    fun hls => List.forall₂_same.2 fun l hl => (hls l hl).sameLine
  rw [text, text, lines_eq, lines_eq, hheader, hinitLines, hnextLines, hstepLines]
  refine visible_join_eq (List.rel_append (List.rel_append (List.rel_append ?_ ?_) ?_) ?_) _
  · exact hsame (closed_of_mem_header hunbroken hsound hspec)
  · exact forall₂_serverLines h.servers.symm
  · exact hsame (closed_of_mem_initLines hsound hinit hstart)
  · have hsteps := (List.forall₂_and_left _ _).2 ⟨hunbroken.location, h.steps⟩
    exact List.rel_flatMap hsteps fun _ _ hstep =>
      forall₂_stepLines hstep.2 hstep.1 hsound hnext

variable (history servers specModule t) in
theorem sameTrace_anonymous :
    SameTrace (ofHistory history servers specModule t)
      (anonymous history servers specModule t) where
  settings := rfl
  specModule := rfl
  servers := List.length_map _
  length := List.length_map _
  start := by simp only [anonymous, ofHistory, List.length_map]
  steps := forall₂_steps history servers specModule t

theorem unbroken_anonymous (ht : t.Sound) (hspec : OneLine specModule)
    (hinit : ∀ p ∈ t.initPredicate, OneLine p) (hnext : ∀ p ∈ t.nextAction, OneLine p) :
    (anonymous history servers specModule t).Unbroken := by
  refine unbroken_ofHistory _ ht hspec hinit hnext fun s hs l hl => ?_
  obtain ⟨s, -, rfl⟩ := List.mem_map.1 hs
  cases hl

/-! ### Line feeds -/

/-- A text has a line feed for each of its lines, and there are others exactly if a line is
broken. -/
theorem count_join (lines : List String) :
    lines.length ≤ (String.join (lines.map (· ++ "\n"))).toList.count '\n' ∧
      ((String.join (lines.map (· ++ "\n"))).toList.count '\n' = lines.length ↔
        ∀ l ∈ lines, OneLine l) := by
  induction lines with
  | nil => simp
  | cons l ls ih =>
    obtain ⟨hle, hiff⟩ := ih
    have hfeed : "\n".toList.count '\n' = 1 := by decide
    have hl : l.toList.count '\n' = 0 ↔ OneLine l := List.count_eq_zero
    rw [List.forall_mem_cons, ← hl, ← hiff]
    simp only [List.map_cons, String.join_cons, String.toList_append, List.count_append,
      List.length_cons, hfeed]
    omega

variable (m) in
theorem length_lines : m.lines.length = m.header.length + (m.servers.length + 1) +
    m.initLines.length + m.steps.length * (9 + m.settings.nextAction.toList.length) +
      (m.nextLines ++ footer).length := by
  have hstep : ∀ step, (m.stepLines step).length = 9 + m.settings.nextAction.toList.length :=
    fun step => by
      simp [stepLines, Values.named]
      omega
  have hservers : m.serverLines.length = m.servers.length + 1 := by simp [serverLines]
  rw [lines_eq]
  simp only [List.length_append, hservers, List.length_flatMap, hstep, List.map_const',
    List.sum_replicate_nat]

/-- **A broken line can be told** from what the module says: if it says the same as a module without
broken lines, none of its own is broken. -/
theorem SameTrace.oneLine_of_visible_eq {m' : TraceModule} (h : SameTrace m m')
    (hunbroken : m'.Unbroken) (hvisible : visible m.text = visible m'.text) :
    ∀ l ∈ m.lines, OneLine l := by
  have hlength : m.lines.length = m'.lines.length := by
    rw [length_lines, length_lines, header, header, initLines, initLines, nextLines, nextLines,
      h.settings, h.servers, h.length, h.start, h.steps.length_eq]
    rfl
  have hcount : m.text.toList.count '\n' = m'.text.toList.count '\n' := by
    have hboth := congrArg (List.count '\n') hvisible
    rwa [visible, visible, count_outside, count_outside] at hboth
  have hnone := (count_join m'.lines).2.2 hunbroken.oneLine_of_mem_lines
  refine (count_join m.lines).2.1 ?_
  rw [hlength, ← hnone]
  exact hcount

/-- The lines of the text are the lines of the module exactly if none of them is broken. -/
theorem linesOf_text_iff : linesOf m.text = m.lines ++ [""] ↔ ∀ l ∈ m.lines, OneLine l := by
  constructor
  · intro h l hl hfeed
    have hmem : l ∈ linesOf m.text := by
      rw [h]
      exact List.mem_append_left _ hl
    obtain ⟨piece, hpiece, rfl⟩ := List.mem_map.1 hmem
    rw [String.toList_ofList] at hfeed
    simpa using notMem_of_mem_splitOnP hpiece _ hfeed
  · exact fun h => linesOf_join h

/-- In a history in which always a server acts, every snapshot has its comment. -/
theorem stepNote_mem_lines (h : Grows history size) {k : ℕ} {s : Snapshot}
    (hs : history[k]? = some s) :
    stepNote (stepAt k s) ∈ (ofHistory history servers specModule t).lines := by
  have hstep := stepAt_mem_steps servers specModule t h hs
  simp only [lines, List.mem_append, List.mem_flatMap]
  exact .inl (.inl (.inr ⟨_, hstep, by simp [stepLines]⟩))

section

variable (ht : t.Sound) (hspec : OneLine specModule) (hinit : ∀ p ∈ t.initPredicate, OneLine p)
  (hnext : ∀ p ∈ t.nextAction, OneLine p) (h : Grows history size)

include ht hspec hinit hnext h

/-- **No line is broken** exactly if no place has a line feed in it. -/
theorem forall_oneLine_iff : (∀ l ∈ (ofHistory history servers specModule t).lines, OneLine l) ↔
    ∀ s ∈ history, ∀ l ∈ s.location, OneLine l := by
  constructor
  · intro hlines s hs
    obtain ⟨k, hk⟩ := List.mem_iff_getElem?.1 hs
    exact oneLine_stepNote_iff.1 (hlines _ (stepNote_mem_lines h hk))
  · exact fun hlocation =>
      (unbroken_ofHistory servers ht hspec hinit hnext hlocation).oneLine_of_mem_lines

/-- **Nothing leaks** exactly if no place has a line feed in it. -/
theorem visible_anonymous_iff (hspec' : Closed specModule)
    (hinit' : ∀ p ∈ t.initPredicate, Closed p) (hnext' : ∀ p ∈ t.nextAction, Closed p) :
    visible (ofHistory history servers specModule t).text =
        visible (anonymous history servers specModule t).text ↔
      ∀ s ∈ history, ∀ l ∈ s.location, OneLine l := by
  have hsame := sameTrace_anonymous history servers specModule t
  constructor
  · intro hvisible
    have hbare : (anonymous history servers specModule t).Unbroken :=
      unbroken_anonymous ht hspec hinit hnext
    exact (forall_oneLine_iff ht hspec hinit hnext h).1 (hsame.oneLine_of_visible_eq hbare hvisible)
  · exact fun hlocation => hsame.visible_eq
      (unbroken_ofHistory servers ht hspec hinit hnext hlocation) ht rfl hspec' hinit' hnext'

end

/-! ### Comments -/

theorem isNote_eq_false {line : String} (h : line.toList.head? ≠ some '\\') :
    isNote line = false := by
  rw [Bool.eq_false_iff]
  intro hnote
  obtain ⟨cs, hcs⟩ := List.isPrefixOf_iff_prefix.1 hnote
  rw [← hcs] at h
  exact h rfl

theorem isNote_conjunct (text : String) : isNote (conjunct text) = false :=
  isNote_eq_false (by simp [conjunct])

theorem countP_isNote_header : m.header.countP isNote = 1 := by
  have htitle : isNote (centered width s!" MODULE {m.settings.moduleName} ") = false := by
    have hline : s!" MODULE {m.settings.moduleName} " =
        " " ++ ("MODULE " ++ m.settings.moduleName ++ " ") := by
      simp [toString, ← String.append_assoc]
    rw [hline]
    refine isNote_eq_false fun hhead => ?_
    rcases head?_centered width ("MODULE " ++ m.settings.moduleName ++ " ") with h | h
    · cases h.symm.trans hhead
    · cases h.symm.trans hhead
  have hnote : isNote (s!"\\* Observed trace: {m.length} step(s) over {m.servers.length} server(s), " ++
      "generated by trace-checker.") = true := by simp [isNote, toString]
  have hextends : isNote s!"EXTENDS {m.specModule}, Naturals, Sequences, TLC" = false :=
    isNote_eq_false (by simp [toString])
  have hvariable : isNote s!"VARIABLE {traceIndex}" = false := by decide
  have hvars : ∀ text, isNote ("traceVars == <<" ++ text ++ ">>") = false := fun text =>
    isNote_eq_false (by simp)
  have hlength : isNote s!"TraceLength == {m.length}" = false :=
    isNote_eq_false (by simp [toString])
  have hempty : isNote "" = false := by decide
  simp only [header, List.countP_cons, List.countP_nil, htitle, hnote, hextends, hvariable, hvars,
    hlength, hempty]
  decide

theorem countP_isNote_serverLines : m.serverLines.countP isNote = m.servers.length := by
  have hall : ∀ l ∈ m.servers.mapIdx fun i id => s!"\\* server {i} = {(Value.str id.text).render}",
      isNote l = true := by
    intro l hl
    obtain ⟨i, hi, rfl⟩ := List.mem_mapIdx.1 hl
    simp [isNote, toString]
  rw [serverLines, List.countP_append, List.countP_eq_length.2 hall, List.length_mapIdx]
  rfl

theorem countP_isNote_initLines : m.initLines.countP isNote = 0 := by
  refine List.countP_eq_zero.2 fun l hl => Bool.eq_false_iff.1 ?_
  simp only [initLines, List.cons_append, List.mem_cons, List.mem_append, List.mem_map,
    Option.mem_toList, List.not_mem_nil, or_false] at hl
  rcases hl with rfl | (⟨p, hp, rfl⟩ | ⟨p, hp, rfl⟩) | rfl | rfl
  · decide
  · exact isNote_conjunct _
  · exact isNote_conjunct _
  · decide
  · decide

theorem countP_isNote_stepLines (step : Step) : (m.stepLines step).countP isNote = 1 := by
  have hname : isNote s!"Step{step.number} ==" = false := isNote_eq_false (by simp [toString])
  have hconjuncts : ∀ {α : Type} (f : α → String) (items : List α),
      (items.map fun a => conjunct (f a)).countP isNote = 0 := fun f items => by
    refine List.countP_eq_zero.2 fun l hl => Bool.eq_false_iff.1 ?_
    obtain ⟨a, -, rfl⟩ := List.mem_map.1 hl
    exact isNote_conjunct _
  simp only [stepLines, List.countP_append, List.countP_cons, List.countP_nil, isNote_stepNote,
    hname, isNote_conjunct, hconjuncts]
  decide

theorem countP_isNote_nextLines : m.nextLines.countP isNote = 0 := by
  refine List.countP_eq_zero.2 fun l hl => Bool.eq_false_iff.1 ?_
  simp only [nextLines, List.mem_cons, List.mem_append, List.not_mem_nil, or_false] at hl
  rcases hl with (rfl | hl) | rfl
  · decide
  · split at hl
    · rw [List.mem_singleton.1 hl]
      decide
    · obtain ⟨k, -, rfl⟩ := List.mem_map.1 hl
      exact isNote_eq_false (by simp [toString])
  · decide

/-- **There is one comment** at the head, one for each server and one for each step. -/
theorem countP_isNote_lines :
    m.lines.countP isNote = 1 + m.servers.length + m.steps.length := by
  have hsteps : (m.steps.flatMap m.stepLines).countP isNote = m.steps.length := by
    simp [List.countP_flatMap, Function.comp_def, countP_isNote_stepLines]
  have hfooter : footer.countP isNote = 0 := by decide
  rw [lines]
  simp only [List.countP_append, countP_isNote_header, countP_isNote_serverLines,
    countP_isNote_initLines, hsteps, countP_isNote_nextLines, hfooter, Nat.add_zero]

end TraceModule

/-! ### Replays -/

/-- **What comes from outside stays in comments and strings** exactly if no event is from a file with
a line feed in its name.  The events are those of known servers, with any labels and ids; the
settings have no fault, and they and the name of the specification add no line feeds.  In a text
without line feeds from outside there is one comment at the head, one for each server and one for
each step, each on one line.  If what the settings add leaves no comment open, the text says outside
its comments and strings what it says without labels, places and ids. -/
theorem exists_run_contained_iff {r : Registry} {events : List Event} {t : TraceSettings}
    {specModule : String} (h : ∀ e ∈ events, r.knows e = true) (ht : t.fault? = none)
    (hinit : ∀ p ∈ t.initPredicate, OneLine p) (hnext : ∀ p ∈ t.nextAction, OneLine p)
    (hspec : OneLine specModule) :
    ∃ p m, Replay.run r events = .ok p ∧
      m = TraceModule.ofHistory p.snapshots r.ids specModule t ∧
      (linesOf m.text = m.lines ++ [""] ↔ ∀ e ∈ events, OneLine e.source.location) ∧
      ((∀ e ∈ events, OneLine e.source.location) →
        (linesOf m.text).countP isNote = 1 + r.size + events.length) ∧
      (Closed specModule → (∀ p ∈ t.initPredicate, Closed p) → (∀ p ∈ t.nextAction, Closed p) →
        (visible m.text = visible (TraceModule.anonymous p.snapshots r.ids specModule t).text ↔
          ∀ e ∈ events, OneLine e.source.location)) := by
  have hsound := TraceSettings.fault?_eq_none_iff.1 ht
  have hgrows := Replay.grows_snapshots_ofEvents h
  have hplaces : (∀ e ∈ events, OneLine e.source.location) ↔
      ∀ s ∈ (Replay.ofEvents r events).snapshots, ∀ l ∈ s.location, OneLine l := by
    rw [Replay.forall_location_snapshots_ofEvents]
    simp only [Event.oneLine_location_iff]
  have hlines : (∀ l ∈ (TraceModule.ofHistory (Replay.ofEvents r events).snapshots r.ids specModule
      t).lines, OneLine l) ↔ ∀ e ∈ events, OneLine e.source.location := by
    rw [hplaces, TraceModule.forall_oneLine_iff hsound hspec hinit hnext hgrows]
  refine ⟨.ofEvents r events, _, Replay.run_eq_ofEvents h, rfl, ?_, ?_, ?_⟩
  · rw [TraceModule.linesOf_text_iff, hlines]
  · intro hfiles
    have hsteps : (TraceModule.ofHistory (Replay.ofEvents r events).snapshots r.ids specModule
        t).steps.length = events.length := by
      rw [TraceModule.steps_ofHistory hgrows, List.length_mapIdx, Replay.length_snapshots_ofEvents]
    rw [TraceModule.linesOf_text_iff.2 (hlines.2 hfiles), List.countP_append,
      TraceModule.countP_isNote_lines, hsteps]
    rfl
  · intro hspec' hinit' hnext'
    rw [hplaces]
    exact TraceModule.visible_anonymous_iff hsound hspec hinit hnext hgrows hspec' hinit' hnext'

/-- Two servers with quotes, a line feed and the signs of comments in their ids. -/
def crookedServers : Registry := ⟨[⟨"a\" \\* (*\nSTOP == TRUE"⟩, ⟨"b\\"⟩], by decide, by decide⟩

/-- Events of these servers, with such signs in their labels and in the names of their files. -/
def crookedEvents : List Event :=
  [⟨0, ⟨0, "s0 (* \".log"⟩, 1, "", .other "Stop\nSTOP == TRUE", ⟨"b\\"⟩, 1, 1⟩,
    ⟨1, ⟨1, "s1 *).log"⟩, 1, "", .p2a, ⟨"a\" \\* (*\nSTOP == TRUE"⟩, 1, 1⟩]

theorem exists_run_contained_crooked :
    (∀ e ∈ crookedEvents, crookedServers.knows e = true) ∧
      ({} : TraceSettings).fault? = none ∧
      (∀ p ∈ ({} : TraceSettings).initPredicate, OneLine p) ∧
      (∀ p ∈ ({} : TraceSettings).nextAction, OneLine p) ∧ OneLine "Paxos" ∧
      (∀ e ∈ crookedEvents, OneLine e.source.location) ∧
      ∃ p m, Replay.run crookedServers crookedEvents = .ok p ∧
        m = TraceModule.ofHistory p.snapshots crookedServers.ids "Paxos" {} ∧
        linesOf m.text = m.lines ++ [""] ∧
        (linesOf m.text).countP isNote = 1 + crookedServers.size + crookedEvents.length ∧
        visible m.text =
          visible (TraceModule.anonymous p.snapshots crookedServers.ids "Paxos" {}).text := by
  have hknows : ∀ e ∈ crookedEvents, crookedServers.knows e = true := by decide
  have hfault : ({} : TraceSettings).fault? = none := by decide
  have hinit : ∀ p ∈ ({} : TraceSettings).initPredicate, OneLine p := by decide
  have hnext : ∀ p ∈ ({} : TraceSettings).nextAction, OneLine p := by decide
  have hspec : OneLine "Paxos" := by decide
  have hfiles : ∀ e ∈ crookedEvents, OneLine e.source.location := by decide
  obtain ⟨p, m, hrun, hm, hlines, hnotes, hvisible⟩ :=
    exists_run_contained_iff hknows hfault hinit hnext hspec
  exact ⟨hknows, hfault, hinit, hnext, hspec, hfiles, p, m, hrun, hm, hlines.2 hfiles,
    hnotes hfiles, (hvisible (by decide) (by decide) (by decide)).2 hfiles⟩

/-- An event from a file with line feeds in its name. -/
def brokenEvent : Event :=
  ⟨0, ⟨0, "s0\nSTOP == TRUE\n.log"⟩, 1, "", .p2a, ⟨"0"⟩, 1, 1⟩

/-- **A place leaks**: a part of the name of a file stands on a line of its own, and it is read as
the start of a definition. -/
theorem exists_leak_brokenEvent :
    (∀ e ∈ [brokenEvent], twoServers.knows e = true) ∧ ({} : TraceSettings).fault? = none ∧
      ∃ p m, Replay.run twoServers [brokenEvent] = .ok p ∧
        m = TraceModule.ofHistory p.snapshots twoServers.ids "Paxos" {} ∧
        linesOf m.text ≠ m.lines ++ [""] ∧
        "STOP == TRUE" ∈ linesOf m.text ∧
        definitionHead? "STOP == TRUE" = some ("STOP", " TRUE") ∧
        visible m.text ≠
          visible (TraceModule.anonymous p.snapshots twoServers.ids "Paxos" {}).text := by
  have hknows : ∀ e ∈ [brokenEvent], twoServers.knows e = true := by decide
  have hfault : ({} : TraceSettings).fault? = none := by decide
  have hgrows := Replay.grows_snapshots_ofEvents hknows
  have hnote : TraceModule.stepNote (TraceModule.stepAt 0 (.ofEvents twoServers [brokenEvent])) ∈
      (TraceModule.ofHistory (Replay.ofEvents twoServers [brokenEvent]).snapshots twoServers.ids
        "Paxos" {}).lines :=
    TraceModule.stepNote_mem_lines hgrows rfl
  have hleak : "STOP == TRUE" ∈
      linesOf (TraceModule.stepNote (TraceModule.stepAt 0 (.ofEvents twoServers [brokenEvent]))) := by
    decide +kernel
  have hbroken : ¬ ∀ l ∈ (TraceModule.ofHistory (Replay.ofEvents twoServers [brokenEvent]).snapshots
      twoServers.ids "Paxos" {}).lines, OneLine l := fun hall =>
    absurd (hall _ hnote) (by decide +kernel)
  refine ⟨hknows, hfault, .ofEvents twoServers [brokenEvent], _,
    Replay.run_eq_ofEvents hknows, rfl, ?_, ?_, by decide, fun hvisible => hbroken ?_⟩
  · rwa [ne_eq, TraceModule.linesOf_text_iff]
  · rw [TraceModule.text, linesOf_join_eq_flatMap]
    exact List.mem_append_left _ (List.mem_flatMap.2 ⟨_, hnote, hleak⟩)
  · refine (TraceModule.sameTrace_anonymous _ _ _ _).oneLine_of_visible_eq ?_ hvisible
    exact TraceModule.unbroken_anonymous (TraceSettings.fault?_eq_none_iff.1 hfault) (by decide)
      (by decide) (by decide)

end Tla

end ReplicaTrace
