import ReplicaTrace.Proofs.Tla.Conjuncts

/-!
# What a trace module defines

Reading the lines of a trace module finds the module's definitions and no others, in their order:
the variables, the length, the start, one definition for each step, and what the model checker is
to check.

* `TraceModule.definitionList` : the definitions.
* `TraceModule.definitions_lines` : they are what is read.
-/

namespace ReplicaTrace

namespace Tla

open Text

namespace TraceModule

variable (m : TraceModule)

/-- What holds at the start. -/
def startConjuncts : List String :=
  m.settings.initPredicate.toList ++
    (m.start.named m.settings.names).map (fun p => p.1 ++ " = " ++ p.2.render) ++
    [traceIndex ++ " = " ++ toString 0]

/-- What a step requires and what it sets. -/
def stepConjuncts (step : Step) : List String :=
  (traceIndex ++ " = " ++ toString (step.number - 1)) :: m.settings.nextAction.toList ++
    (step.values.named m.settings.names).map (fun p => assignment step.server p.1 p.2) ++
    [traceIndex ++ "' = " ++ toString step.number]

/-- The alternatives between the steps. -/
def alternatives : List String :=
  if m.length = 0 then ["    FALSE"]
  else (List.range m.length).map fun k => "    \\/ " ++ stepName (k + 1)

/-- The definition of a step. -/
def stepDefinition (step : Step) : Definition :=
  ⟨stepName step.number, "", (m.stepConjuncts step).map conjunct⟩

/-- The definitions of the module, in their order. -/
def definitionList : List Definition :=
  [ ⟨"traceVars", " <<" ++ ", ".intercalate (m.settings.names.toList ++ [traceIndex]) ++ ">>", []⟩,
    ⟨"TraceLength", " " ++ toString m.length, []⟩,
    ⟨"TraceInit", "", m.startConjuncts.map conjunct⟩ ] ++
  m.steps.map m.stepDefinition ++
  [ ⟨"TraceNext", "", m.alternatives⟩,
    ⟨traceSpec, " TraceInit /\\ [][TraceNext]_traceVars /\\ WF_traceVars(TraceNext)", []⟩,
    ⟨traceMatched, " <>(traceIndex = TraceLength)", []⟩ ]

variable {m} {rest : List String}

/-! ### Part by part -/

theorem isIndented_append (start text : String) (h : isIndented start = true) :
    isIndented (start ++ text) = true := by
  simp only [isIndented, beq_iff_eq] at *
  rw [String.toList_append, List.head?_append, h]
  rfl

theorem definitionHead?_name {name first : String} (hname : isIdentifier name = true)
    (hword : name ∉ keywords) :
    definitionHead? (name ++ (" ==" ++ first)) = some (name, first) := by
  rw [definitionHead?_append hname (stopsAt_append (by decide) (by decide) _) hword, after?_append]
  rfl

/-- What is centered starts with a dash, or with its blank if it is too long for dashes. -/
theorem head?_centered (width : ℕ) (title : String) :
    (centered width (" " ++ title)).toList.head? = some ' ' ∨
      (centered width (" " ++ title)).toList.head? = some '-' := by
  simp only [centered, String.toList_append, String.toList_ofList]
  cases (width - (" " ++ title).length) / 2 with
  | zero => simp
  | succ n => simp [List.replicate_succ]

theorem definitionHead?_centered (width : ℕ) (title : String) :
    definitionHead? (centered width (" " ++ title)) = none := by
  refine definitionHead?_of_stopsAt fun c hc => ?_
  rcases head?_centered width title with hhead | hhead
  · obtain rfl := Option.some.inj (hhead.symm.trans hc)
    decide
  · obtain rfl := Option.some.inj (hhead.symm.trans hc)
    decide

/-- The conjuncts of a definition, up to the empty line below them. -/
theorem definitions_conjuncts {line name : String} (hhead : definitionHead? line = some (name, ""))
    (conjuncts rest : List String) :
    definitions (line :: (conjuncts.map conjunct ++ "" :: rest)) =
      ⟨name, "", conjuncts.map conjunct⟩ :: definitions rest := by
  have hbody : ∀ l ∈ conjuncts.map conjunct, isIndented l = true := fun l hl => by
    obtain ⟨c, -, rfl⟩ := List.mem_map.1 hl
    exact isIndented_append _ _ (by decide)
  rw [definitions_block hhead hbody (by simp [isIndented]), definitions_empty_cons]

theorem definitions_header : definitions (m.header ++ rest) =
    ⟨"traceVars", " <<" ++ ", ".intercalate (m.settings.names.toList ++ [traceIndex]) ++ ">>", []⟩ ::
      ⟨"TraceLength", " " ++ toString m.length, []⟩ :: definitions rest := by
  have htitle : definitionHead? (centered width s!" MODULE {m.settings.moduleName} ") = none := by
    have hline : s!" MODULE {m.settings.moduleName} " =
        " " ++ ("MODULE " ++ m.settings.moduleName ++ " ") := by
      simp [toString, ← String.append_assoc]
    rw [hline]
    exact definitionHead?_centered _ _
  have hnote : StopsAt isIdentifierRest
      (s!"\\* Observed trace: {m.length} step(s) over {m.servers.length} server(s), " ++
        "generated by trace-checker.") := by
    simp only [toString, String.append_assoc]
    exact stopsAt_append (by decide) (by decide) _
  have hextends : definitionHead? s!"EXTENDS {m.specModule}, Naturals, Sequences, TLC" = none := by
    have hline : s!"EXTENDS {m.specModule}, Naturals, Sequences, TLC" =
        "EXTENDS" ++ (" " ++ (m.specModule ++ ", Naturals, Sequences, TLC")) := by
      simp [toString, ← String.append_assoc]
    rw [hline]
    exact definitionHead?_keyword (by decide) (stopsAt_append (by decide) (by decide) _)
  have hvariable : definitionHead? s!"VARIABLE {traceIndex}" = none := by decide
  have hvars : ∀ text, definitionHead? ("traceVars == <<" ++ text ++ ">>") =
      some ("traceVars", " <<" ++ text ++ ">>") := fun text => by
    have hline : "traceVars == <<" ++ text ++ ">>" =
        "traceVars" ++ (" ==" ++ (" <<" ++ text ++ ">>")) := by
      simp [← String.append_assoc]
    rw [hline]
    exact definitionHead?_name (by decide) (by decide)
  have hlength : definitionHead? s!"TraceLength == {m.length}" =
      some ("TraceLength", " " ++ toString m.length) := by
    have hline : s!"TraceLength == {m.length}" =
        "TraceLength" ++ (" ==" ++ (" " ++ toString m.length)) := by
      simp [toString, ← String.append_assoc]
    rw [hline]
    exact definitionHead?_name (by decide) (by decide)
  -- the definition of the variables ends where the next one starts
  have hnext : isIndented s!"TraceLength == {m.length}" = false := by
    refine Bool.eq_false_iff.2 fun h => ?_
    rw [definitionHead?_of_isIndented h] at hlength
    cases hlength
  simp only [header, List.cons_append, List.nil_append]
  rw [definitions_cons_of_none htitle, definitions_cons_of_none (definitionHead?_of_stopsAt hnote),
    definitions_cons_of_none hextends, definitions_empty_cons, definitions_cons_of_none hvariable,
    definitions_empty_cons, definitions_cons_of_some (hvars _) (by simpa using hnext),
    definitions_cons_of_some hlength (by simp [isIndented]), definitions_empty_cons]

theorem definitions_serverLines : definitions (m.serverLines ++ rest) = definitions rest := by
  refine definitions_append_of_none fun l hl => definitionHead?_of_stopsAt ?_
  rcases List.mem_append.1 hl with hl | hl
  · obtain ⟨i, hi, rfl⟩ := List.mem_mapIdx.1 hl
    simp only [toString, String.append_assoc]
    exact stopsAt_append (by decide) (by decide) _
  · rw [List.mem_singleton.1 hl]
    decide

theorem definitions_initLines : definitions (m.initLines ++ rest) =
    ⟨"TraceInit", "", m.startConjuncts.map conjunct⟩ :: definitions rest := by
  have hzero : traceIndex ++ " = 0" = traceIndex ++ " = " ++ Nat.repr 0 := by decide
  have hlines : m.initLines ++ rest =
      "TraceInit ==" :: (m.startConjuncts.map conjunct ++ "" :: rest) := by
    simp [initLines, startConjuncts, toString, Function.comp_def, hzero]
  have hhead : definitionHead? "TraceInit ==" = some ("TraceInit", "") := by decide
  rw [hlines, definitions_conjuncts hhead]

theorem isIdentifier_stepName (k : ℕ) : isIdentifier (stepName k) = true := by
  refine isIdentifier_iff.2 ⟨'S', "tep".toList ++ (toString k).toList, ?_, by decide, ?_⟩
  · simp [stepName]
  · intro c hc
    rcases List.mem_append.1 hc with hc | hc
    · exact List.all_eq_true.1 (by decide : "tep".toList.all isIdentifierRest = true) c hc
    · simp [isIdentifierRest, Char.isAlphanum, isDigit_of_mem_toString hc]

/-- The name of a step is no keyword: its first letter is that of none. -/
theorem stepName_notMem_keywords (k : ℕ) : stepName k ∉ keywords := by
  have hkeywords : ∀ w ∈ keywords, w.toList.head? ≠ some 'S' := by decide
  exact fun h => hkeywords _ h (by simp [stepName])

theorem definitions_stepLines (step : Step) : definitions (m.stepLines step ++ rest) =
    m.stepDefinition step :: definitions rest := by
  have hlines : m.stepLines step ++ rest =
      stepNote step :: (stepName step.number ++ (" ==" ++ "")) ::
        ((m.stepConjuncts step).map conjunct ++ "" :: rest) := by
    simp [stepLines, stepConjuncts, toString, stepName]
  have hnote : StopsAt isIdentifierRest (stepNote step) := by
    simp only [stepNote, toString, String.append_assoc]
    exact stopsAt_append (by decide) (by decide) _
  rw [hlines, definitions_cons_of_none (definitionHead?_of_stopsAt hnote), definitions_conjuncts
    (definitionHead?_name (isIdentifier_stepName _) (stepName_notMem_keywords _))]
  rfl

theorem definitions_nextLines : definitions (m.nextLines ++ rest) =
    ⟨"TraceNext", "", m.alternatives⟩ :: definitions rest := by
  have hhead : definitionHead? "TraceNext ==" = some ("TraceNext", "") := by decide
  have hbody : ∀ l ∈ m.alternatives, isIndented l = true := by
    intro l hl
    unfold alternatives at hl
    split at hl
    · rw [List.mem_singleton.1 hl]
      decide
    · obtain ⟨k, -, rfl⟩ := List.mem_map.1 hl
      exact isIndented_append _ _ (by decide)
  have hstep : ∀ k : ℕ, "    \\/ " ++ stepName k = "    \\/ Step" ++ toString k := fun k => by
    simp [stepName, ← String.append_assoc]
  have hlines : m.nextLines ++ rest = "TraceNext ==" :: (m.alternatives ++ "" :: rest) := by
    simp only [nextLines, alternatives, hstep, List.cons_append, List.append_assoc]
    rfl
  rw [hlines, definitions_block hhead hbody (by simp [isIndented]), definitions_empty_cons]

theorem definitions_footer : definitions (footer ++ [""]) =
    [ ⟨traceSpec, " TraceInit /\\ [][TraceNext]_traceVars /\\ WF_traceVars(TraceNext)", []⟩,
      ⟨traceMatched, " <>(traceIndex = TraceLength)", []⟩ ] := by
  decide +kernel

/-- **The definitions of a trace module.** -/
theorem definitions_lines : definitions (m.lines ++ [""]) = m.definitionList := by
  have hsteps : ∀ (steps : List Step) (rest : List String),
      definitions (steps.flatMap m.stepLines ++ rest) =
        steps.map m.stepDefinition ++ definitions rest := by
    intro steps rest
    induction steps with
    | nil => rfl
    | cons step steps ih =>
      rw [List.flatMap_cons, List.append_assoc, definitions_stepLines, ih, List.map_cons,
        List.cons_append]
  simp only [lines, List.append_assoc, definitions_header, definitions_serverLines,
    definitions_initLines, hsteps, definitions_nextLines, definitions_footer]
  rfl

end TraceModule

end Tla

end ReplicaTrace
