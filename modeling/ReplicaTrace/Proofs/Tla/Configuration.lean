import ReplicaTrace.Proofs.Settings.Assignments
import ReplicaTrace.Proofs.Settings.Rules
import ReplicaTrace.Proofs.Text.Pieces
import ReplicaTrace.Tla.ModelConfig

/-!
# What a model configuration tells

Every line of a model configuration tells by its beginning what it is about, whatever stands in the
values: a line of a constant starts with two blanks and has the name up to the first character that
no identifier has.  A configuration is therefore read back line by line, and nothing in it is lost.

* `ModelConfig.ofLines?` : the configuration that lines tell.
* `ModelConfig.Writable` : names are identifiers, and no text has a line feed in it.
* `ModelConfig.ofLines?_linesOf_text` : a configuration is read back.
* `ModelConfig.text_tells` : texts tell configurations, and the settings tell the constants.
-/

namespace ReplicaTrace

namespace Tla

open Text

namespace ModelConfig

/-- The constant that a line assigns, with its value. -/
def assignment? (line : String) : Option (String × String) := do
  let (name, rest) := leading isIdentifierRest (← after? "  " line)
  let value ← after? " = " rest
  return (name, value)

/-- The configuration that lines tell, each by its beginning. -/
def ofLines? (lines : List String) : Option ModelConfig := do
  let moduleName ← lines.findSome? (after? "\\* Generated for: ")
  let specification ← lines.findSome? (after? "SPECIFICATION ")
  return {
    moduleName
    constants := .ofList (lines.filterMap assignment?)
    specification
    properties := lines.filterMap (after? "PROPERTY ")
    checkDeadlock := decide ("CHECK_DEADLOCK FALSE" ∉ lines) }

/-- **The configuration can be written**: the names of the constants are identifiers, and no text
has a line feed in it. -/
structure Writable (c : ModelConfig) : Prop where
  moduleName : OneLine c.moduleName
  names : ∀ e ∈ c.constants.entries, isIdentifier e.1 = true
  values : ∀ e ∈ c.constants.entries, OneLine e.2
  specification : OneLine c.specification
  properties : ∀ p ∈ c.properties, OneLine p

instance (c : ModelConfig) : Decidable c.Writable :=
  decidable_of_iff (OneLine c.moduleName ∧ (∀ e ∈ c.constants.entries, isIdentifier e.1 = true) ∧
      (∀ e ∈ c.constants.entries, OneLine e.2) ∧ OneLine c.specification ∧
      ∀ p ∈ c.properties, OneLine p)
    ⟨fun ⟨h₁, h₂, h₃, h₄, h₅⟩ => ⟨h₁, h₂, h₃, h₄, h₅⟩,
      fun ⟨h₁, h₂, h₃, h₄, h₅⟩ => ⟨h₁, h₂, h₃, h₄, h₅⟩⟩

variable {c c' : ModelConfig}

/-! ### Lines -/

/-- The line of a constant. -/
def assignmentLine (e : String × String) : String :=
  "  " ++ e.1 ++ " = " ++ e.2

theorem assignment?_assignmentLine {e : String × String} (h : isIdentifier e.1 = true) :
    assignment? (assignmentLine e) = some e := by
  have hstop : StopsAt isIdentifierRest (" = " ++ e.2) := stopsAt_append (by decide) (by decide) _
  rw [assignment?, assignmentLine, String.append_assoc, String.append_assoc, after?_append]
  simp only [Option.bind_eq_bind, Option.bind_some,
    leading_append (isIdentifierRest_of_mem h) hstop, after?_append]
  rfl

/-- The lines of a section, which is left out if it says nothing. -/
def block (heading body : List String) : List String :=
  if body = [] then [] else heading ++ body ++ [""]

theorem lines_eq (c : ModelConfig) :
    c.lines = ["\\* TLC Configuration File", "\\* Generated for: " ++ c.moduleName, ""] ++
      block ["CONSTANTS"] (c.constants.entries.map assignmentLine) ++
      ["SPECIFICATION " ++ c.specification, ""] ++
      block [] (c.properties.map ("PROPERTY " ++ ·)) ++
      (if c.checkDeadlock then [] else ["CHECK_DEADLOCK FALSE"]) := by
  have hline : (fun e : String × String => s!"  {e.1} = {e.2}") = assignmentLine := by
    funext e
    simp [assignmentLine, toString]
  simp only [lines, hline, block, List.map_eq_nil_iff]
  simp [toString]

theorem mem_block {heading body : List String} {line : String} (h : line ∈ block heading body) :
    line ∈ heading ∨ line ∈ body ∨ line = "" := by
  unfold block at h
  split at h
  · cases h
  · simpa [or_assoc] using h

/-- A reader that passes over headings reads what the section says. -/
theorem filterMap_block {α : Type} {read : String → Option α} {heading : List String}
    (body : List String) (hheading : ∀ line ∈ heading, read line = none)
    (hempty : read "" = none) :
    (block heading body).filterMap read = body.filterMap read := by
  unfold block
  split
  · next hbody => rw [hbody]
  · simp [List.filterMap_append, List.filterMap_eq_nil_iff.2 hheading, hempty]

/-- No line of a configuration that can be written has a line feed in it. -/
theorem Writable.oneLine (h : c.Writable) : ∀ line ∈ c.lines, OneLine line := by
  have hconstant : ∀ e ∈ c.constants.entries, OneLine (assignmentLine e) := fun e he => by
    simp +decide [assignmentLine, h.values e he, show OneLine e.1 from
      newline_not_mem_of_isIdentifier (h.names e he)]
  intro line hline
  rw [lines_eq] at hline
  simp only [List.mem_append] at hline
  rcases hline with (((hline | hline) | hline) | hline) | hline
  · simp only [List.mem_cons, List.not_mem_nil, or_false] at hline
    rcases hline with rfl | rfl | rfl
    · decide
    · exact oneLine_append.2 ⟨by decide, h.moduleName⟩
    · decide
  · rcases mem_block hline with hline | hline | rfl
    · rw [List.mem_singleton.1 hline]
      decide
    · obtain ⟨e, he, rfl⟩ := List.mem_map.1 hline
      exact hconstant e he
    · decide
  · simp only [List.mem_cons, List.not_mem_nil, or_false] at hline
    rcases hline with rfl | rfl
    · exact oneLine_append.2 ⟨by decide, h.specification⟩
    · decide
  · rcases mem_block hline with hline | hline | rfl
    · cases hline
    · obtain ⟨p, hp, rfl⟩ := List.mem_map.1 hline
      exact oneLine_append.2 ⟨by decide, h.properties p hp⟩
    · decide
  · split at hline
    · cases hline
    · rw [List.mem_singleton.1 hline]
      decide

/-! ### Beginnings -/

/-- All texts start with the character. -/
def AllStart (k : Char) (texts : List String) : Prop :=
  ∀ text ∈ texts, text.toList.head? = some k

/-- The reader passes over texts that do not start with the character. -/
def ReadsAfter {α : Type} (k : Char) (read : String → Option α) : Prop :=
  ∀ text, text.toList.head? ≠ some k → read text = none

theorem ReadsAfter.filterMap_eq_nil {α : Type} {k k' : Char} {read : String → Option α}
    {texts : List String} (h : ReadsAfter k read) (htexts : AllStart k' texts) (hne : k' ≠ k) :
    texts.filterMap read = [] := by
  refine List.filterMap_eq_nil_iff.2 fun text htext => h text ?_
  rw [htexts text htext]
  exact fun hsame => hne (Option.some.inj hsame)

theorem readsAfter_after? {k : Char} {start : String} (h : start.toList.head? = some k) :
    ReadsAfter k (after? start) := by
  refine fun text htext => Option.eq_none_iff_forall_ne_some.2 fun rest hrest => htext ?_
  rw [after?_eq_some_iff.1 hrest, String.toList_append, List.head?_append, h]
  rfl

theorem readsAfter_assignment? : ReadsAfter ' ' assignment? := by
  intro text htext
  rw [assignment?, readsAfter_after? (k := ' ') (by decide) text htext]
  rfl

theorem allStart_header (c : ModelConfig) :
    AllStart '\\' ["\\* TLC Configuration File", "\\* Generated for: " ++ c.moduleName] := by
  simp [AllStart]

theorem allStart_constants (c : ModelConfig) :
    AllStart ' ' (c.constants.entries.map assignmentLine) := by
  intro line hline
  obtain ⟨e, -, rfl⟩ := List.mem_map.1 hline
  simp [assignmentLine]

theorem allStart_specification (c : ModelConfig) :
    AllStart 'S' ["SPECIFICATION " ++ c.specification] := by
  simp [AllStart]

theorem allStart_properties (c : ModelConfig) :
    AllStart 'P' (c.properties.map ("PROPERTY " ++ ·)) := by
  simp [AllStart]

theorem allStart_deadlock (c : ModelConfig) :
    AllStart 'C' (if c.checkDeadlock then [] else ["CHECK_DEADLOCK FALSE"]) := by
  split <;> simp [AllStart]

/-! ### Reading -/

/-- What a reader takes from a configuration if it passes over all lines that do not start with its
character. -/
theorem filterMap_lines {α : Type} {k : Char} {read : String → Option α} (h : ReadsAfter k read)
    (hk : 'C' ≠ k) (c : ModelConfig) :
    (c.lines ++ [""]).filterMap read =
      ["\\* TLC Configuration File", "\\* Generated for: " ++ c.moduleName].filterMap read ++
      (c.constants.entries.map assignmentLine).filterMap read ++
      ["SPECIFICATION " ++ c.specification].filterMap read ++
      (c.properties.map ("PROPERTY " ++ ·)).filterMap read := by
  have hempty : read "" = none := h "" (by simp)
  have hheading : read "CONSTANTS" = none := h "CONSTANTS" (by simpa using hk)
  have hconstants := filterMap_block (c.constants.entries.map assignmentLine)
    (List.forall_mem_singleton.2 hheading) hempty
  have hproperties := filterMap_block (c.properties.map ("PROPERTY " ++ ·))
    (List.forall_mem_nil _) hempty
  rw [lines_eq]
  simp only [List.filterMap_append, hconstants, hproperties,
    h.filterMap_eq_nil (allStart_deadlock c) hk]
  simp [List.filterMap_cons, hempty]

theorem filterMap_assignment? (h : c.Writable) :
    (c.lines ++ [""]).filterMap assignment? = c.constants.entries := by
  have hconstants : (c.constants.entries.map assignmentLine).filterMap assignment? =
      c.constants.entries := by
    rw [List.filterMap_map]
    refine (List.filterMap_congr fun e he => ?_).trans List.filterMap_some
    exact assignment?_assignmentLine (h.names e he)
  have hread := readsAfter_assignment?
  rw [filterMap_lines hread (by decide), hconstants,
    hread.filterMap_eq_nil c.allStart_header (by decide),
    hread.filterMap_eq_nil c.allStart_specification (by decide),
    hread.filterMap_eq_nil c.allStart_properties (by decide)]
  simp

theorem filterMap_property (c : ModelConfig) :
    (c.lines ++ [""]).filterMap (after? "PROPERTY ") = c.properties := by
  have hread : ReadsAfter 'P' (after? "PROPERTY ") := readsAfter_after? (by decide)
  have hproperties : (c.properties.map ("PROPERTY " ++ ·)).filterMap (after? "PROPERTY ") =
      c.properties := by
    simp [List.filterMap_map]
  rw [filterMap_lines hread (by decide), hproperties,
    hread.filterMap_eq_nil c.allStart_header (by decide),
    hread.filterMap_eq_nil c.allStart_constants (by decide),
    hread.filterMap_eq_nil c.allStart_specification (by decide)]
  rfl

theorem findSome?_moduleName (c : ModelConfig) :
    (c.lines ++ [""]).findSome? (after? "\\* Generated for: ") = some c.moduleName := by
  have hread : ReadsAfter '\\' (after? "\\* Generated for: ") := readsAfter_after? (by decide)
  have htitle : after? "\\* Generated for: " "\\* TLC Configuration File" = none := by
    decide +kernel
  rw [← List.head?_filterMap, filterMap_lines hread (by decide),
    hread.filterMap_eq_nil c.allStart_constants (by decide),
    hread.filterMap_eq_nil c.allStart_specification (by decide),
    hread.filterMap_eq_nil c.allStart_properties (by decide)]
  simp only [List.filterMap_cons, htitle, after?_append]
  rfl

theorem findSome?_specification (c : ModelConfig) :
    (c.lines ++ [""]).findSome? (after? "SPECIFICATION ") = some c.specification := by
  have hread : ReadsAfter 'S' (after? "SPECIFICATION ") := readsAfter_after? (by decide)
  rw [← List.head?_filterMap, filterMap_lines hread (by decide),
    hread.filterMap_eq_nil c.allStart_header (by decide),
    hread.filterMap_eq_nil c.allStart_constants (by decide),
    hread.filterMap_eq_nil c.allStart_properties (by decide)]
  simp only [List.filterMap_cons, after?_append]
  rfl

/-- The last line stands in a configuration exactly if deadlocks are no fault. -/
theorem mem_deadlock_iff (c : ModelConfig) :
    "CHECK_DEADLOCK FALSE" ∈ c.lines ++ [""] ↔ c.checkDeadlock = false := by
  have hother : ∀ {k : Char} {texts : List String}, AllStart k texts → k ≠ 'C' →
      "CHECK_DEADLOCK FALSE" ∉ texts := fun htexts hk hmem =>
    hk (Option.some.inj (htexts _ hmem)).symm
  have hconstants : "CHECK_DEADLOCK FALSE" ∉
      block ["CONSTANTS"] (c.constants.entries.map assignmentLine) := fun hmem => by
    rcases mem_block hmem with hmem | hmem | hmem
    · exact absurd hmem (by decide)
    · exact hother c.allStart_constants (by decide) hmem
    · exact absurd hmem (by decide)
  have hproperties : "CHECK_DEADLOCK FALSE" ∉ block [] (c.properties.map ("PROPERTY " ++ ·)) :=
    fun hmem => by
      rcases mem_block hmem with hmem | hmem | hmem
      · cases hmem
      · exact hother c.allStart_properties (by decide) hmem
      · exact absurd hmem (by decide)
  have hheader := hother c.allStart_header (by decide)
  have hspecification := List.ne_of_not_mem_cons (hother c.allStart_specification (by decide))
  have hempty : "CHECK_DEADLOCK FALSE" ≠ "" := by decide
  rw [lines_eq]
  simp only [List.cons_append, List.nil_append, List.append_assoc, List.mem_append, List.mem_cons,
    List.not_mem_nil, or_false, not_or] at hheader ⊢
  simp only [hheader.1, hheader.2, hconstants, hproperties, hspecification, hempty, false_or,
    or_false]
  cases c.checkDeadlock <;> simp

/-- **A configuration is read back** from its text. -/
theorem ofLines?_linesOf_text (h : c.Writable) : ofLines? (linesOf c.text) = some c := by
  have hdeadlock : decide ("CHECK_DEADLOCK FALSE" ∉ c.lines ++ [""]) = c.checkDeadlock := by
    simp only [mem_deadlock_iff]
    cases c.checkDeadlock <;> rfl
  rw [text, linesOf_join h.oneLine, ofLines?, findSome?_moduleName, findSome?_specification,
    filterMap_assignment? h, filterMap_property, hdeadlock, Constants.ofList_entries]
  rfl

/-! ### The constants of a trace -/

/-- The constant for the servers that has the name; the set wins over the number. -/
def serverConstant? (servers : ℕ) (t : TraceSettings) (name : String) : Option Value :=
  if name = "" then none
  else if name = t.serverSet then some (.indexSet servers)
  else if name = t.serverCount then some (.nat servers)
  else none

/-- **The constants that the settings ask for**: each name once and in order, all further constants
as they are given, and the constants for the servers under names that are not given otherwise. -/
structure AskedFor (servers : ℕ) (t : TraceSettings) (entries : List (String × String)) : Prop where
  ascending : entries.Pairwise fun a b => nameBefore a.1 b.1
  nodup : (entries.map Prod.fst).Nodup
  given : ∀ e ∈ t.constants.entries, e ∈ entries
  mem_iff : ∀ name value, (name, value) ∈ entries ↔ (name, value) ∈ t.constants.entries ∨
    name ∉ t.constants.names ∧ ∃ v, serverConstant? servers t name = some v ∧ value = v.render

/-- A constant without a name is left out. -/
theorem get?_insert_unless (c : Constants) (key value name : String) :
    (if key = "" then c else c.insert key value).get? name =
      if name = key ∧ name ≠ "" then some value else c.get? name := by
  by_cases hkey : key = ""
  · rw [if_pos hkey, if_neg]
    rintro ⟨rfl, hname⟩
    exact hname hkey
  · rw [if_neg hkey, Constants.get?_insert]
    by_cases hname : name = key
    · rw [if_pos hname, if_pos ⟨hname, hname ▸ hkey⟩]
    · rw [if_neg hname, if_neg fun h => hname h.1]

theorem get?_constantsFor (servers : ℕ) (t : TraceSettings) (name : String) :
    (constantsFor servers t).get? name =
      (t.constants.get? name).or ((serverConstant? servers t name).map Value.render) := by
  unfold constantsFor
  dsimp only
  rw [Constants.get?_foldl_entries, get?_insert_unless, get?_insert_unless]
  have hempty : Constants.empty.get? name = none := rfl
  congr 1
  unfold serverConstant?
  by_cases hname : name = ""
  · rw [if_pos hname, if_neg fun h => h.2 hname, if_neg fun h => h.2 hname, hempty]
    rfl
  · by_cases hset : name = t.serverSet
    · rw [if_pos ⟨hset, hname⟩, if_neg hname, if_pos hset]
      rfl
    · rw [if_neg fun h => hset h.1, if_neg hname, if_neg hset]
      by_cases hcount : name = t.serverCount
      · rw [if_pos ⟨hcount, hname⟩, if_pos hcount]
        rfl
      · rw [if_neg fun h => hcount h.1, if_neg hcount, hempty]
        rfl

theorem askedFor_constantsFor (servers : ℕ) (t : TraceSettings) :
    AskedFor servers t (constantsFor servers t).entries where
  ascending := (constantsFor servers t).sorted
  nodup := (constantsFor servers t).nodup_names
  given := fun ⟨name, value⟩ he => by
    rw [Constants.mem_entries_iff, get?_constantsFor, Constants.mem_entries_iff.1 he]
    rfl
  mem_iff name value := by
    rw [Constants.mem_entries_iff, Constants.mem_entries_iff, get?_constantsFor,
      Option.or_eq_some_iff, Option.map_eq_some_iff, Constants.get?_eq_none_iff]
    simp only [eq_comm (a := value)]

/-- **A configuration loses nothing.**  Configurations that can be written and have the same text
are the same, whatever stands in their values and whichever sections they have.  The configuration
of a trace has a line for each constant that its settings ask for, with the value as it is, and for
no other. -/
theorem text_tells :
    (∀ c c' : ModelConfig, c.Writable → c'.Writable → c.text = c'.text → c = c') ∧
    ∀ (servers : ℕ) (t : TraceSettings), ∃ entries, AskedFor servers t entries ∧
      (forTrace servers t).text =
        "\\* TLC Configuration File\n\\* Generated for: " ++ t.moduleName ++ "\n\n" ++
        (if entries = [] then "" else "CONSTANTS\n" ++
          String.join (entries.map fun e => "  " ++ e.1 ++ " = " ++ e.2 ++ "\n") ++ "\n") ++
        "SPECIFICATION TraceSpec\n\nPROPERTY TraceMatched\n\nCHECK_DEADLOCK FALSE\n" := by
  refine ⟨fun c c' h h' htext => ?_, fun servers t => ⟨_, askedFor_constantsFor servers t, ?_⟩⟩
  · have hread := ofLines?_linesOf_text h
    rw [htext, ofLines?_linesOf_text h'] at hread
    exact (Option.some.inj hread).symm
  · rw [text, lines_eq]
    have hlines : (fun e : String × String => "  " ++ e.1 ++ " = " ++ e.2 ++ "\n") =
        (· ++ "\n") ∘ assignmentLine := rfl
    rw [hlines, ← List.map_map, ← String.toList_inj]
    simp only [forTrace, block, List.map_eq_nil_iff]
    split <;> simp [traceSpec, traceMatched]

/-- Values and names that look like other lines of a configuration, and a value with an equals
sign. -/
def crookedConfig : ModelConfig where
  moduleName := "PROPERTY P"
  constants := .ofList [("Zeta", "x = 1"), ("Alpha", "SPECIFICATION S")]
  specification := "CONSTANTS"
  properties := ["", "CHECK_DEADLOCK FALSE"]
  checkDeadlock := true

/-- The same constants, assigned in another order and one of them twice. -/
def reorderedConfig : ModelConfig :=
  { crookedConfig with
    constants := .ofList [("Alpha", "0"), ("Zeta", "x = 1"), ("Alpha", "SPECIFICATION S")] }

theorem text_tells_crookedConfig :
    crookedConfig.Writable ∧ reorderedConfig.Writable ∧
      crookedConfig.text = reorderedConfig.text ∧ crookedConfig = reorderedConfig := by
  have hwritable : crookedConfig.Writable ∧ reorderedConfig.Writable := by decide +kernel
  have htext : crookedConfig.text = reorderedConfig.text := by decide +kernel
  exact ⟨hwritable.1, hwritable.2, htext,
    text_tells.1 crookedConfig reorderedConfig hwritable.1 hwritable.2 htext⟩

end ModelConfig

end Tla

end ReplicaTrace
