import Mathlib.Data.Nat.Notation
import ReplicaTrace.Settings.Basic

/-!
# What settings without a fault are like

The rules for the trace module are looked at in a fixed order and the first broken one is the fault.
Settings have no fault exactly if none is broken.

* `isIdentifier_iff` : what identifiers look like.
* `TraceSettings.fault?_eq_none_iff` : when the trace module's settings have no fault.
-/

namespace ReplicaTrace

theorem isIdentifierRest_of_isIdentifierStart {c : Char} (h : isIdentifierStart c = true) :
    isIdentifierRest c = true := by
  simp only [isIdentifierStart, isIdentifierRest, Char.isAlphanum, Bool.or_eq_true] at *
  exact h.imp_left Or.inl

theorem isIdentifier_iff {s : String} :
    isIdentifier s = true ↔ ∃ c cs, s.toList = c :: cs ∧ isIdentifierStart c = true ∧
      ∀ c ∈ cs, isIdentifierRest c = true := by
  unfold isIdentifier
  cases h : s.toList with
  | nil => simp
  | cons c cs => simp [and_assoc]

/-- All characters of an identifier may stand in it after the first. -/
theorem isIdentifierRest_of_mem {s : String} (h : isIdentifier s = true) :
    ∀ c ∈ s.toList, isIdentifierRest c = true := by
  obtain ⟨c, cs, hs, hc, hcs⟩ := isIdentifier_iff.1 h
  intro x hx
  rw [hs] at hx
  rcases List.mem_cons.1 hx with rfl | hx
  · exact isIdentifierRest_of_isIdentifierStart hc
  · exact hcs x hx

theorem newline_not_mem_of_isIdentifier {s : String} (h : isIdentifier s = true) :
    '\n' ∉ s.toList := by
  intro hx
  exact absurd (isIdentifierRest_of_mem h _ hx) (by decide)

theorem firstBadName_eq_none_iff {names : List String} :
    firstBadName names = none ↔ ∀ name ∈ names, isIdentifier name = true := by
  simp [firstBadName]

/-- The names of the trace module are identifiers, and its variables have four names. -/
structure TraceSettings.Sound (t : TraceSettings) : Prop where
  /-- The module has an identifier for its name. -/
  moduleName : isIdentifier t.moduleName = true
  /-- So has every variable. -/
  variableNames : ∀ name ∈ t.names.toList, isIdentifier name = true
  /-- No two variables have the same name. -/
  distinct : t.names.toList.Nodup
  /-- The constants for the servers have identifiers, or are left out. -/
  serverConstants : ∀ name ∈ [t.serverCount, t.serverSet], name ≠ "" → isIdentifier name = true
  /-- All further constants have identifiers. -/
  constants : ∀ name ∈ t.constants.names, isIdentifier name = true

theorem TraceSettings.fault?_eq_none_iff {t : TraceSettings} : t.fault? = none ↔ t.Sound := by
  have hserver : firstBadName ([t.serverCount, t.serverSet].filter (· != "")) = none ↔
      ∀ name ∈ [t.serverCount, t.serverSet], name ≠ "" → isIdentifier name = true := by
    rw [firstBadName_eq_none_iff]
    simp only [List.mem_filter, bne_iff_ne, and_imp]
  unfold fault?
  constructor
  · intro h
    split at h
    · cases h
    · next hmodule =>
      split at h
      · cases h
      · next hnames =>
        split at h
        · cases h
        · next hnodup =>
          split at h
          · cases h
          · next hservers =>
            refine ⟨by simpa using hmodule, ?_, by simpa using hnodup, ?_, ?_⟩
            · exact firstBadName_eq_none_iff.1 (Option.eq_none_iff_forall_ne_some.2 hnames)
            · exact hserver.1 (Option.eq_none_iff_forall_ne_some.2 hservers)
            · exact firstBadName_eq_none_iff.1 (Option.map_eq_none_iff.1 h)
  · intro h
    have hmodule := h.moduleName
    have hnames := firstBadName_eq_none_iff.2 h.variableNames
    have hservers := hserver.2 h.serverConstants
    have hconstants := firstBadName_eq_none_iff.2 h.constants
    simp [hmodule, hnames, h.distinct, hservers, hconstants]

end ReplicaTrace
