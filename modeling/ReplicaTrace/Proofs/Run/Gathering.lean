import Mathlib.Data.List.Perm.Basic
import ReplicaTrace.Host.Sandbox
import ReplicaTrace.Proofs.Results
import ReplicaTrace.Proofs.StableSort
import ReplicaTrace.Run.Basic

/-!
# Gathering the reports

Every log file has a worker of its own, and the workers end in any order.  The reports are sorted by
the ranks they carry, and no two workers have the same rank, not even where a file is given twice;
so the reports are those of the files in the order in which these were given.  Where files cannot be
read, the first worker that says so decides.

* `run_readSource` : what one worker does.
* `Ranked.mergeSort_of_perm` : sorting gives back the order of the ranks.
* `mem_of_gather_eq_error` : gathering fails as one of the workers did.
* `gather_of_arrivals` : the results of the workers in any order.
-/

namespace ReplicaTrace

/-! ### One worker -/

section

variable {σ : Type} [Host (StateM σ)]

/-- A worker reads its file and makes a report of the content. -/
theorem run_readSource (marker : String) (p : Path) (rank : ℕ) (w : σ) :
    (readSource (m := StateM σ) marker p rank).run w =
      (match ((Host.readFile p : StateM σ _).run w).1 with
        | .ok data => .ok (.ofData marker ⟨rank, p.text⟩ data)
        | .error reason => .error (.notRead p reason),
      ((Host.readFile p : StateM σ _).run w).2) := by
  unfold readSource
  rw [StateT.run_bind]
  rcases (Host.readFile p : StateM σ _).run w with ⟨content, w'⟩
  cases content <;> rfl

/-- What the worker of a file gives that finds the host in the state `w`. -/
def workerResult (marker : String) (w : σ) (p : Path) (rank : ℕ) : Except RunError SourceReport :=
  ((readSource (m := StateM σ) marker p rank).run w).1

/-- The results of all workers in the order of the files.  Each worker may find the host in another
state. -/
def workerResults (marker : String) (logs : List Path) (states : ℕ → σ) :
    List (Except RunError SourceReport) :=
  logs.mapIdx fun i p => workerResult marker (states i) p i

/-- The worker of a file that finds the host in the state `w` can read it. -/
def CanRead (w : σ) (p : Path) : Prop :=
  ∃ data, ((Host.readFile p : StateM σ _).run w).1 = .ok data

variable {marker : String} {w : σ} {p : Path} {rank : ℕ}

theorem exists_reason_of_not_canRead (h : ¬ CanRead w p) :
    ∃ reason, ((Host.readFile p : StateM σ _).run w).1 = .error reason := by
  cases hread : ((Host.readFile p : StateM σ _).run w).1 with
  | error reason => exact ⟨reason, rfl⟩
  | ok data => exact absurd ⟨data, hread⟩ h

theorem rank?_of_workerResult {r : SourceReport} (h : workerResult marker w p rank = .ok r) :
    r.rank? = some rank := by
  rw [workerResult, run_readSource] at h
  dsimp only at h
  split at h
  · obtain rfl := Except.ok.inj h
    rfl
  · cases h

/-- The worker fails exactly if it cannot read the file, and names it. -/
theorem workerResult_eq_error_iff {e : RunError} : workerResult marker w p rank = .error e ↔
    ∃ reason, ((Host.readFile p : StateM σ _).run w).1 = .error reason ∧ e = .notRead p reason := by
  rw [workerResult, run_readSource]
  dsimp only
  split
  · next data hdata => simp [hdata]
  · next reason hreason => simp [hreason, eq_comm]

end

/-! ### Sorting by rank -/

namespace SourceReport

theorem notAfter_trans (a b c : SourceReport) (h₁ : a.notAfter b = true)
    (h₂ : b.notAfter c = true) : a.notAfter c = true := by
  unfold notAfter at *
  cases ha : a.rank? <;> cases hb : b.rank? <;> cases hc : c.rank? <;> simp_all
  omega

theorem notAfter_total (a b : SourceReport) : (a.notAfter b || b.notAfter a) = true := by
  unfold notAfter
  cases a.rank? <;> cases b.rank? <;> simp_all
  omega

end SourceReport

/-- Every report carries its place among the reports as its rank. -/
def Ranked (reports : List SourceReport) : Prop :=
  ∀ (i : ℕ) (r : SourceReport), reports[i]? = some r → r.rank? = some i

namespace Ranked

variable {reports arrived : List SourceReport}

theorem pairwise_notAfter (h : Ranked reports) :
    reports.Pairwise fun a b => a.notAfter b = true := by
  rw [List.pairwise_iff_getElem]
  intro i j hi hj hij
  have hranki := h i _ (List.getElem?_eq_getElem hi)
  have hrankj := h j _ (List.getElem?_eq_getElem hj)
  simpa [SourceReport.notAfter, hranki, hrankj] using hij.le

/-- No two reports have the same rank. -/
theorem eq_of_notAfter (h : Ranked reports) {a b : SourceReport} (ha : a ∈ reports)
    (hb : b ∈ reports) (hab : a.notAfter b = true) (hba : b.notAfter a = true) : a = b := by
  obtain ⟨i, hi⟩ := List.mem_iff_getElem?.1 ha
  obtain ⟨j, hj⟩ := List.mem_iff_getElem?.1 hb
  simp only [SourceReport.notAfter, h i a hi, h j b hj, decide_eq_true_eq] at hab hba
  obtain rfl := Nat.le_antisymm hab hba
  exact Option.some.inj (hi.symm.trans hj)

/-- **Sorting gives back the order of the ranks**, in whatever order the reports arrived. -/
theorem mergeSort_of_perm (h : Ranked reports) (hperm : arrived.Perm reports) :
    arrived.mergeSort SourceReport.notAfter = reports := by
  have hsorted : (arrived.mergeSort SourceReport.notAfter).Perm reports :=
    (List.mergeSort_perm ..).trans hperm
  refine hsorted.eq_of_pairwise (fun a b ha hb => ?_)
    (List.pairwise_mergeSort SourceReport.notAfter_trans SourceReport.notAfter_total arrived)
    h.pairwise_notAfter
  exact h.eq_of_notAfter (hsorted.subset ha) hb

end Ranked

/-! ### The results of all workers -/

section

variable {ε : Type} {arrivals : List (Except ε SourceReport)}

theorem gather_eq_ok_iff {reports : List SourceReport} : gather arrivals = .ok reports ↔
    ∃ rs : List SourceReport, arrivals = rs.map .ok ∧
      rs.mergeSort SourceReport.notAfter = reports := by
  have hall : ∀ rs : List SourceReport, arrivals = rs.map .ok ↔
      arrivals.mapM (fun arrival => arrival) = .ok rs := fun rs => by
    rw [mapM_eq_ok_iff, ← List.forall₂_eq_eq_eq, List.forall₂_map_right_iff]
  simp only [hall]
  unfold gather
  cases arrivals.mapM fun arrival => arrival <;> simp [bind, Except.bind, pure, Except.pure]

/-- If the reports cannot be gathered, some worker has failed in this way. -/
theorem mem_of_gather_eq_error {e : ε} (h : gather arrivals = .error e) :
    Except.error e ∈ arrivals := by
  have hmapM : arrivals.mapM (fun arrival => arrival) = .error e := by
    rcases except_bind_eq_error_iff.1 h with hmapM | ⟨rs, -, hsort⟩
    · exact hmapM
    · cases hsort
  obtain ⟨x, hx, rfl⟩ := exists_of_mapM_eq_error hmapM
  exact hx

end

section

variable {σ : Type} [Host (StateM σ)] {marker : String} {logs : List Path} {states : ℕ → σ}

theorem getElem?_workerResults {i : ℕ} {p : Path} (hi : logs[i]? = some p) :
    (workerResults marker logs states)[i]? = some (workerResult marker (states i) p i) := by
  rw [workerResults, List.getElem?_mapIdx, hi, Option.map_some]

theorem mem_workerResults {x : Except RunError SourceReport} :
    x ∈ workerResults marker logs states ↔
      ∃ i p, logs[i]? = some p ∧ x = workerResult marker (states i) p i := by
  rw [List.mem_iff_getElem?]
  refine exists_congr fun i => ?_
  rw [workerResults, List.getElem?_mapIdx, Option.map_eq_some_iff]
  exact exists_congr fun p => and_congr_right fun _ => eq_comm

/-- A failure among the results is that of a file, which it names. -/
theorem error_mem_workerResults_iff {e : RunError} :
    .error e ∈ workerResults marker logs states ↔ ∃ i p reason, logs[i]? = some p ∧
      ((Host.readFile p : StateM σ _).run (states i)).1 = .error reason ∧
      e = .notRead p reason := by
  rw [mem_workerResults]
  refine exists_congr fun i => exists_congr fun p => ?_
  rw [eq_comm (a := Except.error e), workerResult_eq_error_iff, exists_and_left]

/-- The reports of the files in the order in which the files were given. -/
theorem ranked_of_workerResults {reports : List SourceReport}
    (h : workerResults marker logs states = reports.map .ok) : Ranked reports := by
  intro i r hr
  have hresult : (workerResults marker logs states)[i]? = some (.ok r) := by
    rw [h, List.getElem?_map, hr, Option.map_some]
  rw [workerResults, List.getElem?_mapIdx] at hresult
  obtain ⟨p, -, hp⟩ := Option.map_eq_some_iff.1 hresult
  exact rank?_of_workerResult hp

variable {arrivals : List (Except RunError SourceReport)}

/-- All files can be read. -/
theorem exists_gather_of_canRead (h : arrivals.Perm (workerResults marker logs states))
    (hread : ∀ i p, logs[i]? = some p → CanRead (states i) p) :
    ∃ reports, gather arrivals = .ok reports ∧ reports.length = logs.length ∧
      ∀ i p, logs[i]? = some p →
        ∃ r, reports[i]? = some r ∧ workerResult marker (states i) p i = .ok r := by
  have hnone : ∀ e, .error e ∉ workerResults marker logs states := fun e he => by
    obtain ⟨i, p, reason, hi, hreason, -⟩ := error_mem_workerResults_iff.1 he
    obtain ⟨data, hdata⟩ := hread i p hi
    cases hdata.symm.trans hreason
  obtain ⟨reports, hreports⟩ := exists_eq_map_ok hnone
  obtain ⟨rs, rfl⟩ := exists_eq_map_ok fun e he => hnone e (h.subset he)
  -- the same reports, once in the order of arrival and once in that of the files
  have hperm : rs.Perm reports :=
    (List.map_perm_map_iff fun _ _ => Except.ok.inj).1 (hreports ▸ h)
  have hsort := (ranked_of_workerResults hreports).mergeSort_of_perm hperm
  refine ⟨reports, gather_eq_ok_iff.2 ⟨rs, rfl, hsort⟩, ?_, fun i p hi => ?_⟩
  · simpa [workerResults] using (congrArg List.length hreports).symm
  · have hresult : (reports.map Except.ok)[i]? = some (workerResult marker (states i) p i) :=
      hreports ▸ getElem?_workerResults hi
    rw [List.getElem?_map] at hresult
    obtain ⟨r, hr, hok⟩ := Option.map_eq_some_iff.1 hresult
    exact ⟨r, hr, hok.symm⟩

/-- Some file cannot be read. -/
theorem exists_gather_of_not_canRead (h : arrivals.Perm (workerResults marker logs states))
    {i : ℕ} {p : Path} (hi : logs[i]? = some p) (hread : ¬ CanRead (states i) p) :
    ∃ i p reason, logs[i]? = some p ∧
      ((Host.readFile p : StateM σ _).run (states i)).1 = .error reason ∧
      gather arrivals = .error (.notRead p reason) := by
  cases hgather : gather arrivals with
  | error e =>
    obtain ⟨i, p, reason, hi, hreason, rfl⟩ :=
      error_mem_workerResults_iff.1 (h.subset (mem_of_gather_eq_error hgather))
    exact ⟨i, p, reason, hi, hreason, rfl⟩
  | ok reports =>
    -- gathering succeeds only if no worker fails
    obtain ⟨rs, rfl, -⟩ := gather_eq_ok_iff.1 hgather
    obtain ⟨reason, hreason⟩ := exists_reason_of_not_canRead hread
    have hmem := h.mem_iff.2 (error_mem_workerResults_iff.2 ⟨i, p, reason, hi, hreason, rfl⟩)
    obtain ⟨_, -, hok⟩ := List.mem_map.1 hmem
    cases hok

/-- **The results of the workers in any order.**  One worker for each file reads it, whatever the
host has become by then, and makes a report with the file's place as its rank.  If all files can be
read, gathering the results gives one report for each file, in the order in which the files were
given.  If some file cannot be read, gathering fails, and the failure names such a file. -/
theorem gather_of_arrivals (h : arrivals.Perm (workerResults marker logs states)) :
    ((∀ i p, logs[i]? = some p → CanRead (states i) p) →
      ∃ reports, gather arrivals = .ok reports ∧ reports.length = logs.length ∧
        ∀ i p, logs[i]? = some p →
          ∃ r, reports[i]? = some r ∧ workerResult marker (states i) p i = .ok r) ∧
    ((∃ i p, logs[i]? = some p ∧ ¬ CanRead (states i) p) →
      ∃ i p reason, logs[i]? = some p ∧
        ((Host.readFile p : StateM σ _).run (states i)).1 = .error reason ∧
        gather arrivals = .error (.notRead p reason)) :=
  ⟨exists_gather_of_canRead h, fun ⟨_, _, hi, hread⟩ => exists_gather_of_not_canRead h hi hread⟩

end

/-- Two log files, one of them with an event. -/
def twoLogs : World where
  disk := ⟨[
    (["a.log"], .file (Utf8.encode
      "[T] 2024/01/01 00:00:00.001 p.go:1: ID:0,action:P2a,slot:1,ballot:1.0.1\n".toList)),
    (["b.log"], .file [])]⟩
  workingDir := []
  environment := []
  programs := []
  started := []

/-- One of the files is given twice. -/
def logsTwice : List Path :=
  [⟨"a.log"⟩, ⟨"b.log"⟩, ⟨"a.log"⟩]

/-- Two files that are given are missing. -/
def logsMissing : List Path :=
  [⟨"a.log"⟩, ⟨"c.log"⟩, ⟨"b.log"⟩, ⟨"d.log"⟩]

/-- The worker of a file in that world. -/
def twoLogsResult (name : String) (rank : ℕ) : Except RunError SourceReport :=
  workerResult "[T]" twoLogs ⟨name⟩ rank

/-- The last worker ends first; of two that fail, the later one does. -/
theorem gather_of_arrivals_twoLogs :
    (∃ reports, gather [twoLogsResult "a.log" 2, twoLogsResult "a.log" 0, twoLogsResult "b.log" 1] =
        .ok reports ∧ reports.length = logsTwice.length ∧
      ∀ (i : ℕ) (p : Path), logsTwice[i]? = some p →
        ∃ r, reports[i]? = some r ∧ workerResult "[T]" twoLogs p i = .ok r) ∧
    ∃ (i : ℕ) (p : Path) (reason : OsError), logsMissing[i]? = some p ∧
      twoLogs.disk.read twoLogs.workingDir p = .error reason ∧
      gather [twoLogsResult "b.log" 2, twoLogsResult "d.log" 3, twoLogsResult "a.log" 0,
        twoLogsResult "c.log" 1] = .error (.notRead p reason) := by
  constructor
  · have harrivals : ([twoLogsResult "a.log" 2] ++ [twoLogsResult "a.log" 0,
        twoLogsResult "b.log" 1]).Perm (workerResults "[T]" logsTwice fun _ => twoLogs) :=
      List.perm_append_comm
    have hread : ∀ p ∈ logsTwice,
        (twoLogs.disk.read twoLogs.workingDir p).toOption.isSome = true := by
      decide +kernel
    refine (gather_of_arrivals harrivals).1 fun i p hi => ?_
    obtain ⟨data, hdata⟩ := Option.isSome_iff_exists.1 (hread p (List.mem_of_getElem? hi))
    exact ⟨data, toOption_eq_some_iff.1 hdata⟩
  · have harrivals : ([twoLogsResult "b.log" 2, twoLogsResult "d.log" 3] ++
        [twoLogsResult "a.log" 0, twoLogsResult "c.log" 1]).Perm
          (workerResults "[T]" logsMissing fun _ => twoLogs) :=
      List.perm_append_comm
    have hmissing : (twoLogs.disk.read twoLogs.workingDir ⟨"c.log"⟩).toOption = none := by
      decide +kernel
    refine (gather_of_arrivals harrivals).2 ⟨1, ⟨"c.log"⟩, rfl, ?_⟩
    rintro ⟨data, hdata⟩
    exact Option.some_ne_none data ((toOption_eq_some_iff.2 hdata).symm.trans hmissing)

end ReplicaTrace
