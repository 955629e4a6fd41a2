import Mathlib.Data.List.Perm.Basic
import ReplicaTrace.Proofs.History.SourceOrder

/-!
# Decreases of slot and ballot

A server reports slot and ballot with each of its events, after `0` and `0` at the start.  Where a
report is below the one before it, the server goes back.  The violations of a history are these
decreases, server by server: each of them is noted once, and nothing else is.

* `successive` : the events of a server, each with the report before it.
* `GoesBack`, `decreases` : that a server goes back, and where.
* `Replay.violations_perm_decreases` : the violations of a history.
-/

namespace ReplicaTrace

/-- Slot and ballot of an event. -/
def Event.report (e : Event) : Progress :=
  ⟨e.slot, e.ballot⟩

/-- The events of a server, each with the report before it; the first report is `0` and `0`. -/
def successive (own : List Event) : List (Progress × Event) :=
  (Progress.start :: own.map Event.report).zip own

/-- Some event has a slot or a ballot below the one of the report before it. -/
def GoesBack (own : List Event) : Prop :=
  ∃ p ∈ successive own, p.2.slot < p.1.slot ∨ p.2.ballot < p.1.ballot

/-- The slots and the ballots below the one of the report before, each with its event. -/
def decreases (own : List Event) : List (Regression × Event) :=
  (((successive own).filter fun p => p.2.slot < p.1.slot).map fun p =>
      (.slot p.1.slot p.2.slot, p.2)) ++
    ((successive own).filter fun p => p.2.ballot < p.1.ballot).map fun p =>
      (.ballot p.1.ballot p.2.ballot, p.2)

instance (own : List Event) : Decidable (GoesBack own) :=
  inferInstanceAs (Decidable (∃ p ∈ successive own, _))

theorem decreases_eq_nil_iff {own : List Event} : decreases own = [] ↔ ¬ GoesBack own := by
  simp only [decreases, GoesBack, List.append_eq_nil_iff, List.map_eq_nil_iff,
    List.filter_eq_nil_iff, decide_eq_true_eq]
  constructor
  · rintro ⟨hslot, hballot⟩ ⟨p, hp, h | h⟩
    · exact hslot p hp h
    · exact hballot p hp h
  · exact fun h => ⟨fun p hp hslot => h ⟨p, hp, .inl hslot⟩,
      fun p hp hballot => h ⟨p, hp, .inr hballot⟩⟩

/-! ### Reports one after the other -/

theorem zip_cons_map_concat {α β : Type} (f : α → β) (b : β) (l : List α) (a : α) :
    (b :: (l ++ [a]).map f).zip (l ++ [a]) =
      (b :: l.map f).zip l ++ [((l.getLast?.map f).getD b, a)] := by
  induction l generalizing b with
  | nil => rfl
  | cons x xs ih =>
    rw [List.cons_append, List.map_cons, List.zip_cons_cons, ih, List.map_cons, List.zip_cons_cons,
      List.getLast?_cons]
    cases xs.getLast? <;> rfl

/-- The report before an event is the last one of the events before it. -/
theorem successive_eq (own : List Event) :
    successive own = (withPast own).map fun p => (lastReport p.1, p.2) := by
  induction own using List.reverseRecOn with
  | nil => rfl
  | append_singleton past e ih =>
    rw [withPast_concat, List.map_append, ← ih, successive, zip_cons_map_concat, List.map_singleton,
      lastReport]
    cases past.getLast? <;> rfl

/-- Slots first and ballots then, or both event by event. -/
theorem decreases_perm (own : List Event) :
    (decreases own).Perm ((successive own).flatMap fun p =>
      (regressions p.1 p.2).map fun x => (x, p.2)) := by
  unfold decreases
  induction successive own with
  | nil => rfl
  | cons p ps ih =>
    rw [List.flatMap_cons, regressions]
    by_cases hslot : p.2.slot < p.1.slot <;> by_cases hballot : p.2.ballot < p.1.ballot
    · simpa [hslot, hballot] using List.perm_middle.trans (ih.cons _)
    · simpa [hslot, hballot] using ih
    · simpa [hslot, hballot] using List.perm_middle.trans (ih.cons _)
    · simpa [hslot, hballot] using ih

/-! ### The violations of a history -/

variable {r : Registry} {events : List Event} {id : ServerId}

/-- A list is made up of the stretches that belong to different keys. -/
theorem perm_flatMap_filter {α κ : Type} [DecidableEq κ] (key : α → κ) {keys : List κ} {l : List α}
    (hkeys : keys.Nodup) (h : ∀ a ∈ l, key a ∈ keys) :
    l.Perm (keys.flatMap fun k => l.filter fun a => key a = k) := by
  induction keys generalizing l with
  | nil =>
    have hnil : l = [] := List.eq_nil_iff_forall_not_mem.2 fun a ha => List.not_mem_nil (h a ha)
    simp [hnil]
  | cons k ks ih =>
    obtain ⟨hk, hks⟩ := List.nodup_cons.1 hkeys
    have hrest : ∀ a ∈ l.filter (fun a => !decide (key a = k)), key a ∈ ks := fun a ha => by
      obtain ⟨ha, hne⟩ := List.mem_filter.1 ha
      exact (List.mem_cons.1 (h a ha)).resolve_left (by simpa using hne)
    refine (List.filter_append_perm (fun a => decide (key a = k)) l).symm.trans ?_
    rw [List.flatMap_cons]
    refine ((ih hks hrest).append_left _).trans (List.Perm.of_eq ?_)
    congr 1
    refine List.flatMap_congr fun k' hk' => ?_
    rw [List.filter_filter]
    refine List.filter_congr fun a _ => ?_
    have hne : k' ≠ k := fun heq => hk (heq ▸ hk')
    by_cases ha : key a = k' <;> simp [ha, hne]

namespace Replay

/-- The violations of a server are the regressions from one of its reports to the next. -/
theorem map_violations_filter_ofEvents (hid : id ∈ r.ids) :
    ((ofEvents r events).violations.toList.filter fun v => v.server = id).map
        (fun v => (v.server, v.regression, v.event)) =
      (successive (ownEvents id events)).flatMap fun p =>
        (regressions p.1 p.2).map fun x => (id, x, p.2) := by
  rw [toList_violations_ofEvents, successive_eq]
  induction events using List.reverseRecOn with
  | nil => rfl
  | append_singleton past e ih =>
    rw [withPast_concat, List.flatMap_append, List.filter_append, List.map_append, ih]
    by_cases hserver : e.server = id
    · obtain ⟨actor, hactor⟩ : ∃ k, r.index? e.server = some k :=
        Registry.exists_index?_of_knows (by simp [Registry.knows_eq, hserver, hid])
      rw [← hserver, ownEvents_concat_self, withPast_concat, List.map_append, List.flatMap_append]
      have hkeep : (violationsAt r past e).filter (fun v => decide (v.server = e.server)) =
          violationsAt r past e :=
        List.filter_eq_self.2 fun v hv => by simpa using server_of_mem_violationsAt hv
      congr 1
      simp only [List.flatMap_singleton, List.map_singleton, hkeep]
      simp [violationsAt, hactor]
    · rw [ownEvents_concat_of_ne e past hserver]
      have hdrop : (violationsAt r past e).filter (fun v => decide (v.server = id)) = [] := by
        refine List.filter_eq_nil_iff.2 fun v hv => ?_
        simpa [server_of_mem_violationsAt hv] using hserver
      simp [hdrop]

/-- **The violations of a history** are the decreases of the registry's servers, each noted once. -/
theorem violations_perm_decreases (r : Registry) (events : List Event) :
    ((ofEvents r events).violations.toList.map fun v => (v.server, v.regression, v.event)).Perm
      (r.ids.flatMap fun id => (decreases (ownEvents id events)).map fun d => (id, d.1, d.2)) := by
  have hids : ∀ v ∈ (ofEvents r events).violations.toList, v.server ∈ r.ids := fun v hv => by
    obtain ⟨-, -, hactor, -⟩ := mem_violations_ofEvents.1 hv
    exact List.mem_of_getElem? (Registry.index?_eq_some_iff.1 hactor)
  refine ((perm_flatMap_filter Violation.server r.nodup hids).map _).trans ?_
  rw [List.map_flatMap]
  refine List.Perm.flatMap_left _ fun id hid => ?_
  rw [map_violations_filter_ofEvents hid]
  refine List.Perm.trans (List.Perm.of_eq ?_) ((decreases_perm (ownEvents id events)).map _).symm
  rw [List.map_flatMap]
  simp [Function.comp_def]

end Replay

end ReplicaTrace
