import Mathlib.Data.List.Chain
import ReplicaTrace.Proofs.History.Snapshots

/-!
# What the violations say

An event is measured against the last report of its own server: not against the greatest value so
far, and not against other servers.  The violations are exactly the slots and the ballots below
that report, in the order of the events, and there are none exactly if no server ever goes back.

* `mem_violationsAt` : the violations of one event.
* `Replay.mem_violations_ofEvents` : the violations of all events.
* `Replay.consistent_ofEvents_iff` : when there are none.
* `exists_run_violations` : all of it for a replay.
-/

namespace ReplicaTrace

/-- The violation `v` comes before `w`: it is of an earlier event, or it is the slot and `w` the
ballot of the same event. -/
def Violation.Before (v w : Violation) : Prop :=
  v.index < w.index ∨
    v.index = w.index ∧ (∃ l o, v.regression = .slot l o) ∧ ∃ l o, w.regression = .ballot l o

theorem Violation.Before.ne {v w : Violation} (h : v.Before w) : v ≠ w := by
  rintro rfl
  rcases h with hlt | ⟨-, ⟨l, o, hs⟩, l', o', hb⟩
  · exact lt_irrefl _ hlt
  · rw [hs] at hb
    cases hb

/-- The slot or the ballot of the event is below the last report, and the violation says so. -/
def Violation.FallsBelow (v : Violation) (last : Progress) : Prop :=
  v.event.slot < last.slot ∧ v.regression = .slot last.slot v.event.slot ∨
    v.event.ballot < last.ballot ∧ v.regression = .ballot last.ballot v.event.ballot

variable {r : Registry} {past events : List Event} {e : Event}

theorem mem_regressions {last : Progress} {x : Regression} :
    x ∈ regressions last e ↔ e.slot < last.slot ∧ x = .slot last.slot e.slot ∨
      e.ballot < last.ballot ∧ x = .ballot last.ballot e.ballot := by
  unfold regressions
  split <;> split <;> simp_all

/-- The violations of one event. -/
theorem mem_violationsAt {v : Violation} :
    v ∈ violationsAt r past e ↔ v.index = past.length ∧ v.event = e ∧ v.server = e.server ∧
      r.index? e.server = some v.actor ∧ v.FallsBelow (lastReport (ownEvents e.server past)) := by
  unfold violationsAt
  cases h : r.index? e.server with
  | none => simp
  | some actor =>
    simp only [List.mem_map, mem_regressions, Violation.FallsBelow]
    constructor
    · rintro ⟨x, hx, rfl⟩
      exact ⟨rfl, rfl, rfl, rfl, hx⟩
    · rintro ⟨hindex, rfl, hserver, hactor, hx⟩
      obtain rfl := Option.some.inj hactor
      exact ⟨v.regression, hx, by cases v; simp_all⟩

/-- The slot of an event is noted before its ballot. -/
theorem pairwise_violationsAt : (violationsAt r past e).Pairwise Violation.Before := by
  unfold violationsAt
  cases r.index? e.server with
  | none => simp
  | some actor =>
    simp only [regressions]
    split_ifs <;> simp [Violation.Before]

/-- An event brings no violation exactly if it stays at its server's last report or above. -/
theorem violationsAt_eq_nil_iff (h : r.knows e = true) :
    violationsAt r past e = [] ↔ (lastReport (ownEvents e.server past)).slot ≤ e.slot ∧
      (lastReport (ownEvents e.server past)).ballot ≤ e.ballot := by
  obtain ⟨k, hk⟩ := Registry.exists_index?_of_knows h
  simp only [violationsAt, hk, List.map_eq_nil_iff, regressions, List.append_eq_nil_iff]
  constructor
  · rintro ⟨hslot, hballot⟩
    constructor <;> by_contra hlt <;> simp_all
  · rintro ⟨hslot, hballot⟩
    rw [if_neg (not_lt.2 hslot), if_neg (not_lt.2 hballot)]
    exact ⟨rfl, rfl⟩

/-! ### All events -/

namespace Replay

theorem toList_violations_ofEvents :
    (ofEvents r events).violations.toList =
      (withPast events).flatMap fun p => violationsAt r p.1 p.2 := rfl

theorem mem_violations_ofEvents {v : Violation} :
    v ∈ (ofEvents r events).violations.toList ↔
      events[v.index]? = some v.event ∧ v.server = v.event.server ∧
        r.index? v.server = some v.actor ∧
        v.FallsBelow (lastReport (ownEvents v.server (events.take v.index))) := by
  rw [toList_violations_ofEvents]
  simp only [List.mem_flatMap, List.mem_iff_getElem? (l := withPast events), getElem?_withPast,
    Option.map_eq_some_iff]
  constructor
  · rintro ⟨_, ⟨i, e, hi, rfl⟩, hv⟩
    obtain ⟨hindex, rfl, hserver, hactor, hbelow⟩ := mem_violationsAt.1 hv
    have hlt : i < events.length := (List.getElem?_eq_some_iff.1 hi).1
    rw [List.length_take, Nat.min_eq_left hlt.le] at hindex
    rw [hindex, hserver]
    exact ⟨hi, rfl, hactor, hbelow⟩
  · rintro ⟨hi, hserver, hactor, hbelow⟩
    have hlt : v.index < events.length := (List.getElem?_eq_some_iff.1 hi).1
    rw [hserver] at hactor hbelow
    refine ⟨_, ⟨v.index, v.event, hi, rfl⟩, mem_violationsAt.2 ⟨?_, rfl, hserver, hactor, hbelow⟩⟩
    rw [List.length_take, Nat.min_eq_left hlt.le]

theorem pairwise_violations_ofEvents :
    (ofEvents r events).violations.toList.Pairwise Violation.Before := by
  induction events using List.reverseRecOn with
  | nil => simp [ofEvents]
  | append_singleton past e ih =>
    rw [toList_violations_ofEvents, withPast_concat, List.flatMap_append, List.pairwise_append]
    -- the violations so far are of earlier events than the last one
    refine ⟨ih, by simpa using pairwise_violationsAt, fun v hv w hw => .inl ?_⟩
    have hw : w ∈ violationsAt r past e := by simpa using hw
    have hv := (mem_violations_ofEvents.1 hv).1
    rw [(mem_violationsAt.1 hw).1]
    exact (List.getElem?_eq_some_iff.1 hv).1

end Replay

/-! ### No violation -/

/-- The slots and the ballots of a server never decrease, from `0` on. -/
structure Steady (own : List Event) : Prop where
  /-- The slots never decrease. -/
  slots : (0 :: own.map Event.slot).Pairwise (· ≤ ·)
  /-- The ballots never decrease. -/
  ballots : (0 :: own.map Event.ballot).Pairwise (· ≤ ·)

theorem pairwise_cons_concat_iff {α : Type} [Preorder α] (a x : α) (l : List α) :
    (a :: (l ++ [x])).Pairwise (· ≤ ·) ↔
      (a :: l).Pairwise (· ≤ ·) ∧ l.getLast?.getD a ≤ x := by
  simp only [← List.isChain_iff_pairwise]
  rw [← List.cons_append, List.isChain_append]
  simp [List.getLast?_cons]

/-- One more event keeps a server steady exactly if it stays at the last report or above. -/
theorem steady_concat_iff (own : List Event) (e : Event) :
    Steady (own ++ [e]) ↔ Steady own ∧
      (lastReport own).slot ≤ e.slot ∧ (lastReport own).ballot ≤ e.ballot := by
  have hslot : (own.map Event.slot).getLast?.getD 0 = (lastReport own).slot := by
    rw [lastReport, List.getLast?_map]
    cases own.getLast? <;> rfl
  have hballot : (own.map Event.ballot).getLast?.getD 0 = (lastReport own).ballot := by
    rw [lastReport, List.getLast?_map]
    cases own.getLast? <;> rfl
  constructor
  · rintro ⟨hs, hb⟩
    rw [List.map_append] at hs hb
    obtain ⟨hs, hs'⟩ := (pairwise_cons_concat_iff 0 e.slot _).1 hs
    obtain ⟨hb, hb'⟩ := (pairwise_cons_concat_iff 0 e.ballot _).1 hb
    exact ⟨⟨hs, hb⟩, hslot ▸ hs', hballot ▸ hb'⟩
  · rintro ⟨⟨hs, hb⟩, hs', hb'⟩
    constructor
    · rw [List.map_append]
      exact (pairwise_cons_concat_iff 0 e.slot _).2 ⟨hs, hslot ▸ hs'⟩
    · rw [List.map_append]
      exact (pairwise_cons_concat_iff 0 e.ballot _).2 ⟨hb, hballot ▸ hb'⟩

/-- **A replay is consistent exactly if no server ever goes back.** -/
theorem Replay.consistent_ofEvents_iff (h : ∀ e ∈ events, r.knows e = true) :
    (ofEvents r events).consistent = true ↔ ∀ id ∈ r.ids, Steady (ownEvents id events) := by
  have hnil : ∀ es : List Event, (ofEvents r es).consistent = true ↔
      (withPast es).flatMap (fun p => violationsAt r p.1 p.2) = [] := fun es => by
    simp [consistent, ofEvents]
  rw [hnil]
  induction events using List.reverseRecOn with
  | nil => simp [ownEvents, Steady.mk]
  | append_singleton past e ih =>
    have hknown : r.knows e = true := h e (by simp)
    have hmem : e.server ∈ r.ids := by
      obtain ⟨k, hk⟩ := Registry.exists_index?_of_knows hknown
      exact List.mem_of_getElem? (Registry.index?_eq_some_iff.1 hk)
    have hpast : (withPast past).flatMap (fun p => violationsAt r p.1 p.2) = [] ↔
        ∀ id ∈ r.ids, Steady (ownEvents id past) :=
      ih fun x hx => h x (List.mem_append_left _ hx)
    rw [withPast_concat, List.flatMap_append, List.append_eq_nil_iff, hpast]
    simp only [List.flatMap_cons, List.flatMap_nil, List.append_nil, violationsAt_eq_nil_iff hknown]
    -- the last event matters for its own server only
    constructor
    · rintro ⟨hpast, hlast⟩ id hid
      by_cases hne : e.server = id
      · rw [← hne, ownEvents_concat_self]
        exact (steady_concat_iff _ e).2 ⟨hpast e.server hmem, hlast⟩
      · rw [ownEvents_concat_of_ne e past hne]
        exact hpast id hid
    · intro hall
      have hself := hall e.server hmem
      rw [ownEvents_concat_self] at hself
      obtain ⟨hown, hlast⟩ := (steady_concat_iff _ e).1 hself
      refine ⟨fun id hid => ?_, hlast⟩
      by_cases hne : e.server = id
      · exact hne ▸ hown
      · exact ownEvents_concat_of_ne e past hne ▸ hall id hid

/-- **What the violations say.**  If the registry knows the servers of all events, the violations
are exactly the slots and the ballots below what the event's server reported last, with that value,
the event, its server and its place; they are in the order of the events, the slot before the
ballot; and there are none exactly if no server's slots or ballots ever decrease. -/
theorem exists_run_violations (h : ∀ e ∈ events, r.knows e = true) :
    ∃ p, Replay.run r events = .ok p ∧
      (∀ v, v ∈ p.violations.toList ↔
        events[v.index]? = some v.event ∧ v.server = v.event.server ∧
          r.index? v.server = some v.actor ∧
          v.FallsBelow (lastReport (ownEvents v.server (events.take v.index)))) ∧
      p.violations.toList.Nodup ∧ p.violations.toList.Pairwise Violation.Before ∧
      (p.consistent = true ↔ ∀ id ∈ r.ids, Steady (ownEvents id events)) :=
  ⟨.ofEvents r events, Replay.run_eq_ofEvents h, fun _ => Replay.mem_violations_ofEvents,
    Replay.pairwise_violations_ofEvents.imp Violation.Before.ne,
    Replay.pairwise_violations_ofEvents, Replay.consistent_ofEvents_iff h⟩

theorem exists_run_violations_falling :
    (∀ e ∈ fallingEvents, twoServers.knows e = true) ∧
      ∃ p, Replay.run twoServers fallingEvents = .ok p ∧
        (∀ v, v ∈ p.violations.toList ↔
          fallingEvents[v.index]? = some v.event ∧ v.server = v.event.server ∧
            twoServers.index? v.server = some v.actor ∧
            v.FallsBelow (lastReport (ownEvents v.server (fallingEvents.take v.index)))) ∧
        p.violations.toList.Nodup ∧ p.violations.toList.Pairwise Violation.Before ∧
        (p.consistent = true ↔
          ∀ id ∈ twoServers.ids, Steady (ownEvents id fallingEvents)) :=
  have h : ∀ e ∈ fallingEvents, twoServers.knows e = true := by decide
  ⟨h, exists_run_violations h⟩

end ReplicaTrace
