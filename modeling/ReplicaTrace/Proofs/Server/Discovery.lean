import ReplicaTrace.Proofs.Server.Indices
import ReplicaTrace.Proofs.Server.NaturalOrder
import ReplicaTrace.Proofs.Stream

/-!
# The registry that is discovered

The servers that events name are listed each once and sorted by the natural order of their ids.
There is such a registry whenever there are events, whatever the ids are.  Where all segments of the
ids are *plain*, numbers without sign or leading zeros or words that start with a letter, the
natural order tells any two ids apart, and the registry depends on nothing but the set of servers.

* `Registry.exists_discover` : events have a registry, which lists exactly their servers.
* `IsPlain` : plain segments; none of them is interlaced, and different ones are not equal.
* `Registry.discover_canonical` : the registry of events with plain ids.
-/

namespace ReplicaTrace

open Text

/-! ### The servers of the events -/

theorem nodup_eraseDups {α : Type} [BEq α] [LawfulBEq α] : ∀ l : List α, l.eraseDups.Nodup
  | [] => by simp
  | a :: l => by
    rw [List.eraseDups_cons, List.nodup_cons]
    refine ⟨?_, nodup_eraseDups (l.filter fun b => !b == a)⟩
    intro hmem
    simpa using (List.mem_filter.1 (List.mem_eraseDups.1 hmem)).2
termination_by l => l.length
decreasing_by exact Nat.lt_succ_of_le (List.length_filter_le _ _)

namespace Registry

variable {events : List Event} {r : Registry}

/-- **Events have a registry.**  It lists their servers, each once, in the natural order. -/
theorem exists_discover (h : events ≠ []) : ∃ r, discover events = .ok r ∧
    r.ids = (events.map Event.server).eraseDups.mergeSort ServerId.naturalLe := by
  unfold discover
  generalize hids : (events.map Event.server).eraseDups.mergeSort ServerId.naturalLe = ids
  have hperm : ids.Perm (events.map Event.server).eraseDups := hids ▸ List.mergeSort_perm _ _
  have hnodup : ids.Nodup := hperm.nodup_iff.2 (nodup_eraseDups _)
  have hne : ids ≠ [] := by
    obtain ⟨e, es, rfl⟩ := List.exists_cons_of_ne_nil h
    have hmem : e.server ∈ ids := hperm.mem_iff.2 (List.mem_eraseDups.2 List.mem_cons_self)
    exact List.ne_nil_of_mem hmem
  obtain ⟨r, hr⟩ := exists_ofList?_iff.2 ⟨hne, hnodup⟩
  exact ⟨r, hr, ids_of_ofList? hr⟩

theorem mem_ids_of_discover (h : discover events = .ok r) (id : ServerId) :
    id ∈ r.ids ↔ id ∈ events.map Event.server := by
  rw [ids_of_ofList? h, List.mem_mergeSort, List.mem_eraseDups]

end Registry

/-! ### Plain segments -/

/-- The segment is a number below `2^64` without sign or leading zeros, or starts with a letter. -/
def IsPlain (s : List Char) : Prop :=
  (∃ n, IsNumeral s n ∧ n ≤ max64 ∧ (s.head? = some '0' → s = ['0'])) ∨
    ∃ c, s.head? = some c ∧ c.isAlpha = true

variable {s t x y : List Char}

/-- Letters come after digits. -/
theorem lt_of_isDigit_of_isAlpha {c d : Char} (hd : d.isDigit = true) (hc : c.isAlpha = true) :
    d.toNat < c.toNat := by
  have hdigit : 48 ≤ d.toNat ∧ d.toNat ≤ 57 := Char.isDigit_iff_toNat.1 hd
  have hletter : 65 ≤ c.toNat := by
    rcases Bool.or_eq_true_iff.1 hc with hupper | hlower
    · exact UInt32.le_iff_toNat_le.1 (of_decide_eq_true hupper).1
    · have hbound : 97 ≤ c.toNat :=
        UInt32.le_iff_toNat_le.1 (of_decide_eq_true (Bool.and_eq_true_iff.1 hlower).1)
      omega
  omega

/-- A plain segment is a number as it is written, or a word that starts with a letter. -/
theorem IsPlain.cases (h : IsPlain s) :
    ∃ c cs, s = c :: cs ∧
      ((∃ n, segmentNumber? s = some n ∧ s = (toString n).toList ∧ c.isDigit = true) ∨
        segmentNumber? s = none ∧ c.isAlpha = true) := by
  rcases h with ⟨n, hnumeral, hmax, hzero⟩ | ⟨c, hc, hletter⟩
  · obtain ⟨c, cs, rfl⟩ := List.exists_cons_of_ne_nil hnumeral.1
    refine ⟨c, cs, rfl, .inl ⟨n, ?_, hnumeral.eq_toString hzero, ?_⟩⟩
    · exact toOption_eq_some_iff.2 (readNat_eq_ok_iff.2 ⟨_, .inl rfl, hnumeral, hmax⟩)
    · exact hnumeral.2.1 c List.mem_cons_self
  · obtain ⟨cs, rfl⟩ := List.head?_eq_some_iff.1 hc
    refine ⟨c, cs, rfl, .inr ⟨?_, hletter⟩⟩
    cases hnumber : segmentNumber? (c :: cs) with
    | none => rfl
    | some n =>
      -- a number starts with a digit or a plus sign
      obtain ⟨ds, hds, hnumeral, -⟩ := readNat_eq_ok_iff.1 (toOption_eq_some_iff.1 hnumber)
      rcases hds with rfl | hplus
      · have hdigit := hnumeral.2.1 c List.mem_cons_self
        exact absurd (lt_of_isDigit_of_isAlpha hdigit hletter) (Nat.lt_irrefl _)
      · obtain ⟨rfl, -⟩ := List.cons.inj hplus
        exact absurd hletter (by decide)

/-- Plain segments that are compared as equal are equal. -/
theorem IsPlain.eq_of_compareSegment_eq (hs : IsPlain s) (ht : IsPlain t)
    (h : compareSegment s t = .eq) : s = t := by
  obtain ⟨-, -, -, ⟨m, hm, hsm, -⟩ | ⟨hnone, -⟩⟩ := hs.cases
  · obtain ⟨-, -, -, ⟨n, hn, htn, -⟩ | ⟨hnone, -⟩⟩ := ht.cases
    · rw [compareSegment_numbers hm hn, Nat.compare_eq_eq] at h
      rw [hsm, htn, h]
    · rw [compareSegment_right hnone] at h
      exact compareText_eq_iff.1 h
  · rw [compareSegment_left hnone] at h
    exact compareText_eq_iff.1 h

/-- No plain segment is interlaced with plain ones, since words come after all numbers. -/
theorem IsPlain.not_interlaced (hx : IsPlain x) (ht : IsPlain t) : ¬ Interlaced x t y := by
  intro h
  obtain ⟨⟨m, -, hm, -⟩, hnone, -, -, htx⟩ := h
  obtain ⟨c, cs, rfl, ⟨n, hn, -⟩ | ⟨-, hletter⟩⟩ := ht.cases
  · cases hn.symm.trans hnone
  · obtain ⟨d, ds, rfl, ⟨-, -, -, hdigit⟩ | ⟨hnone', -⟩⟩ := hx.cases
    · have hlt := lt_of_isDigit_of_isAlpha hdigit hletter
      rw [compareText, Ordering.then_eq_lt, Nat.compare_eq_lt, Nat.compare_eq_eq] at htx
      omega
    · cases hm.symm.trans hnone'

/-! ### The registry of plain ids -/

namespace ServerId

variable {i j k : ServerId}

/-- Plain ids that are compared as equal are equal. -/
theorem eq_of_naturalCompare_eq (hi : i.MadeOf IsPlain) (hj : j.MadeOf IsPlain)
    (h : naturalCompare i j = .eq) : i = j := by
  have hsegments : i.segments = j.segments :=
    eq_of_compareSegments_eq (fun _ _ => IsPlain.eq_of_compareSegment_eq) hi hj h
  have htexts : i.text.toList = j.text.toList := by
    have hjoined := congrArg (List.intercalate ['.']) hsegments
    rwa [segments, segments, List.intercalate_splitOn, List.intercalate_splitOn] at hjoined
  exact congrArg ServerId.mk (String.toList_inj.1 htexts)

theorem naturalLe_total (i j : ServerId) : (naturalLe i j || naturalLe j i) = true := by
  rw [naturalLe, naturalLe, naturalCompare, naturalCompare, ← compareSegments_swap i.segments]
  cases compareSegments i.segments j.segments <;> rfl

end ServerId

namespace Registry

variable {events events' : List Event} {r r' : Registry}

/-- A registry of plain ids that was discovered is strictly in order. -/
theorem pairwise_ids_of_discover (hplain : ∀ e ∈ events, e.server.MadeOf IsPlain)
    (h : discover events = .ok r) : r.ids.Pairwise fun i j => i.naturalCompare j = .lt := by
  have hids : ∀ id ∈ (events.map Event.server).eraseDups, id.MadeOf IsPlain := by
    intro id hid
    obtain ⟨e, he, rfl⟩ := List.mem_map.1 (List.mem_eraseDups.1 hid)
    exact hplain e he
  have hsorted : r.ids.Pairwise fun i j => i.naturalLe j = true := by
    rw [ids_of_ofList? h]
    refine pairwise_mergeSort_of_mem ?_ ?_
    · intro i hi j hj k hk hij hjk
      exact ServerId.naturalCompare_isLE_trans (fun _ _ _ hx ht _ => hx.not_interlaced ht)
        (hids i hi) (hids j hj) (hids k hk) hij hjk
    · exact fun i _ j _ => ServerId.naturalLe_total i j
  have hmem : ∀ id ∈ r.ids, id.MadeOf IsPlain := by
    intro id hid
    rw [mem_ids_of_discover h, ← List.mem_eraseDups] at hid
    exact hids id hid
  refine (hsorted.and r.nodup).imp_of_mem ?_
  intro i j hi hj hij
  rcases Ordering.isLE_iff_eq_lt_or_eq_eq.1 hij.1 with hlt | heq
  · exact hlt
  · exact absurd (ServerId.eq_of_naturalCompare_eq (hmem i hi) (hmem j hj) heq) hij.2

/-- Registries with the same ids, both strictly in order, are the same. -/
theorem eq_of_mem_iff (hr : r.ids.Pairwise fun i j => i.naturalCompare j = .lt)
    (hr' : r'.ids.Pairwise fun i j => i.naturalCompare j = .lt)
    (h : ∀ id, id ∈ r.ids ↔ id ∈ r'.ids) : r = r' := by
  have hperm : r.ids.Perm r'.ids := (List.perm_ext_iff_of_nodup r.nodup r'.nodup).2 h
  have hids : r.ids = r'.ids := by
    refine hperm.eq_of_pairwise ?_ hr hr'
    intro i j _ _ hij hji
    rw [ServerId.naturalCompare, ← compareSegments_swap] at hji
    rw [ServerId.naturalCompare] at hij
    rw [hij] at hji
    cases hji
  cases r
  cases r'
  simpa using hids

/-- **The registry of plain ids** is canonical.  Events whose servers have ids of plain segments are
given a registry, which lists exactly their servers, strictly in the natural order; and any events
of the same servers, in whatever order and however often these occur, are given this very registry,
so that every server has the same index. -/
theorem discover_canonical (h : events ≠ []) (hplain : ∀ e ∈ events, e.server.MadeOf IsPlain) :
    ∃ r, discover events = .ok r ∧ (∀ id, id ∈ r.ids ↔ ∃ e ∈ events, e.server = id) ∧
      (r.ids.Pairwise fun i j => i.naturalCompare j = .lt) ∧
      ∀ events' : List Event,
        (∀ id, (∃ e ∈ events', e.server = id) ↔ ∃ e ∈ events, e.server = id) →
          discover events' = .ok r := by
  obtain ⟨r, hr, -⟩ := exists_discover h
  have hmem : ∀ id, id ∈ r.ids ↔ ∃ e ∈ events, e.server = id := by
    intro id
    rw [mem_ids_of_discover hr, List.mem_map]
  refine ⟨r, hr, hmem, pairwise_ids_of_discover hplain hr, ?_⟩
  intro events' hsame
  have hplain' : ∀ e ∈ events', e.server.MadeOf IsPlain := by
    intro e' he'
    obtain ⟨e, he, hserver⟩ := (hsame e'.server).1 ⟨e', he', rfl⟩
    exact hserver ▸ hplain e he
  have hne : events' ≠ [] := by
    obtain ⟨e, es, rfl⟩ := List.exists_cons_of_ne_nil h
    obtain ⟨e', he', -⟩ := (hsame e.server).2 ⟨e, List.mem_cons_self, rfl⟩
    exact List.ne_nil_of_mem he'
  obtain ⟨r', hr', -⟩ := exists_discover hne
  have heq : r' = r := by
    refine eq_of_mem_iff (pairwise_ids_of_discover hplain' hr') (pairwise_ids_of_discover hplain hr)
      ?_
    intro id
    rw [mem_ids_of_discover hr', List.mem_map, hsame, hmem]
  rw [hr', heq]

/-- Events of four servers, one of them twice; an id is the beginning of two others, and one starts
with a letter. -/
def plainEvents : List Event :=
  [.brief 0 1 1 "1.10" .p1a 0 0, .brief 0 2 2 "b2" .p1a 0 0, .brief 0 3 3 "1.9" .p1a 0 0,
    .brief 0 4 4 "1.10" .p1a 0 0, .brief 0 5 5 "1" .p1a 0 0]

theorem discover_canonical_plainEvents :
    plainEvents ≠ [] ∧ (∀ e ∈ plainEvents, e.server.MadeOf IsPlain) ∧
      ∃ r, discover plainEvents = .ok r ∧ discover plainEvents.reverse = .ok r ∧
        r.ids = [⟨"1"⟩, ⟨"1.9"⟩, ⟨"1.10"⟩, ⟨"b2"⟩] := by
  have hone : IsPlain ['1'] := .inl ⟨1, ⟨by decide, by simp, rfl⟩, by decide, by decide⟩
  have hnine : IsPlain ['9'] := .inl ⟨9, ⟨by decide, by simp, rfl⟩, by decide, by decide⟩
  have hten : IsPlain ['1', '0'] := .inl ⟨10, ⟨by decide, by simp, rfl⟩, by decide, by decide⟩
  have hword : IsPlain ['b', '2'] := .inr ⟨'b', rfl, by decide⟩
  have hplain : ∀ e ∈ plainEvents, e.server.MadeOf IsPlain := by
    have hsegments : plainEvents.flatMap (fun e => e.server.segments) =
        [['1'], ['1', '0'], ['b', '2'], ['1'], ['9'], ['1'], ['1', '0'], ['1']] := by decide
    have hall : ∀ s ∈ plainEvents.flatMap (fun e => e.server.segments), IsPlain s := by
      rw [hsegments]
      simp [hone, hnine, hten, hword]
    intro e he s hs
    exact hall s (List.mem_flatMap.2 ⟨e, he, hs⟩)
  obtain ⟨r, hr, hmem, hsorted, hsame⟩ := discover_canonical (by decide) hplain
  have hids : r = ⟨[⟨"1"⟩, ⟨"1.9"⟩, ⟨"1.10"⟩, ⟨"b2"⟩], by decide, by decide⟩ := by
    refine eq_of_mem_iff hsorted (by decide) ?_
    have hservers : plainEvents.map Event.server =
        [⟨"1.10"⟩, ⟨"b2"⟩, ⟨"1.9"⟩, ⟨"1.10"⟩, ⟨"1"⟩] := rfl
    intro id
    rw [hmem, ← List.mem_map, hservers]
    simp only [List.mem_cons, List.not_mem_nil, or_false]
    tauto
  exact ⟨by decide, hplain, r, hr, hsame _ fun id => by simp, by rw [hids]⟩

end Registry

end ReplicaTrace
