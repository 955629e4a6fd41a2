import Mathlib.Data.List.Nodup
import ReplicaTrace.Association
import ReplicaTrace.Settings.Constants

/-!
# Constants that are assigned

Constants are told by the values of their names: the order of the names and that no name occurs
twice leave no choice.  Constants that are assigned over others win over them, name by name.

* `Constants.mem_entries_iff`, `Constants.ext_get?` : entries and values.
* `Constants.get?_foldl_entries` : constants that are assigned over others.
* `Constants.ofList_entries` : entries that are assigned one after the other.
-/

namespace ReplicaTrace

open Text

theorem nameBefore_irrefl (name : String) : ¬ nameBefore name name := by
  intro h
  rw [nameBefore, compareText_self] at h
  cases h

theorem not_nameBefore_of_nameBefore {a b : String} (h : nameBefore a b) : ¬ nameBefore b a :=
  fun h' => nameBefore_irrefl a (compareText_trans h h')

namespace Constants

/-- No name occurs twice. -/
theorem nodup_names (c : Constants) : (c.entries.map Prod.fst).Nodup := by
  refine List.pairwise_map.2 (c.sorted.imp fun hbefore hsame => ?_)
  rw [hsame] at hbefore
  exact nameBefore_irrefl _ hbefore

theorem mem_entries_iff {c : Constants} {name value : String} :
    (name, value) ∈ c.entries ↔ c.get? name = some value :=
  Association.mem_iff_lookup_eq_some c.nodup_names

theorem get?_eq_none_iff {c : Constants} {name : String} : c.get? name = none ↔ name ∉ c.names := by
  simp only [get?, List.lookup_eq_none_iff, bne_iff_ne, names, List.mem_map, not_exists, not_and]
  exact ⟨fun h e he hname => h e he hname.symm, fun h e he hname => h e he hname.symm⟩

/-- **Constants are told by the values of their names.** -/
theorem ext_get? {a b : Constants} (h : ∀ name, a.get? name = b.get? name) : a = b := by
  have hmem : ∀ e, e ∈ a.entries ↔ e ∈ b.entries := fun ⟨name, value⟩ => by
    rw [mem_entries_iff, mem_entries_iff, h]
  have hperm : a.entries.Perm b.entries :=
    (List.perm_ext_iff_of_nodup a.nodup_names.of_map b.nodup_names.of_map).2 hmem
  refine ext (hperm.eq_of_pairwise (fun x y _ _ hxy hyx => ?_) a.sorted b.sorted)
  exact absurd hyx (not_nameBefore_of_nameBefore hxy)

/-- **Constants that are assigned over others** win over them. -/
theorem get?_foldl_entries (d c : Constants) (name : String) :
    (d.entries.foldl (fun c e => c.insert e.1 e.2) c).get? name =
      (d.get? name).or (c.get? name) := by
  rw [Association.get_foldl get?_insert, Association.lookup_reverse d.nodup_names]
  rfl

theorem ofList_entries (c : Constants) : ofList c.entries = c := by
  refine ext_get? fun name => ?_
  rw [ofList, get?_foldl_entries]
  exact Option.or_none

end Constants

end ReplicaTrace
