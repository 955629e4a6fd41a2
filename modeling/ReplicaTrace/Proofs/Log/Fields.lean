import Mathlib.Data.List.Forall2
import Mathlib.Data.List.Induction
import Mathlib.Data.List.TakeDrop
import Mathlib.Data.List.TakeWhile
import ReplicaTrace.Log.Fields
import ReplicaTrace.Proofs.Text.Pieces

/-!
# Fields that were written

A field is cut at its first colon, so that the value may hold further ones.  Fields that were
written with commas between them are read back if no comma occurs in them, and every text that is
read was written in this way.

* `Fields.readField_eq_some_iff` : one field.
* `Fields.read_eq_ok_iff` : fields with commas between them.
* `Fields.ofList_entries`, `Fields.mem_of_mem_ofList` : the pairs that were put together.
-/

namespace ReplicaTrace

namespace Fields

/-- The text of a field. -/
def fieldText (p : String × String) : List Char :=
  p.1.toList ++ ':' :: p.2.toList

/-- The key of the field can be told from its value, and the field from the next one. -/
structure Readable (p : String × String) : Prop where
  key_ne : p.1 ≠ ""
  colon : ':' ∉ p.1.toList
  comma : ',' ∉ fieldText p

instance (p : String × String) : Decidable (Readable p) :=
  decidable_of_iff (p.1 ≠ "" ∧ ':' ∉ p.1.toList ∧ ',' ∉ fieldText p)
    ⟨fun ⟨h₁, h₂, h₃⟩ => ⟨h₁, h₂, h₃⟩, fun ⟨h₁, h₂, h₃⟩ => ⟨h₁, h₂, h₃⟩⟩

/-- **A field is read** exactly from a key, a colon and a value, if the key is not empty and has no
colon in it. -/
theorem readField_eq_some_iff {cs : List Char} {p : String × String} :
    readField cs = some p ↔ cs = fieldText p ∧ p.1 ≠ "" ∧ ':' ∉ p.1.toList := by
  constructor
  · intro h
    rw [readField, List.span_eq_takeWhile_dropWhile] at h
    split at h
    · next c key d value hspan =>
      obtain ⟨htake, hdrop⟩ := Prod.mk.inj hspan
      obtain rfl := Option.some.inj h
      have hd : d = ':' := by
        have := List.head?_dropWhile_not (· != ':') cs
        rw [hdrop] at this
        simpa using this
      refine ⟨?_, by simp, fun hmem => ?_⟩
      · rw [← List.takeWhile_append_dropWhile (p := (· != ':')) (l := cs), htake, hdrop, hd]
        simp [fieldText]
      · rw [String.toList_ofList, ← htake] at hmem
        simpa using List.mem_takeWhile_imp hmem
    · cases h
  · rintro ⟨rfl, hne, hcolon⟩
    have hkey : ∀ c ∈ p.1.toList, (c != ':') = true := fun c hc => by
      rw [bne_iff_ne]
      rintro rfl
      exact hcolon hc
    obtain ⟨c, cs, hcs⟩ := List.exists_cons_of_ne_nil fun hnil =>
      hne (String.toList_eq_nil_iff.1 hnil)
    have hspan : (fieldText p).span (· != ':') = (p.1.toList, ':' :: p.2.toList) := by
      rw [List.span_eq_takeWhile_dropWhile, fieldText, List.takeWhile_append_of_pos hkey,
        List.dropWhile_append_of_pos hkey]
      simp
    rw [readField, hspan, hcs]
    simp [← hcs]

theorem readAll_eq_ok_iff {f g : Fields} {css : List (List Char)} :
    readAll f css = .ok g ↔ ∃ pairs, List.Forall₂ (fun cs p => readField cs = some p) css pairs ∧
      g = pairs.foldl (fun f p => f.insert p.1 p.2) f := by
  induction css generalizing f with
  | nil => simp [readAll, eq_comm]
  | cons cs css ih =>
    cases hfield : readField cs with
    | none => simp [readAll, hfield, List.forall₂_cons_left_iff]
    | some p => simp [readAll, hfield, ih, List.forall₂_cons_left_iff]

/-- **Fields with commas between them** are read back. -/
theorem read_intercalate {pairs : List (String × String)} (hne : pairs ≠ [])
    (h : ∀ p ∈ pairs, Readable p) :
    read ([','].intercalate (pairs.map fieldText)) = .ok (ofList pairs) := by
  have hcomma : ∀ cs ∈ pairs.map fieldText, ',' ∉ cs := by
    intro cs hcs
    obtain ⟨p, hp, rfl⟩ := List.mem_map.1 hcs
    exact (h p hp).comma
  rw [read, List.splitOn_intercalate ',' hcomma (by simpa using hne)]
  refine readAll_eq_ok_iff.2 ⟨pairs, List.forall₂_map_left_iff.2 ?_, rfl⟩
  exact List.forall₂_same.2 fun p hp =>
    readField_eq_some_iff.2 ⟨rfl, (h p hp).key_ne, (h p hp).colon⟩

/-- **A text is read** exactly if it consists of fields with commas between them. -/
theorem read_eq_ok_iff {text : List Char} {f : Fields} :
    read text = .ok f ↔ ∃ pairs, pairs ≠ [] ∧ (∀ p ∈ pairs, Readable p) ∧
      text = [','].intercalate (pairs.map fieldText) ∧ f = ofList pairs := by
  constructor
  · intro h
    obtain ⟨pairs, hpairs, rfl⟩ := readAll_eq_ok_iff.1 h
    have htexts : text.splitOn ',' = pairs.map fieldText := by
      rw [← List.forall₂_eq_eq_eq, List.forall₂_map_right_iff]
      exact hpairs.imp fun _ _ hfield => (readField_eq_some_iff.1 hfield).1
    have hcomma : ∀ cs ∈ text.splitOn ',', ',' ∉ cs := fun cs hcs hmem => by
      simpa using Text.notMem_of_mem_splitOnP hcs ',' hmem
    refine ⟨pairs, ?_, fun p hp => ?_, by rw [← htexts, List.intercalate_splitOn], rfl⟩
    · rintro rfl
      exact List.splitOn_ne_nil ',' text htexts
    · rw [htexts] at hpairs hcomma
      have hfield := List.forall₂_same.1 (List.forall₂_map_left_iff.1 hpairs) p hp
      obtain ⟨-, hne, hcolon⟩ := readField_eq_some_iff.1 hfield
      exact ⟨hne, hcolon, hcomma _ (List.mem_map_of_mem hp)⟩
  · rintro ⟨pairs, hne, hreadable, rfl, rfl⟩
    exact read_intercalate hne hreadable

/-! ### Putting pairs together -/

theorem ofList_concat (pairs : List (String × String)) (p : String × String) :
    ofList (pairs ++ [p]) = (ofList pairs).insert p.1 p.2 :=
  List.foldl_concat ..

/-- An entry is one of the pairs. -/
theorem mem_of_mem_ofList {pairs : List (String × String)} {e : String × String}
    (h : e ∈ (ofList pairs).entries) : e ∈ pairs := by
  induction pairs using List.reverseRecOn with
  | nil => cases h
  | append_singleton pairs p ih =>
    rw [ofList_concat, entries_insert] at h
    rcases Association.mem_put h with rfl | h
    · exact List.mem_append_right _ List.mem_cons_self
    · exact List.mem_append_left _ (ih h)

/-- Entries with different keys are put together as they are. -/
theorem entries_ofList {pairs : List (String × String)} (h : (pairs.map Prod.fst).Nodup) :
    (ofList pairs).entries = pairs := by
  induction pairs using List.reverseRecOn with
  | nil => rfl
  | append_singleton pairs p ih =>
    rw [List.map_append, List.nodup_append] at h
    have hnew : p.1 ∉ pairs.map Prod.fst := fun hmem => h.2.2 p.1 hmem p.1 (by simp) rfl
    rw [ofList_concat, entries_insert, ih h.1, Association.put_of_notMem hnew]

theorem ofList_entries (f : Fields) : ofList f.entries = f :=
  ext (entries_ofList f.nodup)

theorem entries_ofList_ne_nil {pairs : List (String × String)} (h : pairs ≠ []) :
    (ofList pairs).entries ≠ [] := by
  induction pairs using List.reverseRecOn with
  | nil => exact absurd rfl h
  | append_singleton pairs p _ =>
    rw [ofList_concat]
    have hkey : p.1 ∈ ((ofList pairs).insert p.1 p.2).keys := by
      rw [keys_insert]
      split
      · next hmem => exact hmem
      · simp
    intro hnil
    rw [keys, hnil] at hkey
    cases hkey

end Fields

end ReplicaTrace
