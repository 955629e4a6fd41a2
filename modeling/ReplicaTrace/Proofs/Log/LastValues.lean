import Mathlib.Data.Finset.Card
import Mathlib.Data.List.Basic
import ReplicaTrace.Proofs.Log.Fields
import ReplicaTrace.Proofs.Results

/-!
# Keys that are repeated

A text is read as fields exactly if each of its pieces between commas has a colon in it, and not at
its start; otherwise the first piece without one is the fault.  A key may stand in several pieces:
it is kept once, in the place of its first piece and with the value of its last.

* `IsField`, `keyIn`, `valueIn` : one piece.
* `get?_ofList_eq_some_iff`, `pairwise_keys_ofList` : values and places when pairs are put together.
* `LastWins` : fields as pieces give them; `LastWins.unique` says that there are no others.
* `read_lastWins` : what becomes of every text.
-/

namespace ReplicaTrace

namespace Fields

/-! ### One piece -/

/-- The piece is a field: there is a colon in it, and something before the first one. -/
def IsField (cs : List Char) : Prop :=
  ':' ∈ cs ∧ cs.head? ≠ some ':'

instance (cs : List Char) : Decidable (IsField cs) :=
  inferInstanceAs (Decidable (_ ∧ _))

/-- What stands before the first colon. -/
def keyIn (cs : List Char) : String :=
  String.ofList (cs.takeWhile (· != ':'))

/-- What stands after the first colon. -/
def valueIn (cs : List Char) : String :=
  String.ofList ((cs.dropWhile (· != ':')).drop 1)

variable {cs : List Char} {css : List (List Char)} {f g : Fields} {k v : String}
  {pairs : List (String × String)}

theorem colon_notMem_keyIn (cs : List Char) : ':' ∉ (keyIn cs).toList := fun hmem => by
  rw [keyIn, String.toList_ofList] at hmem
  simpa using List.mem_takeWhile_imp hmem

theorem keyIn_ne_empty (h : IsField cs) : keyIn cs ≠ "" := by
  obtain ⟨hcolon, hhead⟩ := h
  cases cs with
  | nil => cases hcolon
  | cons c cs =>
    have hc : c ≠ ':' := by simpa using hhead
    simp [keyIn, hc]

/-- A field is its key, a colon and its value. -/
theorem eq_fieldText (h : IsField cs) : cs = fieldText (keyIn cs, valueIn cs) := by
  obtain ⟨before, after, hcs, hbefore⟩ := List.eq_append_cons_of_mem h.1
  have hkind : ∀ c ∈ before, (c != ':') = true := fun c hc => by
    rw [bne_iff_ne]
    rintro rfl
    exact hbefore hc
  rw [fieldText, keyIn, valueIn, String.toList_ofList, String.toList_ofList, hcs,
    List.takeWhile_append_of_pos hkind, List.dropWhile_append_of_pos hkind]
  simp

theorem readField_of_isField (h : IsField cs) : readField cs = some (keyIn cs, valueIn cs) :=
  readField_eq_some_iff.2 ⟨eq_fieldText h, keyIn_ne_empty h, colon_notMem_keyIn cs⟩

theorem readField_eq_none_iff : readField cs = none ↔ ¬ IsField cs := by
  constructor
  · intro hnone hfield
    rw [readField_of_isField hfield] at hnone
    cases hnone
  · intro hfield
    refine Option.eq_none_iff_forall_ne_some.2 fun p hp => hfield ?_
    obtain ⟨rfl, hne, hcolon⟩ := readField_eq_some_iff.1 hp
    refine ⟨by simp [fieldText], fun hhead => ?_⟩
    obtain ⟨c, cs, hcs⟩ := List.exists_cons_of_ne_nil fun hnil =>
      hne (String.toList_eq_nil_iff.1 hnil)
    rw [fieldText, hcs] at hhead
    obtain rfl : c = ':' := by simpa using hhead
    exact hcolon (hcs ▸ List.mem_cons_self)

/-! ### Pairs that are put together -/

theorem nodup_keys (f : Fields) : f.keys.Nodup :=
  f.nodup

theorem length_keys (f : Fields) : f.keys.length = f.size :=
  List.length_map ..

/-- The key of a pair is one of the keys, and there are no others. -/
theorem mem_keys_ofList : k ∈ (ofList pairs).keys ↔ k ∈ pairs.map Prod.fst := by
  induction pairs using List.reverseRecOn with
  | nil => rfl
  | append_singleton pairs p ih =>
    rw [ofList_concat, keys_insert, List.map_append, List.mem_append, ← ih]
    by_cases hp : p.1 ∈ (ofList pairs).keys
    · rw [if_pos hp]
      refine ⟨.inl, fun h => h.elim id fun hk => ?_⟩
      rw [List.map_singleton, List.mem_singleton] at hk
      exact hk ▸ hp
    · rw [if_neg hp, List.mem_append]
      rfl

/-- **The keys stand in the order** in which they first occur. -/
theorem pairwise_keys_ofList (pairs : List (String × String)) :
    (ofList pairs).keys.Pairwise fun k k' =>
      (pairs.map Prod.fst).idxOf k < (pairs.map Prod.fst).idxOf k' := by
  induction pairs using List.reverseRecOn with
  | nil => exact .nil
  | append_singleton pairs p ih =>
    have hplace : ∀ k ∈ (ofList pairs).keys,
        ((pairs ++ [p]).map Prod.fst).idxOf k = (pairs.map Prod.fst).idxOf k := fun k hk => by
      rw [List.map_append, List.idxOf_append_of_mem (mem_keys_ofList.1 hk)]
    have hbefore := ih.imp_of_mem fun {k k'} hk hk' hlt => by
      rwa [← hplace k hk, ← hplace k' hk'] at hlt
    rw [ofList_concat, keys_insert]
    split
    · exact hbefore
    · next hnew =>
      -- a new key comes after all pairs so far
      refine List.pairwise_append.2 ⟨hbefore, List.pairwise_singleton _ _, fun k hk k' hk' => ?_⟩
      obtain rfl := List.mem_singleton.1 hk'
      rw [mem_keys_ofList] at hnew
      rw [hplace k hk, List.map_append, List.idxOf_append_of_notMem hnew]
      exact Nat.lt_add_right _ (List.idxOf_lt_length_iff.2 (mem_keys_ofList.1 hk))

theorem get?_ofList (pairs : List (String × String)) (k : String) :
    (ofList pairs).get? k = pairs.reverse.lookup k :=
  (Association.get_foldl get?_insert pairs empty k).trans Option.or_none

/-- **A key has the value** of the last pair with it. -/
theorem get?_ofList_eq_some_iff : (ofList pairs).get? k = some v ↔
    ∃ before after, pairs = before ++ (k, v) :: after ∧ k ∉ after.map Prod.fst := by
  rw [get?_ofList, List.lookup_eq_some_iff]
  constructor
  · rintro ⟨after, before, hpairs, hafter⟩
    refine ⟨before.reverse, after.reverse, ?_, fun hk => ?_⟩
    · rw [← List.reverse_reverse pairs, hpairs]
      simp
    · obtain ⟨p, hp, rfl⟩ := List.mem_map.1 hk
      simpa using hafter p (List.mem_reverse.1 hp)
  · rintro ⟨before, after, rfl, hafter⟩
    refine ⟨after.reverse, before.reverse, by simp, fun p hp => ?_⟩
    rw [bne_iff_ne]
    rintro rfl
    exact hafter (List.mem_map_of_mem (List.mem_reverse.1 hp))

/-- The entries are told by the values of their keys. -/
theorem mem_entries_iff : (k, v) ∈ f.entries ↔ f.get? k = some v :=
  Association.mem_iff_lookup_eq_some f.nodup

/-! ### Pieces -/

/-- The last of the pieces with the key has the value. -/
def IsLastValue (css : List (List Char)) (k v : String) : Prop :=
  ∃ before cs after, css = before ++ cs :: after ∧ keyIn cs = k ∧ valueIn cs = v ∧
    k ∉ after.map keyIn

/-- **Fields as pieces give them**: each key once, in the place of its first piece and with the
value of its last. -/
structure LastWins (f : Fields) (css : List (List Char)) : Prop where
  /-- No key occurs twice. -/
  keys_nodup : f.keys.Nodup
  /-- Every key can be told from its value. -/
  keys_plain : ∀ k ∈ f.keys, k ≠ "" ∧ ':' ∉ k.toList
  /-- The keys are those of the pieces. -/
  mem_keys : ∀ k, k ∈ f.keys ↔ k ∈ css.map keyIn
  /-- They stand in the order of their first pieces. -/
  order : f.keys.Pairwise fun k k' => (css.map keyIn).idxOf k < (css.map keyIn).idxOf k'
  /-- Each has the value of its last piece. -/
  mem_entries : ∀ k v, (k, v) ∈ f.entries ↔ IsLastValue css k v
  /-- A value that is looked up is the one that is listed. -/
  get?_eq : ∀ k v, f.get? k = some v ↔ (k, v) ∈ f.entries
  /-- There are as many fields as different keys. -/
  size_eq : f.size = (css.map keyIn).toFinset.card

/-- The pieces leave no choice. -/
theorem LastWins.unique (hf : f.LastWins css) (hg : g.LastWins css) : f = g := by
  have hmem : ∀ e, e ∈ f.entries ↔ e ∈ g.entries := fun e =>
    (hf.mem_entries e.1 e.2).trans (hg.mem_entries e.1 e.2).symm
  have hperm : f.entries.Perm g.entries :=
    (List.perm_ext_iff_of_nodup (.of_map _ f.nodup) (.of_map _ g.nodup)).2 hmem
  -- no two entries are in each other's order
  have hsorted : ∀ {f : Fields}, f.LastWins css → f.entries.Pairwise fun e e' =>
      (css.map keyIn).idxOf e.1 < (css.map keyIn).idxOf e'.1 := fun hf => by
    have horder := hf.order
    rwa [keys, List.pairwise_map] at horder
  refine ext (hperm.eq_of_pairwise ?_ (hsorted hf) (hsorted hg))
  intro e e' _ _ hlt hgt
  exact absurd (hlt.trans hgt) (Nat.lt_irrefl _)

/-- The key and the value of each piece. -/
def pairsIn (css : List (List Char)) : List (String × String) :=
  css.map fun cs => (keyIn cs, valueIn cs)

theorem map_fst_pairsIn (css : List (List Char)) : (pairsIn css).map Prod.fst = css.map keyIn := by
  rw [pairsIn, List.map_map]
  rfl

theorem isLastValue_iff : IsLastValue css k v ↔
    ∃ before after, pairsIn css = before ++ (k, v) :: after ∧ k ∉ after.map Prod.fst := by
  constructor
  · rintro ⟨before, cs, after, rfl, rfl, rfl, hafter⟩
    refine ⟨pairsIn before, pairsIn after, ?_, by rwa [map_fst_pairsIn]⟩
    rw [pairsIn, List.map_append, List.map_cons]
    rfl
  · rintro ⟨before, after, hpairs, hafter⟩
    obtain ⟨css₁, css₂, rfl, rfl, hrest⟩ := List.map_eq_append_iff.1 hpairs
    obtain ⟨cs, css₃, rfl, hcs, rfl⟩ := List.map_eq_cons_iff.1 hrest
    obtain ⟨hkey, hvalue⟩ := Prod.mk.inj hcs
    exact ⟨css₁, cs, css₃, rfl, hkey, hvalue, by rwa [← map_fst_pairsIn]⟩

theorem lastWins_ofList (h : ∀ cs ∈ css, IsField cs) : (ofList (pairsIn css)).LastWins css where
  keys_nodup := nodup_keys _
  keys_plain := by
    intro k hk
    rw [mem_keys_ofList, map_fst_pairsIn] at hk
    obtain ⟨cs, hcs, rfl⟩ := List.mem_map.1 hk
    exact ⟨keyIn_ne_empty (h cs hcs), colon_notMem_keyIn cs⟩
  mem_keys k := by rw [mem_keys_ofList, map_fst_pairsIn]
  order := by simpa only [map_fst_pairsIn] using pairwise_keys_ofList (pairsIn css)
  mem_entries k v := by rw [mem_entries_iff, get?_ofList_eq_some_iff, isLastValue_iff]
  get?_eq k v := mem_entries_iff.symm
  size_eq := by
    have hkeys : (ofList (pairsIn css)).keys.toFinset = (css.map keyIn).toFinset := by
      ext k
      rw [List.mem_toFinset, List.mem_toFinset, mem_keys_ofList, map_fst_pairsIn]
    rw [← hkeys, List.toFinset_card_of_nodup (nodup_keys _), length_keys]

/-! ### Texts -/

theorem readAll_of_isField (h : ∀ cs ∈ css, IsField cs) (f : Fields) :
    readAll f css = .ok ((pairsIn css).foldl (fun f p => f.insert p.1 p.2) f) := by
  refine readAll_eq_ok_iff.2 ⟨pairsIn css, List.forall₂_map_right_iff.2 ?_, rfl⟩
  exact List.forall₂_same.2 fun cs hcs => readField_of_isField (h cs hcs)

/-- The field is the first of the pieces that is none. -/
def IsFirstFault (css : List (List Char)) (field : String) : Prop :=
  ∃ before cs after, css = before ++ cs :: after ∧ (∀ b ∈ before, IsField b) ∧ ¬ IsField cs ∧
    field = String.ofList cs

/-- The first fault is the first piece, or it is the first fault of the others. -/
theorem isFirstFault_cons {field : String} : IsFirstFault (cs :: css) field ↔
    ¬ IsField cs ∧ field = String.ofList cs ∨ IsField cs ∧ IsFirstFault css field := by
  unfold IsFirstFault
  rw [exists_cons_eq_append_cons]
  simp [and_assoc, and_left_comm (b := IsField cs)]

theorem readAll_eq_error_iff {field : String} :
    readAll f css = .error field ↔ IsFirstFault css field := by
  induction css generalizing f with
  | nil => simp [readAll, IsFirstFault]
  | cons cs css ih =>
    rw [isFirstFault_cons]
    by_cases hc : IsField cs
    · simp [readAll, readField_of_isField hc, hc, ih]
    · simp [readAll, readField_eq_none_iff.2 hc, hc, eq_comm]

/-- **The last value wins.**  A text is read exactly if all of its pieces between commas are fields,
and then as the fields that the pieces give: each key in the place of its first piece and with the
value of its last.  Any other text is refused for its first piece that is no field. -/
theorem read_lastWins (text : List Char) :
    ((∃ f, read text = .ok f) ↔ ∀ cs ∈ text.splitOn ',', IsField cs) ∧
      (∀ f, read text = .ok f ↔
        (∀ cs ∈ text.splitOn ',', IsField cs) ∧ f.LastWins (text.splitOn ',')) ∧
      ∀ field, read text = .error field ↔ IsFirstFault (text.splitOn ',') field := by
  have hread : (∀ cs ∈ text.splitOn ',', IsField cs) →
      read text = .ok (ofList (pairsIn (text.splitOn ','))) := fun h => readAll_of_isField h empty
  have hfields : ∀ f, read text = .ok f → ∀ cs ∈ text.splitOn ',', IsField cs := by
    intro f hok cs hcs
    obtain ⟨pairs, hpairs, -⟩ := readAll_eq_ok_iff.1 hok
    by_contra hfault
    obtain ⟨i, hi, rfl⟩ := List.getElem_of_mem hcs
    have hp := (List.forall₂_iff_get.1 hpairs).2 i hi (hpairs.length_eq ▸ hi)
    rw [List.get_eq_getElem, readField_eq_none_iff.2 hfault] at hp
    cases hp
  refine ⟨⟨fun ⟨f, hok⟩ => hfields f hok, fun h => ⟨_, hread h⟩⟩, fun f => ⟨fun hok => ?_, ?_⟩,
    fun field => readAll_eq_error_iff⟩
  · have h := hfields f hok
    rw [hread h] at hok
    obtain rfl := Except.ok.inj hok
    exact ⟨h, lastWins_ofList h⟩
  · rintro ⟨h, hlast⟩
    rw [hread h, (lastWins_ofList h).unique hlast]

/-- A key that is repeated, with a colon in one of its values and nothing in the other. -/
example : (read "k:1,addr:tcp://h:1,k:".toList).map entries =
    .ok [("k", ""), ("addr", "tcp://h:1")] := by
  decide +kernel

/-- An empty piece is no field. -/
example : read "k:1,,:v".toList = .error "" := by
  decide +kernel

end Fields

end ReplicaTrace
