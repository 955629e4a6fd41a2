import Mathlib.Data.List.Basic
import ReplicaTrace.Host.Disk
import ReplicaTrace.Proofs.Results

/-!
# Where paths lead

A path is followed one name after the other, so that where it leads is a matter of single steps.
Names that lead nowhere else only ask for the place to be a directory; for paths to directories they
do not matter at all.  What is put on a disk changes no way that was there before.

* `Disk.follow_cons_eq_ok_iff`, `Disk.follow_append_eq_ok_iff` : one step, and one way after the
  other.
* `Disk.leads_iff` : a path to a directory is followed by the names that lead on.
* `Disk.Extends`, `Disk.Extends.follow` : a disk with more on it has the same ways.
* `Disk.resolve_of_write` : a path that was written to leads to what was written.
-/

namespace ReplicaTrace

namespace Disk

variable {d d' d'' : Disk} {at_ place start : Names} {name : String}

/-! ### Steps -/

/-- Where a name leads from a directory. -/
inductive Enters (d : Disk) (at_ : Names) : String → Names → Prop
  | stay {name : String} (hdir : d.lookup at_ = some .directory) (hname : name = "" ∨ name = ".") :
      Enters d at_ name at_
  | up (hdir : d.lookup at_ = some .directory) : Enters d at_ ".." at_.dropLast
  | down {name : String} (hdir : d.lookup at_ = some .directory) (hmoves : name ≠ "" ∧ name ≠ ".")
      (hdown : name ≠ "..") (hshort : isTooLong name = false)
      (hpresent : (d.lookup (at_ ++ [name])).isSome = true) :
      Enters d at_ name (at_ ++ [name])

theorem Enters.isDir (h : d.Enters at_ name place) : d.lookup at_ = some .directory := by
  cases h <;> assumption

/-- Following names takes one step after the other. -/
theorem follow_cons_eq_ok_iff {rest : List String} :
    d.follow at_ (name :: rest) = .ok place ↔
      ∃ next, d.Enters at_ name next ∧ d.follow next rest = .ok place := by
  constructor
  · intro h
    unfold follow at h
    split at h
    · cases h
    · cases h
    · -- the place is a directory, and each branch is one of the steps or a fault
      next hdir =>
      split at h
      · next hname => exact ⟨at_, .stay hdir hname, h⟩
      · next hname =>
        split at h
        · next hup => exact ⟨at_.dropLast, hup ▸ .up hdir, h⟩
        · next hup =>
          split at h
          · cases h
          · next hshort =>
            split at h
            · next hpresent =>
              exact ⟨at_ ++ [name], .down hdir (not_or.1 hname) hup (Bool.not_eq_true _ ▸ hshort)
                hpresent, h⟩
            · cases h
  · rintro ⟨next, hstep, h⟩
    cases hstep with
    | stay hdir hname => simp [follow, hdir, hname, h]
    | up hdir => simpa [follow, hdir] using h
    | down hdir hmoves hdown hshort hpresent =>
      simp [follow, hdir, hmoves, hdown, hshort, hpresent, h]

theorem follow_append_eq_ok_iff {xs ys : List String} :
    d.follow at_ (xs ++ ys) = .ok place ↔
      ∃ mid, d.follow at_ xs = .ok mid ∧ d.follow mid ys = .ok place := by
  induction xs generalizing at_ with
  | nil => simp [follow]
  | cons x xs ih =>
    simp only [List.cons_append, follow_cons_eq_ok_iff, ih]
    constructor
    · rintro ⟨next, hstep, mid, hxs, hys⟩
      exact ⟨mid, ⟨next, hstep, hxs⟩, hys⟩
    · rintro ⟨mid, ⟨next, hstep, hxs⟩, hys⟩
      exact ⟨next, hstep, mid, hxs, hys⟩

theorem follow_singleton_eq_ok_iff : d.follow at_ [name] = .ok place ↔ d.Enters at_ name place := by
  rw [follow_cons_eq_ok_iff]
  simp [follow]

/-- A way that ends at a directory starts at one. -/
theorem isDir_of_follow {names : List String} (h : d.follow at_ names = .ok place)
    (hplace : d.lookup place = some .directory) : d.lookup at_ = some .directory := by
  cases names with
  | nil =>
    cases h
    exact hplace
  | cons name names =>
    obtain ⟨next, hstep, -⟩ := follow_cons_eq_ok_iff.1 h
    exact hstep.isDir

/-! ### Names that lead nowhere else -/

/-- The name leads away from where it is met. -/
def moves (name : String) : Bool :=
  name ≠ "" ∧ name ≠ "."

theorem Enters.eq_of_not_moves (h : d.Enters at_ name place) (hname : moves name = false) :
    place = at_ := by
  cases h with
  | stay => rfl
  | up => cases hname
  | down _ hmoves => simp [moves, hmoves] at hname

/-- Names that lead nowhere else may be left out. -/
theorem follow_filter_moves {names : List String} (h : d.follow at_ names = .ok place) :
    d.follow at_ (names.filter moves) = .ok place := by
  induction names generalizing at_ with
  | nil => exact h
  | cons name names ih =>
    obtain ⟨next, hstep, hrest⟩ := follow_cons_eq_ok_iff.1 h
    by_cases hname : moves name = true
    · rw [List.filter_cons_of_pos hname]
      exact follow_cons_eq_ok_iff.2 ⟨next, hstep, ih hrest⟩
    · rw [List.filter_cons_of_neg hname]
      obtain rfl := hstep.eq_of_not_moves (Bool.not_eq_true _ ▸ hname)
      exact ih hrest

/-- On the way to a directory they may be put in as well. -/
theorem follow_filter_moves_iff {names : List String} (hplace : d.lookup place = some .directory) :
    d.follow at_ (names.filter moves) = .ok place ↔ d.follow at_ names = .ok place := by
  refine ⟨fun h => ?_, follow_filter_moves⟩
  induction names generalizing at_ with
  | nil => exact h
  | cons name names ih =>
    by_cases hname : moves name = true
    · rw [List.filter_cons_of_pos hname] at h
      obtain ⟨next, hstep, hrest⟩ := follow_cons_eq_ok_iff.1 h
      exact follow_cons_eq_ok_iff.2 ⟨next, hstep, ih hrest⟩
    · rw [List.filter_cons_of_neg hname] at h
      have hsilent : name = "" ∨ name = "." := by
        rw [moves, decide_eq_true_eq, not_and_or, not_not, not_not] at hname
        exact hname
      exact follow_cons_eq_ok_iff.2 ⟨at_, .stay (isDir_of_follow h hplace) hsilent, ih h⟩

/-- Without a way up, the names are added to the place. -/
theorem eq_append_of_follow {names : List String} (h : d.follow at_ names = .ok place)
    (hmoves : ∀ name ∈ names, moves name = true) (hdown : ".." ∉ names) :
    place = at_ ++ names := by
  induction names generalizing at_ with
  | nil =>
    cases h
    rw [List.append_nil]
  | cons name names ih =>
    obtain ⟨next, hstep, hrest⟩ := follow_cons_eq_ok_iff.1 h
    rw [List.mem_cons, not_or] at hdown
    have hplace := ih hrest (fun x hx => hmoves x (List.mem_cons_of_mem _ hx)) hdown.2
    cases hstep with
    | stay _ hname => rcases hname with rfl | rfl <;> simp [moves] at hmoves
    | up => exact absurd rfl hdown.1
    | down => rw [hplace, List.append_assoc, List.singleton_append]

/-! ### Paths -/

/-- The path leads from the directory to the place, even if it has too many bytes to be used. -/
def Leads (d : Disk) (start : Names) (p : Path) (place : Names) : Prop :=
  d.follow (startOf start p) (segments p) = .ok place

theorem leads_of_resolve {p : Path} (h : d.resolve start p = .ok place) :
    d.Leads start p place := by
  unfold resolve at h
  split at h
  · cases h
  · exact h

theorem fault?_of_resolve {p : Path} (h : d.resolve start p = .ok place) : p.fault? = none := by
  unfold resolve at h
  split at h
  · cases h
  · assumption

theorem resolve_of_leads {p : Path} (h : d.Leads start p place) (hfault : p.fault? = none) :
    d.resolve start p = .ok place := by
  rw [resolve, hfault]
  exact h

/-- **A path to a directory** is followed by the names in it that lead on. -/
theorem leads_iff {p : Path} (hplace : d.lookup place = some .directory) :
    d.Leads start p place ↔
      d.follow (startOf start p) ((segments p).filter moves) = .ok place :=
  (follow_filter_moves_iff hplace).symm

theorem read_of_resolve {p : Path} {content : Bytes} (h : d.resolve start p = .ok place)
    (hplace : d.lookup place = some (.file content)) : d.read start p = .ok content := by
  refine except_bind_eq_ok_iff.2 ⟨place, h, ?_⟩
  rw [hplace]
  rfl

theorem exists_place_of_read {p : Path} {content : Bytes} (h : d.read start p = .ok content) :
    ∃ place, d.resolve start p = .ok place ∧ d.lookup place = some (.file content) := by
  obtain ⟨place, hplace, h⟩ := except_bind_eq_ok_iff.1 h
  refine ⟨place, hplace, ?_⟩
  split at h
  · next hlookup =>
    obtain rfl := Except.ok.inj h
    exact hlookup
  · cases h
  · cases h

/-- A file is found only where the path leads. -/
theorem exists_resolve_of_isFile {p : Path} (h : d.isFile start p = true) :
    ∃ place, d.resolve start p = .ok place := by
  unfold isFile node? at h
  cases hplace : d.resolve start p with
  | ok place => exact ⟨place, rfl⟩
  | error fault =>
    rw [hplace] at h
    cases h

/-! ### Disks with more on them -/

/-- The second disk has all directories of the first, and something wherever that has something. -/
structure Extends (d d' : Disk) : Prop where
  dirs : ∀ names, d.lookup names = some .directory → d'.lookup names = some .directory
  present : ∀ names, (d.lookup names).isSome = true → (d'.lookup names).isSome = true

theorem Extends.refl (d : Disk) : d.Extends d :=
  ⟨fun _ h => h, fun _ h => h⟩

theorem Extends.trans (h : d.Extends d') (h' : d'.Extends d'') : d.Extends d'' :=
  ⟨fun names hd => h'.dirs names (h.dirs names hd),
    fun names hd => h'.present names (h.present names hd)⟩

/-- What is put on a disk extends it, unless a directory makes way for a file. -/
theorem extends_put {names : Names} {node : Node} (hnames : names ≠ [])
    (h : node = .directory ∨ d.lookup names ≠ some .directory) : d.Extends (d.put names node) := by
  constructor
  · intro ns hns
    rw [lookup_put _ _ _ _ hnames]
    by_cases heq : ns = names
    · rw [if_pos heq]
      rcases h with rfl | h
      · rfl
      · exact absurd (heq ▸ hns) h
    · rwa [if_neg heq]
  · intro ns hns
    rw [lookup_put _ _ _ _ hnames]
    by_cases heq : ns = names
    · rw [if_pos heq]
      rfl
    · rwa [if_neg heq]

theorem Extends.enters (h : d.Extends d') (hstep : d.Enters at_ name place) :
    d'.Enters at_ name place := by
  cases hstep with
  | stay hdir hname => exact .stay (h.dirs _ hdir) hname
  | up hdir => exact .up (h.dirs _ hdir)
  | down hdir hmoves hdown hshort hpresent =>
    exact .down (h.dirs _ hdir) hmoves hdown hshort (h.present _ hpresent)

/-- **Ways stay** when something is put on a disk. -/
theorem Extends.follow (h : d.Extends d') {names : List String}
    (hway : d.follow at_ names = .ok place) : d'.follow at_ names = .ok place := by
  induction names generalizing at_ with
  | nil => exact hway
  | cons name names ih =>
    obtain ⟨next, hstep, hrest⟩ := follow_cons_eq_ok_iff.1 hway
    exact follow_cons_eq_ok_iff.2 ⟨next, h.enters hstep, ih hrest⟩

theorem Extends.resolve (h : d.Extends d') {p : Path} (hp : d.resolve start p = .ok place) :
    d'.resolve start p = .ok place := by
  unfold Disk.resolve at hp ⊢
  split at hp
  · cases hp
  · exact h.follow hp

/-! ### Writing -/

/-- The target of a path is its last name in the directory to which the names before it lead; only
slashes may follow it. -/
theorem segments_of_target? {p : Path} {t : Target} (h : d.target? start p = .ok (some t)) :
    p.fault? = none ∧ d.lookup t.directory = some .directory ∧ t.name ≠ "" ∧
      ∃ before after, segments p = before ++ t.name :: after ∧
        d.follow (startOf start p) before = .ok t.directory ∧ (t.slash = false → after = []) := by
  unfold target? at h
  split at h
  · cases h
  · next hfault =>
    have hsplit := List.takeWhile_append_dropWhile (p := (· == "")) (l := (segments p).reverse)
    have hhead := List.head?_dropWhile_not (· == "") (segments p).reverse
    dsimp only at h
    -- read from the end: empty names, the name of the target, and the way to its directory
    cases hnames : (segments p).reverse.dropWhile (· == "") with
    | nil =>
      rw [hnames] at h
      cases h
    | cons name before =>
      rw [hnames] at h hsplit hhead
      rw [List.reverse_cons, List.getLast?_concat, List.dropLast_concat] at h
      obtain ⟨directory, hway, h⟩ := except_bind_eq_ok_iff.1 h
      split at h
      · next hdir =>
        obtain rfl := Option.some.inj (Except.ok.inj h)
        set slashes := (segments p).reverse.takeWhile (· == "")
        have hsegments : segments p = before.reverse ++ name :: slashes.reverse := by
          rw [← List.reverse_reverse (segments p), ← hsplit]
          simp
        refine ⟨Option.eq_none_iff_forall_ne_some.2 hfault, hdir, by simpa using hhead,
          before.reverse, slashes.reverse, hsegments, hway, fun hslash => ?_⟩
        rw [hsegments] at hslash
        simpa using hslash
      · cases h
      · cases h

/-- **Writing to a path** puts a file where the path leads from then on, and nothing else. -/
theorem resolve_of_write {p : Path} {content : Bytes} (h : d.write start p content = .ok d') :
    d.Extends d' ∧ ∃ place, d'.resolve start p = .ok place ∧
      ∀ names, d'.lookup names =
        if names = place then some (.file content) else d.lookup names := by
  unfold write at h
  obtain ⟨t?, ht, h⟩ := except_bind_eq_ok_iff.1 h
  cases t? with
  | none => cases h
  | some t =>
    obtain ⟨hfault, hdir, hname, before, after, hsegments, hway, hslash⟩ := segments_of_target? ht
    dsimp only at h
    split at h
    · cases h
    · next hfree =>
      split at h
      · cases h
      · next hshort =>
        obtain rfl : d.put (t.directory ++ [t.name]) (.file content) = d' := Except.ok.inj h
        simp only [not_or, Bool.not_eq_true] at hfree hshort
        obtain ⟨hnoslash, hhere, hup, hnodir⟩ := hfree
        have hplace : t.directory ++ [t.name] ≠ [] := by simp
        have hextends : d.Extends (d.put _ (.file content)) := extends_put hplace (.inr hnodir)
        have hlookup := fun names => lookup_put d _ (.file content) names hplace
        refine ⟨hextends, _, resolve_of_leads ?_ hfault, hlookup⟩
        rw [Leads, hsegments, hslash hnoslash]
        -- the way to the directory is as before, and the last step finds the file
        refine follow_append_eq_ok_iff.2 ⟨t.directory, hextends.follow hway, ?_⟩
        refine follow_singleton_eq_ok_iff.2
          (.down (hextends.dirs _ hdir) ⟨hname, hhere⟩ hup hshort ?_)
        rw [hlookup, if_pos rfl]
        rfl

/-- **Creating a directory** puts it where nothing is, and nothing else. -/
theorem exists_put_of_makeDir {p : Path} (h : d.makeDir start p = .ok d') :
    ∃ names, names ≠ [] ∧ d.lookup names = none ∧ d' = d.put names .directory := by
  unfold makeDir at h
  obtain ⟨t?, -, h⟩ := except_bind_eq_ok_iff.1 h
  cases t? with
  | none => cases h
  | some t =>
    dsimp only at h
    split at h
    · cases h
    · next hfree =>
      split at h
      · cases h
      · simp only [not_or, Bool.not_eq_true, Option.isSome_eq_false_iff, Option.isNone_iff_eq_none]
          at hfree
        exact ⟨_, by simp, hfree.2.2, (Except.ok.inj h).symm⟩

theorem extends_of_makeDir {p : Path} (h : d.makeDir start p = .ok d') : d.Extends d' := by
  obtain ⟨names, hnames, -, rfl⟩ := exists_put_of_makeDir h
  exact extends_put hnames (.inl rfl)

theorem lookup_of_makeDir {p : Path} {node : Node} (h : d.makeDir start p = .ok d')
    (hplace : d.lookup place = some node) : d'.lookup place = some node := by
  obtain ⟨names, hnames, hfree, rfl⟩ := exists_put_of_makeDir h
  rw [lookup_put _ _ _ _ hnames, if_neg, hplace]
  rintro rfl
  exact absurd hplace (hfree ▸ nofun)

end Disk

end ReplicaTrace
