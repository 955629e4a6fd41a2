import Mathlib.Data.List.Infix
import Mathlib.Data.List.TakeWhile
import ReplicaTrace.Host.Sandbox
import ReplicaTrace.Proofs.Host.Following
import ReplicaTrace.Proofs.Text.Pieces

/-!
# What paths say

What a path says is where it starts and which names lead on from there, its *route*.  Taking the
directory of a file, or the path from the root, are operations on texts; here they are told by what
they do to the start and the route, and so by where the new path leads.

* `Path.filter_moves_segments` : the route are the names by which a path is followed.
* `Path.route_folder`, `Path.route_absolute` : the routes of directories and of paths from the root.
* `Path.exists_name_of_ending` : paths that differ in their endings are of the same directory.
* `Path.stem_append`, `Path.fileName?_join` : names with an ending, and files in a directory.
* `Disk.resolve_fileName` : a file is found in its directory by its name alone.
* `Disk.leads_absolute` : the path from the root leads to the same directory, wherever it is used.
-/

namespace ReplicaTrace

namespace Path

variable {p : Path} {name : String}

/-- The text can stand between the slashes of a path. -/
def IsName (name : String) : Prop :=
  name ≠ "" ∧ '/' ∉ name.toList

/-- The names of a path that lead on. -/
def route (p : Path) : List String :=
  p.parts.names.filter (· != ".")

/-! ### The parts of a path -/

theorem slashes_parts (p : Path) :
    p.parts.slashes = (p.text.toList.takeWhile (· == '/')).length := by
  unfold parts
  dsimp only
  split
  · next hslashes _ => exact hslashes.symm
  · rfl

/-- A path is the slashes at its start and the rest. -/
theorem toList_text (p : Path) :
    p.text.toList = List.replicate p.parts.slashes '/' ++ p.text.toList.dropWhile (· == '/') := by
  have hslashes : p.text.toList.takeWhile (· == '/') = List.replicate p.parts.slashes '/' := by
    rw [slashes_parts]
    exact List.eq_replicate_length.2 fun c hc => by simpa using List.mem_takeWhile_imp hc
  rw [← hslashes, List.takeWhile_append_dropWhile]

theorem parts_eq {segments : List (List Char)}
    (h : (p.text.toList.dropWhile (· == '/')).splitOn '/' = segments) :
    p.parts = if p.parts.slashes = 0 ∧ segments.head? = some ['.']
      then ⟨0, "." :: meaningful segments.tail⟩ else ⟨p.parts.slashes, meaningful segments⟩ := by
  rw [slashes_parts, parts, h]
  split
  · next hslashes => simp [hslashes]
  · next hother =>
    rw [if_neg]
    rintro ⟨hslashes, hhead⟩
    obtain ⟨rest, rfl⟩ := List.head?_eq_some_iff.1 hhead
    exact hother rest hslashes rfl

theorem isAbsolute_eq (p : Path) : p.isAbsolute = (p.parts.slashes != 0) := by
  rw [slashes_parts, isAbsolute]
  cases p.text.toList with
  | nil => rfl
  | cons c cs => by_cases hc : c = '/' <;> simp [hc]

theorem segments_eq (p : Path) :
    Disk.segments p = List.replicate p.parts.slashes "" ++
      ((p.text.toList.dropWhile (· == '/')).splitOn '/').map String.ofList := by
  rw [Disk.segments]
  conv_lhs => rw [toList_text p]
  rw [Text.splitOn_replicate_append, List.map_append, List.map_replicate]

theorem filter_moves_map_ofList (segments : List (List Char)) :
    (segments.map String.ofList).filter Disk.moves = meaningful segments := by
  rw [List.filter_map, meaningful]
  congr 1
  refine List.filter_congr fun s _ => ?_
  simp [Disk.moves, ← String.toList_inj, bne, Bool.beq_eq_decide_eq]

theorem filter_meaningful (segments : List (List Char)) :
    (meaningful segments).filter (· != ".") = meaningful segments := by
  refine List.filter_eq_self.2 fun name hname => ?_
  rw [← filter_moves_map_ofList] at hname
  have hmoves := (List.mem_filter.1 hname).2
  simp only [Disk.moves, decide_eq_true_eq] at hmoves
  simpa using hmoves.2

theorem route_eq (p : Path) :
    p.route = meaningful ((p.text.toList.dropWhile (· == '/')).splitOn '/') := by
  unfold route parts
  dsimp only
  split
  · next hsegments =>
    rw [hsegments, List.filter_cons_of_neg (by decide), filter_meaningful]
    simp [meaningful]
  · exact filter_meaningful _

/-- **The names by which a path is followed** are its route. -/
theorem filter_moves_segments (p : Path) : (Disk.segments p).filter Disk.moves = p.route := by
  rw [segments_eq, List.filter_append, List.filter_replicate, if_neg (by decide), List.nil_append,
    filter_moves_map_ofList, route_eq]

/-- What a path says is made of its characters. -/
theorem mem_segment_of_mem_parts (h : name ∈ p.parts.names) :
    name.toList ≠ [] ∧ name.toList ∈ (p.text.toList.dropWhile (· == '/')).splitOn '/' := by
  have hmeaningful : ∀ segments, name ∈ meaningful segments →
      name.toList ≠ [] ∧ name.toList ∈ segments := by
    intro segments hname
    obtain ⟨s, hs, rfl⟩ := List.mem_map.1 hname
    rw [String.toList_ofList]
    rw [List.mem_filter] at hs
    exact ⟨by simpa using (Bool.and_eq_true_iff.1 hs.2).1, hs.1⟩
  unfold parts at h
  dsimp only at h
  split at h
  · next hsegments =>
    rw [hsegments]
    rcases List.mem_cons.1 h with rfl | h
    · exact ⟨by decide, List.mem_cons_self⟩
    · obtain ⟨hne, hmem⟩ := hmeaningful _ h
      exact ⟨hne, List.mem_cons_of_mem _ hmem⟩
  · exact hmeaningful _ h

theorem isName_of_mem_parts (h : name ∈ p.parts.names) : IsName name := by
  obtain ⟨hne, hmem⟩ := mem_segment_of_mem_parts h
  refine ⟨fun hempty => hne (by rw [hempty]; rfl), fun hslash => ?_⟩
  simpa using Text.notMem_of_mem_splitOnP hmem _ hslash

/-! ### Paths that are put together -/

section

variable {ps : Parts} (hnames : ∀ name ∈ ps.names, IsName name)

include hnames

theorem filter_moves_segments_ofParts :
    (Disk.segments (ofParts ps)).filter Disk.moves = ps.names.filter (· != ".") := by
  unfold ofParts
  split
  · next hnil =>
    rw [hnil]
    split <;> decide
  · next hne =>
    have htext :
        (String.ofList (List.replicate ps.slashes '/') ++ "/".intercalate ps.names).toList =
          List.replicate ps.slashes '/' ++ ['/'].intercalate (ps.names.map String.toList) := by
      rw [String.toList_append, String.toList_ofList, String.toList_intercalate]
      rfl
    have hsplit : (['/'].intercalate (ps.names.map String.toList)).splitOn '/' =
        ps.names.map String.toList := by
      refine List.splitOn_intercalate '/' (fun l hl => ?_) (by simpa using hne)
      obtain ⟨name, hname, rfl⟩ := List.mem_map.1 hl
      exact (hnames name hname).2
    rw [Disk.segments, htext, Text.splitOn_replicate_append, hsplit, List.map_append,
      List.map_replicate, List.filter_append, List.filter_replicate, if_neg (by decide),
      List.nil_append, List.map_map]
    simp only [Function.comp_def, String.ofList_toList, List.map_id']
    refine List.filter_congr fun name hname => ?_
    simp [Disk.moves, (hnames name hname).1, bne, Bool.beq_eq_decide_eq]

theorem route_ofParts : (ofParts ps).route = ps.names.filter (· != ".") := by
  rw [← filter_moves_segments, filter_moves_segments_ofParts hnames]

theorem isAbsolute_ofParts : (ofParts ps).isAbsolute = (ps.slashes != 0) := by
  unfold ofParts isAbsolute
  split
  · split
    · next hslashes => simp [hslashes]
    · next hslashes => simp [hslashes]
  · next hne =>
    cases hslashes : ps.slashes with
    | succ k => simp [List.replicate_succ]
    | zero =>
      -- the first character is that of a name
      obtain ⟨name, names, hcons⟩ := List.exists_cons_of_ne_nil hne
      obtain ⟨hname, hslash⟩ := hnames name (by rw [hcons]; exact List.mem_cons_self)
      obtain ⟨c, cs, hchars⟩ := List.exists_cons_of_ne_nil (l := name.toList) (by simpa using hname)
      rw [hchars, List.mem_cons, not_or] at hslash
      cases names with
      | nil => simp [hcons, hchars, Ne.symm hslash.1]
      | cons next names => simp [hcons, hchars, Ne.symm hslash.1]

end

/-! ### Directories -/

/-- The directory of a file; for a path that is only a name, the working directory. -/
def folder (p : Path) : Path :=
  p.directory?.getD ⟨"."⟩

theorem fileName?_eq_some_iff :
    p.fileName? = some name ↔ p.parts.names.getLast? = some name ∧ name ≠ "." ∧ name ≠ ".." := by
  unfold fileName?
  split
  · next last hlast =>
    split
    · next hspecial =>
      simp only [reduceCtorEq, hlast, Option.some.injEq, false_iff]
      rintro ⟨rfl, hhere, hup⟩
      exact hspecial.elim hhere hup
    · next hspecial =>
      rw [hlast]
      constructor
      · rintro ⟨⟩
        exact ⟨rfl, not_or.1 hspecial⟩
      · exact And.left
  · next hnone => simp [hnone]

/-- **The route of a file** is that of its directory with the name of the file, and both start at
the same place. -/
theorem route_folder (h : p.fileName? = some name) :
    p.route = p.folder.route ++ [name] ∧ p.folder.isAbsolute = p.isAbsolute := by
  obtain ⟨hlast, hhere, -⟩ := fileName?_eq_some_iff.1 h
  obtain ⟨before, hnames⟩ := List.getLast?_eq_some_iff.1 hlast
  have hbefore : ∀ x ∈ before, IsName x := fun x hx =>
    isName_of_mem_parts (p := p) (by rw [hnames]; exact List.mem_append_left _ hx)
  have hroute : p.route = before.filter (· != ".") ++ [name] := by
    rw [route, hnames, List.filter_append, List.filter_cons_of_pos (by simpa using hhere),
      List.filter_nil]
  set dir := ofParts ⟨p.parts.slashes, before⟩ with hdir
  have hparent : p.parent? = some dir := by
    rw [parent?, if_neg (by simp [hnames]), hnames, List.dropLast_concat]
  have hdirRoute : dir.route = before.filter (· != ".") := route_ofParts hbefore
  have hdirAbsolute : dir.isAbsolute = p.isAbsolute := by
    rw [isAbsolute_eq p]
    exact isAbsolute_ofParts hbefore
  rw [hroute, ← hdirRoute, ← hdirAbsolute, folder, directory?, hparent]
  by_cases hempty : dir.text = ""
  · -- the path is only a name, and its directory is told by a point
    have hpath : dir = ⟨""⟩ := Path.mk.injEq _ _ ▸ hempty
    rw [Option.filter_some, if_neg (by simpa using hempty), Option.getD_none, hpath]
    exact ⟨rfl, rfl⟩
  · rw [Option.filter_some, if_pos (by simpa using hempty), Option.getD_some]
    exact ⟨rfl, rfl⟩

/-- **The path from the root** has the names of the working directory before its own, unless it
starts at the root itself. -/
theorem route_absolute (dir p : Path) (hdir : dir.isAbsolute = true) :
    (absolute dir p).route = (if p.isAbsolute then [] else dir.route) ++ p.route ∧
      (absolute dir p).isAbsolute = true := by
  -- both paths are put together from names that have no slash in them
  have hown : ∀ name ∈ p.route, IsName name := fun name hname =>
    isName_of_mem_parts (List.mem_filter.1 hname).1
  have hroute : p.route.filter (· != ".") = p.route := by
    rw [route, List.filter_filter]
    simp
  rw [isAbsolute_eq] at hdir
  rw [isAbsolute_eq p]
  unfold absolute
  dsimp only
  rw [← route]
  split
  · next hslashes =>
    have hnames : ∀ name ∈ dir.parts.names ++ p.route, IsName name := fun name hname =>
      (List.mem_append.1 hname).elim isName_of_mem_parts (hown name)
    rw [route_ofParts hnames, isAbsolute_ofParts hnames, List.filter_append, hroute, hslashes]
    exact ⟨rfl, hdir⟩
  · next hslashes =>
    rw [route_ofParts hown, isAbsolute_ofParts hown, hroute, if_pos (by simpa using hslashes)]
    refine ⟨rfl, ?_⟩
    dsimp only
    split <;> rfl

/-! ### Endings -/

/-- The text does not begin a new name, and with it no name is `.` or `..`. -/
def IsEnding (ending : String) : Prop :=
  '/' ∉ ending.toList ∧ 2 < ending.toList.length

theorem IsEnding.ne_nil {ending : String} (h : IsEnding ending) : ending.toList ≠ [] :=
  List.ne_nil_of_length_pos (Nat.zero_lt_of_lt h.2)

theorem IsEnding.head?_ne {ending : String} (h : IsEnding ending) :
    ending.toList.head? ≠ some '/' :=
  fun hhead => h.1 (List.mem_of_mem_head? hhead)

theorem IsEnding.forall_ne {ending : String} (h : IsEnding ending) :
    ∀ c ∈ ending.toList, ¬ (c == '/') = true := by
  intro c hc hslash
  exact h.1 (eq_of_beq hslash ▸ hc)

theorem IsEnding.takeWhile_eq_nil {ending : String} (h : IsEnding ending) :
    ending.toList.takeWhile (· == '/') = [] :=
  List.takeWhile_eq_nil_iff.2 fun _ => h.forall_ne _ (List.get_mem _ _)

theorem IsEnding.dropWhile_eq_self {ending : String} (h : IsEnding ending) :
    ending.toList.dropWhile (· == '/') = ending.toList :=
  List.dropWhile_eq_self_iff.2 fun _ => h.forall_ne _ (List.getElem_mem _)

theorem IsEnding.append_ne_point {ending : String} (h : IsEnding ending) (cs : List Char) :
    cs ++ ending.toList ≠ ['.'] ∧ cs ++ ending.toList ≠ ['.', '.'] := by
  have hlong := h.2
  constructor <;> intro hpoints <;> have hlength := congrArg List.length hpoints
  all_goals
    simp only [List.length_append, List.length_cons, List.length_nil] at hlength
    omega

theorem meaningful_concat {ending : String} (h : IsEnding ending) (segments : List (List Char))
    (last : List Char) : meaningful (segments ++ [last ++ ending.toList]) =
      meaningful segments ++ [String.ofList last ++ ending] := by
  simp [meaningful, h.ne_nil, (h.append_ne_point last).1]

/-- Paths that differ only in their endings have the same parts up to the last. -/
theorem exists_parts_of_ending (text : String) :
    ∃ slashes before name, ∀ ending, IsEnding ending →
      parts ⟨text ++ ending⟩ = ⟨slashes, before ++ [name ++ ending]⟩ := by
  obtain ⟨before, last, hpieces⟩ :=
    Text.exists_splitOn_append '/' (text.toList.dropWhile (· == '/'))
  have hread : ∀ ending, IsEnding ending →
      ((text ++ ending).toList.takeWhile (· == '/')).length =
          (text.toList.takeWhile (· == '/')).length ∧
        ((text ++ ending).toList.dropWhile (· == '/')).splitOn '/' =
          before ++ [last ++ ending.toList] := by
    intro ending h
    rw [← hpieces _ h.1, String.toList_append]
    constructor
    · rw [List.takeWhile_append, h.takeWhile_eq_nil, List.append_nil]
      split
      · next hall => exact hall.symm
      · rfl
    · rw [List.dropWhile_append, h.dropWhile_eq_self]
      split
      · next hempty => rw [List.isEmpty_iff.1 hempty, List.nil_append]
      · rfl
  set slashes := (text.toList.takeWhile (· == '/')).length
  -- a point at the start is kept only in a relative path
  by_cases hpoint : slashes = 0 ∧ before.head? = some ['.']
  · obtain ⟨rest, rfl⟩ := List.head?_eq_some_iff.1 hpoint.2
    refine ⟨0, "." :: meaningful rest, String.ofList last, fun ending h => ?_⟩
    obtain ⟨hslashes, hsegments⟩ := hread ending h
    rw [parts_eq hsegments, slashes_parts, hslashes, if_pos ⟨hpoint.1, rfl⟩, List.cons_append,
      List.tail_cons, meaningful_concat h, List.cons_append]
  · refine ⟨slashes, meaningful before, String.ofList last, fun ending h => ?_⟩
    obtain ⟨hslashes, hsegments⟩ := hread ending h
    rw [parts_eq hsegments, slashes_parts, hslashes, if_neg, meaningful_concat h]
    rintro ⟨hnone, hhead⟩
    cases before with
    | nil => exact (h.append_ne_point last).1 (Option.some.inj hhead)
    | cons => exact hpoint ⟨hnone, hhead⟩

/-- A name with an ending is not one of the names that stand for directories. -/
theorem IsEnding.ne_points {ending : String} (h : IsEnding ending) (name : String) :
    name ++ ending ≠ "." ∧ name ++ ending ≠ ".." := by
  obtain ⟨hpoint, hpoints⟩ := h.append_ne_point name.toList
  rw [← String.toList_append] at hpoint hpoints
  exact ⟨fun heq => hpoint (heq ▸ rfl), fun heq => hpoints (heq ▸ rfl)⟩

/-- Paths that differ only in their endings are of the same directory, and their names differ only
in their endings. -/
theorem exists_name_of_ending (text : String) :
    ∃ (name : String) (dir : Option Path), ∀ ending, IsEnding ending →
      fileName? ⟨text ++ ending⟩ = some (name ++ ending) ∧ directory? ⟨text ++ ending⟩ = dir := by
  obtain ⟨slashes, before, name, hparts⟩ := exists_parts_of_ending text
  refine ⟨name, (some (ofParts ⟨slashes, before⟩)).filter (·.text != ""), fun ending h => ⟨?_, ?_⟩⟩
  · rw [fileName?_eq_some_iff, hparts ending h, List.getLast?_concat]
    exact ⟨rfl, h.ne_points name⟩
  · rw [directory?, parent?, hparts ending h, if_neg (by simp), List.dropLast_concat]

/-- A name in a directory with an ending is that path with the ending. -/
theorem join_append {dir : Path} {name ending : String} (h : IsEnding ending) :
    dir.join (name ++ ending) = ⟨(dir.join name).text ++ ending⟩ := by
  have hhead : (name ++ ending).toList.head? = some '/' ↔ name.toList.head? = some '/' := by
    rw [String.toList_append]
    cases name.toList with
    | nil => simpa using h.head?_ne
    | cons c cs => rfl
  unfold join
  simp only [hhead]
  split
  · rfl
  · split <;> simp [String.append_assoc]

/-- The ending is a point and what follows it, without a further point. -/
def IsExtension (ending : String) : Prop :=
  ∃ cs : List Char, ending.toList = '.' :: cs ∧ '.' ∉ cs

/-- **A name with an ending** has that name for its stem. -/
theorem stem_append {name ending : String} (hname : name ≠ "") (hending : IsExtension ending) :
    stem (name ++ ending) = name := by
  obtain ⟨cs, hcs, hpoint⟩ := hending
  have hdrop : ((name ++ ending).toList.reverse.dropWhile (· != '.')).drop 1 =
      name.toList.reverse := by
    have hall : ∀ c ∈ cs.reverse, (c != '.') = true := by
      intro c hc
      rw [bne_iff_ne]
      rintro rfl
      exact hpoint (List.mem_reverse.1 hc)
    rw [String.toList_append, hcs, List.reverse_append, List.reverse_cons, List.append_assoc,
      List.dropWhile_append_of_pos hall]
    rfl
  rw [stem, hdrop]
  split
  · next hempty =>
    exact absurd (String.toList_eq_nil_iff.1 (List.reverse_eq_nil_iff.1 hempty)) hname
  · rw [List.reverse_reverse, String.ofList_toList]

/-- A text without slashes that comes after a slash, or after nothing, is the last segment. -/
theorem exists_segments_append {front file : String} (hfile : '/' ∉ file.toList)
    (hfront : front = "" ∨ front.toList.getLast? = some '/') :
    ∃ others, Disk.segments ⟨front ++ file⟩ = others ++ [file] := by
  rw [Disk.segments, String.toList_append]
  rcases hfront with rfl | hfront
  · refine ⟨[], ?_⟩
    rw [String.toList_empty, List.nil_append, List.splitOn_eq_singleton hfile]
    simp
  · obtain ⟨before, hbefore⟩ := List.getLast?_eq_some_iff.1 hfront
    refine ⟨(before.splitOn '/').map String.ofList, ?_⟩
    rw [hbefore, List.append_assoc, List.singleton_append, List.splitOn_append_cons_self,
      List.splitOn_eq_singleton hfile]
    simp

theorem fileName?_append {front file : String} (hfile : IsEnding file)
    (hfront : front = "" ∨ front.toList.getLast? = some '/') :
    fileName? ⟨front ++ file⟩ = some file := by
  obtain ⟨slashes, before, name, hparts⟩ := exists_parts_of_ending front
  obtain ⟨others, hsegments⟩ := exists_segments_append hfile.1 hfront
  have hmoves : Disk.moves file = true := by
    have hpoint := (hfile.ne_points "").1
    rw [String.empty_append] at hpoint
    have hempty : file ≠ "" := fun hempty => hfile.ne_nil (hempty ▸ rfl)
    simp [Disk.moves, hpoint, hempty]
  have hpoints := hfile.ne_points name
  -- the last name of the route, told by the parts and by the segments
  have hname : name ++ file = file := by
    have hlast := congrArg List.getLast? (filter_moves_segments ⟨front ++ file⟩)
    rw [hsegments, List.filter_append, List.filter_cons_of_pos hmoves, List.filter_nil,
      List.getLast?_concat, route, hparts _ hfile, List.filter_append,
      List.filter_cons_of_pos (p := (· != ".")) (bne_iff_ne.2 hpoints.1), List.filter_nil,
      List.getLast?_concat] at hlast
    exact (Option.some.inj hlast).symm
  rw [hname] at hpoints
  rw [fileName?_eq_some_iff, hparts _ hfile, List.getLast?_concat, hname]
  exact ⟨rfl, hpoints⟩

/-- The last name of a file in a directory. -/
theorem fileName?_join {file : String} (hfile : IsEnding file) (dir : Path) :
    (dir.join file).fileName? = some file := by
  unfold join
  rw [if_neg hfile.head?_ne]
  split
  · next hfront => exact fileName?_append hfile hfront
  · refine fileName?_append hfile (.inr ?_)
    simp

end Path

/-! ### Directories on disks -/

namespace Disk

open ReplicaTrace.Path

variable {d d' : Disk} {start place workingDir : Names} {p : Path} {name : String}

/-- There is a directory under the names, and everything on the way to it is one. -/
structure HasDirectory (d : Disk) (names : Names) : Prop where
  /-- All beginnings of the names are directories. -/
  dirs : ∀ ns ∈ names.inits, d.lookup ns = some .directory
  /-- The names are such as directories have. -/
  names : ∀ name ∈ names, IsName name ∧ name ≠ "." ∧ name ≠ ".." ∧ isTooLong name = false

theorem HasDirectory.mono (h : d.HasDirectory workingDir) (hextends : d.Extends d') :
    d'.HasDirectory workingDir :=
  ⟨fun ns hns => hextends.dirs ns (h.dirs ns hns), h.names⟩

/-- The names of a directory lead to it. -/
theorem HasDirectory.follow (h : d.HasDirectory workingDir) :
    d.follow [] workingDir = .ok workingDir := by
  -- the induction is on the names that are left, from any place on the way
  have hway : ∀ at_ names, at_ ++ names = workingDir → d.follow at_ names = .ok workingDir := by
    intro at_ names
    induction names generalizing at_ with
    | nil =>
      rintro rfl
      rw [List.append_nil]
      rfl
    | cons name names ih =>
      intro hwhole
      have hstep : at_ ++ [name] ++ names = workingDir := by simp [← hwhole]
      have hdir : d.lookup at_ = some .directory :=
        h.dirs at_ (List.mem_inits _ _ |>.2 ⟨_, hwhole⟩)
      have hnext : d.lookup (at_ ++ [name]) = some .directory :=
        h.dirs _ (List.mem_inits _ _ |>.2 ⟨_, hstep⟩)
      obtain ⟨hname, hhere, hup, hshort⟩ := h.names name (by rw [← hwhole]; simp)
      refine follow_cons_eq_ok_iff.2 ⟨_, .down hdir ⟨hname.1, hhere⟩ hup hshort ?_, ih _ hstep⟩
      rw [hnext]
      rfl
  exact hway [] workingDir rfl

theorem HasDirectory.route_pathOf (h : d.HasDirectory workingDir) :
    (World.pathOf workingDir).route = workingDir ∧
      (World.pathOf workingDir).isAbsolute = true := by
  have hnames : ∀ name ∈ workingDir, IsName name := fun name hname => (h.names name hname).1
  have hpath : World.pathOf workingDir = ofParts ⟨1, workingDir⟩ := by
    cases workingDir with
    | nil => rfl
    | cons => rfl
  rw [hpath, route_ofParts hnames, isAbsolute_ofParts hnames]
  refine ⟨List.filter_eq_self.2 fun name hname => ?_, rfl⟩
  simpa using (h.names name hname).2.1

/-- Where a path leads is settled by its start and its route, if it leads to a directory. -/
theorem leads_iff_route (hplace : d.lookup place = some .directory) :
    d.Leads start p place ↔ d.follow (startOf start p) p.route = .ok place := by
  rw [leads_iff hplace, filter_moves_segments]

/-- **The path from the root** leads, wherever it is used, to the directory to which the path leads
from the working directory. -/
theorem leads_absolute (hdir : d.HasDirectory workingDir)
    (hplace : d.lookup place = some .directory) :
    d.Leads start (absolute (World.pathOf workingDir) p) place ↔ d.Leads workingDir p place := by
  obtain ⟨hroute, habsolute⟩ := hdir.route_pathOf
  obtain ⟨hroute', habsolute'⟩ := route_absolute _ p habsolute
  rw [leads_iff_route hplace, leads_iff_route hplace, startOf, if_pos habsolute', hroute', hroute,
    startOf]
  split
  · rw [List.nil_append]
  · rw [follow_append_eq_ok_iff]
    simp [hdir.follow]

theorem fault?_eq_none_iff : p.fault? = none ↔
    hasNull p.text = false ∧ p.text ≠ "" ∧ p.text.utf8ByteSize ≤ maxPathBytes := by
  unfold fault?
  split
  · next hnull => simp [hnull]
  · next hnull =>
    split
    · next hempty => simp [hempty]
    · next hempty =>
      split
      · next hlong => simp [Nat.not_le.2 hlong]
      · next hlong => simp [hnull, hempty, Nat.not_lt.1 hlong]

/-- A name in a path that can be used can be used by itself. -/
theorem fault?_of_mem_parts (h : p.fault? = none) (hname : name ∈ p.parts.names)
    (hshort : isTooLong name = false) : fault? ⟨name⟩ = none := by
  obtain ⟨hne, hmem⟩ := mem_segment_of_mem_parts hname
  rw [fault?_eq_none_iff] at h ⊢
  refine ⟨?_, by simpa using hne, ?_⟩
  · have hchars : ∀ c ∈ name.toList, c ∈ p.text.toList := fun c hc =>
      (List.dropWhile_sublist _).subset (List.intercalate_splitOn '/' ▸
        Text.mem_intercalate_of_mem hmem hc)
    have hnull : '\x00' ∉ p.text.toList := by simpa [hasNull] using h.1
    simpa [hasNull] using fun hin => hnull (hchars _ hin)
  · have hsize : name.utf8ByteSize ≤ maxNameBytes := by simpa [isTooLong] using hshort
    exact hsize.trans (by decide)

/-- **A file is found by its name** in its directory. -/
theorem resolve_fileName (h : d.resolve start p = .ok place) (hname : p.fileName? = some name) :
    ∃ dir, d.lookup dir = some .directory ∧ d.Leads start p.folder dir ∧ place = dir ++ [name] ∧
      d.resolve dir ⟨name⟩ = .ok place := by
  obtain ⟨hlast, hhere, hup⟩ := fileName?_eq_some_iff.1 hname
  have hpart : name ∈ p.parts.names := List.mem_of_getLast? hlast
  obtain ⟨hne, hslash⟩ := isName_of_mem_parts hpart
  obtain ⟨hroute, habsolute⟩ := route_folder hname
  have hway := follow_filter_moves (leads_of_resolve h)
  rw [filter_moves_segments, hroute] at hway
  obtain ⟨dir, hdir, hstep⟩ := follow_append_eq_ok_iff.1 hway
  have henters := follow_singleton_eq_ok_iff.1 hstep
  refine ⟨dir, henters.isDir, ?_, ?_, ?_⟩
  · rw [leads_iff_route henters.isDir, startOf, habsolute]
    exact hdir
  · cases henters with
    | stay _ hstays => exact absurd hstays (not_or.2 ⟨hne, hhere⟩)
    | up => exact absurd rfl hup
    | down => rfl
  · -- by itself the name is one step from the directory
    have hsegments : segments ⟨name⟩ = [name] := by
      rw [segments, List.splitOn_eq_singleton hslash]
      simp
    have hshort : isTooLong name = false := by
      cases henters with
      | stay _ hstays => exact absurd hstays (not_or.2 ⟨hne, hhere⟩)
      | up => exact absurd rfl hup
      | down _ _ _ hshort => exact hshort
    refine resolve_of_leads ?_ (fault?_of_mem_parts (fault?_of_resolve h) hpart hshort)
    rw [Leads, hsegments, startOf, if_neg]
    · exact hstep
    · simpa [isAbsolute] using fun hhead => hslash (List.mem_of_mem_head? hhead)

/-- **Paths of different file names** lead to different places. -/
theorem resolve_ne_of_fileName? {p' : Path} {name' : String} {other : Names}
    (hname : p.fileName? = some name) (hname' : p'.fileName? = some name') (hne : name ≠ name')
    (h : d.resolve start p = .ok place) : d.resolve other p' ≠ .ok place := by
  intro h'
  obtain ⟨_, -, -, rfl, -⟩ := resolve_fileName h hname
  obtain ⟨_, -, -, heq, -⟩ := resolve_fileName h' hname'
  exact hne (List.singleton_inj.1 (List.append_inj_right' heq rfl))

/-- A rooted path leads to the same place from everywhere. -/
theorem resolve_eq_of_isAbsolute (h : p.isAbsolute = true) (start other : Names) :
    d.resolve other p = d.resolve start p := by
  unfold resolve startOf
  rw [if_pos h, if_pos h]

/-- **A path without a way up** leads to the same place from two directories only if it is rooted or
they are the same. -/
theorem resolve_eq_resolve_iff {other : Names} (h : d.resolve start p = .ok place)
    (hdown : ".." ∉ p.parts.names) :
    d.resolve other p = d.resolve start p ↔ p.isAbsolute = true ∨ other = start := by
  constructor
  · intro heq
    by_cases habsolute : p.isAbsolute = true
    · exact .inl habsolute
    · right
      have hplace : ∀ {at_ : Names}, d.resolve at_ p = .ok place → place = at_ ++ p.route := by
        intro at_ hat
        have hway := follow_filter_moves (leads_of_resolve hat)
        rw [startOf, if_neg habsolute] at hway
        rw [← filter_moves_segments]
        refine eq_append_of_follow hway (fun _ hname => (List.mem_filter.1 hname).2) fun hup => ?_
        rw [filter_moves_segments] at hup
        exact hdown (List.mem_filter.1 hup).1
      exact List.append_cancel_right ((hplace (heq.trans h)).symm.trans (hplace h))
  · rintro (habsolute | rfl)
    · exact resolve_eq_of_isAbsolute habsolute _ _
    · rfl

end Disk

end ReplicaTrace
