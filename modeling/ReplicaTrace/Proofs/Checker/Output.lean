import Mathlib.Data.Int.Notation
import ReplicaTrace.Proofs.Host.Programs
import ReplicaTrace.Proofs.Text.Occurrence
import ReplicaTrace.Proofs.Text.Pieces

/-!
# What is kept of the output

A rejected check comes with the end of what the model checker wrote: the last lines of those that
were read, first from one stream and then from the other.  Of each stream the lines are read up to
the first that is no text.  That line is lost, and with it every line after it in its stream; the
lines before it are kept as far as they are among the last ones.

* `Lines` : the lines of a stream.
* `ReadsUpTo` : the lines that are read.
* `ReadsUpTo.filterMap_text?_eq_iff` : when no text is lost.
* `KeepsLines` : lines that are kept for sure.
* `exists_output_of_ended` : what comes out of a check.
* `exists_lost_line` : a text that is lost.
-/

namespace ReplicaTrace

namespace Checker

/-! ### The lines of a stream -/

/-- The lines of a stream. -/
inductive Lines : Bytes → List Bytes → Prop
  /-- The stream has ended. -/
  | ended : Lines [] []
  /-- The stream ends within a line. -/
  | unfinished {line : Bytes} (hfeed : lineFeed ∉ line) (hne : line ≠ []) : Lines line [line]
  /-- A line feed ends the first line, with or without a carriage return before it. -/
  | fed {line rest : Bytes} {lines : List Bytes} (hfeed : lineFeed ∉ line)
      (hrest : Lines rest lines) :
      Lines (line ++ lineFeed :: rest) (dropFinal carriageReturn line :: lines)

variable {stream line rest : Bytes} {lines : List Bytes}

theorem byteLines_of_notMem (hfeed : lineFeed ∉ line) (hne : line ≠ []) :
    byteLines line = [line] := by
  rw [byteLines, List.splitOn_eq_singleton hfeed]
  simp [hne]

theorem byteLines_append_cons (hfeed : lineFeed ∉ line) (rest : Bytes) :
    byteLines (line ++ lineFeed :: rest) = dropFinal carriageReturn line :: byteLines rest := by
  obtain ⟨first, others, hparts⟩ := List.exists_cons_of_ne_nil (List.splitOn_ne_nil lineFeed rest)
  rw [byteLines, byteLines, List.splitOn_append_cons_self_of_not_mem hfeed, hparts]
  rfl

/-- **The lines of a stream** are determined by it. -/
theorem lines_iff : Lines stream lines ↔ byteLines stream = lines := by
  constructor
  · intro h
    induction h with
    | ended => rfl
    | unfinished hfeed hne => exact byteLines_of_notMem hfeed hne
    | fed hfeed _ ih => rw [byteLines_append_cons hfeed, ih]
  · rintro rfl
    -- what follows the first line feed is shorter
    induction hlen : stream.length using Nat.strongRecOn generalizing stream with
    | ind n ih =>
      by_cases hmem : lineFeed ∈ stream
      · obtain ⟨line, rest, rfl, hfeed⟩ := List.eq_append_cons_of_mem hmem
        rw [byteLines_append_cons hfeed]
        refine .fed hfeed (ih rest.length ?_ rfl)
        rw [← hlen, List.length_append, List.length_cons]
        omega
      · by_cases hne : stream = []
        · subst hne
          exact .ended
        · rw [byteLines_of_notMem hmem hne]
          exact .unfinished hmem hne

/-! ### The lines that are read -/

/-- The bytes of a text. -/
def bytesOf (text : String) : Bytes :=
  Utf8.encode text.toList

/-- The line as text, if it is one. -/
def text? (line : Bytes) : Option String :=
  (Utf8.decode? line).map String.ofList

theorem text?_eq_some_iff {text : String} : text? line = some text ↔ bytesOf text = line := by
  rw [text?, Option.map_eq_some_iff, bytesOf]
  constructor
  · rintro ⟨cs, hdecode, rfl⟩
    rw [String.toList_ofList]
    exact Utf8.decode?_eq_some_iff.1 hdecode
  · intro h
    exact ⟨text.toList, Utf8.decode?_eq_some_iff.2 h, String.ofList_toList⟩

theorem text?_eq_none_iff : text? line = none ↔ ¬ Utf8.IsText line := by
  rw [Utf8.isText_iff, text?, Option.map_eq_none_iff, Option.eq_none_iff_forall_ne_some, not_exists]

theorem isText_bytesOf (text : String) : Utf8.IsText (bytesOf text) :=
  ⟨text.toList, rfl⟩

theorem filterMap_map_bytesOf (texts : List String) :
    (texts.map bytesOf).filterMap text? = texts := by
  rw [List.filterMap_map]
  exact (List.filterMap_congr fun text _ => text?_eq_some_iff.2 rfl).trans List.filterMap_some

/-- Of the lines, the texts are read: those before the first line that is none. -/
structure ReadsUpTo (lines : List Bytes) (texts : List String) : Prop where
  /-- The lines start with the texts. -/
  front : texts.map bytesOf <+: lines
  /-- The line after them is no text. -/
  stops : ∀ line ∈ lines[texts.length]?, ¬ Utf8.IsText line

theorem readsUpTo_cons {text : String} {texts : List String} (hline : bytesOf text = line)
    (h : ReadsUpTo lines texts) : ReadsUpTo (line :: lines) (text :: texts) where
  front := by
    rw [List.map_cons, hline]
    exact List.cons_prefix_cons.2 ⟨rfl, h.front⟩
  stops := h.stops

theorem readsUpTo_textLines (stream : Bytes) : ReadsUpTo (byteLines stream) (textLines stream) := by
  rw [textLines]
  induction byteLines stream with
  | nil => exact ⟨List.prefix_refl [], by simp⟩
  | cons line lines ih =>
    rw [List.map_cons]
    cases hline : Utf8.decode? line with
    | none =>
      refine ⟨List.nil_prefix, ?_⟩
      simp [Utf8.isText_iff, hline]
    | some cs =>
      refine readsUpTo_cons (text?_eq_some_iff.1 ?_) ih
      rw [text?, hline]
      rfl

/-- After a line that is no text there is no text. -/
def Undisturbed (lines : List Bytes) : Prop :=
  lines.Pairwise fun line later => Utf8.IsText later → Utf8.IsText line

instance (lines : List Bytes) : Decidable (Undisturbed lines) :=
  inferInstanceAs (Decidable (List.Pairwise ..))

/-- No line up to this one is anything else than text. -/
def ReachedAt (lines : List Bytes) (i : ℕ) : Prop :=
  ∀ line ∈ lines.take (i + 1), Utf8.IsText line

namespace ReadsUpTo

variable {texts : List String} {i : ℕ}

theorem exists_eq_append (h : ReadsUpTo lines texts) :
    ∃ rest, lines = texts.map bytesOf ++ rest ∧ ∀ line ∈ rest.head?, ¬ Utf8.IsText line := by
  obtain ⟨rest, rfl⟩ := h.front
  refine ⟨rest, rfl, fun line hline => h.stops line ?_⟩
  rw [List.getElem?_append_right (by simp), List.length_map, Nat.sub_self, ← List.head?_eq_getElem?]
  exact hline

theorem length_le (h : ReadsUpTo lines texts) : texts.length ≤ lines.length := by
  rw [← List.length_map bytesOf]
  exact h.front.length_le

/-- **A line that is reached** is read. -/
theorem exists_getElem?_eq (h : ReadsUpTo lines texts) (hline : lines[i]? = some line)
    (hreached : ReachedAt lines i) : ∃ text, texts[i]? = some text ∧ bytesOf text = line := by
  have hlt : i < texts.length := by
    -- otherwise the line that stops the reading would be a text
    by_contra hle
    obtain ⟨hi, -⟩ := List.getElem?_eq_some_iff.1 hline
    have hstop : lines[texts.length]? = some lines[texts.length] :=
      List.getElem?_eq_getElem (by omega)
    refine h.stops _ hstop (hreached _ ?_)
    exact List.mem_of_getElem? (i := texts.length)
      ((List.getElem?_take_of_lt (by omega)).trans hstop)
  have hmap : (texts.map bytesOf)[i]? = some line := by
    obtain ⟨rest, rfl⟩ := h.front
    rwa [List.getElem?_append_left (by simpa using hlt)] at hline
  rw [List.getElem?_map] at hmap
  exact Option.map_eq_some_iff.1 hmap

/-- **No text is lost** exactly if the lines are undisturbed. -/
theorem filterMap_text?_eq_iff (h : ReadsUpTo lines texts) :
    lines.filterMap text? = texts ↔ Undisturbed lines := by
  obtain ⟨rest, rfl, hstops⟩ := h.exists_eq_append
  have hfront : ∀ line ∈ texts.map bytesOf, Utf8.IsText line := by
    rintro _ hline
    obtain ⟨text, -, rfl⟩ := List.mem_map.1 hline
    exact isText_bytesOf text
  rw [List.filterMap_append, filterMap_map_bytesOf, List.append_right_eq_self,
    List.filterMap_eq_nil_iff, Undisturbed, List.pairwise_append]
  constructor
  · intro hnone
    refine ⟨List.pairwise_of_forall_mem_list fun line hline _ _ _ => hfront line hline,
      List.pairwise_of_forall_mem_list fun _ _ later hlater htext => ?_,
      fun line hline _ _ _ => hfront line hline⟩
    exact absurd htext (text?_eq_none_iff.1 (hnone later hlater))
  · rintro ⟨-, hrest, -⟩ line hline
    cases rest with
    | nil => cases hline
    | cons stop others =>
      have hstop : ¬ Utf8.IsText stop := hstops stop rfl
      rw [text?_eq_none_iff]
      rcases List.mem_cons.1 hline with rfl | hline
      · exact hstop
      · exact fun htext => hstop ((List.pairwise_cons.1 hrest).1 line hline htext)

theorem prefix_filterMap_text? (h : ReadsUpTo lines texts) : texts <+: lines.filterMap text? := by
  obtain ⟨rest, rfl, -⟩ := h.exists_eq_append
  rw [List.filterMap_append, filterMap_map_bytesOf]
  exact List.prefix_append _ _

end ReadsUpTo

/-! ### The end of the output -/

/-- The last texts, as many as are kept. -/
structure KeptOf (texts kept : List String) : Prop where
  suffix : kept <:+ texts
  length : kept.length = min tailLength texts.length

theorem exists_outputTail_eq (texts : List String) :
    ∃ kept, KeptOf texts kept ∧ outputTail texts = "\n".intercalate kept := by
  refine ⟨texts.drop (texts.length - tailLength), ⟨List.drop_suffix _ _, ?_⟩, rfl⟩
  rw [List.length_drop]
  omega

/-- The texts that have few after them are kept. -/
theorem KeptOf.mem {texts kept : List String} (h : KeptOf texts kept) {i : ℕ} {text : String}
    (htext : texts[i]? = some text) (hlast : texts.length ≤ i + tailLength) : text ∈ kept := by
  obtain ⟨before, rfl⟩ := h.suffix
  have hlength := h.length
  obtain ⟨hi, -⟩ := List.getElem?_eq_some_iff.1 htext
  rw [List.length_append] at hlength hlast hi
  rw [List.getElem?_append_right (by omega)] at htext
  exact List.mem_of_getElem? htext

/-- The lines of the stream that are reached, and have few lines of this stream and few others after
them, are kept. -/
def KeepsLines (lines : List Bytes) (others : ℕ) (kept : List String) : Prop :=
  ∀ i line, lines[i]? = some line → ReachedAt lines i → lines.length + others ≤ i + tailLength →
    ∃ text ∈ kept, bytesOf text = line

/-- The texts of a stream stand among those of others. -/
theorem ReadsUpTo.keepsLines {texts kept : List String} (h : ReadsUpTo lines texts)
    (before after : List String) (hkept : KeptOf (before ++ (texts ++ after)) kept) {others : ℕ}
    (hafter : after.length ≤ others) : KeepsLines lines others kept := by
  intro i line hline hreached hlast
  obtain ⟨text, htext, hbytes⟩ := h.exists_getElem?_eq hline hreached
  obtain ⟨hi, -⟩ := List.getElem?_eq_some_iff.1 htext
  refine ⟨text, hkept.mem (i := before.length + i) ?_ ?_, hbytes⟩
  · rw [List.getElem?_append_right (Nat.le_add_right _ _), Nat.add_sub_cancel_left,
      List.getElem?_append_left hi, htext]
  · have hle := h.length_le
    rw [List.length_append, List.length_append]
    omega

/-- Of both streams together no text is lost exactly if none is lost of either. -/
theorem filterMap_append_eq_iff {out err : List Bytes} {outTexts errTexts : List String}
    (hout : ReadsUpTo out outTexts) (herr : ReadsUpTo err errTexts) :
    (out ++ err).filterMap text? = outTexts ++ errTexts ↔ Undisturbed out ∧ Undisturbed err := by
  rw [← hout.filterMap_text?_eq_iff, ← herr.filterMap_text?_eq_iff, List.filterMap_append]
  constructor
  · intro h
    have hlength := congrArg List.length h
    have hout := hout.prefix_filterMap_text?.length_le
    have herr := herr.prefix_filterMap_text?.length_le
    rw [List.length_append, List.length_append] at hlength
    exact List.append_inj h (by omega)
  · rintro ⟨hout, herr⟩
    rw [hout, herr]

/-! ### Checks that end -/

variable {r : Runner} {artifacts : ArtifactPaths} {w w' : World} {code : Option ℤ}
  {stdout stderr : Bytes} {elapsed : ℕ}

/-- A check is judged by how the program ended. -/
theorem run_check_of_ended (hjar : w.disk.isFile w.workingDir r.jar = true)
    (hended : w.launch (r.command artifacts) r.limit = (.ended code stdout stderr elapsed, w')) :
    (r.check (m := Sandbox) artifacts).run w = (judge code stdout stderr elapsed, w') := by
  rw [Runner.run_check artifacts hjar, hended]
  rfl

/-- The exit code `0` decides. -/
theorem judge_eq (code : Option ℤ) (stdout stderr : Bytes) (elapsed : ℕ) :
    judge code stdout stderr elapsed =
      if code = some 0 then .ok ⟨.success, 0, outputLines stdout stderr, elapsed⟩
      else .error (.rejected (.ofCode (code.getD (-1))) (code.getD (-1))
        (outputTail (outputLines stdout stderr))) := by
  have hcode : (Status.ofCode (code.getD (-1))).isSuccess = true ↔ code = some 0 := by
    rw [Status.isSuccess_ofCode]
    cases code <;> simp
  rw [judge]
  by_cases h : code = some 0
  · subst h
    rfl
  · rw [if_neg h]
    exact if_neg (mt hcode.1 h)

/-- **What comes out of a check** that was not stopped.  With the exit code `0` it succeeds whatever
was written; with any other one, or none, it fails with the meaning of the code and the last of the
texts that were read, first those of one stream and then those of the other.  No text is lost
exactly if no stream has a text after a line that is none.  Any line among the last ones that is
reached in its stream is kept. -/
theorem exists_output_of_ended (hjar : w.disk.isFile w.workingDir r.jar = true)
    (hended : w.launch (r.command artifacts) r.limit = (.ended code stdout stderr elapsed, w')) :
    ∃ (out err : List Bytes) (outTexts errTexts kept : List String),
      Lines stdout out ∧ Lines stderr err ∧ ReadsUpTo out outTexts ∧ ReadsUpTo err errTexts ∧
      KeptOf (outTexts ++ errTexts) kept ∧
      (r.check (m := Sandbox) artifacts).run w =
        (if code = some 0 then .ok ⟨.success, 0, outTexts ++ errTexts, elapsed⟩
          else .error (.rejected (.ofCode (code.getD (-1))) (code.getD (-1))
            ("\n".intercalate kept)), w') ∧
      ((out ++ err).filterMap text? = outTexts ++ errTexts ↔
        Undisturbed out ∧ Undisturbed err) ∧
      KeepsLines out err.length kept ∧ KeepsLines err 0 kept := by
  have hout := readsUpTo_textLines stdout
  have herr := readsUpTo_textLines stderr
  obtain ⟨kept, hkept, htail⟩ := exists_outputTail_eq (textLines stdout ++ textLines stderr)
  refine ⟨byteLines stdout, byteLines stderr, textLines stdout, textLines stderr, kept,
    lines_iff.2 rfl, lines_iff.2 rfl, hout, herr, hkept, ?_, filterMap_append_eq_iff hout herr,
    hout.keepsLines [] (textLines stderr) hkept herr.length_le,
    herr.keepsLines (textLines stdout) [] ?_ (Nat.le_refl 0)⟩
  · rw [run_check_of_ended hjar hended, judge_eq, outputLines, htail]
  · rwa [List.append_nil]

/-! ### A text that is lost -/

/-- A world in which the model checker has the exit code `13` and writes a line that is no text,
and after it what is wrong; to the other stream it writes what is given.  It is run by the `java` in
the directory of all programs. -/
def disturbedWorld (stderr : Bytes) : World where
  disk := ⟨[(["bin"], .directory), (["bin", "java"], .file []), (["tla2tools.jar"], .file [])]⟩
  workingDir := []
  environment := [("PATH", "/bin")]
  programs := [(["bin", "java"],
    .ends (some 13) (0xFF :: bytesOf "\nTemporal properties were violated.\n") stderr)]
  started := []

/-- The model checker of `disturbedWorld`. -/
def disturbedRunner : Runner where
  jar := ⟨"tla2tools.jar"⟩

/-- The files of the trace. -/
def disturbedPaths : ArtifactPaths where
  spec := ⟨"Trace.tla"⟩
  config := ⟨"Trace.cfg"⟩

/-- What is wrong, in the words of the model checker. -/
def disturbedText : String :=
  "Temporal properties were violated."

theorem isFile_disturbedWorld (stderr : Bytes) :
    (disturbedWorld stderr).disk.isFile [] disturbedRunner.jar = true := by
  change (disturbedWorld []).disk.isFile [] disturbedRunner.jar = true
  decide +kernel

theorem launch_disturbedWorld (stderr : Bytes) :
    (disturbedWorld stderr).launch (disturbedRunner.command disturbedPaths)
        disturbedRunner.limit =
      (.ended (some 13) (0xFF :: bytesOf "\nTemporal properties were violated.\n") stderr 0,
        { disturbedWorld stderr with
          started := [⟨disturbedRunner.arguments disturbedPaths, []⟩] }) := by
  rfl

theorem exists_output_disturbedWorld :
    (disturbedWorld (bytesOf "Finished.\n")).disk.isFile [] disturbedRunner.jar = true ∧
      (∃ stdout w', (disturbedWorld (bytesOf "Finished.\n")).launch
        (disturbedRunner.command disturbedPaths) disturbedRunner.limit =
          (.ended (some 13) stdout (bytesOf "Finished.\n") 0, w')) ∧
      ∃ kept : List String, "Finished." ∈ kept ∧
        ((disturbedRunner.check (m := Sandbox) disturbedPaths).run
          (disturbedWorld (bytesOf "Finished.\n"))).1 =
            .error (.rejected .livenessViolation 13 ("\n".intercalate kept)) := by
  have hjar := isFile_disturbedWorld (bytesOf "Finished.\n")
  have hended := launch_disturbedWorld (bytesOf "Finished.\n")
  obtain ⟨_, err, _, _, kept, -, herr, -, -, -, hrun, -, -, hkept⟩ :=
    exists_output_of_ended hjar hended
  refine ⟨hjar, ⟨_, _, hended⟩, kept, ?_, congrArg Prod.fst hrun⟩
  obtain rfl : err = [bytesOf "Finished."] := by
    rw [← lines_iff.1 herr]
    decide +kernel
  have hreached : ReachedAt [bytesOf "Finished."] 0 := by
    intro line hline
    obtain rfl := List.mem_singleton.1 hline
    exact isText_bytesOf _
  obtain ⟨text, htext, hbytes⟩ := hkept 0 _ rfl hreached (by decide)
  obtain rfl : "Finished." = text :=
    Option.some.inj ((text?_eq_some_iff.2 rfl).symm.trans (text?_eq_some_iff.2 hbytes))
  exact htext

/-- The line that says what is wrong is lost, although the output has two lines only. -/
theorem exists_lost_line :
    ∃ (r : Runner) (artifacts : ArtifactPaths) (w w' : World) (stdout : Bytes) (lines : List Bytes)
      (text output : String),
      w.disk.isFile w.workingDir r.jar = true ∧
      w.launch (r.command artifacts) r.limit = (.ended (some 13) stdout [] 0, w') ∧
      Lines stdout lines ∧ lines.length ≤ tailLength ∧ bytesOf text ∈ lines ∧
      (r.check (m := Sandbox) artifacts).run w =
        (.error (.rejected .livenessViolation 13 output), w') ∧
      ¬ text.toList <:+: output.toList := by
  have hjudged : judge (some 13) (0xFF :: bytesOf "\nTemporal properties were violated.\n") [] 0 =
      .error (.rejected .livenessViolation 13 "") := by
    decide +kernel
  have hjar := isFile_disturbedWorld []
  have hended := launch_disturbedWorld []
  refine ⟨disturbedRunner, disturbedPaths, disturbedWorld [], _, _,
    [[0xFF], bytesOf disturbedText], disturbedText, "", hjar, hended, lines_iff.2 ?_, by decide,
    by simp, ?_, by decide⟩
  · decide +kernel
  · rw [run_check_of_ended hjar hended, hjudged]

end Checker

end ReplicaTrace
