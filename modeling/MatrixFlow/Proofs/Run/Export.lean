import MatrixFlow.Proofs.Text
import MatrixFlow.Run.Environment

/-!
# Commands written and read back

* `Notice`: what a line of output can say, with the text that says it. `Notice.Legible` is what
  can be said: names, values and directories that a line can hold, and other texts that no command
  begins.
* `OutputLine`: a notice with blanks in front of it.
* `Exports.ofLine_chars`, `Exports.ofLine_withoutReturn`: a line says its notice, also without a
  carriage return at its end.
* `Exports.Sound`: what names and directories are like. `Exports.ofLine_sound`: those that a line
  passes on.
* `Exports.ofOutput_written`: output is read back as it was written, and what is read from any
  output is sound.
-/

namespace MatrixFlow

open Text (trim trimStart cut? stripStart? splitOn isBlank)

/-! ## Notices -/

/-- What a line says. -/
inductive Notice where
  | setVar (name value : String)
  | addPath (directory : String)
  | other (text : String)

namespace Notice

/-- The text that says it. -/
def chars : Notice → List Char
  | setVar name value => "::set-env name=".toList ++ name.toList ++ "::".toList ++ value.toList
  | addPath directory => "::add-path::".toList ++ directory.toList
  | other text => text.toList

theorem chars_setVar (name value : String) : (setVar name value).chars =
    "::set-env name=".toList ++ name.toList ++ "::".toList ++ value.toList := rfl

theorem chars_addPath (directory : String) :
    (addPath directory).chars = "::add-path::".toList ++ directory.toList := rfl

/-- What it passes on. -/
def exports : Notice → Exports
  | setVar name value => ⟨[(name, value)], []⟩
  | addPath directory => ⟨[], [directory]⟩
  | other _ => Exports.empty

/-- A line can say it. -/
def Legible : Notice → Prop
  | setVar name value =>
    name ≠ "" ∧ name.trimBlanks = name ∧ (∀ c ∈ name.toList, c ∉ ['=', ',', ':', '\n']) ∧
      '\n' ∉ value.toList ∧ value.toList.getLast? ≠ some '\r'
  | addPath directory =>
    directory ≠ "" ∧ directory.trimBlanks = directory ∧ '\n' ∉ directory.toList
  | other text =>
    '\n' ∉ text.toList ∧ ¬"::set-env ".toList <+: trimStart text.toList ∧
      ¬"::add-path::".toList <+: trimStart text.toList

end Notice

/-- A line of output. -/
structure OutputLine where
  indent : String
  notice : Notice

namespace OutputLine

/-- The line. -/
def text (l : OutputLine) : String :=
  l.indent ++ String.ofList l.notice.chars

theorem toList_text (l : OutputLine) : l.text.toList = l.indent.toList ++ l.notice.chars := by
  rw [text, String.toList_append, String.toList_ofList]

/-- A line can say it, and is indented by blanks only. -/
structure Legible (l : OutputLine) : Prop where
  indent : l.indent.isAllBlank = true
  unbroken : '\n' ∉ l.indent.toList
  notice : l.notice.Legible

end OutputLine

namespace Exports

section Lines

variable {line name value directory : List Char}

theorem ofLine_indent {indent : List Char} (h : Text.isBlankText indent = true) :
    ofLine (indent ++ line) = ofLine line := by
  unfold ofLine
  rw [Text.trimStart_append h]

theorem varOf?_eq_some {rest : List Char} {v : String × String} : varOf? rest = some v ↔
    ∃ properties value name, cut? "::".toList rest = some (properties, value) ∧
      nameIn? properties = some name ∧ name ≠ [] ∧ '=' ∉ name ∧
      v = (String.ofList name, String.ofList value) := by
  simp only [varOf?, bind, Option.bind_eq_some_iff, Prod.exists, Option.ite_none_left_eq_some,
    Bool.or_eq_true, List.isEmpty_iff, List.contains_iff_mem, not_or, Option.some.injEq, ne_eq]
  constructor
  · rintro ⟨properties, value, hcut, name, hname, ⟨hne, heq⟩, rfl⟩
    exact ⟨properties, value, name, hcut, hname, hne, heq, rfl⟩
  · rintro ⟨properties, value, name, hcut, hname, hne, heq, rfl⟩
    exact ⟨properties, value, hcut, name, hname, ⟨hne, heq⟩, rfl⟩

theorem nameIn?_name (htrim : trim name = name) (hne : name ≠ []) (hcomma : ',' ∉ name) :
    nameIn? ("name=".toList ++ name) = some name := by
  have hpieces : splitOn ',' ("name=".toList ++ name) = ["name=".toList ++ name] := by
    rw [Text.splitOn_eq, List.splitOn_eq_singleton]
    simpa using hcomma
  have hproperty : trim ("name=".toList ++ name) = "name=".toList ++ name :=
    Text.trimEnd_append_self htrim hne "name=".toList
  rw [nameIn?, hpieces, List.findSome?_singleton, hproperty, Text.stripStart?_append,
    Option.map_some, htrim]

theorem varOf?_name (htrim : trim name = name) (hne : name ≠ [])
    (hchars : ∀ c ∈ name, c ∉ ['=', ',', ':', '\n']) (value : List Char) :
    varOf? ("name=".toList ++ name ++ "::".toList ++ value) =
      some (String.ofList name, String.ofList value) := by
  have hnot : ∀ c ∈ ['=', ',', ':', '\n'], c ∉ name := fun c hc hname => hchars c hname hc
  have hcut : cut? "::".toList ("name=".toList ++ name ++ "::".toList ++ value) =
      some ("name=".toList ++ name, value) := by
    refine (Text.cut?_eq_some (by decide)).mpr ⟨rfl, fun hin => ?_⟩
    -- the piece has two colons, and what it would have to stand in has only one
    have hcount := hin.sublist.count_le ':'
    rw [List.count_append, List.count_append,
      List.count_eq_zero_of_not_mem (hnot ':' (by decide))] at hcount
    exact absurd hcount (by decide)
  exact varOf?_eq_some.mpr ⟨_, value, name, hcut, nameIn?_name htrim hne (hnot ',' (by decide)), hne,
    hnot '=' (by decide), rfl⟩

theorem ofLine_setVar (htrim : trim name = name) (hne : name ≠ [])
    (hchars : ∀ c ∈ name, c ∉ ['=', ',', ':', '\n']) (value : List Char) :
    ofLine ("::set-env name=".toList ++ name ++ "::".toList ++ value) =
      ⟨[(String.ofList name, String.ofList value)], []⟩ := by
  have hstart : stripStart? "::set-env ".toList (trimStart
      ("::set-env name=".toList ++ name ++ "::".toList ++ value)) =
        some ("name=".toList ++ name ++ "::".toList ++ value) :=
    Text.stripStart?_append "::set-env ".toList _
  rw [ofLine, hstart]
  dsimp only
  rw [varOf?_name htrim hne hchars]
  rfl

theorem ofLine_addPath (htrim : trim directory = directory) (hne : directory ≠ []) :
    ofLine ("::add-path::".toList ++ directory) = ⟨[], [String.ofList directory]⟩ := by
  have hother : stripStart? "::set-env ".toList (trimStart ("::add-path::".toList ++ directory)) =
      none := rfl
  have hstart : stripStart? "::add-path::".toList (trimStart ("::add-path::".toList ++ directory)) =
      some directory := Text.stripStart?_append "::add-path::".toList _
  rw [ofLine, hother, hstart]
  simp [pathOf?, htrim, hne]

theorem ofLine_other (hset : ¬"::set-env ".toList <+: trimStart line)
    (hadd : ¬"::add-path::".toList <+: trimStart line) : ofLine line = empty := by
  rw [ofLine, Text.stripStart?_eq_none.mpr hset, Text.stripStart?_eq_none.mpr hadd]

end Lines

/-! ## Writing and reading back -/

section Writing

variable {m : Notice} {l : OutputLine}

theorem ofLine_chars (h : m.Legible) : ofLine m.chars = m.exports := by
  cases m with
  | setVar name value =>
    obtain ⟨hne, htrim, hchars, -, -⟩ := h
    have hread := ofLine_setVar (Text.trimBlanks_eq_self.mp htrim)
      (mt String.toList_eq_nil_iff.mp hne) hchars value.toList
    rwa [String.ofList_toList, String.ofList_toList] at hread
  | addPath directory =>
    obtain ⟨hne, htrim, -⟩ := h
    have hread := ofLine_addPath (Text.trimBlanks_eq_self.mp htrim)
      (mt String.toList_eq_nil_iff.mp hne)
    rwa [String.ofList_toList] at hread
  | other text => exact ofLine_other h.2.1 h.2.2

/-- The carriage return at the end of a line, if there is one, is no part of what it says. -/
theorem ofLine_withoutReturn (h : m.Legible) {indent : List Char}
    (hindent : Text.isBlankText indent = true) :
    ofLine (Text.withoutReturn (indent ++ m.chars)) = m.exports := by
  cases m with
  | setVar name value =>
    rw [Text.withoutReturn_eq_self, ofLine_indent hindent, ofLine_chars h]
    have hlast := h.2.2.2.2
    rw [Notice.chars_setVar, ← List.append_assoc, List.getLast?_append]
    cases hvalue : value.toList.getLast? with
    | none =>
      rw [Option.none_or, ← List.append_assoc, List.getLast?_append]
      exact nofun
    | some c => rwa [Option.some_or, ← hvalue]
  | addPath directory =>
    rw [Text.withoutReturn_eq_self, ofLine_indent hindent, ofLine_chars h]
    obtain ⟨hne, htrim, -⟩ := h
    rw [Notice.chars_addPath, ← List.append_assoc, List.getLast?_append]
    cases hlast : directory.toList.getLast? with
    | none => exact absurd (String.toList_eq_nil_iff.mp (List.getLast?_eq_none_iff.mp hlast)) hne
    | some c =>
      have hblank := Text.isBlank_getLast? (Text.trimBlanks_eq_self.mp htrim) hlast
      rintro ⟨⟩
      exact absurd hblank (by decide)
  | other text =>
    have hprefix : trimStart (Text.withoutReturn (indent ++ text.toList)) <+:
        trimStart text.toList := by
      have hindented : trimStart (indent ++ text.toList) = trimStart text.toList :=
        Text.trimStart_append hindent
      rw [← hindented]
      exact Text.trimStart_prefix (Text.withoutReturn_prefix _)
    exact ofLine_other (fun hset => h.2.1 (hset.trans hprefix))
      fun hadd => h.2.2 (hadd.trans hprefix)

theorem not_mem_chars (h : m.Legible) : '\n' ∉ m.chars := by
  cases m with
  | setVar name value =>
    obtain ⟨-, -, hchars, hvalue, -⟩ := h
    have hname : '\n' ∉ name.toList := fun hn => hchars _ hn (by decide)
    simp only [Notice.chars_setVar, List.mem_append, hname, hvalue, or_false]
    decide
  | addPath directory =>
    simp only [Notice.chars_addPath, List.mem_append, h.2.2, or_false]
    decide
  | other text => exact h.1

/-- What lines pass on, one after the other. -/
def allOf (lines : List OutputLine) : Exports :=
  ⟨lines.flatMap (·.notice.exports.vars), lines.flatMap (·.notice.exports.paths)⟩

theorem append_empty (e : Exports) : e.append empty = e := by
  rw [append, empty, List.append_nil, List.append_nil]

theorem ofLines_lines_of_not_mem {line : List Char} (h : '\n' ∉ line) :
    ofLines (Text.lines line) = ofLine line := by
  by_cases hempty : line = []
  · rw [hempty]
    rfl
  · rw [Text.lines_of_not_mem h hempty]
    exact append_empty (ofLine line)

theorem not_mem_text (h : l.Legible) : '\n' ∉ l.text.toList := by
  rw [OutputLine.toList_text, List.mem_append, not_or]
  exact ⟨h.unbroken, not_mem_chars h.notice⟩

theorem ofLines_lines {lines : List OutputLine} (h : ∀ l ∈ lines, l.Legible) :
    ofLines (Text.lines (['\n'].intercalate (lines.map (·.text.toList)))) = allOf lines := by
  induction lines with
  | nil => rfl
  | cons l lines ih =>
    obtain ⟨hl, hlines⟩ := List.forall_mem_cons.mp h
    have ih := ih hlines
    cases lines with
    | nil =>
      rw [List.map_singleton, List.intercalate_singleton, ofLines_lines_of_not_mem (not_mem_text hl),
        OutputLine.toList_text, ofLine_indent hl.indent, ofLine_chars hl.notice]
      exact (append_empty l.notice.exports).symm
    | cons l' lines =>
      rw [List.map_cons] at ih
      rw [List.map_cons, List.map_cons, List.intercalate_cons_cons, List.append_assoc,
        List.singleton_append, Text.lines_append_newline (not_mem_text hl), ofLines, ih,
        OutputLine.toList_text, ofLine_withoutReturn hl.notice hl.indent]
      rfl

end Writing

/-! ## Reading any output -/

/-- Names are trimmed texts without the characters that end them, directories are trimmed texts, and
neither are empty. -/
structure Sound (e : Exports) : Prop where
  names : ∀ v ∈ e.vars, v.1 ≠ "" ∧ v.1.trimBlanks = v.1 ∧ ∀ c ∈ v.1.toList, c ∉ ['=', ',', '\n']
  directories : ∀ d ∈ e.paths, d ≠ "" ∧ d.trimBlanks = d

section Reading

variable {line rest : List Char}

theorem sound_empty : empty.Sound := ⟨by simp [empty], by simp [empty]⟩

theorem Sound.append {a b : Exports} (ha : a.Sound) (hb : b.Sound) : (a.append b).Sound :=
  ⟨List.forall_mem_append.mpr ⟨ha.names, hb.names⟩,
    List.forall_mem_append.mpr ⟨ha.directories, hb.directories⟩⟩

theorem nameIn?_eq_some {properties name : List Char} (h : nameIn? properties = some name) :
    trim name = name ∧ ∀ c ∈ name, c ≠ ',' ∧ c ∈ properties := by
  obtain ⟨property, hproperty, hname⟩ := List.exists_of_findSome?_eq_some h
  obtain ⟨rest, hrest, rfl⟩ := Option.map_eq_some_iff.mp hname
  refine ⟨Text.trim_trim rest, fun c hc => Text.mem_of_mem_splitOn hproperty c ?_⟩
  refine Text.trim_subset property ?_
  rw [Text.stripStart?_eq_some.mp hrest]
  exact List.mem_append_right _ (Text.trim_subset rest hc)

theorem sound_vars {v : String × String} (h : varOf? rest = some v) (hrest : '\n' ∉ rest) :
    v.1 ≠ "" ∧ v.1.trimBlanks = v.1 ∧ ∀ c ∈ v.1.toList, c ∉ ['=', ',', '\n'] := by
  obtain ⟨properties, value, name, hcut, hname, hne, heq, rfl⟩ := varOf?_eq_some.mp h
  obtain ⟨htrim, hchars⟩ := nameIn?_eq_some hname
  refine ⟨?_, ?_, fun c hc => ?_⟩
  · rw [← String.toList_inj.ne, String.toList_ofList]
    exact hne
  · rwa [Text.trimBlanks_eq_self, String.toList_ofList]
  · rw [String.toList_ofList] at hc
    obtain ⟨hcomma, hin⟩ := hchars c hc
    have hc' : c ∈ rest := by
      rw [((Text.cut?_eq_some (by decide)).mp hcut).1]
      simp [hin]
    have hequals : c ≠ '=' := fun h => heq (h ▸ hc)
    have hfeed : c ≠ '\n' := fun h => hrest (h ▸ hc')
    simp [hcomma, hequals, hfeed]

theorem sound_paths {d : String} (h : pathOf? rest = some d) : d ≠ "" ∧ d.trimBlanks = d := by
  unfold pathOf? at h
  dsimp only at h
  split at h
  · cases h
  · rename_i hne
    cases h
    refine ⟨?_, ?_⟩
    · rw [← String.toList_inj.ne, String.toList_ofList]
      simpa using hne
    · rw [Text.trimBlanks_eq_self, String.toList_ofList, Text.trim_trim]

theorem ofLine_sound (h : '\n' ∉ line) : (ofLine line).Sound := by
  have hafter : ∀ {start rest}, stripStart? start (trimStart line) = some rest → '\n' ∉ rest := by
    intro start rest hrest hin
    refine h ((List.dropWhile_subset isBlank) ?_)
    rw [← trimStart, Text.stripStart?_eq_some.mp hrest]
    exact List.mem_append_right start hin
  unfold ofLine
  dsimp only
  split
  · rename_i rest hrest
    exact ⟨fun v hv => sound_vars (Option.mem_toList.mp hv) (hafter hrest), by simp⟩
  · split
    · exact ⟨by simp, fun d hd => sound_paths (Option.mem_toList.mp hd)⟩
    · exact sound_empty

theorem ofLines_sound {lines : List (List Char)} (h : ∀ line ∈ lines, '\n' ∉ line) :
    (ofLines lines).Sound := by
  induction lines with
  | nil => exact sound_empty
  | cons line lines ih =>
    obtain ⟨hline, hlines⟩ := List.forall_mem_cons.mp h
    exact (ofLine_sound hline).append (ih hlines)

end Reading

/-- Output that is written line by line, each a legible notice with blanks in front of it, is read
back as exactly the variables and directories written, in order. And whatever the output is, the
names and directories read from it are sound. -/
theorem ofOutput_written :
    (∀ lines : List OutputLine, (∀ l ∈ lines, l.Legible) →
      ofOutput ("\n".intercalate (lines.map OutputLine.text)) =
        ⟨lines.flatMap (·.notice.exports.vars), lines.flatMap (·.notice.exports.paths)⟩) ∧
    ∀ output, (ofOutput output).Sound := by
  refine ⟨fun lines h => ?_, fun output => ofLines_sound fun line => Text.not_mem_of_mem_lines⟩
  rw [ofOutput, String.toList_intercalate, List.map_map]
  exact ofLines_lines h

end Exports

/-- Lines with marks of commands inside values, and with the beginning of a command at most. -/
def Sample.outputLines : List OutputLine :=
  [⟨"  ", .setVar "A" "::b, c=é:"⟩, ⟨"", .other "::set-env: x\r"⟩, ⟨"\t", .addPath "/a b:c"⟩]

namespace Exports

/-- A value may have the marks of commands in it, and a text that begins almost like a command says
nothing. -/
theorem ofOutput_written_sample :
    ofOutput ("\n".intercalate (Sample.outputLines.map OutputLine.text)) =
      ⟨[("A", "::b, c=é:")], ["/a b:c"]⟩ := by
  refine ofOutput_written.1 Sample.outputLines (List.forall_mem_cons.mpr ⟨⟨rfl, by decide, ?_⟩,
    List.forall_mem_cons.mpr ⟨⟨rfl, by decide, ?_⟩,
      List.forall_mem_cons.mpr ⟨⟨rfl, by decide, ?_⟩, by simp⟩⟩⟩)
  · exact ⟨by decide, by decide, List.forall_mem_singleton.mpr (by decide), by decide, by decide⟩
  · exact ⟨by decide, by decide, by decide⟩
  · exact ⟨by decide, by decide, by decide⟩

end Exports

end MatrixFlow
