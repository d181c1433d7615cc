import LogFollow.Config.File
import LogFollow.Proofs.Config.Change
import LogFollow.Proofs.Toml.Document

/-!
# A saved configuration is loaded back

The file is one document: some lines, the tables, and the table of the headers within the last of
these. It is read back as the same configuration when its numbers are signed ones and its headers
are in order. Changes keep the headers in order, but let some of the numbers grow beyond.
-/

namespace LogFollow.Config
set_option autoImplicit false

open Toml

def topLines (c : Config) : List (String × Scalar) :=
  c.logGroup.toList.map fun group => ("log_group", .text group)

def sourceLines (c : Config) : List (String × Scalar) := [("endpoint", .text c.endpoint)]

def headerLines (c : Config) : List (String × Scalar) := c.headers.map fun h => (h.1, .text h.2)

def settingTables (c : Config) : List (String × List (String × Scalar)) :=
  [("stream", [("poll_interval_ms", .number c.pollInterval),
      ("channel_capacity", .number c.channelCapacity)]),
    ("query", [("mode", .text c.queryMode), ("limit", .number c.queryLimit)]),
    ("ui", [("buffer_size", .number c.bufferSize), ("theme", .text c.theme),
      ("tick_rate_ms", .number c.tickRate)]),
    ("keymap", Action.all.map fun a => (a.name, .text (c.keys a)))]

def allTables (c : Config) : List (String × List (String × Scalar)) :=
  c.settingTables ++ [("backend", c.sourceLines)]

def tree (c : Config) : Entries :=
  leaves c.topLines ++ tableNodes c.settingTables ++
    [("backend", .table .header
      (leaves c.sourceLines ++ [("headers", .table .header (leaves c.headerLines))]))]

/-- The configuration with a change made to it; one that is refused changes nothing. -/
def changed (c : Config) (change : String × String) : Config :=
  match c.setNamed change.1 change.2 with
  | .ok c' => c'
  | .error _ => c

def after (changes : List (String × String)) : Config := changes.foldl changed {}

/-- The numbers are signed ones. -/
def NumbersFit (c : Config) : Prop := ∀ n ∈ c.numbers, (n : Int) ≤ Number.maxSigned

/-- What every change keeps. -/
structure Kept (c : Config) : Prop where
  limit : c.queryLimit ≤ maxQueryLimit
  headers : Json.InOrder c.headers

variable {c c' : Config}

theorem fileText_toList (c : Config) :
    c.fileText.toList = (lines c.topLines ++ if c.logGroup.isSome then ['\n'] else []) ++
      tablesLines c.allTables ++ tableLines ["backend"] "headers" c.headerLines := by
  unfold fileText
  cases hgroup : c.logGroup <;>
    simp [hgroup, topLines, allTables, settingTables, sourceLines, headerLines, tablesLines,
      tableLines, lines, dotted, Scalar.line, Action.all, List.flatMap_map]

theorem head_fileText (c : Config) : c.fileText.toList.head? ≠ some '\ufeff' := by
  rw [fileText_toList]
  cases hgroup : c.logGroup with
  | none => simp [hgroup, topLines, allTables, settingTables, tablesLines, tableLines, lines]
  | some group =>
    simp only [topLines, hgroup, Option.toList_some, List.map_cons, lines, List.flatMap_cons,
      List.append_assoc]
    exact head_line _ _ _

theorem reads_top (c : Config) :
    Reads {} (lines c.topLines ++ if c.logGroup.isSome then ['\n'] else [])
      ⟨leaves c.topLines, []⟩ := by
  have hlines : Reads {} (lines c.topLines) ⟨leaves c.topLines, []⟩ := by
    refine reads_lines frames_root ?_ ?_
    · simp [topLines, Scalar.Fits]
    · cases hgroup : c.logGroup <;> simp [topLines, hgroup]
  split
  · exact hlines.trans (reads_newline _)
  · exact hlines.trans (Reads.refl _)

theorem allTables_names (c : Config) :
    c.allTables.map (·.1) = ["stream", "query", "ui", "keymap", "backend"] := rfl

theorem fits_allTables (hn : c.NumbersFit) : ∀ t ∈ c.allTables, ∀ e ∈ t.2, e.2.Fits := by
  have hnumbers : ∀ n ∈ c.numbers, (Scalar.number n).Fits := hn
  simp only [numbers, List.forall_mem_cons] at hnumbers
  simp only [allTables, settingTables, sourceLines, List.cons_append, List.nil_append,
    List.forall_mem_cons, List.forall_mem_map, List.not_mem_nil, false_implies, implies_true,
    Scalar.fits_text, hnumbers, and_self]

theorem reads_allTables (hn : c.NumbersFit) :
    ∃ last, Reads ⟨leaves c.topLines, []⟩ (tablesLines c.allTables)
      ⟨leaves c.topLines ++ tableNodes c.allTables, last⟩ := by
  have hkeys : c.allTables.map (fun t => t.2.map (·.1)) =
      [["poll_interval_ms", "channel_capacity"], ["mode", "limit"],
        ["buffer_size", "theme", "tick_rate_ms"], Action.all.map Action.name, ["endpoint"]] := rfl
  refine reads_tables ?_ (fits_allTables hn) ?_ ?_
  · rw [allTables_names]
    decide
  · rw [hkeys]
    decide
  · rw [allTables_names]
    cases hgroup : c.logGroup <;> simp [topLines, leaves, hgroup]

theorem reads_fileText (hn : c.NumbersFit) (hh : Json.InOrder c.headers) :
    ∃ last, Reads {} c.fileText.toList ⟨c.tree, last⟩ := by
  obtain ⟨last, htables⟩ := reads_allTables hn
  have hnodes : leaves c.topLines ++ tableNodes c.allTables = leaves c.topLines ++
      tableNodes c.settingTables ++ [("backend", .table .header (leaves c.sourceLines))] := by
    simp [allTables, tableNodes]
  -- The table of the headers lies within the last table, so that all before it is a frame.
  have hframe : Frames ["backend"] fun inner => leaves c.topLines ++ tableNodes c.settingTables ++
      [("backend", .table .header inner)] := by
    refine frames_root.table ?_
    cases hgroup : c.logGroup <;> simp [settingTables, topLines, leaves, tableNodes, hgroup]
  have hheaders : Reads ⟨leaves c.topLines ++ tableNodes c.allTables, last⟩
      (tableLines ["backend"] "headers" c.headerLines) ⟨c.tree, ["backend", "headers"]⟩ := by
    rw [hnodes]
    refine reads_table hframe ?_ (by decide) (by decide) ?_ ?_
    · simp [leaves, sourceLines]
    · simp only [headerLines, List.forall_mem_map, Scalar.fits_text, implies_true]
    · simpa [headerLines, Function.comp_def] using hh.nodup
  refine ⟨["backend", "headers"], ?_⟩
  rw [fileText_toList]
  exact ((reads_top c).trans htables).trans hheaders

@[simp] theorem field?_nil {α : Type} (read : Value → Option α) (default : α) (key : String) :
    field? read default key [] = some default := rfl

@[simp] theorem field?_cons {α : Type} (read : Value → Option α) (default : α) (key k : String)
    (v : Value) (entries : List (String × Value)) :
    field? read default key ((k, v) :: entries) =
      if k = key then read v else field? read default key entries := by
  by_cases hk : k = key <;> simp [field?, Json.valueAt?, hk]

@[simp] theorem natOf_natCast (n : Nat) : natOf (.integer n) = some n := by simp [natOf]

@[simp] theorem textOf_string (s : String) : textOf (.string s) = some s := rfl

theorem keysOf_names (keys : Action → String) :
    keysOf (.table (Action.all.map fun a => (a.name, .string (keys a)))) = some keys := by
  have hnames : (Action.all.mapM fun a =>
      (field? textOf a.defaultKey a.name (Action.all.map fun a => (a.name, .string (keys a)))).map
        fun name => (a, name)) = some (Action.all.map fun a => (a, keys a)) := by
    simp [Action.all, Action.name]
  have hkeys : (fun a => (((Action.all.map fun a => (a, keys a)).find? (·.1 == a)).map
      (·.2)).getD a.defaultKey) = keys := by
    funext a
    cases a <;> rfl
  simp only [keysOf, fields?, Option.bind_eq_bind, Option.bind_some, hnames, hkeys]

theorem mapM_textOf (headers : List (String × String)) :
    ((headers.map fun h => (h.1, Value.string h.2)).mapM fun (k, v) => (textOf v).map (k, ·)) =
      some headers := by
  induction headers with
  | nil => rfl
  | cons h headers ih => simp [ih]

theorem headersOf_texts {headers : List (String × String)} (hh : Json.InOrder headers) :
    headersOf (.table (headers.map fun h => (h.1, .string h.2))) = some headers := by
  simp only [headersOf, Option.bind_eq_bind, mapM_textOf, Option.bind_some,
    Json.sortEntries_of_inOrder hh]

theorem entryValues_tree (c : Config) : entryValues c.tree =
    (c.logGroup.toList.map fun group => ("log_group", Value.string group)) ++
      [("stream", .table [("poll_interval_ms", .integer c.pollInterval),
          ("channel_capacity", .integer c.channelCapacity)]),
        ("query", .table [("mode", .string c.queryMode), ("limit", .integer c.queryLimit)]),
        ("ui", .table [("buffer_size", .integer c.bufferSize), ("theme", .string c.theme),
          ("tick_rate_ms", .integer c.tickRate)]),
        ("keymap", .table (Action.all.map fun a => (a.name, .string (c.keys a)))),
        ("backend", .table [("endpoint", .string c.endpoint),
          ("headers", .table (c.headers.map fun h => (h.1, .string h.2)))])] := by
  simp [tree, entryValues_append, entryValues_leaves, entryValues_tableNodes, entryValues,
    Node.value, Scalar.value, topLines, settingTables, sourceLines, headerLines, Function.comp_def]

theorem ofTables_tree (hh : Json.InOrder c.headers) : ofTables (entryValues c.tree) = some c := by
  have hheaders := headersOf_texts hh
  have hkeys := keysOf_names c.keys
  rw [entryValues_tree]
  obtain ⟨logGroup, _⟩ := c
  cases logGroup with
  | none => simp [ofTables, fields?, hkeys, hheaders]
  | some group => simp [ofTables, fields?, hkeys, hheaders]

theorem ofText?_fileText (hn : c.NumbersFit) (hh : Json.InOrder c.headers) :
    ofText? c.fileText = some c := by
  obtain ⟨last, hreads⟩ := reads_fileText hn hh
  rw [ofText?, read_of_reads (head_fileText c) hreads, Option.bind_eq_bind, Option.bind_some,
    ofTables_tree hh]

/-- What every change of a setting keeps holds after any changes. -/
theorem foldl_changed_keeps {P : Config → Prop}
    (hstep : ∀ {c c' : Config} {s : Setting} {text : String}, Sets c text s c' → P c → P c')
    (h : P c) (changes : List (String × String)) : P (changes.foldl changed c) := by
  induction changes generalizing c with
  | nil => exact h
  | cons change changes ih =>
    refine ih ?_
    rw [changed]
    split
    · rename_i c' hset
      obtain ⟨s, -, hsets⟩ := sets_of_setNamed hset
      exact hstep hsets h
    · exact h

theorem Sets.kept {s : Setting} {text : String} (hsets : Sets c text s c') (h : c.Kept) :
    c'.Kept := by
  refine ⟨?_, hsets.inOrder h.headers⟩
  cases hsets with
  | queryLimit hread hpos hmax => exact hmax
  | _ => exact h.limit

theorem kept_after (changes : List (String × String)) : (after changes).Kept := by
  have hdefault : Kept {} := ⟨Nat.le_refl maxQueryLimit, List.Pairwise.nil⟩
  exact foldl_changed_keeps Sets.kept hdefault changes

theorem save_eq_ok {file : ConfigFile} :
    c.save = .ok file ↔ c.NumbersFit ∧ file = .text c.fileText := by
  have hall : (c.numbers.all fun n => decide ((n : Int) ≤ Number.maxSigned)) = true ↔
      c.NumbersFit := by simp [NumbersFit]
  rw [save]
  split
  · rename_i h
    simp [hall.mp h, eq_comm]
  · rename_i h
    simp [mt hall.mpr h]

/-- A configuration that changes lead to can be saved exactly when those of its numbers that have
no bound of their own are signed ones, and the file is loaded back as this configuration. -/
theorem saved_loads_back (changes : List (String × String)) :
    ((∃ file, (after changes).save = .ok file) ↔
      ∀ n ∈ [(after changes).pollInterval, (after changes).channelCapacity,
        (after changes).bufferSize, (after changes).tickRate], (n : Int) ≤ Number.maxSigned) ∧
    ∀ file, (after changes).save = .ok file → load file = .ok (after changes, false) := by
  obtain ⟨hlimit, hheaders⟩ := kept_after changes
  constructor
  · -- The limit of a query has a bound of its own, which is a signed number.
    have hfits : ((after changes).queryLimit : Int) ≤ Number.maxSigned :=
      Int.le_trans (Int.ofNat_le.mpr hlimit) (by decide)
    simp only [save_eq_ok, exists_and_left, exists_eq, and_true, NumbersFit, numbers,
      List.forall_mem_cons, hfits, true_and]
  · intro file hsave
    obtain ⟨hn, rfl⟩ := save_eq_ok.mp hsave
    simp only [load, ofText?_fileText hn hheaders]

theorem saved_loads_back_of_odd_header :
    ∃ c, c = after [("backend.headers.\"a\"\n", "b\t'"),
        ("ui.buffer_size", "9223372036854775807")] ∧
      c.headers = [("\"a\"\n", "b\t'")] ∧ c.bufferSize = 9223372036854775807 ∧
        ∃ file, c.save = .ok file ∧ load file = .ok (c, false) := by
  have hback := saved_loads_back
    [("backend.headers.\"a\"\n", "b\t'"), ("ui.buffer_size", "9223372036854775807")]
  obtain ⟨file, hsave⟩ := hback.1.mpr (by decide)
  exact ⟨_, rfl, by decide, by decide, file, hsave, hback.2 file hsave⟩

/-- A number that is no signed one is taken as a change, but it cannot be saved. -/
theorem overlarge_number_not_saved :
    (after [("ui.buffer_size", "9223372036854775808")]).getNamed "ui.buffer_size" =
        .ok "9223372036854775808" ∧
      (after [("ui.buffer_size", "9223372036854775808")]).save =
        .error ⟨"Failed to serialize config", ["out-of-range value for u64 type"]⟩ := by
  decide

end LogFollow.Config
