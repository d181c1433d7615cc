import LogFollow.CommandLine.Run
import LogFollow.Proofs.Config.Saved

/-!
# The command that changes a setting

The command loads the configuration, changes one setting of it and saves the whole. It writes last,
so that a failure leaves the file alone. What it writes is loaded back, for the headers of a loaded
configuration are in order and a change keeps them so.
-/

namespace LogFollow
set_option autoImplicit false

@[simp] theorem ConfigFile.ofContents_text (s : String) :
    ofContents (some s.toUTF8) = .text s := by
  have hread : String.fromUTF8? s.toUTF8 = some s := dif_pos s.isValidUTF8
  simp only [ofContents, hread]

theorem ConfigFile.contents_of_text {before : Option ByteArray} {s : String}
    (h : ofContents before = .text s) : before = some s.toUTF8 := by
  cases before with
  | none => cases h
  | some bytes =>
    rw [ofContents, String.fromUTF8?] at h
    by_cases hbytes : bytes.IsValidUTF8
    · rw [dif_pos hbytes] at h
      cases h
      rfl
    · rw [dif_neg hbytes] at h
      cases h

namespace Config

variable {c : Config}

theorem inOrder_of_headersOf {v : Toml.Value} {headers : List (String × String)}
    (h : headersOf v = some headers) : Json.InOrder headers := by
  cases v with
  | table entries =>
    obtain ⟨texts, -, h⟩ := Option.bind_eq_some_iff.mp h
    cases h
    exact Json.inOrder_sortEntries texts
  | moment text =>
    cases h
    exact List.pairwise_singleton _ _
  | _ => cases h

theorem inOrder_of_ofTables {root : List (String × Toml.Value)} (h : ofTables root = some c) :
    Json.InOrder c.headers := by
  -- Each part is read in turn, and the headers are the last one.
  obtain ⟨stream, -, h⟩ := Option.bind_eq_some_iff.mp h
  obtain ⟨query, -, h⟩ := Option.bind_eq_some_iff.mp h
  obtain ⟨ui, -, h⟩ := Option.bind_eq_some_iff.mp h
  obtain ⟨backend, -, h⟩ := Option.bind_eq_some_iff.mp h
  obtain ⟨logGroup, -, h⟩ := Option.bind_eq_some_iff.mp h
  obtain ⟨pollInterval, -, h⟩ := Option.bind_eq_some_iff.mp h
  obtain ⟨channelCapacity, -, h⟩ := Option.bind_eq_some_iff.mp h
  obtain ⟨queryMode, -, h⟩ := Option.bind_eq_some_iff.mp h
  obtain ⟨queryLimit, -, h⟩ := Option.bind_eq_some_iff.mp h
  obtain ⟨bufferSize, -, h⟩ := Option.bind_eq_some_iff.mp h
  obtain ⟨theme, -, h⟩ := Option.bind_eq_some_iff.mp h
  obtain ⟨tickRate, -, h⟩ := Option.bind_eq_some_iff.mp h
  obtain ⟨keys, -, h⟩ := Option.bind_eq_some_iff.mp h
  obtain ⟨endpoint, -, h⟩ := Option.bind_eq_some_iff.mp h
  obtain ⟨headers, hheaders, h⟩ := Option.bind_eq_some_iff.mp h
  cases h
  rw [field?] at hheaders
  split at hheaders
  · cases hheaders
    exact List.Pairwise.nil
  · exact inOrder_of_headersOf hheaders

theorem inOrder_of_load {file : ConfigFile} {warned : Bool} (h : load file = .ok (c, warned)) :
    Json.InOrder c.headers := by
  cases file with
  | absent =>
    cases h
    exact List.Pairwise.nil
  | undecodable => cases h
  | text s =>
    rw [load] at h
    split at h
    · rename_i read hread
      cases h
      obtain ⟨root, -, htables⟩ := Option.bind_eq_some_iff.mp hread
      exact inOrder_of_ofTables htables
    · cases h
      exact List.Pairwise.nil

end Config

namespace CommandLine

variable {command : Command} {file : ConfigFile} {key value path : String} {f : Failure}
variable {c c' : Config} {warned : Bool} {before : Option ByteArray} {r : Report}

theorem contents_of_same (h : r.file = .ofContents before) : r.contents before = before := by
  rw [Report.contents]
  split
  · rename_i s hfile
    exact (ConfigFile.contents_of_text (h ▸ hfile)).symm
  · rfl

theorem file_or_ok (command : Command) (file : ConfigFile) (path : String) :
    (runCommand command file path).file = file ∨
      (runCommand command file path).result = .ok () := by
  rw [runCommand]
  split
  · exact .inl rfl
  · cases command with
    | get key? =>
      left
      cases key? with
      | none => rfl
      | some key =>
        dsimp only
        split <;> rfl
    | set key value =>
      dsimp only
      split
      · exact .inl rfl
      · split
        · exact .inl rfl
        · -- Writing the file comes last, and the command then ends well.
          exact .inr rfl

theorem file_of_error (h : (runCommand command file path).result = .error f) :
    (runCommand command file path).file = file := by
  rcases file_or_ok command file path with hsame | hok
  · exact hsame
  · rw [hok] at h
    cases h

theorem runCommand_set (hload : Config.load file = .ok (c, warned))
    (hset : c.setNamed key value = .ok c') (hfit : c'.NumbersFit) :
    runCommand (.set key value) file path =
      { output := s!"✅ Set {key} = {value}\nConfig file: {path}\n"
        warned := warned
        file := .text c'.fileText } := by
  have hsave := Config.save_eq_ok.mpr ⟨hfit, rfl⟩
  simp only [runCommand, hload, hset, hsave]

theorem runCommand_set_ok :
    (runCommand (.set key value) file path).result = .ok () ↔
      ∃ c warned c', Config.load file = .ok (c, warned) ∧ c.setNamed key value = .ok c' ∧
        c'.NumbersFit := by
  constructor
  · intro h
    rw [runCommand] at h
    split at h
    · cases h
    · rename_i c warned hload
      dsimp only at h
      split at h
      · cases h
      · rename_i c' hset
        split at h
        · cases h
        · rename_i saved hsave
          exact ⟨c, warned, c', hload, hset, (Config.save_eq_ok.mp hsave).1⟩
  · rintro ⟨c, warned, c', hload, hset, hfit⟩
    rw [runCommand_set hload hset hfit]

/-- The command that changes a setting leaves the file as it was, byte by byte, unless the file can
be read, the setting takes the text and the numbers can be written. Then the file is loaded as the
configuration before with this setting changed and no other, and the same command once more leaves
its bytes alone. -/
theorem set_all_or_nothing (key value path : String) (before : Option ByteArray) :
    let r := runCommand (.set key value) (.ofContents before) path
    let after := r.contents before
    let again := runCommand (.set key value) (.ofContents after) path
    (r.result = .ok () ↔
      ∃ c warned c', Config.load (.ofContents before) = .ok (c, warned) ∧
        c.setNamed key value = .ok c' ∧ c'.NumbersFit) ∧
    (∀ f, r.result = .error f → after = before) ∧
    (r.result = .ok () →
      (∃ c warned c', Config.load (.ofContents before) = .ok (c, warned) ∧
        c.setNamed key value = .ok c' ∧ Config.load (.ofContents after) = .ok (c', false) ∧
        (c'.getNamed key).toOption = (Setting.ofName? key).bind (·.held value) ∧
        ∀ other, other ≠ key → c'.getNamed other = c.getNamed other) ∧
      again.result = .ok () ∧ again.contents after = after) := by
  intro r after again
  refine ⟨runCommand_set_ok, ?_, ?_⟩
  · intro f hf
    exact contents_of_same (file_of_error hf)
  · intro hok
    obtain ⟨c, warned, c', hload, hset, hfit⟩ := runCommand_set_ok.mp hok
    have hr : r.file = .text c'.fileText := by
      simp only [r, runCommand_set hload hset hfit]
    have hafter : ConfigFile.ofContents after = .text c'.fileText := by
      simp only [after, Report.contents, hr, ConfigFile.ofContents_text]
    have hheaders : Json.InOrder c'.headers := by
      obtain ⟨s, -, hsets⟩ := Config.sets_of_setNamed hset
      exact hsets.inOrder (Config.inOrder_of_load hload)
    have hback : Config.load (.ofContents after) = .ok (c', false) := by
      rw [hafter, Config.load, Config.ofText?_fileText hfit hheaders]
    -- The second command finds the setting as it leaves it.
    have htwice := Config.setNamed_again hset
    have hagain : again.file = .ofContents after := by
      rw [hafter]
      simp only [again, runCommand_set hback htwice hfit]
    refine ⟨⟨c, warned, c', hload, hset, hback, Config.getNamed_of_setNamed hset, ?_⟩, ?_, ?_⟩
    · intro other hne
      exact Config.getNamed_of_ne hset hne
    · exact runCommand_set_ok.mpr ⟨c', false, c', hback, htwice, hfit⟩
    · exact contents_of_same hagain

theorem set_all_or_nothing_of_theme :
    let before := some "[ui]\nbuffer_size = 5\n".toUTF8
    let r := runCommand (.set "ui.theme" "DARK") (.ofContents before) "config.toml"
    let refused := runCommand (.set "ui.theme" "blue") (.ofContents before) "config.toml"
    r.result = .ok () ∧
      (∃ c, Config.load (.ofContents (r.contents before)) = .ok (c, false) ∧
        (c.getNamed "ui.theme").toOption = some "dark" ∧ c.getNamed "ui.buffer_size" = .ok "5") ∧
      refused.result = .error ⟨"Invalid theme: 'blue'. Valid themes: dark, light, auto", []⟩ ∧
      refused.contents before = before := by
  intro before r refused
  have htext : ConfigFile.ofContents before = .text "[ui]\nbuffer_size = 5\n" :=
    ConfigFile.ofContents_text _
  have hok : r.result = .ok () := by
    simp only [r, htext]
    decide +kernel
  have hrefused :
      refused.result = .error ⟨"Invalid theme: 'blue'. Valid themes: dark, light, auto", []⟩ := by
    simp only [refused, htext]
    decide +kernel
  have hsize : (Config.load (.ofContents before)).map (fun p => p.1.getNamed "ui.buffer_size") =
      .ok (.ok "5") := by
    rw [htext]
    decide +kernel
  obtain ⟨-, -, hdone⟩ := set_all_or_nothing "ui.theme" "DARK" "config.toml" before
  obtain ⟨-, hkept, -⟩ := set_all_or_nothing "ui.theme" "blue" "config.toml" before
  obtain ⟨⟨c, warned, c', hload, -, hback, htheme, hothers⟩, -⟩ := hdone hok
  rw [hload] at hsize
  refine ⟨hok, ⟨c', hback, ?_, ?_⟩, hrefused, hkept _ hrefused⟩
  · rw [htheme]
    decide +kernel
  · rw [hothers "ui.buffer_size" (by decide)]
    exact Except.ok.inj hsize

end CommandLine
end LogFollow
