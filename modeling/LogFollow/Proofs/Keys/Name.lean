import LogFollow.Proofs.Text.Lowercase
import LogFollow.Proofs.Text.Trim

/-!
# Names of chords and what triggers them

A name is some modifiers in any order and case, and then a key: one of the named ones in any case or
any single character. No text can be read as a name in two ways, so the chord of a name is the key
with the set of its modifiers, and it accepts the presses with that key and that set.
-/

namespace LogFollow.Chord
set_option autoImplicit false

open Text

def Modifier.written : Modifier → List Char
  | .ctrl => ['c', 't', 'r', 'l', '+']
  | .alt => ['a', 'l', 't', '+']

/-- A text begins with modifiers, in any case, and the rest stands behind them. -/
inductive Leads : List Char → List Modifier → List Char → Prop
  | nil (rest : List Char) : Leads rest [] rest
  | cons {head cs rest : List Char} {m : Modifier} {ms : List Modifier}
      (hhead : head.map Char.toLower = m.written) (h : Leads cs ms rest) :
      Leads (head ++ cs) (m :: ms) rest

def keyNames : List (String × Key) :=
  [("tab", .tab), ("enter", .enter), ("return", .enter), ("esc", .esc), ("escape", .esc),
    ("space", .char ' '), ("up", .up), ("down", .down), ("left", .left), ("right", .right),
    ("pageup", .pageUp), ("pagedown", .pageDown), ("home", .home), ("end", .atEnd)]

inductive NamesKey : List Char → Key → Prop
  | named {cs : List Char} {word : String} {key : Key} (hword : (word, key) ∈ keyNames)
      (hcs : cs.map Char.toLower = word.toList) : NamesKey cs key
  | char (c : Char) : NamesKey [c] (.char c)

/-- A name with its modifiers and its key, perhaps between white space. -/
def Names (name : String) (ms : List Modifier) (key : Key) : Prop :=
  ∃ core rest, HasCore isBlank name.toList core ∧ Leads core ms rest ∧ NamesKey rest key

variable {cs head rest : List Char} {m : Modifier} {ms : List Modifier} {key : Key}
  {word name : String} {chord : Chord}

/-! Modifiers -/

theorem map_asciiLower (cs : List Char) : cs.map asciiLower = cs.map Char.toLower :=
  List.map_congr_left fun c _ => asciiLower_eq_toLower c

theorem takeModifier_eq (cs : List Char) : takeModifier cs =
    if (cs.take 5).map Char.toLower = Modifier.ctrl.written then some (.ctrl, cs.drop 5)
    else if (cs.take 4).map Char.toLower = Modifier.alt.written then some (.alt, cs.drop 4)
    else none := by
  rw [takeModifier, map_asciiLower, map_asciiLower]
  rfl

theorem utf8ByteSize_of_ascii (h : ∀ c ∈ cs, c.toNat < 0x80) :
    (String.ofList cs).utf8ByteSize = cs.length := by
  induction cs with
  | nil => rfl
  | cons c cs ih =>
    rw [List.forall_mem_cons] at h
    have hsize : c.utf8Size = 1 := Char.utf8Size_eq_one_iff.mpr (Nat.le_of_lt_succ h.1)
    rw [String.ofList_cons, String.utf8ByteSize_append, String.utf8ByteSize_singleton, hsize,
      ih h.2, List.length_cons, Nat.add_comm]

theorem length_written (m : Modifier) : 4 ≤ m.written.length := by
  cases m <;> decide

theorem plus_mem_written (m : Modifier) : '+' ∈ m.written := by
  cases m <;> decide

theorem ascii_of_mem_written : ∀ c ∈ m.written, c.toNat < 0x80 := by
  have hall : m.written.all fun c => c.toNat < 0x80 := by
    cases m <;> decide
  simpa only [List.all_eq_true, decide_eq_true_eq] using hall

theorem length_of_written (h : head.map Char.toLower = m.written) :
    head.length = m.written.length := by
  rw [← h, List.length_map]

/-- A text whose first four characters spell `alt+` does not go on to spell `ctrl+`. -/
theorem take_five_ne (h : head.map Char.toLower = Modifier.alt.written) (cs : List Char) :
    ((head ++ cs).take 5).map Char.toLower ≠ Modifier.ctrl.written := by
  intro hctrl
  have hlength : head.length = 4 := length_of_written h
  have hfour : (((head ++ cs).take 5).take 4).map Char.toLower = Modifier.ctrl.written.take 4 := by
    rw [List.map_take, hctrl]
  rw [List.take_take, Nat.min_eq_left (by decide), List.take_left' hlength, h] at hfour
  exact absurd hfour (by decide)

theorem takeModifier_append (h : head.map Char.toLower = m.written) (cs : List Char) :
    takeModifier (head ++ cs) = some (m, cs) := by
  cases m with
  | ctrl =>
    have hlength : head.length = 5 := length_of_written h
    rw [takeModifier_eq, List.take_left' hlength, List.drop_left' hlength, if_pos h]
  | alt =>
    have hlength : head.length = 4 := length_of_written h
    rw [takeModifier_eq, if_neg (take_five_ne h cs), List.take_left' hlength,
      List.drop_left' hlength, if_pos h]

theorem takeModifier_eq_some_iff : takeModifier cs = some (m, rest) ↔
    ∃ head, cs = head ++ rest ∧ head.map Char.toLower = m.written := by
  constructor
  · intro h
    rw [takeModifier_eq] at h
    split_ifs at h with hctrl halt
    · cases h
      exact ⟨cs.take 5, (List.take_append_drop 5 cs).symm, hctrl⟩
    · cases h
      exact ⟨cs.take 4, (List.take_append_drop 4 cs).symm, halt⟩
  · rintro ⟨head, rfl, h⟩
    exact takeModifier_append h rest

theorem takeModifiers_of_none (h : takeModifier cs = none) : takeModifiers cs = ([], cs) := by
  rw [takeModifiers]
  split
  · simp_all
  · rfl

theorem takeModifiers_of_some (h : takeModifier cs = some (m, rest)) :
    takeModifiers cs = (m :: (takeModifiers rest).1, (takeModifiers rest).2) := by
  rw [takeModifiers]
  split
  · simp_all
  · simp_all

theorem Leads.takeModifiers_eq (h : Leads cs ms rest) (hrest : takeModifier rest = none) :
    takeModifiers cs = (ms, rest) := by
  induction h with
  | nil rest => exact takeModifiers_of_none hrest
  | cons hhead _ ih => rw [takeModifiers_of_some (takeModifier_append hhead _), ih hrest]

theorem leads_takeModifiers (cs : List Char) :
    Leads cs (takeModifiers cs).1 (takeModifiers cs).2 := by
  induction cs using takeModifiers.induct with
  | case1 cs m rest htaken _ _ _ ih =>
    obtain ⟨head, rfl, hhead⟩ := takeModifier_eq_some_iff.mp htaken
    rw [takeModifiers_of_some htaken]
    exact .cons hhead ih
  | case2 cs htaken =>
    rw [takeModifiers_of_none htaken]
    exact .nil cs

/-! Keys -/

theorem mem_keyNames (h : (word, key) ∈ keyNames) : 2 ≤ word.toList.length ∧
    ∀ x ∈ word.toList, x ≠ '+' ∧ x.toNat < 0x80 ∧ x ≠ 'k' := by
  have hall : ∀ entry ∈ keyNames, 2 ≤ entry.1.toList.length ∧
      entry.1.toList.all fun x => x ≠ '+' ∧ x.toNat < 0x80 ∧ x ≠ 'k' := by
    decide
  simpa only [List.all_eq_true, decide_eq_true_eq] using hall (word, key) h

theorem ofName?_eq_some_iff : Key.ofName? word = some key ↔ (word, key) ∈ keyNames := by
  constructor
  · intro h
    unfold Key.ofName? at h
    split at h <;> cases h <;> decide
  · have hall : ∀ entry ∈ keyNames, Key.ofName? entry.1 = some entry.2 := by
      decide
    exact hall (word, key)

/-- None of the names can be written with characters outside of ASCII. -/
theorem ofName?_lower_eq_some_iff : Key.ofName? (String.ofList (cs.flatMap lower)) = some key ↔
    ∃ word, (word, key) ∈ keyNames ∧ cs.map Char.toLower = word.toList := by
  rw [ofName?_eq_some_iff]
  constructor
  · intro h
    refine ⟨_, h, ?_⟩
    rw [← flatMap_lower_eq_iff fun x hx => ((mem_keyNames h).2 x hx).2, String.toList_ofList]
  · rintro ⟨word, h, hcs⟩
    rw [← flatMap_lower_eq_iff fun x hx => ((mem_keyNames h).2 x hx).2] at hcs
    rwa [hcs, String.ofList_toList]

theorem keyOf_eq_some_iff : keyOf cs = some key ↔ NamesKey cs key := by
  constructor
  · intro h
    unfold keyOf at h
    split at h
    · rename_i hname
      cases h
      obtain ⟨word, hword, hcs⟩ := ofName?_lower_eq_some_iff.mp hname
      exact .named hword hcs
    · split at h
      · cases h
        exact .char _
      · cases h
  · rintro (⟨hword, hcs⟩ | ⟨c⟩)
    · simp only [keyOf, ofName?_lower_eq_some_iff.mpr ⟨_, hword, hcs⟩]
    · unfold keyOf
      split
      · rename_i hname
        obtain ⟨word, hword, hcs⟩ := ofName?_lower_eq_some_iff.mp hname
        have hlong := (mem_keyNames hword).1
        rw [← hcs, List.length_map, List.length_singleton] at hlong
        omega
      · rfl

/-- No key is named by a text that begins with a modifier. -/
theorem NamesKey.takeModifier_eq_none (h : NamesKey cs key) : takeModifier cs = none := by
  rw [Option.eq_none_iff_forall_ne_some]
  rintro ⟨m, rest⟩ htaken
  obtain ⟨head, rfl, hhead⟩ := takeModifier_eq_some_iff.mp htaken
  generalize hwhole : head ++ rest = cs at h
  cases h with
  | named hword hcs =>
    have hplus : '+' ∈ (head ++ rest).map Char.toLower := by
      rw [List.map_append, hhead]
      exact List.mem_append_left _ (plus_mem_written m)
    rw [hwhole, hcs] at hplus
    exact ((mem_keyNames hword).2 _ hplus).1 rfl
  | char c =>
    have hlong := length_written m
    have hshort := congrArg List.length hwhole
    rw [← hhead, List.length_map] at hlong
    rw [List.length_append, List.length_singleton] at hshort
    omega

/-! Chords -/

theorem Names.ofName?_eq (h : Names name ms key) :
    ofName? name = some ⟨key, ms.contains .ctrl, ms.contains .alt⟩ := by
  obtain ⟨core, rest, hcore, hlead, hkey⟩ := h
  rw [ofName?, trimList_eq_iff.mpr hcore, hlead.takeModifiers_eq hkey.takeModifier_eq_none]
  simp only [keyOf_eq_some_iff.mpr hkey, Option.map_some]

theorem Names.unique {ms' : List Modifier} {key' : Key} (h : Names name ms key)
    (h' : Names name ms' key') : ms = ms' ∧ key = key' := by
  obtain ⟨core, rest, hcore, hlead, hkey⟩ := h
  obtain ⟨core', rest', hcore', hlead', hkey'⟩ := h'
  obtain rfl : core = core' := hcore.trimList_eq.symm.trans hcore'.trimList_eq
  have hcut := hlead.takeModifiers_eq hkey.takeModifier_eq_none
  rw [hlead'.takeModifiers_eq hkey'.takeModifier_eq_none] at hcut
  obtain ⟨rfl, rfl⟩ := Prod.mk.inj hcut
  rw [← keyOf_eq_some_iff] at hkey hkey'
  exact ⟨rfl, Option.some.inj (hkey.symm.trans hkey')⟩

theorem exists_names_of_ofName? (h : ofName? name = some chord) :
    ∃ ms, Names name ms chord.key ∧ chord = ⟨chord.key, ms.contains .ctrl, ms.contains .alt⟩ := by
  rw [ofName?] at h
  obtain ⟨key, hkey, rfl⟩ := Option.map_eq_some_iff.mp h
  exact ⟨_, ⟨_, _, hasCore_trimList isBlank _, leads_takeModifiers _, keyOf_eq_some_iff.mp hkey⟩,
    rfl⟩

theorem ofName?_eq_some_iff_names : ofName? name = some chord ↔ ∃ ms, Names name ms chord.key ∧
    (chord.ctrl = true ↔ .ctrl ∈ ms) ∧ (chord.alt = true ↔ .alt ∈ ms) := by
  constructor
  · intro h
    obtain ⟨ms, hnames, hchord⟩ := exists_names_of_ofName? h
    refine ⟨ms, hnames, ?_, ?_⟩
    · rw [hchord, List.contains_iff_mem]
    · rw [hchord, List.contains_iff_mem]
  · rintro ⟨ms, hnames, hctrl, halt⟩
    rw [← List.contains_iff_mem, ← Bool.eq_iff_iff] at hctrl halt
    rw [hnames.ofName?_eq, ← hctrl, ← halt]

/-- The modifiers of a name count as a set. -/
theorem Names.ofName?_congr {name' : String} {ms' : List Modifier} (h : Names name ms key)
    (h' : Names name' ms' key) (hms : ∀ m, m ∈ ms ↔ m ∈ ms') : ofName? name = ofName? name' := by
  have hcontains (m : Modifier) : ms.contains m = ms'.contains m := by
    rw [Bool.eq_iff_iff, List.contains_iff_mem, List.contains_iff_mem]
    exact hms m
  rw [h.ofName?_eq, h'.ofName?_eq, hcontains, hcontains]

/-! Presses -/

/-- The place of a modifier among the flags of a press. Shift is at place 0, and the keys that count
for no chord are from place 3 on. -/
def Modifier.flag : Modifier → Nat
  | .ctrl => 1
  | .alt => 2

/-- A press as the terminal reports it, with a flag for each modifier that is held. -/
def pressOf (key : Key) (flags : BitVec 8) : KeyPress where
  key := key
  ctrl := flags.getLsbD Modifier.ctrl.flag
  alt := flags.getLsbD Modifier.alt.flag
  shift := flags.getLsbD 0

theorem accepts_pressOf_iff (key pressed : Key) (ms : List Modifier) (flags : BitVec 8) :
    (Chord.mk key (ms.contains .ctrl) (ms.contains .alt)).accepts (pressOf pressed flags) = true ↔
      key = pressed ∧ ∀ m, m ∈ ms ↔ flags.getLsbD (Modifier.flag m) = true := by
  have hflag (m : Modifier) : ms.contains m = flags.getLsbD m.flag ↔
      (m ∈ ms ↔ flags.getLsbD m.flag = true) := by
    rw [Bool.eq_iff_iff, List.contains_iff_mem]
  rw [Chord.accepts, Bool.and_eq_true, Bool.and_eq_true, beq_iff_eq, beq_iff_eq, beq_iff_eq,
    and_assoc, pressOf, hflag, hflag]
  refine and_congr_right fun _ => ⟨?_, fun h => ⟨h .ctrl, h .alt⟩⟩
  rintro ⟨hctrl, halt⟩ (_ | _)
  · exact hctrl
  · exact halt

/-- A text is the name of a chord where it is modifiers and a key between white space. The chord is
that key with the set of these modifiers, and accepts the presses of the key with just that set,
whatever else is held. A modifier is cut off behind as many bytes as it is written with. -/
theorem names_and_triggers :
    (∀ name chord, ofName? name = some chord ↔ ∃ ms, Names name ms chord.key ∧
      (chord.ctrl = true ↔ .ctrl ∈ ms) ∧ (chord.alt = true ↔ .alt ∈ ms)) ∧
    (∀ name name' ms ms' key, Names name ms key → Names name' ms' key →
      (∀ m, m ∈ ms ↔ m ∈ ms') → ofName? name = ofName? name') ∧
    (∀ name ms key, Names name ms key → ∃ chord, ofName? name = some chord ∧
      ∀ pressed flags, chord.accepts (pressOf pressed flags) = true ↔
        key = pressed ∧ ∀ m, m ∈ ms ↔ flags.getLsbD (Modifier.flag m) = true) ∧
    (∀ cs m rest, takeModifier cs = some (m, rest) ↔ ∃ head, cs = head ++ rest ∧
      (String.ofList head).utf8ByteSize = (String.ofList m.written).utf8ByteSize ∧
      head.map Char.toLower = m.written) := by
  refine ⟨fun name chord => ofName?_eq_some_iff_names, fun name name' ms ms' key => ?_,
    fun name ms key h => ⟨_, h.ofName?_eq, ?_⟩, fun cs m rest => ?_⟩
  · exact Names.ofName?_congr
  · exact fun pressed flags => accepts_pressOf_iff key pressed ms flags
  · rw [takeModifier_eq_some_iff]
    refine exists_congr fun head => and_congr_right fun _ => ⟨fun h => ⟨?_, h⟩, And.right⟩
    rw [utf8ByteSize_of_ascii (ascii_of_map_toLower ascii_of_mem_written h),
      utf8ByteSize_of_ascii ascii_of_mem_written, length_of_written h]

theorem names_and_triggers_of_pageUp :
    Names "\u3000Ctrl+ALT+ctrl+PageUp\t" [.ctrl, .alt, .ctrl] .pageUp ∧
    ofName? "\u3000Ctrl+ALT+ctrl+PageUp\t" = ofName? "alt+ctrl+pageup" ∧
    ∃ chord, ofName? "\u3000Ctrl+ALT+ctrl+PageUp\t" = some chord ∧
      chord.accepts (pressOf .pageUp 0b1111#8) = true ∧
      chord.accepts (pressOf .pageUp 0b0010#8) = false := by
  have hspelled : Leads ("Ctrl+".toList ++ ("ALT+".toList ++ ("ctrl+".toList ++ "PageUp".toList)))
      [.ctrl, .alt, .ctrl] "PageUp".toList :=
    .cons (by decide) (.cons (by decide) (.cons (by decide) (.nil _)))
  have hnames : Names "\u3000Ctrl+ALT+ctrl+PageUp\t" [.ctrl, .alt, .ctrl] .pageUp :=
    ⟨_, _, trimList_eq_iff.mp (by decide +kernel), hspelled,
      @NamesKey.named _ "pageup" _ (by decide) (by decide)⟩
  have hplain : Names "alt+ctrl+pageup" [.alt, .ctrl] .pageUp :=
    ⟨"alt+".toList ++ ("ctrl+".toList ++ "pageup".toList), _,
      trimList_eq_iff.mp (by decide +kernel),
      .cons (by decide) (.cons (by decide) (.nil _)),
      @NamesKey.named _ "pageup" _ (by decide) (by decide)⟩
  obtain ⟨chord, hchord, haccepts⟩ := names_and_triggers.2.2.1 _ _ _ hnames
  refine ⟨hnames, names_and_triggers.2.1 _ _ _ _ _ hnames hplain ?_, chord, hchord, ?_, ?_⟩
  · rintro (_ | _) <;> decide
  · rw [haccepts]
    exact ⟨rfl, by rintro (_ | _) <;> decide⟩
  · rw [Bool.eq_false_iff, ne_eq, haccepts]
    exact fun h => absurd ((h.2 .alt).mp (by decide)) (by decide)

end LogFollow.Chord
