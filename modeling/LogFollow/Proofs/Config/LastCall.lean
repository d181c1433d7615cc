import LogFollow.Proofs.Config.Assign
import LogFollow.Proofs.Number.Digits

/-!
# The last call for a setting wins

After any calls a setting shows the text of the last call for it that was not refused, in the form
in which settings show their texts. Calls for different settings can change places, and the names
that are listed are those under which something is found.
-/

namespace LogFollow
set_option autoImplicit false

namespace Setting

/-- How a setting shows a text that it was set to: nothing, if the text takes a header away. -/
def shown (s : Setting) (text : String) : Option String :=
  match s with
  | .logGroup => some (if text = "" then "<not-set>" else text)
  | .pollInterval | .channelCapacity | .queryLimit | .bufferSize | .tickRate =>
    some (Number.plainNumeral text)
  | .queryMode | .theme => some (Text.lowercase text)
  | .key _ | .endpoint => some text
  | .header _ => if text = "" then none else some text

/-- The names of the settings that are always there. -/
def fixedNames : List String :=
  ["log_group", "stream.poll_interval_ms", "stream.channel_capacity", "query.mode", "query.limit",
    "ui.buffer_size", "ui.theme", "ui.tick_rate_ms", "keymap.switch_focus", "keymap.submit",
    "keymap.quit", "keymap.scroll_up", "keymap.scroll_down", "keymap.page_up", "keymap.page_down",
    "backend.endpoint"]

theorem names_fixed : fixed.map name = fixedNames := by decide

theorem mem_fixed (s : Setting) : s ∈ fixed ∨ ∃ h, s = .header h := by
  cases s with
  | header h => exact .inr ⟨h, rfl⟩
  | key a => cases a <;> exact .inl (by decide)
  | _ => exact .inl (by decide)

theorem ofName?_fixed : ∀ s ∈ fixed, ofName? s.name = some s := by decide

theorem ofName?_header (h : String) : ofName? (headerStart ++ h) = some (.header h) := by
  have hother : ∀ s ∈ fixed, headerStart.toList.isPrefixOf s.name.toList = false := by decide
  have hnone : fixed.find? (·.name == headerStart ++ h) = none := by
    rw [List.find?_eq_none]
    intro s hs heq
    have hstart : headerStart.toList.isPrefixOf s.name.toList = true := by
      rw [List.isPrefixOf_iff_prefix, eq_of_beq heq, String.toList_append]
      exact List.prefix_append _ _
    rw [hother s hs] at hstart
    cases hstart
  rw [ofName?, hnone, String.toList_append]
  simp only [Text.afterPrefix_append, Option.map_some, String.ofList_toList]

theorem ofName?_name (s : Setting) : ofName? s.name = some s := by
  rcases mem_fixed s with hs | ⟨h, rfl⟩
  · exact ofName?_fixed s hs
  · exact ofName?_header h

theorem name_inj {s t : Setting} (h : s.name = t.name) : s = t := by
  have hs := ofName?_name s
  rw [h, ofName?_name] at hs
  exact (Option.some.inj hs).symm

end Setting

namespace Config

/-- What a configuration holds for a setting, as a text. -/
def content (c : Config) : Setting → Option String
  | .logGroup => c.logGroup
  | s => (c.get s).toOption

/-- The calls that are not refused, in their order. -/
def taken (c : Config) : List (String × String) → List (String × String)
  | [] => []
  | call :: calls =>
    match (assignNamed call.1 call.2).run c with
    | .ok _ c => call :: taken c calls
    | .error _ c => taken c calls

/-- The text of the last call for a name that is not refused. -/
def lastTaken (c : Config) (calls : List (String × String)) (name : String) : Option String :=
  Json.valueAt? name (c.taken calls).reverse

variable {c d c' d' c₁ c₂ : Config} {s other : Setting} {text text' name : String}
  {call : String × String} {calls : List (String × String)}

/-! ## What one call does -/

theorem Sets.held_eq (h : Sets c text s c') : s.held text = s.shown text := by
  cases h with
  | pollInterval hread hmin =>
    simp [Setting.held, Setting.shown, hread, Except.toOption,
      ← Number.toString_of_readUnsigned hread (by omega)]
  | channelCapacity hread hpos | bufferSize hread hpos | tickRate hread hpos
  | queryLimit hread hpos =>
    simp [Setting.held, Setting.shown, hread, Except.toOption,
      ← Number.toString_of_readUnsigned hread (Nat.pos_of_ne_zero hpos)]
  | _ => rfl

theorem Sets.of_other (h : Sets c text s c') (d : Config) : ∃ d', Sets d text s d' := by
  -- What is asked of the text does not depend on the configuration.
  cases h with
  | logGroup => exact ⟨_, .logGroup⟩
  | pollInterval hread hmin => exact ⟨_, .pollInterval hread hmin⟩
  | channelCapacity hread hpos => exact ⟨_, .channelCapacity hread hpos⟩
  | queryMode hword => exact ⟨_, .queryMode hword⟩
  | queryLimit hread hpos hmax => exact ⟨_, .queryLimit hread hpos hmax⟩
  | bufferSize hread hpos => exact ⟨_, .bufferSize hread hpos⟩
  | theme hword => exact ⟨_, .theme hword⟩
  | tickRate hread hpos => exact ⟨_, .tickRate hread hpos⟩
  | key a hname => exact ⟨_, .key a hname⟩
  | endpoint hstart => exact ⟨_, .endpoint hstart⟩
  | header name => exact ⟨_, .header name⟩

theorem Sets.content_same (h : Sets c text s c') (hd : Sets d text s d') :
    c'.content s = d'.content s := by
  by_cases hs : s = .logGroup
  · subst hs
    cases h
    cases hd
    rfl
  · have hcontent : ∀ e : Config, e.content s = (e.get s).toOption := by
      intro e
      cases s <;> first | rfl | exact absurd rfl hs
    rw [hcontent, hcontent, h.get, hd.get]

theorem Sets.content_of_ne (h : Sets c text s c') (hne : other ≠ s) :
    c'.content other = c.content other := by
  by_cases ho : other = .logGroup
  · subst ho
    cases h <;> first | rfl | exact absurd rfl hne
  · have hcontent : ∀ e : Config, e.content other = (e.get other).toOption := by
      intro e
      cases other <;> first | rfl | exact absurd rfl ho
    rw [hcontent, hcontent, h.get_of_ne hne]

theorem get_header (c : Config) (name : String) :
    (c.get (.header name)).toOption = Json.valueAt? name c.headers := by
  rw [get]
  cases Json.valueAt? name c.headers <;> rfl

theorem content_ext (hc : Json.InOrder c.headers) (hd : Json.InOrder d.headers)
    (h : ∀ s, c.content s = d.content s) : c = d := by
  have hnumber : ∀ {m n : Nat}, some (toString m) = some (toString n) → m = n := by
    intro m n hmn
    rw [Option.some.injEq, Nat.toString_eq_ofList_toDigits, Nat.toString_eq_ofList_toDigits,
      String.ofList_inj] at hmn
    rw [← Number.digitsValue_toDigits m, hmn, Number.digitsValue_toDigits]
  have hkeys : c.keys = d.keys := funext fun a => Option.some.inj (h (.key a))
  have hheaders : c.headers = d.headers := by
    apply hc.ext hd
    intro name
    rw [← get_header, ← get_header]
    exact h (.header name)
  have hlog := h .logGroup
  have hpoll := hnumber (h .pollInterval)
  have hcapacity := hnumber (h .channelCapacity)
  have hlimit := hnumber (h .queryLimit)
  have hbuffer := hnumber (h .bufferSize)
  have htick := hnumber (h .tickRate)
  have hmode := Option.some.inj (h .queryMode)
  have htheme := Option.some.inj (h .theme)
  have hendpoint := Option.some.inj (h .endpoint)
  cases c
  cases d
  rw [Config.mk.injEq]
  exact ⟨hlog, hpoll, hcapacity, hmode, hlimit, hbuffer, htheme, htick, hkeys, hendpoint, hheaders⟩

theorem Sets.swap (hc : Json.InOrder c.headers) (h₁ : Sets c text s c₁)
    (h₂ : Sets c₁ text' other c₂) (hne : s ≠ other) :
    ∃ d, Sets c text' other d ∧ Sets d text s c₂ := by
  obtain ⟨d, hd⟩ := h₂.of_other c
  obtain ⟨d₂, hd₂⟩ := h₁.of_other d
  have heq : d₂ = c₂ := by
    apply content_ext (hd₂.inOrder (hd.inOrder hc)) (h₂.inOrder (h₁.inOrder hc))
    intro t
    by_cases hs : t = s
    · rw [hs, hd₂.content_same h₁, h₂.content_of_ne hne]
    · by_cases ho : t = other
      · rw [ho, hd₂.content_of_ne hne.symm, hd.content_same h₂]
      · rw [hd₂.content_of_ne hs, hd.content_of_ne ho, h₂.content_of_ne ho, h₁.content_of_ne hs]
  exact ⟨d, hd, heq ▸ hd₂⟩

/-! ## What calls do one after the other -/

theorem lastTaken_cons_ok (h : c.setNamed call.1 call.2 = .ok c') :
    c.lastTaken (call :: calls) name =
      (c'.lastTaken calls name).or (if call.1 = name then some call.2 else none) := by
  have hrun := assignNamed_ok.mpr h
  obtain ⟨key, text⟩ := call
  simp only [lastTaken, taken, hrun, List.reverse_cons, Json.valueAt?_append, Json.valueAt?_cons,
    Json.valueAt?_nil]

theorem lastTaken_cons_error {e : ConfigError} (h : c.setNamed call.1 call.2 = .error e) :
    c.lastTaken (call :: calls) name = c.lastTaken calls name := by
  simp only [lastTaken, taken, run_assignNamed, h, inPlace]

theorem getNamed_afterCalls (c : Config) (calls : List (String × String)) (name : String) :
    ((c.afterCalls calls).getNamed name).toOption =
      match c.lastTaken calls name with
      | some text => (Setting.ofName? name).bind (·.shown text)
      | none => (c.getNamed name).toOption := by
  induction calls generalizing c with
  | nil => rfl
  | cons call calls ih =>
    have hafter : c.afterCalls (call :: calls) = (c.changed call).afterCalls calls := by
      rw [← afterCall_eq]
      rfl
    rw [hafter, ih]
    cases hset : c.setNamed call.1 call.2 with
    | error e =>
      have hsame : c.changed call = c := by rw [changed, hset]
      rw [lastTaken_cons_error hset, hsame]
    | ok c' =>
      have hchanged : c.changed call = c' := by rw [changed, hset]
      rw [lastTaken_cons_ok hset, hchanged]
      cases c'.lastTaken calls name with
      | some text => rfl
      | none =>
        obtain ⟨s, hs, hsets⟩ := sets_of_setNamed hset
        by_cases hname : call.1 = name
        · subst hname
          simp only [Option.none_or, if_true]
          rw [getNamed_of_setNamed hset, hs, Option.bind_some, Option.bind_some, hsets.held_eq]
        · simp only [Option.none_or, if_neg hname]
          rw [getNamed_of_ne hset (Ne.symm hname)]

theorem inOrder_afterCalls (hc : Json.InOrder c.headers) (calls : List (String × String)) :
    Json.InOrder (c.afterCalls calls).headers := by
  rw [afterCalls_eq]
  exact foldl_changed_keeps Sets.inOrder hc calls

/-! ## The names under which something is found -/

theorem names_settings (c : Config) : c.settings.map Setting.name =
    Setting.fixedNames ++ c.headers.map fun h => "backend.headers." ++ h.1 := by
  rw [settings, List.map_append, Setting.names_fixed, List.map_map]
  rfl

theorem nodup_settings (hc : Json.InOrder c.headers) : c.settings.Nodup := by
  have hheaders : (c.headers.map fun h => Setting.header h.1).Nodup := by
    have hnames := hc.nodup
    rw [List.Nodup, List.pairwise_map] at hnames ⊢
    exact hnames.imp fun hne heq => hne (Setting.header.inj heq)
  have hother : ∀ s ∈ Setting.fixed, ∀ h, s ≠ .header h := by
    intro s hs h heq
    subst heq
    simp [Setting.fixed] at hs
  rw [settings, List.nodup_append]
  refine ⟨by decide, hheaders, ?_⟩
  intro s hs t ht
  obtain ⟨h, -, rfl⟩ := List.mem_map.mp ht
  exact hother s hs h.1

theorem nodup_names (hc : Json.InOrder c.headers) : (c.settings.map Setting.name).Nodup := by
  have hsettings := nodup_settings hc
  rw [List.Nodup, List.pairwise_map]
  exact hsettings.imp fun hne heq => hne (Setting.name_inj heq)

theorem get_ok_iff : (∃ v, c.get s = .ok v) ↔ s ∈ c.settings := by
  have hmem : s ∈ c.settings ↔ s ∈ Setting.fixed ∨ ∃ h ∈ c.headers, .header h.1 = s := by
    rw [settings, List.mem_append, List.mem_map]
  rw [hmem]
  rcases Setting.mem_fixed s with hs | ⟨name, rfl⟩
  · refine iff_of_true ?_ (.inl hs)
    cases s with
    | header name => simp [Setting.fixed] at hs
    | _ => exact ⟨_, rfl⟩
  · have hfixed : Setting.header name ∉ Setting.fixed := by simp [Setting.fixed]
    simp only [hfixed, false_or, get, Json.valueAt?, Setting.header.injEq]
    cases hfound : c.headers.find? (·.1 == name) with
    | none =>
      have hnone : ¬ ∃ h ∈ c.headers, h.1 = name := by
        rintro ⟨h, hmem, heq⟩
        exact List.find?_eq_none.mp hfound h hmem (beq_iff_eq.mpr heq)
      simp only [Option.map_none, reduceCtorEq, exists_false, hnone]
    | some h =>
      have heq := List.find?_some hfound
      rw [beq_iff_eq] at heq
      exact iff_of_true ⟨_, rfl⟩ ⟨h, List.mem_of_find?_eq_some hfound, heq⟩

theorem getNamed_ok_iff : (∃ v, c.getNamed name = .ok v) ↔ name ∈ c.settings.map Setting.name := by
  rw [List.mem_map]
  constructor
  · rintro ⟨v, hv⟩
    rw [getNamed] at hv
    split at hv
    · rename_i s hs
      exact ⟨s, get_ok_iff.mp ⟨v, hv⟩, Setting.name_of_ofName? hs⟩
    · cases hv
  · rintro ⟨s, hs, rfl⟩
    rw [getNamed, Setting.ofName?_name]
    exact get_ok_iff.mpr hs

/-- A configuration, its headers in the order of their names, is a map from names to texts. A
refused call leaves it as it was; after any calls each name shows the text of the last call for it
that was taken, or what it showed at first; calls that are taken for two names can change places.
The names listed are the fixed ones and those of the headers, each once, and something is shown
under these names only. -/
theorem last_call_wins (c : Config) (hc : Json.InOrder c.headers)
    (calls : List (String × String)) :
    let final := c.afterCalls calls
    let names := final.settings.map Setting.name
    (∀ d d' e name text, (assignNamed name text).run d = .error e d' → d' = d) ∧
    (∀ name, (final.getNamed name).toOption =
      match c.lastTaken calls name with
      | some text => (Setting.ofName? name).bind (·.shown text)
      | none => (c.getNamed name).toOption) ∧
    (∀ c₁ c₂ name text name' text', name ≠ name' →
      (assignNamed name text).run final = .ok () c₁ →
      (assignNamed name' text').run c₁ = .ok () c₂ →
      ∃ d, (assignNamed name' text').run final = .ok () d ∧
        (assignNamed name text).run d = .ok () c₂) ∧
    names = Setting.fixedNames ++ final.headers.map (fun h => "backend.headers." ++ h.1) ∧
    names.Nodup ∧
    ∀ name, (∃ v, final.getNamed name = .ok v) ↔ name ∈ names := by
  intro final names
  have hfinal : Json.InOrder final.headers := inOrder_afterCalls hc calls
  refine ⟨?_, getNamed_afterCalls c calls, ?_, names_settings final, nodup_names hfinal,
    fun name => getNamed_ok_iff⟩
  · intro d d' e name text h
    exact (assignNamed_error h).2
  · intro c₁ c₂ name text name' text' hne h₁ h₂
    obtain ⟨s, hs, hsets⟩ := sets_of_setNamed (assignNamed_ok.mp h₁)
    obtain ⟨s', hs', hsets'⟩ := sets_of_setNamed (assignNamed_ok.mp h₂)
    have hdiff : s ≠ s' := by
      rintro rfl
      exact hne ((Setting.name_of_ofName? hs).symm.trans (Setting.name_of_ofName? hs'))
    obtain ⟨d, hd, hd₂⟩ := hsets.swap hfinal hsets' hdiff
    exact ⟨d, assignNamed_ok.mpr (hd.setNamed hs'), assignNamed_ok.mpr (hd₂.setNamed hs)⟩

/-- A refused number leaves the one before, a header is taken away and another one stays. -/
theorem last_call_wins_of_refused :
    let c : Config := { headers := [("A", "1"), ("B", "2")] }
    let calls := [("ui.buffer_size", "+0070"), ("ui.theme", "DARK"), ("ui.buffer_size", "0"),
      ("backend.headers.A", "")]
    let final := c.afterCalls calls
    Json.InOrder c.headers ∧ (final.getNamed "ui.buffer_size").toOption = some "70" ∧
      (final.getNamed "ui.theme").toOption = some "dark" ∧
      (final.getNamed "backend.headers.A").toOption = none ∧
      (final.getNamed "backend.headers.B").toOption = some "2" ∧
      (final.settings.map Setting.name).Nodup := by
  intro c calls final
  have hc : Json.InOrder c.headers := by
    rw [Json.InOrder, List.pairwise_pair]
    decide
  obtain ⟨-, hshown, -, -, hnodup, -⟩ := last_call_wins c hc calls
  have hsize : c.lastTaken calls "ui.buffer_size" = some "+0070" := by decide
  have htheme : c.lastTaken calls "ui.theme" = some "DARK" := by decide
  have hgone : c.lastTaken calls "backend.headers.A" = some "" := by decide
  have hnone : c.lastTaken calls "backend.headers.B" = none := by decide
  refine ⟨hc, ?_, ?_, ?_, ?_, hnodup⟩
  · rw [hshown, hsize]
    decide
  · rw [hshown, htheme]
    decide
  · rw [hshown, hgone]
    decide
  · rw [hshown, hnone]
    decide

end Config
end LogFollow
