import LogFollow.Config.Setting
import LogFollow.Proofs.Json.Entries
import LogFollow.Proofs.Result

/-!
# A change of one setting

Whether a setting takes a text depends on the text alone. It then shows the text, in lower case or
as a numeral where it is a word or a number, and all the other settings show what they showed
before. Setting it to the same text again changes nothing.
-/

namespace LogFollow
set_option autoImplicit false

namespace Setting

/-- A name belongs to one setting. -/
theorem name_of_ofName? {s : Setting} {name : String} (h : ofName? name = some s) :
    s.name = name := by
  rw [ofName?] at h
  split at h
  · rename_i found hfound
    cases h
    have hname := List.find?_some hfound
    exact eq_of_beq hname
  · obtain ⟨rest, hrest, rfl⟩ := Option.map_eq_some_iff.mp h
    have htext := Text.append_of_afterPrefix hrest
    rw [Setting.name, ← String.toList_inj, String.toList_append, String.toList_ofList, htext]

/-- What a setting shows once it is set to a text. -/
def held (s : Setting) (text : String) : Option String :=
  match s with
  | .logGroup => some (if text = "" then "<not-set>" else text)
  | .pollInterval | .channelCapacity | .queryLimit | .bufferSize | .tickRate =>
    (Number.readUnsigned Number.maxUnsigned text).toOption.map toString
  | .queryMode | .theme => some (Text.lowercase text)
  | .key _ | .endpoint => some text
  | .header _ => if text = "" then none else some text

end Setting

namespace Config

/-- A configuration and what it becomes once the given setting is set to a text. -/
inductive Sets (c : Config) (text : String) : Setting → Config → Prop
  | logGroup : Sets c text .logGroup { c with logGroup := if text == "" then none else some text }
  | pollInterval {n : Nat} (hread : Number.readUnsigned Number.maxUnsigned text = .ok n)
      (hmin : ¬ n < 100) : Sets c text .pollInterval { c with pollInterval := n }
  | channelCapacity {n : Nat} (hread : Number.readUnsigned Number.maxUnsigned text = .ok n)
      (hpos : n ≠ 0) : Sets c text .channelCapacity { c with channelCapacity := n }
  | queryMode (hword : Text.lowercase text ∈ ["backend", "local"]) :
      Sets c text .queryMode { c with queryMode := Text.lowercase text }
  | queryLimit {n : Nat} (hread : Number.readUnsigned Number.maxUnsigned text = .ok n)
      (hpos : n ≠ 0) (hmax : n ≤ maxQueryLimit) :
      Sets c text .queryLimit { c with queryLimit := n }
  | bufferSize {n : Nat} (hread : Number.readUnsigned Number.maxUnsigned text = .ok n)
      (hpos : n ≠ 0) : Sets c text .bufferSize { c with bufferSize := n }
  | theme (hword : Text.lowercase text ∈ ["dark", "light", "auto"]) :
      Sets c text .theme { c with theme := Text.lowercase text }
  | tickRate {n : Nat} (hread : Number.readUnsigned Number.maxUnsigned text = .ok n)
      (hpos : n ≠ 0) : Sets c text .tickRate { c with tickRate := n }
  | key {chord : Chord} (a : Action) (hname : Chord.ofName? text = some chord) :
      Sets c text (.key a) { c with keys := fun b => if b = a then text else c.keys b }
  | endpoint (hstart : ("http://".toList.isPrefixOf text.toList ||
        "https://".toList.isPrefixOf text.toList) = true) :
      Sets c text .endpoint { c with endpoint := text }
  | header (h : String) : Sets c text (.header h)
      { c with
        headers := if text == "" then c.headers.filter (·.1 != h)
          else Json.insertEntry h text c.headers }

variable {c c' : Config} {s other : Setting} {text name : String} {n : Nat} {w : String}

theorem number_eq_ok {error : String → ConfigError} :
    number error text = .ok n ↔ Number.readUnsigned Number.maxUnsigned text = .ok n := by
  unfold number
  cases Number.readUnsigned Number.maxUnsigned text <;> simp

theorem word_eq_ok {error : String → ConfigError} {allowed : List String} :
    word error allowed text = .ok w ↔
      Text.lowercase text ∈ allowed ∧ Text.lowercase text = w := by
  unfold word
  by_cases hword : Text.lowercase text ∈ allowed <;> simp [hword]

theorem number_taken {error : String → ConfigError} {wrong : Nat → Prop} [DecidablePred wrong]
    {reason : Nat → ConfigError} {f : Nat → Config}
    (h : (number error text >>= fun n => if wrong n then .error (reason n) else .ok (f n)) =
      .ok c') :
    ∃ n, Number.readUnsigned Number.maxUnsigned text = .ok n ∧ ¬ wrong n ∧ f n = c' := by
  obtain ⟨n, hread, h⟩ := bind_eq_ok h
  split at h
  · cases h
  · rename_i hright
    exact ⟨n, number_eq_ok.mp hread, hright, Except.ok.inj h⟩

theorem word_taken {error : String → ConfigError} {allowed : List String} {f : String → Config}
    (h : (word error allowed text >>= fun w => .ok (f w)) = .ok c') :
    Text.lowercase text ∈ allowed ∧ f (Text.lowercase text) = c' := by
  obtain ⟨w, hlower, h⟩ := bind_eq_ok h
  obtain ⟨hword, rfl⟩ := word_eq_ok.mp hlower
  exact ⟨hword, Except.ok.inj h⟩

theorem sets_of_set (h : c.set s text = .ok c') : Sets c text s c' := by
  cases s with
  | logGroup =>
    cases h
    exact .logGroup
  | pollInterval =>
    obtain ⟨n, hread, hmin, rfl⟩ := number_taken h
    exact .pollInterval hread hmin
  | channelCapacity =>
    obtain ⟨n, hread, hpos, rfl⟩ := number_taken h
    exact .channelCapacity hread (by simpa using hpos)
  | bufferSize =>
    obtain ⟨n, hread, hpos, rfl⟩ := number_taken h
    exact .bufferSize hread (by simpa using hpos)
  | tickRate =>
    obtain ⟨n, hread, hpos, rfl⟩ := number_taken h
    exact .tickRate hread (by simpa using hpos)
  | queryLimit =>
    obtain ⟨n, hread, hrange, rfl⟩ := number_taken h
    simp only [Bool.or_eq_true, beq_iff_eq, decide_eq_true_eq, not_or, Nat.not_lt] at hrange
    exact .queryLimit hread hrange.1 hrange.2
  | queryMode =>
    obtain ⟨hword, rfl⟩ := word_taken h
    exact .queryMode hword
  | theme =>
    obtain ⟨hword, rfl⟩ := word_taken h
    exact .theme hword
  | key a =>
    rw [Config.set] at h
    split at h
    · cases h
    · rename_i chord hname
      cases h
      exact .key a hname
  | endpoint =>
    rw [Config.set] at h
    split at h
    · rename_i hstart
      cases h
      exact .endpoint hstart
    · cases h
  | header name =>
    cases h
    exact .header name

theorem Sets.set (h : Sets c text s c') : c.set s text = .ok c' := by
  cases h with
  | logGroup | header => rfl
  | pollInterval hread hmin =>
    rw [Config.set, number_eq_ok.mpr hread]
    exact if_neg hmin
  | channelCapacity hread hpos | bufferSize hread hpos | tickRate hread hpos =>
    rw [Config.set, number_eq_ok.mpr hread]
    exact if_neg (by simpa using hpos)
  | queryLimit hread hpos hmax =>
    rw [Config.set, number_eq_ok.mpr hread]
    exact if_neg (by simp [hpos, hmax])
  | queryMode hword | theme hword =>
    rw [Config.set, word_eq_ok.mpr ⟨hword, rfl⟩]
    rfl
  | key a hname => simp only [Config.set, hname]
  | endpoint hstart => exact if_pos hstart

theorem Sets.get (h : Sets c text s c') : (c'.get s).toOption = s.held text := by
  cases h with
  | logGroup => by_cases ht : text = "" <;> simp [Config.get, Setting.held, Except.toOption, ht]
  | pollInterval hread | channelCapacity hread | queryLimit hread | bufferSize hread
  | tickRate hread => simp [Config.get, Setting.held, Except.toOption, hread]
  | queryMode | theme | endpoint => rfl
  | key a => simp [Config.get, Setting.held, Except.toOption]
  | header name =>
    by_cases ht : text = ""
    · simp [Config.get, Setting.held, Except.toOption, ht, Json.valueAt?_filter]
    · simp [Config.get, Setting.held, Except.toOption, ht, Json.valueAt?_insertEntry]

theorem Sets.get_of_ne (h : Sets c text s c') (hne : other ≠ s) : c'.get other = c.get other := by
  -- Only the keys share a part of the configuration with each other, and so do the headers.
  cases h with
  | key a =>
    cases other with
    | key b =>
      have hb : b ≠ a := fun heq => hne (congrArg Setting.key heq)
      simp only [Config.get, if_neg hb]
    | _ => rfl
  | header name =>
    cases other with
    | header b =>
      have hb : b ≠ name := fun heq => hne (congrArg Setting.header heq)
      by_cases ht : text = ""
      · simp [Config.get, ht, Json.valueAt?_filter_of_ne hb]
      · simp [Config.get, ht, Json.valueAt?_insertEntry_of_ne hb]
    | _ => rfl
  | _ => cases other <;> first | rfl | exact absurd rfl hne

theorem Sets.inOrder (h : Sets c text s c') (hh : Json.InOrder c.headers) :
    Json.InOrder c'.headers := by
  cases h with
  | header name =>
    dsimp only
    split
    · exact hh.filter _
    · exact hh.insertEntry
  | _ => exact hh

theorem Sets.again (h : Sets c text s c') : Sets c' text s c' := by
  -- What was asked of the text does not depend on the configuration.
  cases h with
  | logGroup => exact .logGroup
  | pollInterval hread hmin => exact .pollInterval hread hmin
  | channelCapacity hread hpos => exact .channelCapacity hread hpos
  | queryMode hword => exact .queryMode hword
  | queryLimit hread hpos hmax => exact .queryLimit hread hpos hmax
  | bufferSize hread hpos => exact .bufferSize hread hpos
  | theme hword => exact .theme hword
  | tickRate hread hpos => exact .tickRate hread hpos
  | endpoint hstart => exact .endpoint hstart
  | key a hname =>
    let keys : Action → String := fun b => if b = a then text else c.keys b
    have hkeys : (fun b => if b = a then text else keys b) = keys := by
      funext b
      simp only [keys]
      split <;> rfl
    have hset : Sets { c with keys := keys } text (.key a)
        { c with keys := fun b => if b = a then text else keys b } := .key a hname
    rwa [hkeys] at hset
  | header name =>
    let headers := if text == "" then c.headers.filter (·.1 != name)
      else Json.insertEntry name text c.headers
    have hheaders : (if text == "" then headers.filter (·.1 != name)
        else Json.insertEntry name text headers) = headers := by
      by_cases ht : text = ""
      · simp [headers, ht]
      · simp [headers, ht, Json.insertEntry_twice]
    have hset : Sets { c with headers := headers } text (.header name)
        { c with headers := if text == "" then headers.filter (·.1 != name)
            else Json.insertEntry name text headers } := .header name
    rwa [hheaders] at hset

theorem sets_of_setNamed (h : c.setNamed name text = .ok c') :
    ∃ s, Setting.ofName? name = some s ∧ Sets c text s c' := by
  rw [setNamed] at h
  split at h
  · rename_i s hname
    exact ⟨s, hname, sets_of_set h⟩
  · cases h

theorem Sets.setNamed (h : Sets c text s c') (hname : Setting.ofName? name = some s) :
    c.setNamed name text = .ok c' := by
  rw [Config.setNamed, hname]
  exact h.set

theorem getNamed_of_setNamed (h : c.setNamed name text = .ok c') :
    (c'.getNamed name).toOption = (Setting.ofName? name).bind (·.held text) := by
  obtain ⟨s, hname, hsets⟩ := sets_of_setNamed h
  rw [getNamed, hname]
  exact hsets.get

theorem getNamed_of_ne {other : String} (h : c.setNamed name text = .ok c') (hne : other ≠ name) :
    c'.getNamed other = c.getNamed other := by
  obtain ⟨s, hname, hsets⟩ := sets_of_setNamed h
  unfold getNamed
  split
  · rename_i s' hother
    refine hsets.get_of_ne ?_
    rintro rfl
    exact hne ((Setting.name_of_ofName? hother).symm.trans (Setting.name_of_ofName? hname))
  · rfl

theorem setNamed_again (h : c.setNamed name text = .ok c') : c'.setNamed name text = .ok c' := by
  obtain ⟨s, hname, hsets⟩ := sets_of_setNamed h
  exact hsets.again.setNamed hname

end Config
end LogFollow
