import LogFollow.Proofs.Config.LastCall
import LogFollow.Source.Http

/-!
# Headers that the client refuses

A client is made from the headers of a configuration when all their names and values are allowed.
The configuration takes any text as a header, so that it may hold one that no client is made with.
-/

namespace LogFollow
set_option autoImplicit false

namespace Http

/-- A header that may be sent. -/
structure Allowed (name value : String) : Prop where
  name : isHeaderName name = true
  value : isHeaderValue value = true

/-- The failure for a header that may not be sent. -/
inductive Refused (name value : String) : SourceError → Prop
  | name (hn : isHeaderName name = false) :
      Refused name value (.rejected 0 s!"invalid header name '{name}': invalid HTTP header name")
  | value (hn : isHeaderName name = true) (hv : isHeaderValue value = false) :
      Refused name value (.rejected 0
        s!"invalid value for header '{Text.lowercase name}': failed to parse header value")

variable {name value endpoint : String} {e : SourceError} {headers : List (String × String)}

theorem Refused.not_allowed (h : Refused name value e) : ¬ Allowed name value := by
  rintro ⟨hname, hvalue⟩
  cases h with
  | name hn =>
    rw [hn] at hname
    cases hname
  | value hn hv =>
    rw [hv] at hvalue
    cases hvalue

theorem checkHeaders_cases (headers checked : List (String × String)) :
    (∃ all, checkHeaders headers checked = .ok all ∧ ∀ h ∈ headers, Allowed h.1 h.2) ∨
      ∃ e, checkHeaders headers checked = .error e ∧ ∃ h ∈ headers, Refused h.1 h.2 e := by
  induction headers generalizing checked with
  | nil => exact .inl ⟨checked, rfl, by simp⟩
  | cons h rest ih =>
    obtain ⟨name, value⟩ := h
    rw [checkHeaders]
    cases hn : isHeaderName name with
    | false => exact .inr ⟨_, rfl, _, List.mem_cons_self, .name hn⟩
    | true =>
      cases hv : isHeaderValue value with
      | false => exact .inr ⟨_, rfl, _, List.mem_cons_self, .value hn hv⟩
      | true =>
        rcases ih (putHeader (Text.lowercase name) value checked) with
          ⟨all, hall, hrest⟩ | ⟨e, he, h, hmem, hrefused⟩
        · exact .inl ⟨all, hall, List.forall_mem_cons.mpr ⟨⟨hn, hv⟩, hrest⟩⟩
        · exact .inr ⟨e, he, h, List.mem_cons_of_mem _ hmem, hrefused⟩

theorem create_ok_iff : (∃ client, Client.create endpoint headers = .ok client) ↔
    ∀ h ∈ headers, Allowed h.1 h.2 := by
  rw [Client.create]
  rcases checkHeaders_cases headers [] with ⟨all, hall, hallowed⟩ | ⟨e, he, h, hmem, hrefused⟩
  · rw [hall]
    exact iff_of_true ⟨_, rfl⟩ hallowed
  · rw [he]
    refine iff_of_false ?_ fun hallowed => hrefused.not_allowed (hallowed h hmem)
    rintro ⟨client, hclient⟩
    cases hclient

theorem refused_of_create (h : Client.create endpoint headers = .error e) :
    ∃ h ∈ headers, Refused h.1 h.2 e := by
  rw [Client.create] at h
  rcases checkHeaders_cases headers [] with ⟨all, hall, -⟩ | ⟨e', he, h', hmem, hrefused⟩
  · rw [hall] at h
    cases h
  · rw [he] at h
    cases h
    exact ⟨h', hmem, hrefused⟩

end Http

namespace Config

/-- The last call for a header that was taken gave it a text, and did not take it away. -/
def Given (calls : List (String × String)) (name text : String) : Prop :=
  lastTaken {} calls ("backend.headers." ++ name) = some text ∧ text ≠ ""

theorem mem_headers_iff (calls : List (String × String)) (name text : String) :
    (name, text) ∈ (afterCalls {} calls).headers ↔ Given calls name text := by
  have hstart : Json.InOrder ({} : Config).headers := List.Pairwise.nil
  have horder : Json.InOrder (afterCalls {} calls).headers := inOrder_afterCalls hstart calls
  have hname : Setting.ofName? ("backend.headers." ++ name) = some (.header name) :=
    Setting.ofName?_header name
  have hshown := getNamed_afterCalls {} calls ("backend.headers." ++ name)
  have hgiven : ∀ d : Config, (d.getNamed ("backend.headers." ++ name)).toOption =
      Json.valueAt? name d.headers := by
    intro d
    rw [getNamed, hname]
    exact get_header d name
  rw [hgiven, hgiven, hname] at hshown
  rw [Given, horder.mem_iff, hshown]
  cases lastTaken {} calls ("backend.headers." ++ name) with
  | none => simp
  | some last =>
    by_cases hlast : last = ""
    · simp [Setting.shown, hlast, eq_comm]
    · simp only [Option.bind_some, Setting.shown, if_neg hlast, Option.some.injEq]
      constructor
      · rintro rfl
        exact ⟨rfl, hlast⟩
      · exact And.left

/-- After any calls a client can be made exactly when every header whose last call gave it a text
has an allowed name and this text is an allowed value. Otherwise the failure is that of a header
that is not allowed. -/
theorem client_made_iff (calls : List (String × String)) :
    ((∃ client, Http.Client.create (afterCalls {} calls).endpoint (afterCalls {} calls).headers =
        .ok client) ↔
      ∀ name text, Given calls name text → Http.Allowed name text) ∧
    ∀ e, Http.Client.create (afterCalls {} calls).endpoint (afterCalls {} calls).headers = .error e →
      ∃ name text, Given calls name text ∧ Http.Refused name text e := by
  constructor
  · rw [Http.create_ok_iff]
    constructor
    · intro h name text hg
      exact h (name, text) ((mem_headers_iff calls name text).mpr hg)
    · rintro h ⟨name, text⟩ hmem
      exact h name text ((mem_headers_iff calls name text).mp hmem)
  · intro e he
    obtain ⟨⟨name, text⟩, hmem, hrefused⟩ := Http.refused_of_create he
    exact ⟨name, text, (mem_headers_iff calls name text).mp hmem, hrefused⟩

/-- A header taken away again is no obstacle, one whose text has a line end is. -/
theorem client_made_iff_of_line_end :
    let calls := [("backend.headers.bad header", "x"), ("backend.headers.X-Token", "a\nb"),
      ("backend.headers.bad header", "")]
    ∃ e, Http.Client.create (afterCalls {} calls).endpoint (afterCalls {} calls).headers = .error e ∧
      e.message = "log source rejected the request (0): invalid value for header 'x-token': failed to parse header value" ∧
      ∃ name text, Given calls name text ∧ Http.Refused name text e := by
  intro calls
  have herror : Http.Client.create (afterCalls {} calls).endpoint (afterCalls {} calls).headers =
      .error (.rejected 0 "invalid value for header 'x-token': failed to parse header value") := by
    decide
  exact ⟨_, herror, by decide, (client_made_iff calls).2 _ herror⟩

/-- A header is taken whose name has a blank in it, but no client is made with it. -/
theorem unsendable_header_taken : ∃ c,
    (assignNamed "backend.headers.bad header" "x").run {} = .ok () c ∧
      c.getNamed "backend.headers.bad header" = .ok "x" ∧
      Http.Client.create c.endpoint c.headers =
        .error (.rejected 0 "invalid header name 'bad header': invalid HTTP header name") :=
  ⟨{ headers := [("bad header", "x")] }, by rfl, by decide, by decide⟩

end Config
end LogFollow
