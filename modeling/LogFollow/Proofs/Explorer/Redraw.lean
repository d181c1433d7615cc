import LogFollow.Explorer.Loop
import LogFollow.Proofs.Explorer.Closing
import LogFollow.Proofs.Explorer.Rows

/-!
# Drawing changes nothing

A drawing gives the view the size of its pane. On a screen whose size the session knows, the view has
this size already and its window lies on the rows, so that nothing changes. However the messages are
cut into batches, the session is therefore what the messages alone make of it.
-/

namespace LogFollow.Explorer
set_option autoImplicit false

namespace View

variable {v v' : View} {m : Message}

structure Settled (v : View) : Prop where
  width : 0 < v.width
  anchored : v.Anchored

theorem settled_new (capacity : Nat) : (new capacity).Settled :=
  ⟨Nat.zero_lt_succ 79, (sound_new capacity).anchored⟩

theorem settle_of_anchored (h : v.Anchored) : v.settle = v := by
  have hoffset : (if v.following then v.maxOffset else min v.offset v.maxOffset) = v.offset := by
    split
    · rename_i hf
      exact (h.bottom hf).symm
    · exact Nat.min_eq_left h.offset
  rw [settle, hoffset]

theorem Settled.resize_self (h : v.Settled) : v.resize v.width v.height = v := by
  have hwidth : max v.width 1 = v.width := Nat.max_eq_left h.width
  simp only [resize, hwidth, if_true]
  exact settle_of_anchored h.anchored

/-- What a message makes of the view of a session. -/
inductive Changes (v : View) (m : Message) : View → Prop
  | stays : Changes v m v
  | pushed (e : Event) (highlight : Option Span) : Changes v m (v.push e highlight)
  | replaced (hits : List Hit) : Changes v m (v.replace hits)
  | turned {v' : View} (h : v.Turns m v') : Changes v m v'

/-- A pane has at least one column, so that the view takes its extent as it is. -/
theorem resize_extent (v : View) (area : Rect) :
    (v.resize (logExtent area).1 (logExtent area).2).size = logExtent area := by
  have hwidth : max (logExtent area).1 1 = (logExtent area).1 :=
    Nat.max_eq_left (Nat.le_max_right _ _)
  rw [resize_size, hwidth]

theorem settled_resize (v : View) (width height : Nat) : (v.resize width height).Settled := by
  have hwidth : (v.resize width height).width = max width 1 :=
    congrArg Prod.fst (v.resize_size width height)
  refine ⟨?_, anchored_settle _⟩
  rw [hwidth]
  exact Nat.lt_of_lt_of_le Nat.zero_lt_one (Nat.le_max_right _ _)

theorem Changes.settled (h : v.Changes m v') (hv : v.Settled) : v'.Settled := by
  cases h with
  | stays => exact hv
  | pushed e highlight =>
    have hwidth : (v.push e highlight).width = v.width := congrArg Prod.fst (v.push_size e highlight)
    exact ⟨hwidth ▸ hv.width, hv.anchored.push e highlight⟩
  | replaced hits =>
    have hwidth : (v.replace hits).width = v.width := congrArg Prod.fst (v.replace_size hits)
    exact ⟨hwidth ▸ hv.width, anchored_replace v hits⟩
  | turned h =>
    cases h with
    | stays p => exact hv
    | up p n => exact ⟨hv.width, hv.anchored.scrollUp n⟩
    | down p n => exact ⟨hv.width, anchored_scrollDown v n⟩
    | sized width height =>
      exact settled_resize v _ _

theorem Changes.size (h : v.Changes m v') :
    v'.size = v.size ∨ ∃ width height, m = .resized width height ∧
      v'.size = logExtent (.of 0 0 width height) := by
  cases h with
  | stays => exact .inl rfl
  | pushed e highlight => exact .inl (v.push_size e highlight)
  | replaced hits => exact .inl (v.replace_size hits)
  | turned h =>
    cases h with
    | stays | up | down => exact .inl rfl
    | sized width height => exact .inr ⟨width, height, rfl, v.resize_extent _⟩

end View

/-- A message that tells the session no other size of the screen. -/
def Message.Repeats (width height : Nat) (m : Message) : Prop :=
  ∀ w h, m = .resized w h → w = width ∧ h = height

namespace Session

variable {s s' : Session} {m : Message} {ms : List Message} {c : Option Command}
  {width height : Nat}

theorem receive_changes (s : Session) (e : Event) (m : Message) :
    s.view.Changes m (s.receive e).view := by
  rw [receive_eq]
  by_cases hw : s.wants e
  · simp only [hw, if_true]
    exact .pushed _ _
  · simp only [hw]
    exact .stays

theorem takes_changes (h : Takes s m s' c) : s.view.Changes m s'.view := by
  cases h with
  | received e => exact s.receive_changes e _
  | concluded result =>
    rcases s.conclude_cases result with ⟨hview, -⟩ | ⟨r, -, hview, -⟩
    · rw [hview]
      exact .stays
    · rw [hview]
      exact .replaced _
  | viewed m v hv => exact .turned hv
  | asked | closed | focused | edited | ticked => exact .stays

theorem update_changes (s : Session) (m : Message) : s.view.Changes m (s.update m).1.view := by
  rcases update_cases (Prod.eta (s.update m)).symm with ⟨-, ht⟩ | ⟨-, hsame, -⟩
  · exact takes_changes ht
  · rw [hsame]
    exact .stays

theorem settled_updateAll (hs : s.view.Settled) (ms : List Message) :
    (s.updateAll ms).1.view.Settled := by
  refine updateAll_keeps (P := fun s => s.view.Settled) (fun {s s' m c} hs hu => ?_) hs ms
  have hchanges := s.update_changes m
  rw [hu] at hchanges
  exact hchanges.settled hs

theorem settled_receiveAll (hs : s.view.Settled) (events : List Event) :
    (s.receiveAll events).view.Settled := by
  induction events generalizing s with
  | nil => exact hs
  | cons e events ih => exact ih ((s.receive_changes e .tick).settled hs)

/-- The view has the size of its pane on a screen, and its window lies on the rows. -/
structure Fits (s : Session) (width height : Nat) : Prop where
  settled : s.view.Settled
  size : s.view.size = logExtent (.of 0 0 width height)

theorem fits_resized (s : Session) (width height : Nat) :
    (s.resized (.of 0 0 width height)).Fits width height :=
  ⟨s.view.settled_resize _ _, s.view.resize_extent _⟩

theorem Fits.update (hf : s.Fits width height) (hm : m.Repeats width height) :
    (s.update m).1.Fits width height := by
  have hchanges := s.update_changes m
  refine ⟨hchanges.settled hf.settled, ?_⟩
  rcases hchanges.size with hsame | ⟨w, h, hresized, hsize⟩
  · exact hsame.trans hf.size
  · obtain ⟨rfl, rfl⟩ := hm w h hresized
    exact hsize

theorem Fits.updateAll (hf : s.Fits width height) (hms : ∀ m ∈ ms, m.Repeats width height) :
    (s.updateAll ms).1.Fits width height := by
  induction ms generalizing s with
  | nil => exact hf
  | cons m ms ih =>
    obtain ⟨hm, hrest⟩ := List.forall_mem_cons.mp hms
    exact ih (hf.update hm) hrest

/-- On a screen of the size that the session knows a drawing leaves it as it is. -/
theorem Fits.draw_session (hf : s.Fits width height) (t : Theme) :
    (draw t s width height).1 = s := by
  let extent := logExtent (.of 0 0 width height)
  have hview : s.view.resize extent.1 extent.2 = s.view := by
    have hsize : extent = s.view.size := hf.size.symm
    rw [hsize]
    exact hf.settled.resize_self
  have hdrawn : (draw t s width height).1 =
      { s with view := s.view.resize extent.1 extent.2 } := rfl
  rw [hdrawn, hview]

end Session

namespace Shown

variable {s : Session} {r : Shown} {ms more : List Message} {m : Message} {b : Batch}
  {width height : Nat}

/-- The loop has done what the messages alone do. All of them were given to the session, or those up
to the one that closed it. -/
structure Follows (s : Session) (ms : List Message) (r : Shown) : Prop where
  session : r.session = (s.updateAll ms).1
  commands : r.commands = (s.updateAll ms).2
  given : (r.session.closing = none ∧ r.given = ms) ∨
    (r.session.closing.isSome ∧ ∃ before m rest, ms = before ++ m :: rest ∧
      r.given = before ++ [m] ∧ (s.updateAll before).1.closing = none)

theorem Follows.given_of_open (h : r.Follows s ms) (hopen : r.session.closing = none) :
    r.given = ms := by
  rcases h.given with ⟨-, hgiven⟩ | ⟨hclosed, -⟩
  · exact hgiven
  · rw [hopen] at hclosed
    cases hclosed

theorem Follows.give (h : r.Follows s ms) (hopen : r.session.closing = none) (m : Message) :
    (r.give m).Follows s (ms ++ [m]) := by
  have hgiven := h.given_of_open hopen
  have hrun : s.updateAll (ms ++ [m]) =
      ((r.session.update m).1, r.commands ++ (r.session.update m).2.toList) := by
    rw [Session.updateAll_append, ← h.session, ← h.commands]
    simp [Session.updateAll]
  refine ⟨by rw [hrun]; rfl, by rw [hrun]; rfl, ?_⟩
  cases hclosing : (r.give m).session.closing with
  | none => exact .inl ⟨rfl, by rw [← hgiven]; rfl⟩
  | some reason =>
    refine .inr ⟨rfl, ms, m, [], rfl, by rw [← hgiven]; rfl, ?_⟩
    rw [← h.session]
    exact hopen

theorem Follows.skip (h : r.Follows s ms) (hclosed : r.session.closing.isSome)
    (more : List Message) : r.Follows s (ms ++ more) := by
  have hrun : s.updateAll (ms ++ more) = s.updateAll ms := by
    rw [Session.updateAll_append, ← h.session, Session.updateAll_of_closed hclosed]
    simp [h.session]
  refine ⟨by rw [hrun]; exact h.session, by rw [hrun]; exact h.commands, ?_⟩
  rcases h.given with ⟨hopen, -⟩ | ⟨-, before, m, rest, hms, hgiven, hlast⟩
  · rw [hopen] at hclosed
    cases hclosed
  · refine .inr ⟨hclosed, before, m, rest ++ more, ?_, hgiven, hlast⟩
    rw [hms, List.append_assoc, List.cons_append]

theorem Follows.giveAll (h : r.Follows s ms) (hopen : r.session.closing = none)
    (more : List Message) : (r.giveAll more).Follows s (ms ++ more) := by
  induction more generalizing r ms with
  | nil => simpa [Shown.giveAll] using h
  | cons m more ih =>
    have hstep := h.give hopen m
    rw [← List.singleton_append, ← List.append_assoc, List.singleton_append, Shown.giveAll]
    split
    · rename_i hclosed
      exact hstep.skip hclosed more
    · rename_i hopen'
      exact ih hstep (by simpa [Session.isClosed] using hopen')

theorem Follows.show (h : r.Follows s ms) (hf : r.session.Fits width height) (t : Theme) :
    (r.show t width height).Follows s ms := by
  have hsame : (r.show t width height).session = r.session := hf.draw_session t
  exact ⟨hsame.trans h.session, h.commands, hsame ▸ h.given⟩

theorem Follows.fits (h : r.Follows s ms) (hf : s.Fits width height)
    (hms : ∀ m ∈ ms, m.Repeats width height) : r.session.Fits width height := by
  rw [h.session]
  exact hf.updateAll hms

/-- A batch during which the screen keeps its size. -/
@[mk_iff]
structure Keeps (width height : Nat) (b : Batch) : Prop where
  repeats : ∀ m ∈ b.messages, m.Repeats width height
  drawn : b.width = width ∧ b.height = height

theorem Follows.apply (h : r.Follows s ms) (hopen : r.session.closing = none)
    (hf : s.Fits width height) (hms : ∀ m ∈ ms, m.Repeats width height)
    (hb : Keeps width height b) (t : Theme) : (r.apply t b).Follows s (ms ++ b.messages) := by
  have hgiven := h.giveAll hopen b.messages
  simp only [Shown.apply]
  split
  · exact hgiven
  · rw [hb.drawn.1, hb.drawn.2]
    exact hgiven.show (hgiven.fits hf (List.forall_mem_append.mpr ⟨hms, hb.repeats⟩)) t

theorem Follows.runLoop (h : r.Follows s ms) (hf : s.Fits width height)
    (hms : ∀ m ∈ ms, m.Repeats width height) {batches : List Batch}
    (hb : ∀ b ∈ batches, Keeps width height b) (t : Theme) :
    (runLoop t r batches).Follows s (ms ++ batches.flatMap (·.messages)) := by
  induction batches generalizing r ms with
  | nil => simpa [Explorer.runLoop] using h
  | cons b batches ih =>
    obtain ⟨hb, hrest⟩ := List.forall_mem_cons.mp hb
    have hms' := List.forall_mem_append.mpr ⟨hms, hb.repeats⟩
    rw [List.flatMap_cons, ← List.append_assoc]
    simp only [Explorer.runLoop, List.foldl_cons]
    by_cases hclosed : r.session.isClosed = true
    · -- The messages of this batch do nothing, whether they are given or not.
      rw [if_pos hclosed]
      exact ih (h.skip hclosed b.messages) hms' hrest
    · have hopen : r.session.closing = none := by simpa [Session.isClosed] using hclosed
      rw [if_neg hclosed]
      exact ih (h.apply hopen hf hms hb t) hms' hrest

end Shown

/-- Redraws and batches are invisible. On a screen of one size, which the session learns when the
screen is opened, the loop makes of a session what the messages alone make of it, and gives the same
commands, whatever the batches; no message behind the one that closes the session is given to it.
For the size of its view changes nothing if it is given again, after all messages of any kind. -/
theorem redraws_invisible (options : Options) (loaded : List Event) (t : Theme)
    (width height : Nat) (batches : List Batch)
    (hb : ∀ b ∈ batches, Shown.Keeps width height b) :
    let start := (Session.new options).receiveAll loaded
    let messages := batches.flatMap (·.messages)
    let shown := runLoop t (openScreen t start width height) batches
    let plain := start.updateAll (.resized width height :: messages)
    (shown.session = plain.1 ∧ shown.commands = plain.2) ∧
    ((shown.session.closing = none ∧ shown.given = messages) ∨
      (shown.session.closing.isSome ∧ ∃ before m rest, messages = before ++ m :: rest ∧
        shown.given = before ++ [m] ∧
        (start.updateAll (.resized width height :: before)).1.closing = none)) ∧
    ∀ ms, let v := (start.updateAll ms).1.view
      v.resize v.width v.height = v := by
  intro start messages shown plain
  have hopen : start.closing = none := (Session.new options).receiveAll_closing loaded
  have hsettled : start.view.Settled :=
    Session.settled_receiveAll (View.settled_new options.capacity) loaded
  let sized := start.resized (.of 0 0 width height)
  have hfits : sized.Fits width height := start.fits_resized width height
  have hresized : start.update (.resized width height) = (sized, none) :=
    Session.update_of_open hopen _
  have hplain : ∀ ms, start.updateAll (.resized width height :: ms) = sized.updateAll ms := by
    intro ms
    simp [Session.updateAll, hresized]
  have hopened : openScreen t start width height =
      ({ session := sized } : Shown).show t width height := by
    simp [openScreen, hresized]
  have hbare : ({ session := sized } : Shown).Follows sized [] := ⟨rfl, rfl, .inl ⟨hopen, rfl⟩⟩
  have hfollows : shown.Follows sized messages := by
    have hloop := (hbare.show hfits t).runLoop hfits (List.forall_mem_nil _) hb t
    rwa [← hopened, List.nil_append] at hloop
  refine ⟨?_, ?_, fun ms => (Session.settled_updateAll hsettled ms).resize_self⟩
  · rw [show plain = sized.updateAll messages from hplain messages]
    exact ⟨hfollows.session, hfollows.commands⟩
  · simp only [hplain]
    exact hfollows.given

/-- Two batches, the second of which closes the session before its last message. The view has been
scrolled up, and stays where it is through the drawings. -/
theorem redraws_invisible_of_scrolled : ∃ (start : Session) (batches : List Batch) (shown : Shown),
    start = (Session.new ⟨.initial, 2, .received, fun _ => 0⟩).receiveAll [⟨5, 0, "a\nb\nc"⟩] ∧
    batches.map (·.messages) = [[.arrived ⟨7, 0, "d"⟩, .key ⟨.char 'k', false, false, false⟩],
      [.resized 20 7, .key ⟨.char 'q', false, false, false⟩, .arrived ⟨8, 0, "e"⟩]] ∧
    (∀ b ∈ batches, Shown.Keeps 20 7 b) ∧
    shown = runLoop (.ofScheme .dark) (openScreen (.ofScheme .dark) start 20 7) batches ∧
    shown.session.closing = some .quit ∧ shown.commands = [.shutDown] ∧
    shown.session.view.following = false ∧ shown.session.view.offset = 4 := by
  let b₁ : Batch := ⟨[.arrived ⟨7, 0, "d"⟩, .key ⟨.char 'k', false, false, false⟩], 20, 7,
    List.cons_ne_nil _ _, by decide⟩
  let b₂ : Batch := ⟨[.resized 20 7, .key ⟨.char 'q', false, false, false⟩, .arrived ⟨8, 0, "e"⟩],
    20, 7, List.cons_ne_nil _ _, by decide⟩
  have hkeeps : ∀ b ∈ [b₁, b₂], Shown.Keeps 20 7 b := by
    simp [b₁, b₂, Shown.keeps_iff, Message.Repeats]
  obtain ⟨⟨hsession, hcommands⟩, -⟩ := redraws_invisible ⟨.initial, 2, .received, fun _ => 0⟩
    [⟨5, 0, "a\nb\nc"⟩] (.ofScheme .dark) 20 7 [b₁, b₂] hkeeps
  refine ⟨_, [b₁, b₂], _, rfl, rfl, hkeeps, rfl, ?_, ?_, ?_, ?_⟩
  · rw [hsession]
    decide +kernel
  · rw [hcommands]
    decide +kernel
  · rw [hsession]
    decide +kernel
  · rw [hsession]
    decide +kernel

end LogFollow.Explorer
