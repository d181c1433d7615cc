import LogFollow.Proofs.Toml.Line

/-!
# Written documents are read back

Reading goes line by line, so the reading of a document is put together from the readings of its
parts. Where a table is open, the rest of the tree is a frame around it that its lines do not touch.
-/

namespace LogFollow.Toml
set_option autoImplicit false

/-- Reading a part of a document takes one state to another one, whatever stands behind the part. -/
def Reads (d : Document) (cs : List Char) (d' : Document) : Prop :=
  ∃ n ≤ cs.length, ∀ fuel rest, readDocument (fuel + n) d (cs ++ rest) = readDocument fuel d' rest

/-- A frame shows the table at a path: what changes the table changes the tree within the frame. -/
def Frames (path : List String) (frame : Entries → Entries) : Prop :=
  ∀ change entries, changeAt false change path .header (frame entries) =
    (change .header entries).map frame

def leaves (entries : List (String × Scalar)) : Entries :=
  entries.map fun e => (e.1, .leaf e.2.value)

def lines (entries : List (String × Scalar)) : List Char :=
  entries.flatMap fun e => (e.2.line e.1).toList

def tableLines (path : List String) (key : String) (entries : List (String × Scalar)) : List Char :=
  '[' :: (dotted path key ++ ']' :: '\n' :: lines entries)

/-- Tables one after another, with an empty line behind each. -/
def tablesLines (tables : List (String × List (String × Scalar))) : List Char :=
  tables.flatMap fun t => tableLines [] t.1 t.2 ++ ['\n']

def tableNodes (tables : List (String × List (String × Scalar))) : Entries :=
  tables.map fun t => (t.1, .table .header (leaves t.2))

variable {d d' d'' : Document} {cs cs' : List Char} {path current : List String} {key : String}
  {frame : Entries → Entries} {own : Entries} {n : Node} {v : Scalar}
  {entries : List (String × Scalar)} {tables : List (String × List (String × Scalar))}

theorem Reads.refl (d : Document) : Reads d [] d := ⟨0, Nat.le_refl 0, fun _ _ => rfl⟩

theorem Reads.trans (h : Reads d cs d') (h' : Reads d' cs' d'') : Reads d (cs ++ cs') d'' := by
  obtain ⟨n, hn, hread⟩ := h
  obtain ⟨m, hm, hread'⟩ := h'
  refine ⟨m + n, ?_, ?_⟩
  · rw [List.length_append]
    omega
  · intro fuel rest
    rw [← Nat.add_assoc, List.append_assoc, hread, hread']

theorem reads_newline (d : Document) : Reads d ['\n'] d := by
  refine ⟨0, Nat.zero_le 1, ?_⟩
  intro fuel rest
  cases fuel with
  | zero => rfl
  | succ fuel => rfl

theorem reads_line {x : Char} {more : List Char} (hcs : cs = x :: more)
    (hx : isBareKeyChar x = true ∨ x = '"' ∨ x = '\'' ∨ x = '[')
    (hread : ∀ rest, readLine d (cs ++ rest) = some (d', rest)) : Reads d cs d' := by
  refine ⟨1, by simp [hcs], ?_⟩
  intro fuel rest
  have hne : ∀ {y : Char}, (isBareKeyChar y = true ∨ y = '"' ∨ y = '\'' ∨ y = '[') = False →
      x ≠ y := by
    rintro y hy rfl
    exact hy ▸ hx
  have hcomment : dropComment (x :: (more ++ rest)) = x :: (more ++ rest) := by
    unfold dropComment
    split
    · exact absurd (List.cons.inj ‹_›).1 (hne (by decide))
    · rfl
  have hgap : dropGap (cs ++ rest).length (cs ++ rest) = cs ++ rest := by
    rw [hcs, List.cons_append, List.length_cons, dropGap,
      dropBlanks_of_ne (hne (by decide)) (hne (by decide)), hcomment,
      dropNewline_of_ne (hne (by decide)) (hne (by decide))]
  have hline := hread rest
  rw [readDocument, hgap]
  rw [hcs, List.cons_append] at hline ⊢
  simp [hline]

theorem head_line (v : Scalar) (key : String) (rest : List Char) :
    ((v.line key).toList ++ rest).head? ≠ some '\ufeff' := by
  obtain ⟨x, more, hkey, hx⟩ := keyChars_head key.toList
  rw [line_toList, hkey, List.cons_append, List.head?_cons]
  intro hbom
  cases hbom
  exact absurd hx (by decide)

theorem read_of_reads {s : String} (hbom : s.toList.head? ≠ some '\ufeff')
    (h : Reads {} s.toList d) : read s = some (entryValues d.root) := by
  obtain ⟨n, hn, hread⟩ := h
  obtain ⟨fuel, hfuel⟩ := Nat.exists_eq_add_of_le hn
  have hdocument : readDocument (s.toList.length + 1) {} s.toList = some d := by
    have hall := hread (fuel + 1) []
    rw [List.append_nil] at hall
    rw [hfuel, Nat.add_assoc, Nat.add_comm n, hall]
    rfl
  unfold read
  split
  · rename_i heq
    rw [heq] at hbom
    exact absurd rfl hbom
  · simp only [hdocument, Option.map_some]

theorem node?_append (h : key ∉ own.map (·.1)) (n : Node) :
    node? key (own ++ [(key, n)]) = some n := by
  have hnone : own.find? (·.1 == key) = none := by
    rw [List.find?_eq_none]
    rintro p hp hkey
    exact h (beq_iff_eq.mp hkey ▸ List.mem_map_of_mem hp)
  simp [node?, List.find?_append, hnone]

theorem putNode_append (h : key ∉ own.map (·.1)) (n n' : Node) :
    putNode key n' (own ++ [(key, n)]) = own ++ [(key, n')] := by
  have hall : own.filter (·.1 != key) = own := by
    rw [List.filter_eq_self]
    intro p hp
    rw [bne_iff_ne]
    rintro rfl
    exact h (List.mem_map_of_mem hp)
  simp [putNode, hall]

theorem node?_none (h : key ∉ own.map (·.1)) : node? key own = none := by
  rw [node?, Option.map_eq_none_iff, List.find?_eq_none]
  rintro p hp hkey
  exact h (beq_iff_eq.mp hkey ▸ List.mem_map_of_mem hp)

theorem changeAt_append (dotted : Bool) (change : Origin → Entries → Option Entries)
    (path more : List String) (origin : Origin) (entries : Entries) :
    changeAt dotted change (path ++ more) origin entries =
      changeAt dotted (changeAt dotted change more) path origin entries := by
  induction path generalizing origin entries with
  | nil => simp [changeAt]
  | cons key path ih => simp [changeAt, ih]

theorem frames_root : Frames [] id := by
  intro change entries
  simp [changeAt]

theorem Frames.table (hf : Frames path frame) (hk : key ∉ own.map (·.1)) :
    Frames (path ++ [key]) fun inner => frame (own ++ [(key, .table .header inner)]) := by
  intro change entries
  have hchild : changeAt false change [key] .header (own ++ [(key, .table .header entries)]) =
      (change .header entries).map fun inner => own ++ [(key, .table .header inner)] := by
    rw [changeAt, node?_append hk]
    cases hchange : change .header entries with
    | none => simp [changeAt, hchange]
    | some inner => simp [changeAt, hchange, putNode_append hk]
  rw [changeAt_append, hf, hchild]
  simp [Function.comp_def]

theorem reads_entry (hf : Frames current frame) (hv : v.Fits) (hk : key ∉ own.map (·.1)) :
    Reads ⟨frame own, current⟩ (v.line key).toList
      ⟨frame (own ++ [(key, .leaf v.value)]), current⟩ := by
  obtain ⟨x, more, hkey, hx⟩ := keyChars_head key.toList
  have hcs := line_toList v key []
  rw [List.append_nil, hkey, List.cons_append] at hcs
  refine reads_line hcs ?_ ?_
  · rcases hx with hx | hx | hx
    · exact .inl hx
    · exact .inr (.inl hx)
    · exact .inr (.inr (.inl hx))
  · intro rest
    rw [readLine_entry hv, hf]
    simp [addValue, changeAt, node?_none hk]

theorem reads_lines (hf : Frames current frame) (hv : ∀ e ∈ entries, e.2.Fits)
    (hk : (own.map (·.1) ++ entries.map (·.1)).Nodup) :
    Reads ⟨frame own, current⟩ (lines entries) ⟨frame (own ++ leaves entries), current⟩ := by
  induction entries generalizing own with
  | nil => simpa [lines, leaves] using Reads.refl _
  | cons e entries ih =>
    rw [List.forall_mem_cons] at hv
    have hfirst : e.1 ∉ own.map (·.1) := by
      intro hmem
      exact (List.nodup_append.mp hk).2.2 e.1 hmem e.1 (by simp) rfl
    have hrest : Reads ⟨frame (own ++ [(e.1, .leaf e.2.value)]), current⟩ (lines entries)
        ⟨frame (own ++ [(e.1, .leaf e.2.value)] ++ leaves entries), current⟩ :=
      ih hv.2 (by simpa using hk)
    have hreads := (reads_entry hf hv.1 hfirst).trans hrest
    simpa [lines, leaves] using hreads

theorem reads_table (hf : Frames path frame) (hk : key ∉ own.map (·.1))
    (hbare : ∀ k ∈ path ++ [key], Bare k) (hlen : path.length < maxKeys)
    (hv : ∀ e ∈ entries, e.2.Fits) (hkeys : (entries.map (·.1)).Nodup) :
    Reads ⟨frame own, current⟩ (tableLines path key entries)
      ⟨frame (own ++ [(key, .table .header (leaves entries))]), path ++ [key]⟩ := by
  have hpath : ∀ k ∈ path, Bare k := fun k hmem => hbare k (by simp [hmem])
  have hheader : Reads ⟨frame own, current⟩ ('[' :: (dotted path key ++ [']', '\n']))
      ⟨frame (own ++ [(key, .table .header [])]), path ++ [key]⟩ := by
    refine reads_line rfl (by simp) ?_
    intro rest
    have hread := readLine_header hpath (hbare key (by simp)) hlen ⟨frame own, current⟩ rest
    rw [openTable, hf] at hread
    simpa [node?_none hk] using hread
  have hentries : Reads ⟨frame (own ++ [(key, .table .header [])]), path ++ [key]⟩ (lines entries)
      ⟨frame (own ++ [(key, .table .header ([] ++ leaves entries))]), path ++ [key]⟩ :=
    reads_lines (hf.table hk) hv (by simpa using hkeys)
  have hreads := hheader.trans hentries
  simpa [tableLines] using hreads

theorem reads_tables (hbare : ∀ k ∈ tables.map (·.1), Bare k)
    (hv : ∀ t ∈ tables, ∀ e ∈ t.2, e.2.Fits)
    (hkeys : ∀ keys ∈ tables.map fun t => t.2.map (·.1), keys.Nodup)
    (hk : (own.map (·.1) ++ tables.map (·.1)).Nodup) :
    ∃ last, Reads ⟨own, current⟩ (tablesLines tables) ⟨own ++ tableNodes tables, last⟩ := by
  induction tables generalizing own current with
  | nil => exact ⟨current, by simpa [tablesLines, tableNodes] using Reads.refl _⟩
  | cons t tables ih =>
    rw [List.map_cons, List.forall_mem_cons] at hbare hkeys
    rw [List.forall_mem_cons] at hv
    have hfirst : t.1 ∉ own.map (·.1) := by
      intro hmem
      exact (List.nodup_append.mp hk).2.2 t.1 hmem t.1 (by simp) rfl
    have htable : Reads ⟨own, current⟩ (tableLines [] t.1 t.2)
        ⟨own ++ [(t.1, .table .header (leaves t.2))], [t.1]⟩ :=
      reads_table frames_root hfirst (by simpa using hbare.1) (by decide) hv.1 hkeys.1
    have hnext : ((own ++ [(t.1, Node.table .header (leaves t.2))]).map (·.1) ++
        tables.map (·.1)).Nodup := by simpa using hk
    obtain ⟨last, hrest⟩ := ih hbare.2 hv.2 hkeys.2 hnext
    refine ⟨last, ?_⟩
    simpa [tablesLines, tableNodes] using (htable.trans (reads_newline _)).trans hrest

theorem entryValues_append (entries more : Entries) :
    entryValues (entries ++ more) = entryValues entries ++ entryValues more := by
  induction entries with
  | nil => rfl
  | cons e entries ih =>
    obtain ⟨key, n⟩ := e
    simp [entryValues, ih]

theorem entryValues_leaves (entries : List (String × Scalar)) :
    entryValues (leaves entries) = entries.map fun e => (e.1, e.2.value) := by
  induction entries with
  | nil => rfl
  | cons e entries ih =>
    rw [List.map_cons, ← ih]
    simp [leaves, entryValues, Node.value]

theorem entryValues_tableNodes (tables : List (String × List (String × Scalar))) :
    entryValues (tableNodes tables) =
      tables.map fun t => (t.1, .table (t.2.map fun e => (e.1, e.2.value))) := by
  induction tables with
  | nil => rfl
  | cons t tables ih =>
    rw [List.map_cons, ← ih]
    simp [tableNodes, entryValues, Node.value, entryValues_leaves]

end LogFollow.Toml
