/-
Tables that keep to the line.

What a scripted engine finds is in its table.  So whether the engine stays in the line
can be read off the table.

* `Scripted.Entry.InLine` — the entry answers in one line only, and its match lies in it;
* `Scripted.staysInLine` — an engine whose entries do so stays in the line;
* `Scripted.Ascending` — the matches of a row begin one behind the other, and
  `Scripted.findsFirst`: an engine with such rows finds the first match;
* `Scripted.exists_ok_of_map` — what is read off a result is read off a value.
-/
import LineScopes.Engine.Scripted
import LineScopes.Proofs.Choosing

namespace LineScopes.Scripted

/-- The entry answers in one line, from any byte up to its match, which lies in that line. -/
def Entry.InLine (e : Entry) : Prop :=
  e.start = none ∧ e.found.span.start ≤ e.found.span.stop ∧
    ∃ line ∈ e.line, e.found.span.stop ≤ line.utf8ByteSize

instance (e : Entry) : Decidable e.InLine :=
  inferInstanceAs (Decidable (_ ∧ _ ∧ _))

/-- What a pattern compiles to is in the table. -/
theorem exists_row_of_compile {table : Table} {pattern : String} {entries : List Entry}
    (h : (engine table).compile pattern = .ok entries) : ∃ row ∈ table, row.2 = entries := by
  have hlookup : table.lookup pattern = some entries := by
    simp only [engine] at h
    split at h
    · rename_i es hes
      rw [hes, Except.ok.inj h]
    · cases h
  obtain ⟨before, after, htable, -⟩ := List.lookup_eq_some_iff.mp hlookup
  exact ⟨(pattern, entries), by simp [htable], rfl⟩

/-- What is found is in the table, and fits. -/
theorem exists_entry_of_finds {table : Table} {pattern line : String} {start : Nat} {found : Match}
    (h : (engine table).Finds pattern line start found) :
    ∃ row ∈ table, ∃ e ∈ row.2, e.found = found ∧ e.fits line start = true := by
  obtain ⟨entries, hcompile, hsearch⟩ := h
  obtain ⟨row, hrow, rfl⟩ := exists_row_of_compile hcompile
  obtain ⟨e, he, rfl⟩ := Option.map_eq_some_iff.mp hsearch
  have hfits : e.fits line start = true :=
    List.find?_some (p := fun e => Entry.fits e line start) he
  exact ⟨row, hrow, e, List.mem_of_find?_eq_some he, rfl, hfits⟩

/-- A table whose entries keep to their lines makes an engine that stays in the line. -/
theorem staysInLine {table : Table} (h : ∀ row ∈ table, ∀ e ∈ row.2, e.InLine) :
    (engine table).StaysInLine := by
  intro pattern line start found hfinds
  obtain ⟨row, hrow, e, he, rfl, hfits⟩ := exists_entry_of_finds hfinds
  obtain ⟨hstart, hle, line', hline, hstop⟩ := h row hrow e he
  simp only [Entry.fits, hstart, Option.mem_def.mp hline, Option.all_some, Bool.and_eq_true,
    beq_iff_eq, decide_eq_true_eq] at hfits
  obtain ⟨rfl, hfrom⟩ := hfits
  exact ⟨hfrom, hle, hstop⟩

/-! ### Tables in order -/

/-- The matches are listed as they begin in the line, and do not ask where the search does. -/
def Ascending (entries : List Entry) : Prop :=
  (∀ e ∈ entries, e.start = none) ∧
    entries.Pairwise fun e e' => e.found.span.start < e'.found.span.start

instance (entries : List Entry) : Decidable (Ascending entries) :=
  inferInstanceAs (Decidable (_ ∧ _))

/-- The entry for a match in a line that begins at a given byte. -/
def entryAt? (entries : List Entry) (line : String) (i : Nat) : Option Entry :=
  entries.find? fun e => e.line.all (· == line) && e.found.span.start == i

theorem entryAt?_eq_some_iff {entries : List Entry} (h : Ascending entries) {line : String}
    {i : Nat} {e : Entry} :
    entryAt? entries line i = some e ↔
      e ∈ entries ∧ e.line.all (· == line) ∧ e.found.span.start = i := by
  unfold entryAt?
  obtain ⟨-, hascending⟩ := h
  induction entries with
  | nil => simp
  | cons a as ih =>
    obtain ⟨ha, has⟩ := List.pairwise_cons.mp hascending
    rw [List.find?_cons]
    grind

/-- The first entry that fits is the one whose match begins first. -/
theorem find?_fits_eq_some_iff {entries : List Entry} (h : Ascending entries) {line : String}
    {start : Nat} {e : Entry} :
    (entries.find? fun e => e.fits line start) = some e ↔
      e ∈ entries ∧ e.line.all (· == line) ∧ start ≤ e.found.span.start ∧
        ∀ e' ∈ entries, e'.line.all (· == line) → start ≤ e'.found.span.start →
          e.found.span.start ≤ e'.found.span.start := by
  obtain ⟨hfree, hascending⟩ := h
  induction entries with
  | nil => simp
  | cons a as ih =>
    obtain ⟨ha, has⟩ := List.pairwise_cons.mp hascending
    have hfits : a.fits line start = (a.line.all (· == line) && start ≤ a.found.span.start) := by
      simp [Entry.fits, hfree a List.mem_cons_self]
    rw [List.find?_cons, hfits]
    grind

/-- A table whose rows are in order makes an engine that finds the first match. -/
theorem findsFirst {table : Table} (h : ∀ row ∈ table, Ascending row.2) :
    (engine table).FindsFirst := by
  intro pattern entries hcompile line
  obtain ⟨row, hrow, rfl⟩ := exists_row_of_compile hcompile
  have hascending := h row hrow
  refine ⟨fun i => (entryAt? row.2 line i).map Entry.found, fun i found hfound => ?_,
    fun start found => ?_⟩
  · obtain ⟨e, he, rfl⟩ := Option.map_eq_some_iff.mp hfound
    exact ((entryAt?_eq_some_iff hascending).mp he).2.2
  · simp only [engine, Option.map_eq_some_iff, Option.map_eq_none_iff,
      find?_fits_eq_some_iff hascending, entryAt?_eq_some_iff hascending]
    constructor
    · rintro ⟨e, ⟨he, hline, hstart, hfirst⟩, rfl⟩
      refine ⟨hstart, ⟨e, ⟨he, hline, rfl⟩, rfl⟩, fun i hi hlt => ?_⟩
      by_contra hne
      obtain ⟨e', he'⟩ := Option.ne_none_iff_exists'.mp hne
      obtain ⟨hmem, hline', rfl⟩ := (entryAt?_eq_some_iff hascending).mp he'
      have hle := hfirst e' hmem hline' hi
      omega
    · rintro ⟨hstart, ⟨e, ⟨he, hline, -⟩, rfl⟩, hnone⟩
      refine ⟨e, ⟨he, hline, hstart, fun e' he' hline' hstart' => ?_⟩, rfl⟩
      by_contra hlt
      have hat := (entryAt?_eq_some_iff hascending).mpr ⟨he', hline', rfl⟩
      cases hat.symm.trans (hnone _ hstart' (by omega))

/-! ### Results -/

/-- A result off which something is read is a value. -/
theorem exists_ok_of_map {ε α β : Type} {f : α → β} {r : Except ε α} {b : β}
    (h : r.map f = .ok b) : ∃ a, r = .ok a ∧ f a = b := by
  cases r with
  | error e => cases h
  | ok a => exact ⟨a, rfl, Except.ok.inj h⟩

end LineScopes.Scripted
