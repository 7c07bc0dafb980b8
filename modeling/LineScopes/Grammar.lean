/-
Grammars.

A grammar is an arena of rules that refer to each other by position, and one rule
to begin with.  References may dangle and may form cycles.

* `Captures` — scope names for numbered groups of a pattern;
* `Rule` — a pattern, a reference, a container of rules, or a region between two
  patterns;
* `Arena` — rules under construction; `Arena.build` makes a grammar of them.
-/
import LineScopes.ScopeName

namespace LineScopes

/-! ### Captures -/

/-- Scope names by group number, in ascending order of the numbers. -/
structure Captures where
  entries : List (Nat × ScopeName)
  ascending : entries.Pairwise (·.1 < ·.1)
deriving DecidableEq

namespace Captures

instance : Inhabited Captures := ⟨[], .nil⟩

/-- The captures that name no group. -/
def none : Captures := default

/-- Puts an entry in its place, instead of one with the same number. -/
def insertEntry (i : Nat) (n : ScopeName) : List (Nat × ScopeName) → List (Nat × ScopeName)
  | [] => [(i, n)]
  | (j, m) :: rest =>
    if i < j then (i, n) :: (j, m) :: rest
    else if i = j then (i, n) :: rest
    else (j, m) :: insertEntry i n rest

theorem eq_or_mem_of_mem_insertEntry {i : Nat} {n : ScopeName} {p : Nat × ScopeName} :
    ∀ {l : List (Nat × ScopeName)}, p ∈ insertEntry i n l → p = (i, n) ∨ p ∈ l := by
  intro l
  induction l with
  | nil => simp [insertEntry]
  | cons hd rest ih =>
    obtain ⟨j, m⟩ := hd
    intro h
    simp only [insertEntry] at h
    split at h
    · simpa using h
    · split at h
      · rcases List.mem_cons.mp h with h | h
        · exact .inl h
        · exact .inr (List.mem_cons_of_mem _ h)
      · rcases List.mem_cons.mp h with h | h
        · exact .inr (h ▸ List.mem_cons_self)
        · exact (ih h).imp_right (List.mem_cons_of_mem _)

theorem pairwise_insertEntry (i : Nat) (n : ScopeName) :
    ∀ {l : List (Nat × ScopeName)}, l.Pairwise (·.1 < ·.1) →
      (insertEntry i n l).Pairwise (·.1 < ·.1) := by
  intro l
  induction l with
  | nil => simp [insertEntry]
  | cons hd rest ih =>
    obtain ⟨j, m⟩ := hd
    intro h
    obtain ⟨hj, hrest⟩ := List.pairwise_cons.mp h
    simp only [insertEntry]
    split
    · rename_i hij
      refine List.pairwise_cons.mpr ⟨fun p hp => ?_, h⟩
      rcases List.mem_cons.mp hp with rfl | hp
      · exact hij
      · exact Nat.lt_trans hij (hj p hp)
    · split
      · rename_i _ hij
        exact List.pairwise_cons.mpr ⟨fun p hp => hij ▸ hj p hp, hrest⟩
      · refine List.pairwise_cons.mpr ⟨fun p hp => ?_, ih hrest⟩
        rcases eq_or_mem_of_mem_insertEntry hp with rfl | hp
        · show j < i
          omega
        · exact hj p hp

/-- The captures with one more entry, which replaces one of the same number. -/
def insert (c : Captures) (i : Nat) (n : ScopeName) : Captures :=
  ⟨insertEntry i n c.entries, pairwise_insertEntry i n c.ascending⟩

/-- The captures with the given entries; of two with the same number the later one counts. -/
def ofList (entries : List (Nat × ScopeName)) : Captures :=
  entries.foldl (fun c e => c.insert e.1 e.2) none

/-- Whether no group is named. -/
def isEmpty (c : Captures) : Bool := c.entries.isEmpty

end Captures

/-! ### Rules -/

/-- A rule by its position in the arena. -/
abbrev RuleId := Nat

/-- The patterns that open and close a region, and the captures of both. -/
structure Delimiters where
  opening : String
  closing : String
  ownOpeningCaptures : Captures
  ownClosingCaptures : Captures
  sharedCaptures : Captures
deriving DecidableEq

namespace Delimiters

/-- The captures of the opening pattern: its own, or else the shared ones. -/
def openingCaptures (d : Delimiters) : Captures :=
  if d.ownOpeningCaptures.isEmpty then d.sharedCaptures else d.ownOpeningCaptures

/-- The captures of the closing pattern: its own, or else the shared ones. -/
def closingCaptures (d : Delimiters) : Captures :=
  if d.ownClosingCaptures.isEmpty then d.sharedCaptures else d.ownClosingCaptures

end Delimiters

/-- What a rule does. -/
inductive RuleKind where
  /-- Matches a pattern. -/
  | plain (pattern : String) (captures : Captures)
  /-- Stands for another rule. -/
  | reference (target : RuleId)
  /-- Stands for the rules listed in it. -/
  | container
  /-- Opens a region in which the rules listed in it apply, and closes it. -/
  | region (delimiters : Delimiters)
deriving DecidableEq

/-- A rule: what it does, the scope of what it matches, and the rules listed in it. -/
structure Rule where
  kind : RuleKind
  scope : Option ScopeName
  patterns : List RuleId
deriving DecidableEq

namespace Rule

/-- The patterns that open and close the rule's region, if it is one. -/
def delimiters? (r : Rule) : Option Delimiters :=
  match r.kind with
  | .region d => some d
  | _ => none

/-- The captures of the rule's pattern. -/
def captures (r : Rule) : Captures :=
  match r.kind with
  | .plain _ c => c
  | _ => .none

end Rule

/-! ### Grammars -/

/-- Rules, and the one to begin with. -/
structure Grammar where
  rules : Array Rule
  root : RuleId
deriving DecidableEq

namespace Grammar

/-- The rule at a position. -/
def rule? (g : Grammar) (id : RuleId) : Option Rule := g.rules[id]?

/-- The number of rules. -/
def size (g : Grammar) : Nat := g.rules.size

end Grammar

/-- Rules under construction. -/
structure Arena where
  rules : Array Rule

namespace Arena

/-- No rules. -/
def empty : Arena := ⟨#[]⟩

/-- Adds a rule; its position is the number of rules before it. -/
def add (a : Arena) (r : Rule) : RuleId × Arena := (a.rules.size, ⟨a.rules.push r⟩)

/-- Lists more rules in a rule; nothing happens if that rule does not exist. -/
def list (a : Arena) (parent : RuleId) (children : List RuleId) : Arena :=
  ⟨a.rules.modify parent fun r => { r with patterns := r.patterns ++ children }⟩

/-- The grammar of the rules that begins with `root`. -/
def build (a : Arena) (root : RuleId) : Grammar := ⟨a.rules, root⟩

end Arena

end LineScopes
