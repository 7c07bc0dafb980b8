/-
The grammar of selectors.

    selector := phrase (',' phrase)*
    phrase   := ('L:' | 'R:')? operand*
    operand  := '-' operand | '(' operand (('|' | ',') operand)* ')' | name

A derivation is a tree in which every sign and every name of the tokens has its place.  So
two derivations differ even if they stand for the same selector, because a comma in
parentheses says the same as a bar.

* `Operand`, `Members`, `Phrase`, `Derivation` — the derivations, each with its `tokens` and
  the `tree` it stands for;
* `Derivation.tokens_injective` — tokens have one derivation at most;
* `Derivation.IsLongest` — the derivation of the longest beginning of some tokens that has
  one; `existsUnique_isLongest` says that there is one;
* `Expression.IsOperand` — the trees that operands stand for.
-/
import LineScopes.Selector.Parse
import Mathlib.Data.List.Basic
import Mathlib.Data.Nat.Find

namespace LineScopes

/-! ### Shapes of trees -/

namespace Expression

mutual

/-- No conjunction stands in the expression, and no disjunction without operands. -/
def IsOperand : Expression → Prop
  | .name _ => True
  | .not e => e.IsOperand
  | .all _ => False
  | .any es => es ≠ [] ∧ AreOperands es

/-- So it is for all of the expressions. -/
def AreOperands : List Expression → Prop
  | [] => True
  | e :: es => e.IsOperand ∧ AreOperands es

end

theorem areOperands_iff {es : List Expression} : AreOperands es ↔ ∀ e ∈ es, e.IsOperand := by
  induction es with
  | nil => simp [AreOperands]
  | cons e es ih => simp [AreOperands, ih]

end Expression

namespace Selector

/-! ### Derivations -/

/-- What stands between two operands in parentheses. -/
inductive Separator where
  | bar
  | comma

/-- The token of a separator. -/
def Separator.token : Separator → TokenKind
  | .bar => .bar
  | .comma => .comma

mutual

/-- An operand. -/
inductive Operand where
  | name (text : List Char)
  | negation (operand : Operand)
  | group (members : Members)

/-- The operands in parentheses. -/
inductive Members where
  | last (operand : Operand)
  | more (operand : Operand) (separator : Separator) (rest : Members)

end

mutual

/-- The tokens of an operand. -/
def Operand.tokens : Operand → List TokenKind
  | .name text => [.name text]
  | .negation o => .minus :: o.tokens
  | .group ms => .opening :: (ms.tokens ++ [.closing])

/-- The tokens between the parentheses. -/
def Members.tokens : Members → List TokenKind
  | .last o => o.tokens
  | .more o separator ms => o.tokens ++ separator.token :: ms.tokens

end

mutual

/-- The expression that an operand stands for. -/
def Operand.tree : Operand → Expression
  | .name text => .name (.ofString (String.ofList text))
  | .negation o => .not o.tree
  | .group ms => .any ms.trees

/-- The expressions that operands in parentheses stand for. -/
def Members.trees : Members → List Expression
  | .last o => [o.tree]
  | .more o _ ms => o.tree :: ms.trees

end

mutual

/-- What an operand stands for has the shape of one. -/
theorem Operand.isOperand_tree : ∀ o : Operand, o.tree.IsOperand
  | .name _ => trivial
  | .negation o => o.isOperand_tree
  | .group ms => ms.areOperands_trees

theorem Members.areOperands_trees :
    ∀ ms : Members, ms.trees ≠ [] ∧ Expression.AreOperands ms.trees
  | .last o => ⟨List.cons_ne_nil _ _, o.isOperand_tree, trivial⟩
  | .more o _ ms => ⟨List.cons_ne_nil _ _, o.isOperand_tree, ms.areOperands_trees.2⟩

end

/-- An anchor, if there is one, and operands. -/
structure Phrase where
  anchor : Anchor
  operands : List Operand

/-- The tokens of an anchor. -/
def anchorTokens : Anchor → List TokenKind
  | .free => []
  | .left => [.left]
  | .right => [.right]

/-- The tokens of a phrase. -/
def Phrase.tokens (p : Phrase) : List TokenKind :=
  anchorTokens p.anchor ++ p.operands.flatMap Operand.tokens

/-- The alternative that a phrase stands for. -/
def Phrase.tree (p : Phrase) : Alternative := ⟨p.anchor, .all (p.operands.map Operand.tree)⟩

/-- Phrases, at least one: those in front of the last one, and the last one. -/
structure Derivation where
  front : List Phrase
  last : Phrase

namespace Derivation

/-- All phrases, in order. -/
def phrases (d : Derivation) : List Phrase := d.front ++ [d.last]

/-- The tokens of a selector: those of its phrases, with commas between them. -/
def tokens (d : Derivation) : List TokenKind :=
  [TokenKind.comma].intercalate (d.phrases.map Phrase.tokens)

/-- The selector that the derivation is one of. -/
def tree (d : Derivation) : Selector := ⟨d.phrases.map Phrase.tree⟩

/-- Each phrase but the last is followed by a comma. -/
theorem tokens_eq (d : Derivation) :
    d.tokens = d.front.flatMap (fun p => p.tokens ++ [.comma]) ++ d.last.tokens := by
  obtain ⟨front, last⟩ := d
  induction front with
  | nil => simp [tokens, phrases]
  | cons p front ih =>
    have hne : (front ++ [last]).map Phrase.tokens ≠ [] := by simp
    simp only [tokens, phrases] at ih ⊢
    rw [List.cons_append, List.map_cons, List.intercalate_cons_of_ne_nil hne, ih,
      List.flatMap_cons, List.append_assoc _ _ last.tokens]

end Derivation

/-! ### One derivation at most -/

/-- With such a token an operand begins. -/
def TokenKind.beginsOperand : TokenKind → Bool
  | .name _ | .minus | .opening => true
  | _ => false

theorem Operand.exists_cons (o : Operand) : ∃ t ts, o.tokens = t :: ts ∧ t.beginsOperand := by
  cases o with
  | name text => exact ⟨_, _, rfl, rfl⟩
  | negation o => exact ⟨_, _, rfl, rfl⟩
  | group ms => exact ⟨_, _, rfl, rfl⟩

mutual

/-- Tokens begin with one operand at most. -/
theorem Operand.append_inj {r r' : List TokenKind} : ∀ {o o' : Operand},
    o.tokens ++ r = o'.tokens ++ r' → o = o' ∧ r = r'
  | .name text, o', h => by
    cases o' <;> simp_all [Operand.tokens]
  | .negation o, o', h => by
    cases o' with
    | negation o' =>
      obtain ⟨rfl, hr⟩ := Operand.append_inj (List.cons.inj h).2
      exact ⟨rfl, hr⟩
    | name text => simp [Operand.tokens] at h
    | group ms => simp [Operand.tokens] at h
  | .group ms, o', h => by
    cases o' with
    | group ms' =>
      simp only [Operand.tokens, List.cons_append, List.append_assoc, List.nil_append,
        List.cons.injEq, true_and] at h
      obtain ⟨rfl, hr⟩ := Members.append_inj h
      exact ⟨rfl, hr⟩
    | name text => simp [Operand.tokens] at h
    | negation o => simp [Operand.tokens] at h

/-- So it is for what stands in front of a closing parenthesis. -/
theorem Members.append_inj {r r' : List TokenKind} : ∀ {ms ms' : Members},
    ms.tokens ++ .closing :: r = ms'.tokens ++ .closing :: r' → ms = ms' ∧ r = r'
  | .last o, ms', h => by
    cases ms' with
    | last o' =>
      obtain ⟨rfl, hr⟩ := Operand.append_inj h
      exact ⟨rfl, (List.cons.inj hr).2⟩
    | more o' separator ms' =>
      rw [Members.tokens, Members.tokens, List.append_assoc] at h
      have hseparator := (List.cons.inj (Operand.append_inj h).2).1
      cases separator <;> cases hseparator
  | .more o separator ms, ms', h => by
    cases ms' with
    | last o' =>
      rw [Members.tokens, Members.tokens, List.append_assoc] at h
      have hseparator := (List.cons.inj (Operand.append_inj h).2).1
      cases separator <;> cases hseparator
    | more o' separator' ms' =>
      rw [Members.tokens, Members.tokens, List.append_assoc, List.append_assoc] at h
      obtain ⟨rfl, hrest⟩ := Operand.append_inj h
      obtain ⟨hseparator, hmembers⟩ := List.cons.inj hrest
      obtain ⟨rfl, hr⟩ := Members.append_inj hmembers
      cases separator <;> cases separator' <;> first | exact ⟨rfl, hr⟩ | cases hseparator

end

/-- A phrase ends here: at a comma or with the tokens. -/
def EndsPhrase (r : List TokenKind) : Prop := ∀ t ∈ r.head?, t = .comma

theorem operands_append_inj {r r' : List TokenKind} (hr : EndsPhrase r) (hr' : EndsPhrase r')
    {os : List Operand} : ∀ {os' : List Operand},
      os.flatMap Operand.tokens ++ r = os'.flatMap Operand.tokens ++ r' → os = os' ∧ r = r' := by
  induction os with
  | nil =>
    intro os' h
    cases os' with
    | nil => exact ⟨rfl, h⟩
    | cons o' os' =>
      -- The rest would begin with an operand, which a comma does not.
      obtain ⟨t, ts, htokens, ht⟩ := o'.exists_cons
      obtain rfl := hr t (by simp [show r = _ from h, htokens])
      cases ht
  | cons o os ih =>
    intro os' h
    cases os' with
    | nil =>
      obtain ⟨t, ts, htokens, ht⟩ := o.exists_cons
      obtain rfl := hr' t (by simp [show r' = _ from h.symm, htokens])
      cases ht
    | cons o' os' =>
      simp only [List.flatMap_cons, List.append_assoc] at h
      obtain ⟨rfl, hrest⟩ := Operand.append_inj h
      obtain ⟨rfl, hr⟩ := ih hrest
      exact ⟨rfl, hr⟩

/-- The tokens begin with no anchor. -/
def BeginsFree (r : List TokenKind) : Prop := r.head? ≠ some .left ∧ r.head? ≠ some .right

theorem beginsFree_operands_append {r : List TokenKind} (hr : EndsPhrase r) (os : List Operand) :
    BeginsFree (os.flatMap Operand.tokens ++ r) := by
  cases os with
  | nil =>
    refine ⟨fun h => ?_, fun h => ?_⟩
    · cases hr _ h
    · cases hr _ h
  | cons o os =>
    obtain ⟨t, ts, htokens, ht⟩ := o.exists_cons
    simp only [BeginsFree, List.flatMap_cons, htokens, List.cons_append, List.head?_cons]
    refine ⟨fun h => ?_, fun h => ?_⟩
    · cases Option.some.inj h ▸ ht
    · cases Option.some.inj h ▸ ht

theorem anchorTokens_append_inj {r r' : List TokenKind} (hr : BeginsFree r) (hr' : BeginsFree r')
    {a a' : Anchor} (h : anchorTokens a ++ r = anchorTokens a' ++ r') : a = a' ∧ r = r' := by
  cases a <;> cases a' <;> grind [anchorTokens, BeginsFree]

theorem Phrase.append_inj {r r' : List TokenKind} (hr : EndsPhrase r) (hr' : EndsPhrase r')
    {p p' : Phrase} (h : p.tokens ++ r = p'.tokens ++ r') : p = p' ∧ r = r' := by
  obtain ⟨anchor, os⟩ := p
  obtain ⟨anchor', os'⟩ := p'
  rw [tokens, tokens, List.append_assoc, List.append_assoc] at h
  obtain ⟨rfl, hrest⟩ := anchorTokens_append_inj (beginsFree_operands_append hr os)
    (beginsFree_operands_append hr' os') h
  obtain ⟨rfl, hr⟩ := operands_append_inj hr hr' hrest
  exact ⟨rfl, hr⟩

theorem phrases_append_inj {p p' : Phrase} {ps : List Phrase} : ∀ {ps' : List Phrase},
    ps.flatMap (fun p => p.tokens ++ [.comma]) ++ p.tokens =
      ps'.flatMap (fun p => p.tokens ++ [.comma]) ++ p'.tokens → ps = ps' ∧ p = p' := by
  have hnil : EndsPhrase [] := by simp [EndsPhrase]
  have hcomma : ∀ r, EndsPhrase (.comma :: r) := by simp [EndsPhrase]
  induction ps with
  | nil =>
    intro ps' h
    cases ps' with
    | nil =>
      rw [List.flatMap_nil, List.nil_append, List.nil_append, ← List.append_nil p.tokens,
        ← List.append_nil p'.tokens] at h
      exact ⟨rfl, (Phrase.append_inj hnil hnil h).1⟩
    | cons q' ps' =>
      rw [List.flatMap_nil, List.nil_append, List.flatMap_cons, List.append_assoc,
        List.append_assoc, ← List.append_nil p.tokens] at h
      cases (Phrase.append_inj hnil (hcomma _) h).2
  | cons q ps ih =>
    intro ps' h
    cases ps' with
    | nil =>
      rw [List.flatMap_nil, List.nil_append, List.flatMap_cons, List.append_assoc,
        List.append_assoc, ← List.append_nil p'.tokens] at h
      cases (Phrase.append_inj (hcomma _) hnil h).2
    | cons q' ps' =>
      rw [List.flatMap_cons, List.flatMap_cons, List.append_assoc, List.append_assoc,
        List.append_assoc, List.append_assoc] at h
      obtain ⟨rfl, hrest⟩ := Phrase.append_inj (hcomma _) (hcomma _) h
      obtain ⟨rfl, rfl⟩ := ih (List.cons.inj hrest).2
      exact ⟨rfl, rfl⟩

/-- Tokens have one derivation at most. -/
theorem Derivation.tokens_injective : Function.Injective Derivation.tokens := by
  intro ⟨front, last⟩ ⟨front', last'⟩ h
  rw [tokens_eq, tokens_eq] at h
  obtain ⟨rfl, rfl⟩ := phrases_append_inj h
  rfl

/-! ### The longest beginning with a derivation -/

namespace Derivation

/-- The tokens of the derivation begin the given ones, and those of no other derivation that do so
are more. -/
def IsLongest (d : Derivation) (ts : List TokenKind) : Prop :=
  d.tokens <+: ts ∧ ∀ d' : Derivation, d'.tokens <+: ts → d'.tokens.length ≤ d.tokens.length

theorem IsLongest.eq {d d' : Derivation} {ts : List TokenKind} (h : d.IsLongest ts)
    (h' : d'.IsLongest ts) : d = d' := by
  have hlength := le_antisymm (h'.2 d h.1) (h.2 d' h'.1)
  have hbegins := List.prefix_of_prefix_length_le h.1 h'.1 (Nat.le_of_eq hlength)
  exact tokens_injective (hbegins.eq_of_length hlength)

theorem isLongest_tokens (d : Derivation) : d.IsLongest d.tokens :=
  ⟨List.prefix_rfl, fun _ h => h.length_le⟩

/-- Some beginning has a derivation, if only the one without tokens, so that there is a longest. -/
theorem existsUnique_isLongest (ts : List TokenKind) : ∃! d : Derivation, d.IsLongest ts := by
  classical
  let P : Nat → Prop := fun n => ∃ d : Derivation, d.tokens = ts.take n
  have hempty : P 0 := ⟨⟨[], ⟨.free, []⟩⟩, rfl⟩
  obtain ⟨d, hd⟩ := Nat.findGreatest_spec (P := P) (Nat.zero_le ts.length) hempty
  have hlongest : d.IsLongest ts := by
    refine ⟨hd ▸ List.take_prefix _ _, fun d' hd' => ?_⟩
    have hle : d'.tokens.length ≤ Nat.findGreatest P ts.length :=
      Nat.le_findGreatest hd'.length_le ⟨d', List.prefix_iff_eq_take.mp hd'⟩
    rw [hd, List.length_take]
    exact le_min hle hd'.length_le
  exact ⟨d, hlongest, fun d' hd' => hd'.eq hlongest⟩

end Derivation

end Selector

end LineScopes
